import SignIn.Proofs.Authentication.Classification
import SignIn.Proofs.Exchange.Refusal
import SignIn.Proofs.Routine.Cancellation

/-!
# Refused requests

A response that refuses a request ends the step with what its body says: if the body is an object
that makes a structured error, with its message, and else with a text that says nothing.  Whether it
makes one depends on two members only, as long as the cause, if there is one, is a string or `null`,
and all names spell texts.  A cause of any other kind hides the message of the server.

## Main results

* `Authentication.perform_refused` — **what is read from a body that is an object, and what a step
  ends with that is refused so.**
* `Refusal.parse?_hidden` — a cause that hides a message.
-/

namespace SignIn

open SignIn.Json SignIn.Text

/-- Only status 410 says that an account is gone. -/
theorem FailureKind.ofStatus?_eq_gone_iff {status : Nat} :
    ofStatus? status = some .gone ↔ status = 410 := by
  constructor
  · intro h
    unfold ofStatus? at h
    split at h
    · cases h
    have hkind := Option.some.inj h
    unfold ofBadStatus at hkind
    split at hkind
    · cases hkind
    split at hkind
    · split at hkind <;> first | rfl | cases hkind
    · split at hkind <;> cases hkind
  · rintro rfl
    rfl

/-- A response says that the account is gone exactly if its status is 410. -/
theorem Reply.failureKind?_ofResponse_eq_gone_iff {url : Url} {status : Nat} {headers : Headers}
    {body : Bytes} :
    (Reply.ofResponse url status headers body).failureKind? = some .gone ↔ status = 410 := by
  rw [← FailureKind.ofStatus?_eq_gone_iff, Reply.failureKind?, Reply.ofResponse, Option.map_map]
  cases FailureKind.ofStatus? status <;> simp

namespace Authentication

/-- A reply that neither makes a grant nor says that the account is gone ends the exchange with what
is read from its body. -/
theorem Receives.refused {auth : Authentication} {w : World} {a b : Account} {log before : Log}
    {q : Request} {url : Url} {status : Nat} {headers : Headers} {body : Bytes}
    (h : Receives auth w auth.firstKind ⟨a, log, false⟩ before q
      (.ofResponse url status headers body) b) (h200 : status ≠ 200) (h410 : status ≠ 410) :
    auth.act w a log = ⟨Authentication.refused body, b,
      log ++ (before ++ [.answered q (.ofResponse url status headers body) b])⟩ := by
  have hs : (Reply.ofResponse url status headers body).status ≠ some 200 :=
    fun h => h200 (Option.some.inj h)
  have hfailed : failed? (before.exchanges.isEmpty && auth.detectsOffline)
      (.ofResponse url status headers body) = none :=
    (failed?_of_status _ rfl).2 (mt Reply.failureKind?_ofResponse_eq_gone_iff.1 h410)
  have hg := granted_of_status_ne (before.exchanges.isEmpty && auth.detectsOffline) hs
  rw [hfailed, Option.getD_none] at hg
  exact h.act_of_not_granted hg

/-- **What is read from a body that is an object, and what a step ends with that is refused so.**
Whatever the server replies to the step is received.  If a reply refuses a request, the step ends
with it, and fails with the message of the body, or with its name where the message is empty, exactly
if the body says what a structured error has to. -/
theorem perform_refused {ms : List (Bytes × Tree)} (hms : NoRepeats ms) :
    (∀ bytes : Bytes, (Tree.object ms).IsText bytes →
      ∀ e, Refusal.parse? bytes = some e ↔ Refusal.Says ms e) ∧
    ∀ (auth : Authentication) (w : World) (a : Account) (log : Log),
      let r := ((Step.authentication auth).perform w a log).2
      ∃ new, r.log = log ++ new ∧ Hears auth w a log new ∧
        ∀ (before : Log) (q : Request) (url : Url) (status : Nat) (headers : Headers)
          (body : Bytes) (b : Account),
        Receives auth w auth.firstKind ⟨a, log, false⟩ before q
          (.ofResponse url status headers body) b →
        status ≠ 200 → status ≠ 410 → (Tree.object ms).IsText body →
        (∀ e, Refusal.Says ms e → r.outcome = .hard (if e.text = "" then e.name else e.text)) ∧
          ((∀ e, ¬ Refusal.Says ms e) → r.outcome = .soft
            "An error occurred but the authentication server didn't give an error message.") ∧
          r.account = b ∧ new = before ++ [.answered q (.ofResponse url status headers body) b] := by
  refine ⟨fun bytes htext e => Refusal.parse?_eq_some_iff htext hms, fun auth w a log => ?_⟩
  obtain ⟨new, hlog, hhears⟩ := act_hears auth w a log
  refine ⟨new, hlog, hhears, ?_⟩
  intro before q url status headers body b h h200 h410 htext
  have hact := h.refused h200 h410
  refine ⟨fun e he => ?_, fun hno => ?_, congrArg (·.account) hact, ?_⟩
  · refine (congrArg (·.outcome) hact).trans (refused_of_parse? ?_)
    exact (Refusal.parse?_eq_some_iff htext hms).2 he
  · refine (congrArg (·.outcome) hact).trans (refused_of_not_parse? ?_)
    apply Option.eq_none_iff_forall_ne_some.2
    intro e he
    exact hno e ((Refusal.parse?_eq_some_iff htext hms).1 he)
  · exact List.append_cancel_left (hlog.symm.trans (congrArg (·.log) hact))

/-! ### A denial -/

/-- The members of a structured error. -/
def denial : List (Bytes × Tree) := [
  (bodyOf "error", .string (bodyOf "Denied")),
  (bodyOf "errorMessage", .string (bodyOf "Not you."))]

/-- A text for them. -/
def denying : Bytes :=
  Utf8.encode "\x7b\"error\":\"Denied\",\"errorMessage\":\"Not you.\"\x7d"

theorem isText_denying : (Tree.object denial).IsText denying :=
  ⟨[], _, [], isGap_nil, isGap_nil,
    .object (.member Document.separates_nil (isBody_bodyOf _) isGap_nil isGap_nil
      (.string (isBody_bodyOf _))
      (.member Document.separates_comma (isBody_bodyOf _) isGap_nil isGap_nil
        (.string (isBody_bodyOf _)) (.closeObject isGap_nil))), by decide +kernel⟩

theorem noRepeats_denial : NoRepeats denial := noRepeats_of_nodup (by simp [denial])

theorem not_spells_cause : ∀ m ∈ denial, ¬ SpellsAll "cause".toList m.1 :=
  List.forall_mem_cons.2 ⟨not_spellsAll_bodyOf (by decide),
    List.forall_mem_singleton.2 (not_spellsAll_bodyOf (by decide))⟩

theorem says_denial : Refusal.Says denial ⟨"Denied", "Not you.", ""⟩ where
  name := ⟨_, List.mem_cons_self, spellsAll_bodyOf _, _, rfl, spellsAll_bodyOf _⟩
  text := ⟨_, List.mem_cons_of_mem _ List.mem_cons_self, spellsAll_bodyOf _, _, rfl,
    spellsAll_bodyOf _⟩
  cause := .inr ⟨rfl, fun m hm hname => (not_spells_cause m hm hname).elim⟩
  spelled := List.forall_mem_cons.2 ⟨⟨_, spellsAll_bodyOf _⟩,
    List.forall_mem_singleton.2 ⟨_, spellsAll_bodyOf _⟩⟩

/-- A world whose server denies every request. -/
def denyingWorld : World :=
  { World.silent with server := fun _ q => .reply (.ofResponse q.url 403 [] denying) }

/-- A renewal that is denied fails with the message of the server. -/
theorem perform_refused_denying :
    (∀ e, Refusal.parse? denying = some e ↔ Refusal.Says denial e) ∧
    let r := ((Step.authentication renewal).perform denyingWorld (.mojang "steve") []).2
    r.log.requests.length = 1 ∧ r.outcome = .hard "Not you." := by
  obtain ⟨hreads, hstep⟩ := perform_refused noRepeats_denial
  obtain ⟨new, hlog, -, hends⟩ := hstep renewal denyingWorld (.mojang "steve") []
  obtain ⟨q, hq⟩ : ∃ q, renewal.request denyingWorld.settings (.mojang "steve") .renewal = .ok q :=
    ⟨_, rfl⟩
  obtain ⟨hfails, -, -, rfl⟩ := hends _ q q.url 403 [] denying _ (.now ⟨rfl, hq, rfl⟩)
    (by decide) (by decide) isText_denying
  refine ⟨hreads denying isText_denying, ?_, hfails _ says_denial⟩
  rw [hlog]
  rfl

end Authentication

/-- **A message that is hidden by its cause.**  Both its name and its text are strings, and no name
occurs twice, but the cause is an object. -/
theorem Refusal.parse?_hidden :
    ∃ ms : List (Bytes × Tree), (Tree.object ms).IsText (Utf8.encode
      "\x7b\"error\":\"Denied\",\"errorMessage\":\"Not you.\",\"cause\":\x7b\x7d\x7d") ∧
    NoRepeats ms ∧ HasString ms "error" "Denied" ∧ HasString ms "errorMessage" "Not you." ∧
    Refusal.parse? (Utf8.encode
      "\x7b\"error\":\"Denied\",\"errorMessage\":\"Not you.\",\"cause\":\x7b\x7d\x7d") = none := by
  refine ⟨[(bodyOf "error", .string (bodyOf "Denied")),
    (bodyOf "errorMessage", .string (bodyOf "Not you.")), (bodyOf "cause", .object [])],
    ⟨[], _, [], isGap_nil, isGap_nil,
      .object (.member Document.separates_nil (isBody_bodyOf _) isGap_nil isGap_nil
        (.string (isBody_bodyOf _))
        (.member Document.separates_comma (isBody_bodyOf _) isGap_nil isGap_nil
          (.string (isBody_bodyOf _))
          (.member Document.separates_comma (isBody_bodyOf _) isGap_nil isGap_nil
            (.object (.closeObject isGap_nil)) (.closeObject isGap_nil)))), by decide +kernel⟩,
    noRepeats_of_nodup (by simp), ?_, ?_, by decide +kernel⟩
  · exact ⟨_, List.mem_cons_self, spellsAll_bodyOf _, _, rfl, spellsAll_bodyOf _⟩
  · exact ⟨_, List.mem_cons_of_mem _ List.mem_cons_self, spellsAll_bodyOf _, _, rfl,
      spellsAll_bodyOf _⟩

end SignIn
