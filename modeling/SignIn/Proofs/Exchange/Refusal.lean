import SignIn.Exchange.Refusal
import SignIn.Proofs.Json.Slots

/-!
# Which bodies are structured errors

A body that is an object makes a structured error if its name and its message are strings.  Its other
members are passed over, whatever they are, but for two things that the reader insists on: that the
cause is a string too if there is one, and that the names of all members spell texts.

## Main definitions

* `HasString` — an object has a string as the member of a name.
* `NoRepeats` — no name occurs twice.
* `Refusal.text?` — the text that the members of one name come to.
* `Refusal.Says` — what an object says about a refused request.

## Main results

* `Refusal.parse?_eq_some_iff_named` — what is read, member by member.
* `Refusal.parse?_eq_some_iff` — **exactly what an object says is read from it.**
-/

namespace SignIn

open SignIn.Json SignIn.Text

/-- An object has a string as the member of a name, and it spells this text. -/
def HasString (ms : List (Bytes × Tree)) (name text : String) : Prop :=
  ∃ m ∈ ms, SpellsAll name.toList m.1 ∧ ∃ body, m.2 = .string body ∧ SpellsAll text.toList body

/-- No two members have names that spell the same text. -/
def NoRepeats (ms : List (Bytes × Tree)) : Prop :=
  ms.Pairwise fun m m' => ∀ s : String, SpellsAll s.toList m.1 → ¬ SpellsAll s.toList m'.1

/-- Names that are not read as the same text are no repetitions. -/
theorem noRepeats_of_nodup {ms : List (Bytes × Tree)} (h : (ms.map fun m => spelled? m.1).Nodup) :
    NoRepeats ms := by
  refine (List.pairwise_map.1 h).imp fun hne s hm hm' => hne ?_
  rw [spelled?_eq_some_iff.2 hm, spelled?_eq_some_iff.2 hm']

/-- Without repetitions, a name has no member or one. -/
theorem NoRepeats.named_cases {ms : List (Bytes × Tree)} (h : NoRepeats ms) (name : String) :
    named name ms = [] ∨ ∃ t, named name ms = [t] := by
  induction ms with
  | nil => exact .inl rfl
  | cons m ms ih =>
    obtain ⟨hm, hms⟩ := List.pairwise_cons.1 h
    by_cases hname : spelled? m.1 = some name
    · have hnone : named name ms = [] := by
        rw [named, List.map_eq_nil_iff, List.filter_eq_nil_iff]
        intro m' hm' hname'
        have hname' : spelled? m'.1 = some name := by simpa using hname'
        exact hm m' hm' name (spelled?_eq_some_iff.1 hname) (spelled?_eq_some_iff.1 hname')
      exact .inr ⟨m.2, by rw [named_cons_self hname, hnone]⟩
    · have hskip : named name (m :: ms) = named name ms := by simp [named, hname]
      rw [hskip]
      exact ih hms

namespace Refusal

/-! ### The fields -/

/-- A field that holds a text, or nothing if it is `null`. -/
def textSlot (name : String) (get : Draft → Option (Option String))
    (set : Draft → Option String → Draft) : Slot Draft where
  Content := Option String
  name := name
  get := get
  set := set
  reader := optional Json.text
  value? t := t.orNull t.text?

/-- The name. -/
def nameSlot : Slot Draft := textSlot "error" (·.name) fun d s => { d with name := some s }

/-- The message. -/
def messageSlot : Slot Draft :=
  textSlot "errorMessage" (·.text) fun d s => { d with text := some s }

/-- The cause. -/
def causeSlot : Slot Draft := textSlot "cause" (·.cause) fun d s => { d with cause := some s }

/-- The fields of a refusal. -/
def slots : List (Slot Draft) := [nameSlot, messageSlot, causeSlot]

theorem independent : Independent slots where
  nodup := by decide
  get_set := by simp [slots, nameSlot, messageSlot, causeSlot, textSlot]
  get_of_ne := by simp [slots, nameSlot, messageSlot, causeSlot, textSlot]
  ext := by
    rintro ⟨n, t, c⟩ ⟨n', t', c'⟩ h
    simp only [slots, List.forall_mem_cons] at h
    obtain ⟨hn, ht, hc, -⟩ := h
    exact (Draft.mk.injEq ..).mpr ⟨hn, ht, hc⟩

theorem slotted (room : Nat) : layout.Slotted room slots where
  fields := rfl
  reads := by
    simp only [slots, List.forall_mem_cons, List.not_mem_nil, false_implies, implies_true, and_true]
    exact ⟨fun t => (readsAs_text room t).optional, fun t => (readsAs_text room t).optional,
      fun t => (readsAs_text room t).optional⟩

/-! ### What the members come to -/

/-- The text that the members of one name come to: none if there are none. -/
def text? : List Tree → Option (Option String) := only? none fun t => t.orNull t.text?

/-- **What is read from an object**, member by member. -/
theorem parse?_eq_some_iff_named {ms : List (Bytes × Tree)} {bytes : Bytes}
    (htext : (Tree.object ms).IsText bytes) {r : Refusal} :
    parse? bytes = some r ↔ (∀ m ∈ ms, ∃ s : String, SpellsAll s.toList m.1) ∧
      text? (named "error" ms) = some (some r.name) ∧
      text? (named "errorMessage" ms) = some (some r.text) ∧
      ∃ cause, text? (named "cause" ms) = some cause ∧ cause.getD "" = r.cause := by
  have hread (d : Draft) : (read layout.record bytes).toOption = some d ↔
      (∀ m ∈ ms, ∃ s : String, SpellsAll s.toList m.1) ∧
        nameSlot.outcome? none (named "error" ms) = some d.name ∧
        messageSlot.outcome? none (named "errorMessage" ms) = some d.text ∧
        causeSlot.outcome? none (named "cause" ms) = some d.cause := by
    have hdraft : (read layout.record bytes).toOption = takeAll? slots layout.empty ms := by
      rw [toOption_read ((slotted 126).readsAs ms) htext]
      exact Option.bind_fun_some _
    rw [hdraft, takeAll?_eq_some_iff independent]
    refine and_congr_right fun _ => ?_
    simp only [slots, List.forall_mem_cons, List.not_mem_nil, false_implies, implies_true, and_true]
    exact Iff.rfl
  obtain ⟨name, text, cause⟩ := r
  simp only [parse?, Option.bind_eq_bind, Option.bind_eq_some_iff, Option.pure_def,
    Option.some.injEq, Refusal.mk.injEq, hread]
  constructor
  · rintro ⟨d, ⟨hspelled, hn, ht, hc⟩, _, hname, _, htext, rfl, rfl, hcause⟩
    exact ⟨hspelled, nameSlot.only?_eq_some_iff.2 ⟨_, hn, hname⟩,
      messageSlot.only?_eq_some_iff.2 ⟨_, ht, htext⟩, _,
      causeSlot.only?_eq_some_iff.2 ⟨_, hc, rfl⟩, hcause⟩
  · rintro ⟨hspelled, hname, htext, c, hcause, hc⟩
    obtain ⟨n, hn, hname⟩ := nameSlot.only?_eq_some_iff.1 hname
    obtain ⟨t, ht, htext⟩ := messageSlot.only?_eq_some_iff.1 htext
    obtain ⟨o, ho, rfl⟩ := causeSlot.only?_eq_some_iff.1 hcause
    exact ⟨⟨n, t, o⟩, ⟨hspelled, hn, ht, ho⟩, name, hname, text, htext, rfl, rfl, hc⟩

/-! ### What an object says -/

/-- What an object without repetitions says about a refused request. -/
structure Says (ms : List (Bytes × Tree)) (r : Refusal) : Prop where
  /-- The name of the error is a string. -/
  name : HasString ms "error" r.name
  /-- So is the message. -/
  text : HasString ms "errorMessage" r.text
  /-- And so is the cause, unless there is none or it is `null`; then it is empty. -/
  cause : HasString ms "cause" r.cause ∨
    r.cause = "" ∧ ∀ m ∈ ms, SpellsAll "cause".toList m.1 → m.2 = .null
  /-- The names of all members spell texts. -/
  spelled : ∀ m ∈ ms, ∃ s : String, SpellsAll s.toList m.1

variable {ms : List (Bytes × Tree)} {name : String}

/-- The members of a name come to a text exactly if it has a string that spells it. -/
theorem text?_eq_some_some_iff (h : NoRepeats ms) {s : String} :
    text? (named name ms) = some (some s) ↔ HasString ms name s := by
  have hvalue (t : Tree) : t.orNull t.text? = some (some s) ↔
      ∃ body, t = .string body ∧ SpellsAll s.toList body := by
    cases t <;> simp [Tree.orNull, Tree.text?, spelled?_eq_some_iff]
  have hhas : HasString ms name s ↔ ∃ t ∈ named name ms,
      ∃ body, t = .string body ∧ SpellsAll s.toList body := by
    simp only [HasString, mem_named_iff]
    constructor
    · rintro ⟨m, hm, hname, hbody⟩
      exact ⟨m.2, ⟨m, hm, hname, rfl⟩, hbody⟩
    · rintro ⟨t, ⟨m, hm, hname, rfl⟩, hbody⟩
      exact ⟨m, hm, hname, hbody⟩
  rw [hhas]
  obtain hnone | ⟨t, ht⟩ := h.named_cases name
  · simp [hnone, text?, only?]
  · simp only [ht, text?, only?, hvalue, List.mem_singleton, exists_eq_left]

/-- They come to no text exactly if there is no member, or it is `null`. -/
theorem text?_eq_some_none_iff (h : NoRepeats ms) :
    text? (named name ms) = some none ↔
      ∀ m ∈ ms, SpellsAll name.toList m.1 → m.2 = .null := by
  have hall : (∀ m ∈ ms, SpellsAll name.toList m.1 → m.2 = .null) ↔
      ∀ t ∈ named name ms, t = .null := by
    simp only [mem_named_iff]
    constructor
    · rintro h t ⟨m, hm, hname, rfl⟩
      exact h m hm hname
    · intro h m hm hname
      exact h m.2 ⟨m, hm, hname, rfl⟩
  rw [hall]
  obtain hnone | ⟨t, ht⟩ := h.named_cases name
  · simp [hnone, text?, only?]
  · cases t <;> simp [ht, text?, only?, Tree.orNull]

/-- **Exactly what an object says is read from it.** -/
theorem parse?_eq_some_iff {bytes : Bytes} (htext : (Tree.object ms).IsText bytes)
    (h : NoRepeats ms) {r : Refusal} : parse? bytes = some r ↔ Says ms r := by
  rw [parse?_eq_some_iff_named htext, text?_eq_some_some_iff h, text?_eq_some_some_iff h]
  constructor
  · rintro ⟨hspelled, hname, hmessage, cause, hcause, heq⟩
    refine ⟨hname, hmessage, ?_, hspelled⟩
    cases cause with
    | some s =>
      obtain rfl : s = r.cause := heq
      exact .inl ((text?_eq_some_some_iff h).1 hcause)
    | none => exact .inr ⟨heq.symm, (text?_eq_some_none_iff h).1 hcause⟩
  · rintro ⟨hname, hmessage, hcause, hspelled⟩
    refine ⟨hspelled, hname, hmessage, ?_⟩
    rcases hcause with hcause | ⟨hempty, hnull⟩
    · exact ⟨some r.cause, (text?_eq_some_some_iff h).2 hcause, rfl⟩
    · exact ⟨none, (text?_eq_some_none_iff h).2 hnull, hempty.symm⟩

end Refusal

end SignIn
