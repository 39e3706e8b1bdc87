import SignIn.Proofs.Exchange.Refusal
import SignIn.Proofs.Json.Word
import SignIn.Proofs.Settings

/-!
# Which settings a file holds

A file holds the settings that were saved to it, whatever their texts and their timeout are.  A file
that somebody has written by hand may give some of the fields only, in any order and with other
members among them; what it leaves out has its default.  Either way the settings are checked when
they are loaded, and only then: what was saved need not be usable.

As with everything that is read from JSON, the names of all members have to spell texts, those of
the members that are passed over as well.

## Main definitions

* `Tells` — what the members of an object say about one field.
* `Settings.Draft.IsToldBy` — what they say about all fields.
* `Settings.Draft.filled` — the settings that give these fields, and no others.
* `Settings.IsChecked` — what comes of loading settings.

## Main results

* `Settings.read_toValue` — **settings are read back.**
* `Settings.read_of_told` — **an object is read as the defaults with the fields that it gives.**
* `Settings.loadFrom_checked` — both are checked when they are loaded.
* `Settings.loadFrom_unspelled` — a name that spells no text.
-/

namespace SignIn

open SignIn.Json SignIn.Text

/-! ### What members say about a field -/

/-- A string that spells a text. -/
def IsStringOf (t : Tree) (s : String) : Prop := ∃ body, t = .string body ∧ SpellsAll s.toList body

/-- The digits of a whole number of 64 bits. -/
def IsWordOf (t : Tree) (n : Nat) : Prop := n ≤ maxWord ∧ t = .number (numeralOf n)

/-- What the members of an object say about the field of a name. -/
inductive Tells {β : Type} (ms : List (Bytes × Tree)) (name : String) (isValue : Tree → β → Prop) :
    Option β → Prop
  /-- There is no such member. -/
  | omitted (h : ∀ m ∈ ms, ¬ SpellsAll name.toList m.1) : Tells ms name isValue none
  /-- There is one, and it has this value. -/
  | given {before after : List (Bytes × Tree)} {m : Bytes × Tree} {b : β}
    (stands : ms = before ++ m :: after) (hname : SpellsAll name.toList m.1)
    (once : ∀ m' ∈ before ++ after, ¬ SpellsAll name.toList m'.1) (value : isValue m.2 b) :
    Tells ms name isValue (some b)

/-- What stands once among other members is given. -/
theorem Tells.given_of_spelled {β : Type} {ms : List (Bytes × Tree)} {name : String}
    {isValue : Tree → β → Prop} (before after : List (Bytes × Tree)) {m : Bytes × Tree} {b : β}
    (stands : ms = before ++ m :: after) (hname : spelled? m.1 = some name)
    (once : ∀ m' ∈ before ++ after, spelled? m'.1 ≠ some name) (value : isValue m.2 b) :
    Tells ms name isValue (some b) :=
  .given stands (spelled?_eq_some_iff.1 hname)
    (fun m' hm' h => once m' hm' (spelled?_eq_some_iff.2 h)) value

/-- A field comes to what the members say about it. -/
theorem Tells.outcome? {σ : Type} {slot : Slot σ} {ms : List (Bytes × Tree)}
    {isValue : Tree → slot.Content → Prop} {o : Option slot.Content}
    (h : Tells ms slot.name isValue o) (hvalue : ∀ t b, isValue t b → slot.value? t = some b) :
    slot.outcome? none (named slot.name ms) = some o := by
  cases h with
  | omitted h => rw [named_eq_nil_iff.2 h, Slot.outcome?_nil]
  | @given before after m b stands hname once value =>
    have hbefore : named slot.name before = [] :=
      named_eq_nil_iff.2 fun m hm => once m (List.mem_append_left _ hm)
    have hafter : named slot.name after = [] :=
      named_eq_nil_iff.2 fun m hm => once m (List.mem_append_right _ hm)
    rw [stands, named_append, named_cons_self (spelled?_eq_some_iff.2 hname), hbefore, hafter,
      List.nil_append, Slot.outcome?_none_singleton, hvalue _ _ value]
    rfl

namespace Settings

/-! ### The fields -/

/-- A field that holds a text. -/
def textSlot (name : String) (get : Draft → Option String) (set : Draft → String → Draft) :
    Slot Draft where
  Content := String
  name := name
  get := get
  set := set
  reader := Json.text
  value? := Tree.text?

/-- The authentication server. -/
def authServerSlot : Slot Draft :=
  textSlot "auth_server_url" (·.authServerUrl) fun d s => { d with authServerUrl := some s }

/-- The session server. -/
def sessionServerSlot : Slot Draft :=
  textSlot "session_server_url" (·.sessionServerUrl)
    fun d s => { d with sessionServerUrl := some s }

/-- The introduction. -/
def userAgentSlot : Slot Draft :=
  textSlot "user_agent" (·.userAgent) fun d s => { d with userAgent := some s }

/-- The timeout. -/
def timeoutSlot : Slot Draft where
  Content := Nat
  name := "request_timeout_secs"
  get := (·.timeoutSeconds)
  set d n := { d with timeoutSeconds := some n }
  reader := word64
  value? := Tree.word?

/-- The fields of settings. -/
def slots : List (Slot Draft) := [authServerSlot, sessionServerSlot, userAgentSlot, timeoutSlot]

theorem independent : Independent slots where
  nodup := by decide
  get_set := by
    simp [slots, authServerSlot, sessionServerSlot, userAgentSlot, timeoutSlot, textSlot]
  get_of_ne := by
    simp [slots, authServerSlot, sessionServerSlot, userAgentSlot, timeoutSlot, textSlot]
  ext := by
    rintro ⟨a, s, u, t⟩ ⟨a', s', u', t'⟩ h
    simp only [slots, List.forall_mem_cons] at h
    obtain ⟨ha, hs, hu, ht, -⟩ := h
    exact (Draft.mk.injEq ..).mpr ⟨ha, hs, hu, ht⟩

theorem slotted (room : Nat) : layout.Slotted room slots where
  fields := rfl
  reads := by
    simp only [slots, List.forall_mem_cons, List.not_mem_nil, false_implies, implies_true, and_true]
    exact ⟨readsAs_text room, readsAs_text room, readsAs_text room, readsAs_word64 room⟩

/-! ### What an object says -/

/-- The defaults with the fields that are given. -/
def Draft.filled (d : Draft) : Settings where
  authServerUrl := d.authServerUrl.getD default.authServerUrl
  sessionServerUrl := d.sessionServerUrl.getD default.sessionServerUrl
  userAgent := d.userAgent.getD default.userAgent
  timeoutSeconds := d.timeoutSeconds.getD default.timeoutSeconds

/-- The members of an object give these fields, each once, and no others.  Where they stand makes no
difference, nor does what else is there, as long as all names spell texts. -/
structure Draft.IsToldBy (d : Draft) (ms : List (Bytes × Tree)) : Prop where
  /-- The authentication server. -/
  authServerUrl : Tells ms "auth_server_url" IsStringOf d.authServerUrl
  /-- The session server. -/
  sessionServerUrl : Tells ms "session_server_url" IsStringOf d.sessionServerUrl
  /-- The introduction. -/
  userAgent : Tells ms "user_agent" IsStringOf d.userAgent
  /-- The timeout. -/
  timeoutSeconds : Tells ms "request_timeout_secs" IsWordOf d.timeoutSeconds
  /-- The names of all members spell texts. -/
  spelled : ∀ m ∈ ms, ∃ s : String, SpellsAll s.toList m.1

theorem text?_of_isStringOf {t : Tree} {s : String} (h : IsStringOf t s) : t.text? = some s := by
  obtain ⟨body, rfl, hbody⟩ := h
  exact spelled?_eq_some_iff.2 hbody

theorem word?_of_isWordOf {t : Tree} {n : Nat} (h : IsWordOf t n) : t.word? = some n := by
  obtain ⟨hmax, rfl⟩ := h
  exact word?_numeralOf hmax

theorem takeAll?_of_told {d : Draft} {ms : List (Bytes × Tree)} (h : d.IsToldBy ms) :
    takeAll? slots layout.empty ms = some d := by
  rw [takeAll?_eq_some_iff independent]
  simp only [slots, List.forall_mem_cons, List.not_mem_nil, false_implies, implies_true, and_true]
  exact ⟨h.spelled, h.authServerUrl.outcome? fun _ _ => text?_of_isStringOf,
    h.sessionServerUrl.outcome? fun _ _ => text?_of_isStringOf,
    h.userAgent.outcome? fun _ _ => text?_of_isStringOf,
    h.timeoutSeconds.outcome? fun _ _ => word?_of_isWordOf⟩

/-- **An object is read as the defaults with the fields that it gives.** -/
theorem read_of_told {d : Draft} {ms : List (Bytes × Tree)} (h : d.IsToldBy ms) {bytes : Bytes}
    (htext : (Tree.object ms).IsText bytes) : Json.read layout.record bytes = .ok d.filled := by
  rw [← toOption_eq_some_iff, toOption_read ((slotted 126).readsAs ms) htext, takeAll?_of_told h]
  rfl

/-! ### What is saved -/

/-- **Settings are read back**, whatever their texts are and whatever timeout of 64 bits they
have. -/
theorem read_toValue {s : Settings} (h : s.timeoutSeconds ≤ maxWord) :
    Json.read layout.record (Utf8.encode s.toValue.pretty) = .ok s := by
  have hrestores : Restores layout.record 127 s.toValue s :=
    Layout.restores_record (List.cons_ne_nil _ _)
      ⟨some s.authServerUrl, some s.sessionServerUrl, some s.userAgent, some s.timeoutSeconds⟩
      (fun level => Layout.takes_written rfl rfl (restores_text s.authServerUrl)
        (Layout.takes_written rfl rfl (restores_text s.sessionServerUrl)
          (Layout.takes_written rfl rfl (restores_text s.userAgent)
            (Layout.takes_written rfl rfl (restores_word64 h 126) (.nil _))))) rfl
  have hreads := hrestores 0 [] [] isGap_nil ends_nil
  have hbytes : Utf8.encode s.toValue.pretty = Utf8.bytes (s.toValue.prettyChars 0) :=
    Utf8.encode_ofList _
  rw [List.nil_append, List.append_nil, ← hbytes] at hreads
  rw [Json.read, depthLimit, hreads]
  rfl

/-- What was saved is in the file. -/
theorem read_of_saveTo {s : Settings} {disk saved : Disk} {path : String}
    (h : s.saveTo disk path = .ok saved) :
    saved.read path = .ok (Utf8.encode s.toValue.pretty) := by
  obtain ⟨made, -, hsaved⟩ := bind_eq_ok_iff.1 h
  exact Disk.read_write (mapError_eq_ok_iff.1 hsaved)

/-- Settings are saved wherever something can be written, usable or not. -/
theorem exists_saveTo (s : Settings) {disk : Disk} {path : String} (h : disk.IsWritable path) :
    ∃ saved, s.saveTo disk path = .ok saved := by
  obtain ⟨made, _, hmade, hempty⟩ := h
  obtain ⟨saved, hsaved⟩ := Disk.write_of_write hempty (Utf8.encode s.toValue.pretty)
  exact ⟨saved, bind_eq_ok_iff.2
    ⟨made, mapError_eq_ok_iff.2 hmade, mapError_eq_ok_iff.2 hsaved⟩⟩

/-! ### What is loaded -/

/-- What comes of loading settings: they are the result if nothing is wrong with them, and otherwise
the first field that is wrong is named. -/
structure IsChecked (s : Settings) (r : Except Error Settings) : Prop where
  /-- Both addresses are URLs, and the timeout is positive. -/
  usable : (∃ u, Url.parse s.authServerUrl = .ok u) → (∃ v, Url.parse s.sessionServerUrl = .ok v) →
    0 < s.timeoutSeconds → r = .ok s
  /-- The address of the authentication server is none. -/
  authServerUrl : (¬ ∃ u, Url.parse s.authServerUrl = .ok u) →
    r = .error (.settings (.invalidUrl "auth_server_url" s.authServerUrl))
  /-- It is one, but that of the session server is none. -/
  sessionServerUrl : (∃ u, Url.parse s.authServerUrl = .ok u) →
    (¬ ∃ v, Url.parse s.sessionServerUrl = .ok v) →
    r = .error (.settings (.invalidUrl "session_server_url" s.sessionServerUrl))
  /-- Both are, but the timeout is zero. -/
  timeoutSeconds : (∃ u, Url.parse s.authServerUrl = .ok u) →
    (∃ v, Url.parse s.sessionServerUrl = .ok v) → s.timeoutSeconds = 0 →
    r = .error (.settings .zeroTimeout)

/-- What has been read is checked. -/
theorem isChecked_of_read {text : String} {s : Settings}
    (h : Json.read layout.record (Utf8.encode text) = .ok s) : IsChecked s (parse text) := by
  have hparse : parse text = (s.validate.mapError .settings).map fun _ => s := by
    rw [parse, h]
    rfl
  rw [hparse, validate]
  constructor
  · intro hauth hsession htimeout
    rw [isUrl_iff.2 hauth, isUrl_iff.2 hsession]
    simp only [Bool.not_true, Bool.false_eq_true, if_false, if_neg htimeout.ne']
    rfl
  · intro hauth
    rw [Bool.eq_false_iff.2 (isUrl_iff.not.2 hauth)]
    rfl
  · intro hauth hsession
    rw [isUrl_iff.2 hauth, Bool.eq_false_iff.2 (isUrl_iff.not.2 hsession)]
    rfl
  · intro hauth hsession htimeout
    rw [isUrl_iff.2 hauth, isUrl_iff.2 hsession, htimeout]
    rfl

/-- Settings that are checked are never found not to be JSON. -/
theorem IsChecked.ne_json {s : Settings} {r : Except Error Settings} (h : IsChecked s r)
    (m : Mistake) : r ≠ .error (.json m) := by
  rintro rfl
  by_cases hauth : ∃ u, Url.parse s.authServerUrl = .ok u
  · by_cases hsession : ∃ v, Url.parse s.sessionServerUrl = .ok v
    · obtain htimeout | htimeout := Nat.eq_zero_or_pos s.timeoutSeconds
      · cases h.timeoutSeconds hauth hsession htimeout
      · cases h.usable hauth hsession htimeout
    · cases h.sessionServerUrl hauth hsession
  · cases h.authServerUrl hauth

/-- **Settings are checked when they are loaded**, and loading changes nothing else.  Settings with
any texts and any timeout of 64 bits can be saved wherever something can be written, and are loaded
from there.  A file with an object is loaded as the defaults with the fields that the object gives.
-/
theorem loadFrom_checked :
    (∀ s : Settings, s.timeoutSeconds ≤ maxWord → ∀ (disk : Disk) (path : String),
      (∀ saved, s.saveTo disk path = .ok saved → IsChecked s (loadFrom saved path)) ∧
        (disk.IsWritable path → ∃ saved, s.saveTo disk path = .ok saved)) ∧
    ∀ (d : Draft) (ms : List (Bytes × Tree)), d.IsToldBy ms →
      ∀ text, (Tree.object ms).IsText (Utf8.encode text) → ∀ (disk : Disk) (path : String),
        disk.read path = .ok (Utf8.encode text) → IsChecked d.filled (loadFrom disk path) := by
  refine ⟨fun s hs disk path => ⟨fun saved hsaved => ?_, s.exists_saveTo⟩, ?_⟩
  · rw [loadFrom_of_read (read_of_saveTo hsaved)]
    exact isChecked_of_read (read_toValue hs)
  · intro d ms hd text htext disk path hread
    rw [loadFrom_of_read hread]
    exact isChecked_of_read (read_of_told hd htext)

/-! ### Files by hand -/

/-- Members that give three of the fields, and another one between them. -/
def partialMembers : List (Bytes × Tree) := [
  (bodyOf "request_timeout_secs", .number (numeralOf 5)), (bodyOf "theme", .null),
  (bodyOf "session_server_url", .string (bodyOf "https://b")),
  (bodyOf "auth_server_url", .string (bodyOf "https://a"))]

/-- What they give. -/
def partialDraft : Draft := ⟨some "https://a", some "https://b", none, some 5⟩

/-- A text for them. -/
def partialText : String :=
  "\x7b\"request_timeout_secs\":5,\"theme\":null,\"session_server_url\":\"https://b\"," ++
    "\"auth_server_url\":\"https://a\"\x7d"

theorem isText_partialText : (Tree.object partialMembers).IsText (Utf8.encode partialText) :=
  ⟨[], _, [], isGap_nil, isGap_nil,
    .object (.member Document.separates_nil (isBody_bodyOf _) isGap_nil isGap_nil
      (.number (isNumeral_numeralOf 5))
      (.member Document.separates_comma (isBody_bodyOf _) isGap_nil isGap_nil .null
        (.member Document.separates_comma (isBody_bodyOf _) isGap_nil isGap_nil
          (.string (isBody_bodyOf _))
          (.member Document.separates_comma (isBody_bodyOf _) isGap_nil isGap_nil
            (.string (isBody_bodyOf _)) (.closeObject isGap_nil))))), by decide +kernel⟩

theorem isToldBy_partialMembers : partialDraft.IsToldBy partialMembers where
  authServerUrl := .given_of_spelled (partialMembers.take 3) [] rfl
    (spelled?_bodyOf _) (by decide +kernel) ⟨_, rfl, spellsAll_bodyOf _⟩
  sessionServerUrl := .given_of_spelled (partialMembers.take 2) (partialMembers.drop 3) rfl
    (spelled?_bodyOf _) (by decide +kernel) ⟨_, rfl, spellsAll_bodyOf _⟩
  userAgent := .omitted fun m hm h =>
    (by decide +kernel : ∀ m ∈ partialMembers, spelled? m.1 ≠ some "user_agent") m hm
      (spelled?_eq_some_iff.2 h)
  timeoutSeconds := .given_of_spelled [] (partialMembers.drop 1) rfl
    (spelled?_bodyOf _) (by decide +kernel) ⟨by decide, rfl⟩
  spelled m hm := by
    have hall : ∀ m ∈ partialMembers, (spelled? m.1).isSome = true := by decide +kernel
    obtain ⟨s, hs⟩ := Option.isSome_iff_exists.1 (hall m hm)
    exact ⟨s, spelled?_eq_some_iff.1 hs⟩

/-- Settings are saved and loaded again, and a file with three of the fields is loaded. -/
theorem loadFrom_checked_partial :
    (∃ saved, partialDraft.filled.saveTo .empty "a/b" = .ok saved ∧
      loadFrom saved "a/b" = .ok partialDraft.filled) ∧
    ∃ disk, disk.read "a/b" = .ok (Utf8.encode partialText) ∧
      loadFrom disk "a/b" = .ok partialDraft.filled := by
  have hsa : Url.splitScheme (Url.prepare "https://a") =
      some ("https", '/' :: '/' :: (['a'] ++ [])) := by decide
  have hsb : Url.splitScheme (Url.prepare "https://b") =
      some ("https", '/' :: '/' :: (['b'] ++ [])) := by decide
  have hu := Url.parse_of_word (by decide) isLower_a (List.cons_ne_nil _ _) hsa Url.endsPath_nil
  have hv := Url.parse_of_word (by decide) isLower_b (List.cons_ne_nil _ _) hsb Url.endsPath_nil
  have husable {r : Except Error Settings} (h : IsChecked partialDraft.filled r) :
      r = .ok partialDraft.filled := h.usable ⟨_, hu⟩ ⟨_, hv⟩ (by decide)
  obtain ⟨hsaved, htold⟩ := loadFrom_checked
  obtain ⟨hload, hsave⟩ := hsaved partialDraft.filled (by decide) .empty "a/b"
  obtain ⟨saved, hsaved⟩ := hsave Account.isWritable_empty
  obtain ⟨disk, hdisk⟩ := exists_file (Utf8.encode partialText)
  exact ⟨⟨saved, hsaved, husable (hload saved hsaved)⟩, disk, hdisk,
    husable (htold _ _ isToldBy_partialMembers _ isText_partialText disk "a/b" hdisk)⟩

/-- Members that give none of the fields: there is one, whose name is half of a surrogate pair. -/
def unspelledMembers : List (Bytes × Tree) := [(Utf8.encode "\\ud800", .null)]

/-- A text for them. -/
def unspelledText : String := "\x7b\"\\ud800\":null\x7d"

/-- **A name that spells no text** makes a file with an object unreadable that gives none of the
fields, and would otherwise be loaded as the defaults. -/
theorem loadFrom_unspelled :
    (∀ slot ∈ slots, ∀ m ∈ unspelledMembers, ¬ SpellsAll slot.name.toList m.1) ∧
      (Tree.object unspelledMembers).IsText (Utf8.encode unspelledText) ∧
      ∃ disk, disk.read "a/b" = .ok (Utf8.encode unspelledText) ∧
        (∃ m, loadFrom disk "a/b" = .error (.json m)) ∧
        ¬ IsChecked default (loadFrom disk "a/b") := by
  have hunit : hexUnit? 0x64 0x38 0x30 0x30 = some 0xD800 := by decide
  have hlone : spelled? (Utf8.encode "\\ud800") = none := spelled?_half hunit (by decide)
  have hbody : IsBody (Utf8.encode "\\ud800") := .unit hunit .nil
  have htext : (Tree.object unspelledMembers).IsText (Utf8.encode unspelledText) :=
    ⟨[], _, [], isGap_nil, isGap_nil,
      .object (.member Document.separates_nil hbody isGap_nil isGap_nil .null
        (.closeObject isGap_nil)), by decide +kernel⟩
  obtain ⟨disk, hdisk⟩ := exists_file (Utf8.encode unspelledText)
  have hload : ∃ m, loadFrom disk "a/b" = .error (.json m) := by
    rw [loadFrom_of_read hdisk, parse]
    cases hread : Json.read layout.record (Utf8.encode unspelledText) with
    | error m => exact ⟨m, rfl⟩
    | ok s =>
      have hnone : (Json.read layout.record (Utf8.encode unspelledText)).toOption = none := by
        rw [toOption_read ((slotted 126).readsAs unspelledMembers) htext, unspelledMembers,
          takeAll?_cons, hlone]
        rfl
      rw [hread] at hnone
      cases hnone
  refine ⟨fun slot _ m hm h => ?_, htext, disk, hdisk, hload, fun h => ?_⟩
  · obtain rfl := List.mem_singleton.1 hm
    exact nomatch hlone.symm.trans (spelled?_eq_some_iff.2 h)
  · obtain ⟨m, hm⟩ := hload
    exact h.ne_json m hm

end Settings

end SignIn
