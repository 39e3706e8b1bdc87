import Mathlib.Logic.Relation
import SignIn.Exchange.Grant
import SignIn.Proofs.Json.Slots

/-!
# How the body of a grant is laid out

What is read from the body of a grant depends on what its four members hold, and on nothing else
that is there: not on the order of the members, on the blanks between them, or on members of other
names, whatever these hold.  A member that is `null` counts as left out, and a selected profile
that is an empty object as well.

There is one thing that the reader insists on for all members: their names have to spell texts.

## Main definitions

* `Grant.grant?` — the grant that the members of an object come to.
* `Grant.told` — what callers see of a grant.
* `Grant.Relaid` — two ways to lay out the same grant.

## Main results

* `Grant.toOption_parse` — exactly the grant that the members come to is read.
* `Grant.parse_relaid` — **the layout makes no difference, and no member may be there twice.**
* `Grant.parse_unspelled` — a name that spells no text.
-/

namespace SignIn.Grant

open SignIn.Json SignIn.Text

/-! ### The fields -/

/-- A field that holds a text, which is empty if it is `null`. -/
def tokenSlot (name : String) (get : Draft → Option String) (set : Draft → String → Draft) :
    Slot Draft where
  Content := String
  name := name
  get := get
  set := set
  reader := nullableText
  value? t := (t.orNull t.text?).map (·.getD "")

/-- A field that holds any value. -/
def partSlot (name : String) (get : Draft → Option (Option Value))
    (set : Draft → Option Value → Draft) : Slot Draft where
  Content := Option Value
  name := name
  get := get
  set := set
  reader := optional anyValue
  value? t := t.orNull (t.value? 126)

/-- The client token. -/
def clientTokenSlot : Slot Draft :=
  tokenSlot "clientToken" (·.clientToken) fun d s => { d with clientToken := some s }

/-- The access token. -/
def accessTokenSlot : Slot Draft :=
  tokenSlot "accessToken" (·.accessToken) fun d s => { d with accessToken := some s }

/-- The selected profile. -/
def selectedSlot : Slot Draft :=
  partSlot "selectedProfile" (·.selectedProfile) fun d v => { d with selectedProfile := some v }

/-- The available profiles. -/
def availableSlot : Slot Draft :=
  partSlot "availableProfiles" (·.availableProfiles)
    fun d v => { d with availableProfiles := some v }

/-- The fields of a grant. -/
def slots : List (Slot Draft) := [clientTokenSlot, accessTokenSlot, selectedSlot, availableSlot]

theorem independent : Independent slots where
  nodup := by decide
  get_set := by
    simp [slots, clientTokenSlot, accessTokenSlot, selectedSlot, availableSlot, tokenSlot, partSlot]
  get_of_ne := by
    simp [slots, clientTokenSlot, accessTokenSlot, selectedSlot, availableSlot, tokenSlot, partSlot]
  ext := by
    rintro ⟨c, a, s, p⟩ ⟨c', a', s', p'⟩ h
    simp only [slots, List.forall_mem_cons] at h
    obtain ⟨hc, ha, hs, hp, -⟩ := h
    exact (Draft.mk.injEq ..).mpr ⟨hc, ha, hs, hp⟩

theorem readsAs_nullableText (room : Nat) (t : Tree) :
    ReadsAs nullableText room t ((t.orNull t.text?).map (·.getD "")) :=
  (readsAs_text room t).optional.map (·.getD "")

theorem slotted : layout.Slotted 126 slots where
  fields := rfl
  reads := by
    simp only [slots, List.forall_mem_cons, List.not_mem_nil, false_implies, implies_true, and_true]
    exact ⟨readsAs_nullableText 126, readsAs_nullableText 126,
      fun t => (readsAs_anyValue 126 t).optional, fun t => (readsAs_anyValue 126 t).optional⟩

/-! ### What the members come to -/

/-- The text that the members of one name come to: an empty one if there is none. -/
def token? : List Tree → Option String := only? "" fun t => (t.orNull t.text?).map (·.getD "")

/-- The value that the members of one name come to. -/
def part? : List Tree → Option (Option Value) := only? none fun t => t.orNull (t.value? 126)

/-- The grant that the members of an object come to, if the names of all of them spell texts. -/
def grant? (ms : List (Bytes × Tree)) : Option Grant :=
  if ∀ m ∈ ms, (spelled? m.1).isSome then do
    return ⟨← token? (named "clientToken" ms), ← token? (named "accessToken" ms),
      ← part? (named "selectedProfile" ms), ← part? (named "availableProfiles" ms)⟩
  else none

theorem grant?_eq_some_iff {ms : List (Bytes × Tree)} {g : Grant} :
    grant? ms = some g ↔ (∀ m ∈ ms, ∃ s : String, SpellsAll s.toList m.1) ∧
      token? (named "clientToken" ms) = some g.clientToken ∧
      token? (named "accessToken" ms) = some g.accessToken ∧
      part? (named "selectedProfile" ms) = some g.selectedProfile ∧
      part? (named "availableProfiles" ms) = some g.availableProfiles := by
  obtain ⟨c, a, s, p⟩ := g
  simp only [← spelled?_eq_some_iff, ← Option.isSome_iff_exists]
  unfold grant?
  split
  · rename_i h
    simp only [Option.bind_eq_bind, Option.bind_eq_some_iff, Option.pure_def, Option.some.injEq,
      Grant.mk.injEq]
    constructor
    · rintro ⟨_, hc, _, ha, _, hs, _, hp, rfl, rfl, rfl, rfl⟩
      exact ⟨h, hc, ha, hs, hp⟩
    · rintro ⟨-, hc, ha, hs, hp⟩
      exact ⟨c, hc, a, ha, s, hs, p, hp, rfl, rfl, rfl, rfl⟩
  · rename_i h
    exact iff_of_false nofun fun hall => h hall.1

/-- What a draft makes that the members come to. -/
theorem takeAll?_bind_make (ms : List (Bytes × Tree)) :
    ((takeAll? slots layout.empty ms).bind fun d => (layout.make d).toOption) = grant? ms := by
  have hslots (d : Draft) : takeAll? slots layout.empty ms = some d ↔
      (∀ m ∈ ms, ∃ s : String, SpellsAll s.toList m.1) ∧
        clientTokenSlot.outcome? none (named "clientToken" ms) = some d.clientToken ∧
        accessTokenSlot.outcome? none (named "accessToken" ms) = some d.accessToken ∧
        selectedSlot.outcome? none (named "selectedProfile" ms) = some d.selectedProfile ∧
        availableSlot.outcome? none (named "availableProfiles" ms) = some d.availableProfiles := by
    rw [takeAll?_eq_some_iff independent]
    refine and_congr_right fun _ => ?_
    simp only [slots, List.forall_mem_cons, List.not_mem_nil, false_implies, implies_true, and_true]
    exact Iff.rfl
  refine Option.ext fun ⟨c, a, s, p⟩ => ?_
  simp only [grant?_eq_some_iff, Option.bind_eq_some_iff, hslots]
  constructor
  · rintro ⟨d, ⟨hspelled, hc, ha, hs, hp⟩, hmake⟩
    obtain ⟨rfl, rfl, rfl, rfl⟩ := Grant.mk.inj (Option.some.inj hmake)
    exact ⟨hspelled, clientTokenSlot.only?_eq_some_iff.2 ⟨_, hc, rfl⟩,
      accessTokenSlot.only?_eq_some_iff.2 ⟨_, ha, rfl⟩,
      selectedSlot.only?_eq_some_iff.2 ⟨_, hs, rfl⟩,
      availableSlot.only?_eq_some_iff.2 ⟨_, hp, rfl⟩⟩
  · rintro ⟨hspelled, hc, ha, hs, hp⟩
    obtain ⟨c, hc', rfl⟩ := clientTokenSlot.only?_eq_some_iff.1 hc
    obtain ⟨a, ha', rfl⟩ := accessTokenSlot.only?_eq_some_iff.1 ha
    obtain ⟨s, hs', rfl⟩ := selectedSlot.only?_eq_some_iff.1 hs
    obtain ⟨p, hp', rfl⟩ := availableSlot.only?_eq_some_iff.1 hp
    exact ⟨⟨c, a, s, p⟩, ⟨hspelled, hc', ha', hs', hp'⟩, rfl⟩

/-- The bytes of an object are not blank. -/
theorem not_all_isAsciiBlank {ms : List (Bytes × Tree)} {bytes : Bytes}
    (h : (Tree.object ms).IsText bytes) : ¬ bytes.all isAsciiBlank := by
  obtain ⟨gap, text, gap', -, -, htext, rfl⟩ := h
  cases htext
  rw [List.all_append, List.cons_append, List.all_cons]
  intro hall
  simp [isAsciiBlank] at hall

/-- **Exactly the grant that the members come to is read**, whatever text stands for them. -/
theorem toOption_parse {ms : List (Bytes × Tree)} {bytes : Bytes}
    (h : (Tree.object ms).IsText bytes) : (parse bytes).toOption = grant? ms := by
  rw [parse, if_neg (not_all_isAsciiBlank h), toOption_read (slotted.readsAs ms) h,
    takeAll?_bind_make]

/-! ### Layouts -/

/-- The names of the members of a grant. -/
def memberNames : List String :=
  ["clientToken", "accessToken", "selectedProfile", "availableProfiles"]

/-- What callers see of a grant. -/
def told (g : Grant) : String × String × Option Value × Option Value :=
  (g.clientToken, g.accessToken, g.selected, g.availableProfiles)

/-- Two ways to lay out the same grant.  What stands between the members is not part of this: many
texts stand for the same members. -/
inductive Relaid : List (Bytes × Tree) → List (Bytes × Tree) → Prop
  /-- The members stand in another order. -/
  | order {ms ms' : List (Bytes × Tree)} (h : ms.Perm ms') : Relaid ms ms'
  /-- There is a member of another name, and it is left out. -/
  | other {name : Bytes} {s : String} (t : Tree) (ms : List (Bytes × Tree))
    (hname : SpellsAll s.toList name) (hs : s ∉ memberNames) : Relaid ((name, t) :: ms) ms
  /-- A member that is `null` is left out. -/
  | null {name : Bytes} {s : String} {ms : List (Bytes × Tree)}
    (hname : SpellsAll s.toList name)
    (hms : ∀ m ∈ ms, ¬ SpellsAll s.toList m.1) : Relaid ((name, .null) :: ms) ms
  /-- A selected profile that is an empty object is left out. -/
  | unselected {name : Bytes} {ms : List (Bytes × Tree)}
    (hname : SpellsAll "selectedProfile".toList name)
    (hms : ∀ m ∈ ms, ¬ SpellsAll "selectedProfile".toList m.1) :
    Relaid ((name, .object []) :: ms) ms

/-- A name that spells a text names the values that it is read with. -/
theorem named_cons {name : Bytes} {s : String} (hname : SpellsAll s.toList name) (n : String)
    (t : Tree) (ms : List (Bytes × Tree)) :
    named n ((name, t) :: ms) = if s = n then t :: named n ms else named n ms := by
  have hspelled : spelled? name = some s := spelled?_eq_some_iff.2 hname
  split
  · rename_i heq
    exact named_cons_self (hspelled.trans (congrArg some heq)) ms
  · rename_i hne
    exact named_cons_of_ne hspelled hne ms

/-- A member that is `null` comes to what no member comes to. -/
theorem only?_null {α : Type} {b : α} {value? : Tree → Option α} (hnull : value? .null = some b)
    {name : Bytes} {s : String} {ms : List (Bytes × Tree)} (hname : SpellsAll s.toList name)
    (hms : ∀ m ∈ ms, ¬ SpellsAll s.toList m.1) (n : String) :
    only? b value? (named n ((name, .null) :: ms)) = only? b value? (named n ms) := by
  rw [named_cons hname]
  split
  · rename_i heq
    subst heq
    rw [named_eq_nil_iff.2 hms]
    exact hnull
  · rfl

theorem isSome_spelled?_cons {name : Bytes} {s : String} (hname : SpellsAll s.toList name)
    (t : Tree) (ms : List (Bytes × Tree)) :
    (∀ m ∈ (name, t) :: ms, (spelled? m.1).isSome) ↔ ∀ m ∈ ms, (spelled? m.1).isSome := by
  rw [List.forall_mem_cons, spelled?_eq_some_iff.2 hname]
  exact and_iff_right rfl

/-- Members that come to the same texts and values come to the same grant. -/
theorem grant?_congr {ms ms' : List (Bytes × Tree)}
    (hspelled : (∀ m ∈ ms, (spelled? m.1).isSome) ↔ ∀ m ∈ ms', (spelled? m.1).isSome)
    (htoken : ∀ n ∈ memberNames, token? (named n ms) = token? (named n ms'))
    (hpart : ∀ n ∈ memberNames, part? (named n ms) = part? (named n ms')) :
    grant? ms = grant? ms' := by
  simp only [grant?, hspelled, htoken "clientToken" (by decide), htoken "accessToken" (by decide),
    hpart "selectedProfile" (by decide), hpart "availableProfiles" (by decide)]

/-- A selected profile that is an empty object is no selection. -/
theorem map_told_unselected {name : Bytes} {ms : List (Bytes × Tree)}
    (hname : SpellsAll "selectedProfile".toList name)
    (hms : ∀ m ∈ ms, ¬ SpellsAll "selectedProfile".toList m.1) :
    (grant? ((name, .object []) :: ms)).map told = (grant? ms).map told := by
  have hne {n : String} (hn : "selectedProfile" ≠ n) :
      named n ((name, .object []) :: ms) = named n ms := by
    rw [named_cons hname, if_neg hn]
  have hempty : part? (named "selectedProfile" ((name, .object []) :: ms)) =
      some (some (.object [])) := by
    rw [named_cons hname, if_pos rfl, named_eq_nil_iff.2 hms]
    rfl
  have hnone : part? (named "selectedProfile" ms) = some none := by
    rw [named_eq_nil_iff.2 hms]
    rfl
  have hc := hne (n := "clientToken") (by decide)
  have ha := hne (n := "accessToken") (by decide)
  have hp := hne (n := "availableProfiles") (by decide)
  simp only [grant?, isSome_spelled?_cons hname, hempty, hnone, hc, ha, hp]
  split
  · rcases token? (named "clientToken" ms) with _ | c
    · rfl
    rcases token? (named "accessToken" ms) with _ | a
    · rfl
    rcases part? (named "availableProfiles" ms) with _ | p
    · rfl
    · rfl
  · rfl

/-- **Another layout makes no difference to what callers see.** -/
theorem Relaid.map_told {ms ms' : List (Bytes × Tree)} (h : Relaid ms ms') :
    (grant? ms).map told = (grant? ms').map told := by
  cases h with
  | order h =>
    have hspelled : (∀ m ∈ ms, (spelled? m.1).isSome) ↔ ∀ m ∈ ms', (spelled? m.1).isSome :=
      forall_congr' fun m => imp_congr_left h.mem_iff
    rw [grant?_congr hspelled (fun n _ => only?_perm (named_perm h n) _ _)
      fun n _ => only?_perm (named_perm h n) _ _]
  | @other name s t _ hname hs =>
    have hnamed : ∀ n ∈ memberNames, named n ((name, t) :: ms') = named n ms' := by
      intro n hn
      rw [named_cons hname, if_neg]
      rintro rfl
      exact hs hn
    rw [grant?_congr (isSome_spelled?_cons hname t ms') (fun n hn => by rw [hnamed n hn])
      fun n hn => by rw [hnamed n hn]]
  | @null name _ _ hname hms =>
    rw [grant?_congr (isSome_spelled?_cons hname .null ms')
      (fun n _ => only?_null (by rfl) hname hms n) fun n _ => only?_null (by rfl) hname hms n]
  | unselected hname hms => exact map_told_unselected hname hms

/-- Nor does any number of such changes. -/
theorem map_told_of_eqvGen {ms ms' : List (Bytes × Tree)} (h : Relation.EqvGen Relaid ms ms') :
    (grant? ms).map told = (grant? ms').map told := by
  induction h with
  | rel _ _ h => exact h.map_told
  | refl => rfl
  | symm _ _ _ ih => exact ih.symm
  | trans _ _ _ _ _ ih ih' => exact ih.trans ih'

/-- Two members of the same name come to no grant. -/
theorem grant?_of_two {ms : List (Bytes × Tree)} {s : String} (hs : s ∈ memberNames)
    {m m' : Bytes × Tree} (hms : [m, m'].Sublist ms) (hm : SpellsAll s.toList m.1)
    (hm' : SpellsAll s.toList m'.1) : grant? ms = none := by
  have htwo : 2 ≤ (named s ms).length := by
    have hsub := (named_sublist hms s).length_le
    rwa [named_cons hm, if_pos rfl, named_cons hm', if_pos rfl] at hsub
  have htoken : token? (named s ms) = none := only?_of_two htwo _ _
  have hpart : part? (named s ms) = none := only?_of_two htwo _ _
  refine Option.eq_none_iff_forall_ne_some.2 fun g hg => ?_
  obtain ⟨-, hc, ha, hsel, hp⟩ := grant?_eq_some_iff.1 hg
  simp only [memberNames, List.mem_cons, List.not_mem_nil, or_false] at hs
  rcases hs with rfl | rfl | rfl | rfl
  · exact nomatch htoken.symm.trans hc
  · exact nomatch htoken.symm.trans ha
  · exact nomatch hpart.symm.trans hsel
  · exact nomatch hpart.symm.trans hp

/-- **The layout of a body makes no difference, and no member may be there twice.**  What is read is
what the members come to.  So bodies that are laid out differently are read both or neither, and
callers see the same; a body with two members of one of the names is never read. -/
theorem parse_relaid :
    (∀ (ms : List (Bytes × Tree)) (bytes : Bytes), (Tree.object ms).IsText bytes →
      (parse bytes).toOption = grant? ms) ∧
    (∀ ms ms' : List (Bytes × Tree), Relation.EqvGen Relaid ms ms' → ∀ bytes bytes' : Bytes,
      (Tree.object ms).IsText bytes → (Tree.object ms').IsText bytes' →
      (parse bytes).toOption.map told = (parse bytes').toOption.map told) ∧
    ∀ (ms : List (Bytes × Tree)) (bytes : Bytes), (Tree.object ms).IsText bytes →
      ∀ s ∈ memberNames, ∀ m m' : Bytes × Tree, [m, m'].Sublist ms → SpellsAll s.toList m.1 →
        SpellsAll s.toList m'.1 → ∃ e, parse bytes = .error e := by
  refine ⟨fun _ _ => toOption_parse, ?_, ?_⟩
  · intro ms ms' h bytes bytes' htext htext'
    rw [toOption_parse htext, toOption_parse htext', map_told_of_eqvGen h]
  · intro ms bytes htext s hs m m' hms hm hm'
    have hnone : (parse bytes).toOption = none := by
      rw [toOption_parse htext, grant?_of_two hs hms hm hm']
    cases hparse : parse bytes with
    | error e => exact ⟨e, rfl⟩
    | ok g =>
      rw [hparse] at hnone
      cases hnone

/-! ### Two bodies -/

/-- The members of a grant. -/
def short : List (Bytes × Tree) := [
  (bodyOf "clientToken", .string (bodyOf "t")), (bodyOf "accessToken", .string (bodyOf "a"))]

/-- The same in another order, behind a member of no consequence and two that count as left out. -/
def long : List (Bytes × Tree) := [
  (bodyOf "user", .array [.null]), (bodyOf "selectedProfile", .object []),
  (bodyOf "availableProfiles", .null), (bodyOf "accessToken", .string (bodyOf "a")),
  (bodyOf "clientToken", .string (bodyOf "t"))]

/-- A text for the former. -/
def shortBody : Bytes := Utf8.encode "\x7b\"clientToken\":\"t\",\"accessToken\":\"a\"\x7d"

/-- A text for the latter. -/
def longBody : Bytes :=
  Utf8.encode "\x7b\"user\":[null], \"selectedProfile\":\x7b\x7d,\"availableProfiles\" :null," ++
    Utf8.encode "\"accessToken\":\"a\",\"clientToken\":\"t\"\x7d"

theorem isText_shortBody : (Tree.object short).IsText shortBody :=
  ⟨[], _, [], isGap_nil, isGap_nil,
    .object (.member Document.separates_nil (isBody_bodyOf _) isGap_nil isGap_nil
      (.string (isBody_bodyOf _))
      (.member Document.separates_comma (isBody_bodyOf _) isGap_nil isGap_nil
        (.string (isBody_bodyOf _)) (.closeObject isGap_nil))), by decide +kernel⟩

theorem map_told_short : (grant? short).map told = some ("t", "a", none, none) := by
  simp [grant?, short, named, token?, part?, only?, Tree.text?, Tree.orNull, told, selected]

theorem isText_longBody : (Tree.object long).IsText longBody :=
  have hblank : IsGap [0x20] := List.forall_mem_singleton.2 (by decide)
  ⟨[], _, [], isGap_nil, isGap_nil,
    .object (.member Document.separates_nil (isBody_bodyOf _) isGap_nil isGap_nil
      (.array (.item Document.separates_nil .null (.closeList isGap_nil)))
      (.member ⟨[], [0x20], isGap_nil, hblank, rfl⟩ (isBody_bodyOf _) isGap_nil isGap_nil
        (.object (.closeObject isGap_nil))
        (.member Document.separates_comma (isBody_bodyOf _) hblank isGap_nil .null
          (.member Document.separates_comma (isBody_bodyOf _) isGap_nil isGap_nil
            (.string (isBody_bodyOf _))
            (.member Document.separates_comma (isBody_bodyOf _) isGap_nil isGap_nil
              (.string (isBody_bodyOf _)) (.closeObject isGap_nil)))))), by decide +kernel⟩

theorem relaid_long : Relation.EqvGen Relaid long short := by
  have hother : Relaid long long.tail := .other _ _ (spellsAll_bodyOf "user") (by decide)
  have hunselected : Relaid long.tail long.tail.tail :=
    .unselected (spellsAll_bodyOf _) (List.forall_mem_cons.2 ⟨not_spellsAll_bodyOf (by decide),
      List.forall_mem_cons.2 ⟨not_spellsAll_bodyOf (by decide),
        List.forall_mem_singleton.2 (not_spellsAll_bodyOf (by decide))⟩⟩)
  have hnull : Relaid long.tail.tail long.tail.tail.tail :=
    .null (spellsAll_bodyOf "availableProfiles") (List.forall_mem_cons.2
      ⟨not_spellsAll_bodyOf (by decide),
        List.forall_mem_singleton.2 (not_spellsAll_bodyOf (by decide))⟩)
  have horder : Relaid long.tail.tail.tail short := .order (.swap _ _ _)
  exact .trans _ _ _ (.rel _ _ hother) (.trans _ _ _ (.rel _ _ hunselected)
    (.trans _ _ _ (.rel _ _ hnull) (.rel _ _ horder)))

/-- Two bodies that are read as the same grant, and one that is not read. -/
theorem parse_relaid_long :
    (parse shortBody).toOption.map told = some ("t", "a", none, none) ∧
      (parse longBody).toOption.map told = (parse shortBody).toOption.map told ∧
      ∃ e, parse (Utf8.encode "\x7b\"accessToken\":null,\"accessToken\":null\x7d") = .error e := by
  obtain ⟨hreads, hsame, hdouble⟩ := parse_relaid
  refine ⟨?_, hsame _ _ relaid_long _ _ isText_longBody isText_shortBody, ?_⟩
  · rw [hreads short shortBody isText_shortBody, map_told_short]
  refine hdouble [(bodyOf "accessToken", .null), (bodyOf "accessToken", .null)] _
    ⟨[], _, [], isGap_nil, isGap_nil,
      .object (.member Document.separates_nil (isBody_bodyOf _) isGap_nil isGap_nil .null
        (.member Document.separates_comma (isBody_bodyOf _) isGap_nil isGap_nil .null
          (.closeObject isGap_nil))), by decide +kernel⟩
    "accessToken" (by decide) _ _ (List.Sublist.refl _) (spellsAll_bodyOf _) (spellsAll_bodyOf _)

/-- A name with half of a surrogate pair. -/
def lone : Bytes := Utf8.encode "\\ud800"

/-- A text with a member of this name. -/
def loneBody : Bytes :=
  Utf8.encode "\x7b\"clientToken\":\"t\",\"accessToken\":\"a\",\"\\ud800\":null\x7d"

/-- **A name that spells no text**, and so none of the four.  It may stand in a JSON text, but one
more member of this name makes a body unreadable. -/
theorem parse_unspelled :
    (∀ s ∈ memberNames, ¬ SpellsAll s.toList lone) ∧
      (Tree.object short).IsText shortBody ∧
      (Tree.object (short ++ [(lone, .null)])).IsText loneBody ∧
      (parse shortBody).toOption.map told = some ("t", "a", none, none) ∧
      (parse loneBody).toOption.map told = none := by
  have hunit : hexUnit? 0x64 0x38 0x30 0x30 = some 0xD800 := by decide
  have hspelled : spelled? lone = none := spelled?_half hunit (by decide)
  have hbody : IsBody lone := .unit hunit .nil
  refine ⟨fun s _ hs => ?_, isText_shortBody, ?_, ?_, by decide +kernel⟩
  · exact nomatch hspelled.symm.trans (spelled?_eq_some_iff.2 hs)
  · exact ⟨[], _, [], isGap_nil, isGap_nil,
      .object (.member Document.separates_nil (isBody_bodyOf _) isGap_nil isGap_nil
        (.string (isBody_bodyOf _))
        (.member Document.separates_comma (isBody_bodyOf _) isGap_nil isGap_nil
          (.string (isBody_bodyOf _))
          (.member Document.separates_comma hbody isGap_nil isGap_nil .null
            (.closeObject isGap_nil)))), by decide +kernel⟩
  · rw [toOption_parse isText_shortBody, map_told_short]

end SignIn.Grant
