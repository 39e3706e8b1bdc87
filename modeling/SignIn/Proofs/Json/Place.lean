import SignIn.Proofs.Json.LocalValue

/-!
# Places in a text

While a reader goes through a text, it comes to places where the value of a member, of an element
or of a field starts.  If another value takes the place of that one, then what stands before it is
read as it was.  So the whole text is read alike if the two values are, and it is not read at all if
the new value is not.

## Main definitions

* `Replaces` — a value may stand in the place of another one.
* `Depends` — two readings come to the same if two others do, and fail if they do.
* `MemberAt`, `ElementAt` — the places that a walk comes to.
* `Hosts` — what a reader makes of a text depends on a place in it only by what stands there.

## Main results

* `ElementAt.depends`, `MemberAt.depends` — a walk depends on the value that it comes to.
* `Hosts.trans` — a place in a place.
* `read_eq_ok_iff` — whole texts.
-/

namespace SignIn.Json

open SignIn.Text

variable {α β γ σ : Type}

/-! ### Replacing a value -/

/-- A text that starts with a value may stand in the place of another one, and is not shorter. -/
structure Replaces (old new : Bytes) : Prop where
  /-- The new one is not shorter. -/
  length : old.length ≤ new.length
  /-- Both start alike, or both start with no blank and no closing bracket. -/
  head : ∃ b ∈ old.head?, ∃ b' ∈ new.head?,
    b' = b ∨ isBlankByte b = false ∧ isBlankByte b' = false ∧ b' ≠ 0x5D

/-- Behind something that was read, the new text may take the place of the old one. -/
theorem Replaces.resumes {old new : Bytes} (h : Replaces old new) {front : Bytes}
    (hne : front ≠ []) : Resumes (front ++ old) (front ++ new) := by
  obtain ⟨b, front, rfl⟩ := List.exists_cons_of_ne_nil hne
  exact ⟨rfl, by simpa using h.length⟩

theorem Replaces.append {old new : Bytes} (h : Replaces old new) {front : Bytes}
    (hne : front ≠ []) : Replaces (front ++ old) (front ++ new) := by
  obtain ⟨b, front, rfl⟩ := List.exists_cons_of_ne_nil hne
  exact ⟨by simpa using h.length, b, rfl, b, rfl, .inl rfl⟩

/-! ### What depends on a value -/

/-- Two readings depend on two others: they come to the same if those do, up to the relations, and
the second one fails if that one does. -/
structure Depends (R : α → α → Prop) (Q : β → β → Prop) (x x' : Except Fault (α × Bytes))
    (y y' : Except Fault (β × Bytes)) : Prop where
  /-- They come to the same. -/
  follows : Follows Q y y' → Follows R x x'
  /-- The second one fails. -/
  fails : (∀ r, y' ≠ .ok r) → ∀ r, x' ≠ .ok r

section

variable {R : α → α → Prop} {Q : β → β → Prop} {P : γ → γ → Prop}
  {x x' : Except Fault (α × Bytes)} {y y' : Except Fault (β × Bytes)}
  {z z' : Except Fault (γ × Bytes)}

theorem Depends.trans (h : Depends R Q x x' y y') (h' : Depends Q P y y' z z') :
    Depends R P x x' z z' :=
  ⟨fun hz => h.follows (h'.follows hz), fun hz => h.fails (h'.fails hz)⟩

theorem Follows.bind (hy : Follows Q y y') {f f' : β × Bytes → Except Fault (α × Bytes)}
    (hf : ∀ b b' rest, Q b b' → Follows R (f (b, rest)) (f' (b', rest))) :
    Follows R (y >>= f) (y' >>= f') := by
  intro a rest h
  obtain ⟨⟨b, mid⟩, hb, h⟩ := bind_eq_ok_iff.1 h
  obtain ⟨b', hQ, hb'⟩ := hy b mid hb
  obtain ⟨a', hR, ha'⟩ := hf b b' mid hQ a rest h
  exact ⟨a', hR, bind_eq_ok_iff.2 ⟨_, hb', ha'⟩⟩

theorem Follows.map (hy : Follows Q y y') {f f' : β → α} (hf : ∀ b b', Q b b' → R (f b) (f' b'))
    {g g' : β × Bytes → α × Bytes} (hg : ∀ b rest, g (b, rest) = (f b, rest))
    (hg' : ∀ b rest, g' (b, rest) = (f' b, rest)) : Follows R (y.map g) (y'.map g') := by
  intro a rest h
  obtain ⟨⟨b, mid⟩, hb, h⟩ := map_eq_ok_iff.1 h
  obtain ⟨b', hQ, hb'⟩ := hy b mid hb
  rw [hg] at h
  obtain ⟨rfl, rfl⟩ := Prod.mk.inj h
  exact ⟨f' b', hf b b' hQ, map_eq_ok_iff.2 ⟨_, hb', hg' b' mid⟩⟩

/-- What is done after two readings depends on them. -/
theorem Depends.bind {f f' : β × Bytes → Except Fault (α × Bytes)}
    (hf : ∀ b b' rest, Q b b' → Follows R (f (b, rest)) (f' (b', rest))) :
    Depends R Q (y >>= f) (y' >>= f') y y' := by
  refine ⟨fun hy => hy.bind hf, fun hy r h => ?_⟩
  obtain ⟨b, hb, -⟩ := bind_eq_ok_iff.1 h
  exact hy b hb

theorem Depends.map {f : β → α} (hf : ∀ b b', Q b b' → R (f b) (f b'))
    {g : β × Bytes → α × Bytes} (hg : ∀ b rest, g (b, rest) = (f b, rest)) :
    Depends R Q (y.map g) (y'.map g) y y' := by
  refine ⟨fun hy => hy.map hf hg hg, fun hy r h => ?_⟩
  obtain ⟨b, hb, -⟩ := map_eq_ok_iff.1 h
  exact hy b hb

theorem Depends.settleList : Depends R R (settleList x) (settleList x') x x' := by
  refine ⟨fun hx a rest h => ?_, fun hx r h => ?_⟩
  · obtain ⟨mid, ha, hclose⟩ := settleList_eq_ok_iff.1 h
    obtain ⟨a', hR, ha'⟩ := hx a mid ha
    exact ⟨a', hR, settleList_eq_ok_iff.2 ⟨mid, ha', hclose⟩⟩
  · obtain ⟨mid, ha, -⟩ := settleList_eq_ok_iff.1 h
    exact hx _ ha

theorem Depends.settleObject : Depends R R (settleObject x) (settleObject x') x x' := by
  refine ⟨fun hx a rest h => ?_, fun hx r h => ?_⟩
  · obtain ⟨mid, ha, hclose⟩ := settleObject_eq_ok_iff.1 h
    obtain ⟨a', hR, ha'⟩ := hx a mid ha
    exact ⟨a', hR, settleObject_eq_ok_iff.2 ⟨mid, ha', hclose⟩⟩
  · obtain ⟨mid, ha, -⟩ := settleObject_eq_ok_iff.1 h
    exact hx _ ha

/-- Two readings that fail and can be no other way. -/
theorem Depends.of_fails (hx : ∀ r, x ≠ .ok r) (h : (∀ r, y' ≠ .ok r) → ∀ r, x' ≠ .ok r) :
    Depends R Q x x' y y' :=
  ⟨fun _ _ _ h => (hx _ h).elim, h⟩

end

/-! ### Places on a walk -/

/-- A walk over the elements of a list comes to a value in some state. -/
inductive ElementAt (step : σ → Bytes → Except Fault (σ × Bytes)) :
    Bool → σ → Bytes → σ → Bytes → Prop
  /-- It stands next. -/
  | here {first : Bool} {s : σ} {bs value : Bytes}
    (next : nextElement first bs = .ok (true, value)) :
    ElementAt step first s bs s value
  /-- It comes after the next element. -/
  | later {first : Bool} {s s₁ s' : σ} {bs mid bs₁ value : Bytes}
    (next : nextElement first bs = .ok (true, mid)) (read : step s mid = .ok (s₁, bs₁))
    (walk : ElementAt step false s₁ bs₁ s' value) : ElementAt step first s bs s' value

/-- A walk over the members of an object comes to the value of a member in some state. -/
inductive MemberAt (step : σ → String → Bytes → Except Fault (σ × Bytes)) (name : String) :
    Bool → σ → Bytes → σ → Bytes → Prop
  /-- It stands next. -/
  | here {first : Bool} {s : σ} {bs after value : Bytes}
    (next : nextName first bs = .ok (some name, after)) (colon : colon after = .ok value) :
    MemberAt step name first s bs s value
  /-- It comes after the next member. -/
  | later {first : Bool} {s s₁ s' : σ} {bs mid bs₁ value : Bytes} {other : String}
    (next : nextName first bs = .ok (some other, mid)) (read : step s other mid = .ok (s₁, bs₁))
    (walk : MemberAt step name false s₁ bs₁ s' value) : MemberAt step name first s bs s' value

/-- The next element may be another one. -/
theorem replace_nextElement {first : Bool} {bs value : Bytes}
    (h : nextElement first bs = .ok (true, value)) :
    ∃ front, bs = front ++ value ∧ (first = false → front ≠ []) ∧
      ∀ value', Replaces value value' →
        nextElement first (front ++ value') = .ok (true, value') := by
  obtain ⟨front, b, tail, hfront, hb, hclose, rfl, rfl⟩ := nextElement_eq_true_iff.1 h
  refine ⟨front, rfl, ?_, fun value' hr => ?_⟩
  · rintro rfl
    rw [Separates, if_neg Bool.false_ne_true] at hfront
    obtain ⟨gap, gap', -, -, rfl⟩ := hfront
    simp
  · obtain ⟨c, hc, c', hc', hhead⟩ := hr.head
    obtain rfl := Option.some.inj hc
    obtain ⟨tail', rfl⟩ := List.head?_eq_some_iff.1 hc'
    refine nextElement_eq_true_iff.2 ⟨front, c', tail', hfront, ?_, ?_, rfl, rfl⟩
    · obtain rfl | ⟨-, hblank, -⟩ := hhead
      · exact hb
      · exact hblank
    · obtain rfl | ⟨-, -, hne⟩ := hhead
      · exact hclose
      · exact hne

/-- A bound on the number of turns only matters where it is reached. -/
theorem Depends.of_bound {R : α → α → Prop} {Q : β → β → Prop}
    (x x' : Nat → Except Fault (α × Bytes)) {y y' : Except Fault (β × Bytes)}
    (zero : ∀ r, x 0 ≠ .ok r) (zero' : ∀ r, x' 0 ≠ .ok r)
    (succ : ∀ m n, m ≤ n → Depends R Q (x (m + 1)) (x' (n + 1)) y y') (m n : Nat) (hmn : m ≤ n) :
    Depends R Q (x m) (x' n) y y' := by
  cases n with
  | zero => exact .of_fails (Nat.le_zero.1 hmn ▸ zero) fun _ => zero'
  | succ n =>
    cases m with
    | zero => exact .of_fails zero (succ 0 n (Nat.zero_le n)).fails
    | succ m => exact succ m n (Nat.le_of_succ_le_succ hmn)

section

variable {R : σ → σ → Prop} {Q : β → β → Prop} {y y' : Except Fault (β × Bytes)}

/-- Two walks are compared turn by turn. -/
theorem Depends.foldElements {step step' : σ → Bytes → Except Fault (σ × Bytes)}
    {first first' : Bool} {s s' : σ} {bs bs' : Bytes}
    (h : ∀ m n, m ≤ n → Depends R Q (foldElements step (m + 1) first s bs)
      (foldElements step' (n + 1) first' s' bs') y y') (m n : Nat) (hmn : m ≤ n) :
    Depends R Q (foldElements step m first s bs) (foldElements step' n first' s' bs') y y' :=
  .of_bound (Json.foldElements step · first s bs) (Json.foldElements step' · first' s' bs')
    (fun _ => nofun) (fun _ => nofun) h m n hmn

theorem Depends.foldMembers {step step' : σ → String → Bytes → Except Fault (σ × Bytes)}
    {first first' : Bool} {s s' : σ} {bs bs' : Bytes}
    (h : ∀ m n, m ≤ n → Depends R Q (foldMembers step (m + 1) first s bs)
      (foldMembers step' (n + 1) first' s' bs') y y') (m n : Nat) (hmn : m ≤ n) :
    Depends R Q (foldMembers step m first s bs) (foldMembers step' n first' s' bs') y y' :=
  .of_bound (Json.foldMembers step · first s bs) (Json.foldMembers step' · first' s' bs')
    (fun _ => nofun) (fun _ => nofun) h m n hmn

/-- A walk over a list depends on the element that it comes to. -/
theorem ElementAt.depends {step : σ → Bytes → Except Fault (σ × Bytes)}
    (hlocal : ∀ s, LocalRead (step s))
    (hstep : ∀ s s' bs, R s s' → Follows R (step s bs) (step s' bs)) {first : Bool} {s s' : σ}
    {bs value : Bytes} (h : ElementAt step first s bs s' value) :
    ∃ front, bs = front ++ value ∧ (first = false → front ≠ []) ∧
      ∀ value', Replaces value value' → ∀ m n, m ≤ n →
        Depends R R (foldElements step m first s bs) (foldElements step n first s (front ++ value'))
          (step s' value) (step s' value') := by
  induction h with
  | @here first s bs value next =>
    obtain ⟨front, hbs, hne, hnext⟩ := replace_nextElement next
    refine ⟨front, hbs, hne, ?_⟩
    intro value' hr
    apply Depends.foldElements
    intro m n hmn
    rw [foldElements_of_next next, foldElements_of_next (hnext value' hr)]
    exact .bind fun t t' rest ht => foldElements_follows hstep hmn false ht rest
  | @later first s s₁ s' bs mid bs₁ value next read walk ih =>
    obtain ⟨front, rfl, hnext⟩ := local_nextElement first true bs mid next
    obtain ⟨front₁, rfl, hread⟩ := hlocal s s₁ mid bs₁ read
    obtain ⟨front₂, rfl, hne, hdepends⟩ := ih
    refine ⟨front ++ (front₁ ++ front₂), by simp, fun _ => by simp [hne rfl], ?_⟩
    intro value' hr
    apply Depends.foldElements
    intro m n hmn
    -- up to there, everything is read as it was
    have hresumes := hr.resumes (hne rfl)
    have hread' := hread _ hresumes
    have hnext' := hnext _ (hresumes.append front₁)
    rw [List.append_assoc, List.append_assoc, foldElements_of_next next,
      foldElements_of_next hnext', read, hread']
    exact hdepends value' hr m n hmn

/-- A walk over an object depends on the value that it comes to. -/
theorem MemberAt.depends {step : σ → String → Bytes → Except Fault (σ × Bytes)}
    (hlocal : ∀ s name, LocalRead (step s name))
    (hstep : ∀ s s' name bs, R s s' → Follows R (step s name bs) (step s' name bs)) {name : String}
    {first : Bool} {s s' : σ} {bs value : Bytes} (h : MemberAt step name first s bs s' value)
    (read : Bytes → Except Fault (σ × Bytes))
    (hread : ∀ after value, colon after = .ok value → step s' name after = read value) :
    ∃ front, bs = front ++ value ∧ front ≠ [] ∧
      ∀ value', value.length ≤ value'.length → ∀ m n, m ≤ n →
        Depends R R (foldMembers step m first s bs) (foldMembers step n first s (front ++ value'))
          (read value) (read value') := by
  induction h with
  | @here first s bs after value next hcolon =>
    obtain ⟨front, rfl, hnext⟩ := local_nextName first (some name) bs after next
    obtain ⟨gap, hgap, rfl⟩ := colon_eq_ok_iff.1 hcolon
    refine ⟨front ++ (gap ++ [0x3A]), by simp, by simp, ?_⟩
    intro value' hlength
    apply Depends.foldMembers
    intro m n hmn
    -- the colon stays, so the name is read as it was
    have hresumes : Resumes (0x3A :: value) (0x3A :: value') := ⟨rfl, by simpa using hlength⟩
    have hnext' := hnext _ (hresumes.append gap)
    have hcolon' : colon (gap ++ 0x3A :: value') = .ok value' :=
      colon_eq_ok_iff.2 ⟨gap, hgap, rfl⟩
    have hbytes : front ++ (gap ++ [0x3A]) ++ value' = front ++ (gap ++ 0x3A :: value') := by simp
    rw [hbytes, foldMembers_of_next next, foldMembers_of_next hnext', hread _ _ hcolon,
      hread _ _ hcolon']
    exact .bind fun t t' rest ht => foldMembers_follows hstep hmn false ht rest
  | @later first s s₁ s' bs mid bs₁ value other next hother walk ih =>
    obtain ⟨front, rfl, hnext⟩ := local_nextName first (some other) bs mid next
    obtain ⟨front₁, rfl, hlocal'⟩ := hlocal s other s₁ mid bs₁ hother
    obtain ⟨front₂, rfl, hne, hdepends⟩ := ih hread
    refine ⟨front ++ (front₁ ++ front₂), by simp, by simp [hne], ?_⟩
    intro value' hlength
    apply Depends.foldMembers
    intro m n hmn
    -- up to there, everything is read as it was
    have hresumes : Resumes (front₂ ++ value) (front₂ ++ value') := by
      obtain ⟨b, front₂, rfl⟩ := List.exists_cons_of_ne_nil hne
      exact ⟨rfl, by simpa using hlength⟩
    have hother' := hlocal' _ hresumes
    have hnext' := hnext _ (hresumes.append front₁)
    rw [List.append_assoc, List.append_assoc, foldMembers_of_next next,
      foldMembers_of_next hnext', hother, hother']
    exact hdepends value' hlength m n hmn

theorem length_append_succ_le {value value' : Bytes} (h : value.length ≤ value'.length)
    (front : Bytes) : (front ++ value).length + 1 ≤ (front ++ value').length + 1 := by
  simp only [List.length_append]
  omega

/-- A walk over a whole list. -/
theorem ElementAt.depends_length {step : σ → Bytes → Except Fault (σ × Bytes)}
    (hlocal : ∀ s, LocalRead (step s))
    (hstep : ∀ s s' bs, R s s' → Follows R (step s bs) (step s' bs)) {s s' : σ}
    {bs value : Bytes} (h : ElementAt step true s bs s' value) :
    ∃ front, bs = front ++ value ∧ ∀ value', Replaces value value' →
      Depends R R (foldElements step (bs.length + 1) true s bs)
        (foldElements step ((front ++ value').length + 1) true s (front ++ value'))
        (step s' value) (step s' value') := by
  obtain ⟨front, rfl, -, hdepends⟩ := h.depends hlocal hstep
  refine ⟨front, rfl, ?_⟩
  intro value' hr
  exact hdepends value' hr _ _ (length_append_succ_le hr.length front)

/-- A walk over a whole object. -/
theorem MemberAt.depends_length {step : σ → String → Bytes → Except Fault (σ × Bytes)}
    (hlocal : ∀ s name, LocalRead (step s name))
    (hstep : ∀ s s' name bs, R s s' → Follows R (step s name bs) (step s' name bs)) {name : String}
    {s s' : σ} {bs value : Bytes} (h : MemberAt step name true s bs s' value)
    (read : Bytes → Except Fault (σ × Bytes))
    (hread : ∀ after value, colon after = .ok value → step s' name after = read value) :
    ∃ front, bs = front ++ value ∧ ∀ value', Replaces value value' →
      Depends R R (foldMembers step (bs.length + 1) true s bs)
        (foldMembers step ((front ++ value').length + 1) true s (front ++ value'))
        (read value) (read value') := by
  obtain ⟨front, rfl, -, hdepends⟩ := h.depends hlocal hstep read hread
  refine ⟨front, rfl, ?_⟩
  intro value' hr
  exact hdepends value' hr.length _ _ (length_append_succ_le hr.length front)

end

/-! ### Readers that come to a place -/

/-- What a reader makes of a text depends on a place in it only by what another reader makes of
what stands there. -/
def Hosts (r : Bytes → Except Fault (α × Bytes)) (R : α → α → Prop)
    (q : Bytes → Except Fault (β × Bytes)) (Q : β → β → Prop) (bs place : Bytes) : Prop :=
  ∃ front, bs = front ++ place ∧ ¬ IsGap front ∧ ∀ place', Replaces place place' →
    Depends R Q (r bs) (r (front ++ place')) (q place) (q place')

theorem ne_nil_of_not_isGap {front : Bytes} (h : ¬ IsGap front) : front ≠ [] := by
  rintro rfl
  exact h isGap_nil

/-- A place in a place. -/
theorem Hosts.trans {r : Bytes → Except Fault (α × Bytes)} {R : α → α → Prop}
    {q : Bytes → Except Fault (β × Bytes)} {Q : β → β → Prop}
    {p : Bytes → Except Fault (γ × Bytes)} {P : γ → γ → Prop} {bs mid place : Bytes}
    (h : Hosts r R q Q bs mid) (h' : Hosts q Q p P mid place) : Hosts r R p P bs place := by
  obtain ⟨front, rfl, hgap, hdepends⟩ := h
  obtain ⟨front', rfl, hgap', hdepends'⟩ := h'
  refine ⟨front ++ front', by simp, fun hall => hgap fun b hb => hall b (by simp [hb]),
    fun place' hr => ?_⟩
  rw [List.append_assoc]
  exact (hdepends _ (hr.append (ne_nil_of_not_isGap hgap'))).trans (hdepends' place' hr)

/-- A reader that opens a container. -/
theorem Hosts.of_opens {r : Bytes → Except Fault (α × Bytes)} {R : α → α → Prop}
    {q : Bytes → Except Fault (β × Bytes)} {Q : β → β → Prop} {b : UInt8} {bs inner place : Bytes}
    (hopens : skipBlanks bs = b :: inner) (read : Bytes → Except Fault (α × Bytes))
    (hread : ∀ bs inner, skipBlanks bs = b :: inner → r bs = read inner)
    (h : ∃ front, inner = front ++ place ∧ ∀ place', Replaces place place' →
      Depends R Q (read inner) (read (front ++ place')) (q place) (q place')) :
    Hosts r R q Q bs place := by
  obtain ⟨hb, gap, hgap, rfl⟩ := skipBlanks_eq_cons_iff.1 hopens
  obtain ⟨front, rfl, hdepends⟩ := h
  refine ⟨gap ++ b :: front, by simp, fun hall => ?_, fun place' hr => ?_⟩
  · rw [hall b (by simp)] at hb
    cases hb
  · have hopens' : skipBlanks (gap ++ b :: front ++ place') = b :: (front ++ place') := by
      rw [List.append_assoc, List.cons_append, skipBlanks_gap hgap hb]
    rw [hread _ _ hopens, hread _ _ hopens']
    exact hdepends place' hr

/-- What is read may be turned into something else. -/
theorem Hosts.map {r : Bytes → Except Fault (α × Bytes)} {R : α → α → Prop}
    {q : Bytes → Except Fault (β × Bytes)} {Q : β → β → Prop} {S : γ → γ → Prop} {bs place : Bytes}
    (h : Hosts r R q Q bs place) {f : α → γ} (hf : ∀ a a', R a a' → S (f a) (f a'))
    {g : α × Bytes → γ × Bytes} (hg : ∀ a rest, g (a, rest) = (f a, rest)) :
    Hosts (fun bs => (r bs).map g) S q Q bs place := by
  obtain ⟨front, hbs, hgap, hdepends⟩ := h
  exact ⟨front, hbs, hgap, fun place' hr => (Depends.map hf hg).trans (hdepends place' hr)⟩

/-- What is read at the place may be turned into something else. -/
theorem Hosts.value {r : Bytes → Except Fault (α × Bytes)} {R : α → α → Prop}
    {q : Bytes → Except Fault (β × Bytes)} {Q : β → β → Prop} {S : γ → γ → Prop} {bs place : Bytes}
    {f : β → γ} {g : β × Bytes → γ × Bytes} (h : Hosts r R (fun bs => (q bs).map g) S bs place)
    (hf : ∀ b b', Q b b' → S (f b) (f b')) (hg : ∀ b rest, g (b, rest) = (f b, rest)) :
    Hosts r R q Q bs place := by
  obtain ⟨front, hbs, hgap, hdepends⟩ := h
  exact ⟨front, hbs, hgap, fun place' hr => (hdepends place' hr).trans (Depends.map hf hg)⟩

/-! ### Whole texts -/

/-- A whole text is read if nothing but blanks stands behind its value. -/
theorem read_eq_ok_iff {r : Reader α} {bs : Bytes} {a : α} :
    read r bs = .ok a ↔ ∃ rest, r depthLimit bs = .ok (a, rest) ∧ skipBlanks rest = [] := by
  have hfinish : finish (r depthLimit bs) = .ok a ↔
      ∃ rest, r depthLimit bs = .ok (a, rest) ∧ skipBlanks rest = [] := by
    rw [finish, bind_eq_ok_iff, Prod.exists]
    constructor
    · rintro ⟨a', rest, hr, h⟩
      dsimp only at h
      split at h
      · obtain rfl := Except.ok.inj h
        exact ⟨rest, hr, ‹_›⟩
      · cases h
    · rintro ⟨rest, hr, hrest⟩
      refine ⟨a, rest, hr, ?_⟩
      simp only [hrest]
      rfl
  rw [read, ← hfinish]
  cases finish (r depthLimit bs) <;> simp [Except.mapError]

theorem Follows.read_eq_ok {r : Reader α} {R : α → α → Prop} {bs bs' : Bytes}
    (h : Follows R (r depthLimit bs) (r depthLimit bs')) {a : α} (ha : read r bs = .ok a) :
    ∃ a', R a a' ∧ read r bs' = .ok a' := by
  obtain ⟨rest, ha, hrest⟩ := read_eq_ok_iff.1 ha
  obtain ⟨a', hR, ha'⟩ := h a rest ha
  exact ⟨a', hR, read_eq_ok_iff.2 ⟨rest, ha', hrest⟩⟩

theorem read_ne_ok {r : Reader α} {bs : Bytes} (h : ∀ p, r depthLimit bs ≠ .ok p) (a : α) :
    read r bs ≠ .ok a := by
  intro ha
  obtain ⟨rest, ha, -⟩ := read_eq_ok_iff.1 ha
  exact h _ ha

end SignIn.Json
