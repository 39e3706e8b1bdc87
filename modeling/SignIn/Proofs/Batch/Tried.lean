import SignIn.Proofs.Batch.Course

/-!
# The replies to a request

A request is sent again, one time after the other, as long as its replies are failures that may
pass.  The limit of the policy counts for a block of tries: when a block is used up, somebody may
be asked.

## Main definitions

* `Tried` — the replies to a request, up to the one that it is finished with.
* `Begins` — replies as a server gives them, one after the other.
* `tries`, `settled` — how far a request is tried, and what it is finished with.
* `question`, `story` — what the log tells of a request.

## Main results

* `Tried.unique`, `tried_tries` — a sequence of replies decides how far a request is tried.
* `story_of_tried` — in a block of tries nobody is asked before its end.
-/

namespace SignIn

namespace Batch

/-! ### Tries -/

/-- The replies to a request that is tried a number of times at most.  All of them but the last
may pass, and the last one is what the request is finished with; it may pass only if there are no
more tries. -/
structure Tried (most : Nat) (ps : List Reply) (p : Reply) : Prop where
  /-- The last reply counts. -/
  last : ps.getLast? = some p
  /-- The replies before it may pass. -/
  before : ∀ q ∈ ps.dropLast, q.mayPass = true
  /-- There are no more replies than tries. -/
  length_le : ps.length ≤ most
  /-- A last reply that may pass uses up the tries. -/
  length_eq : p.mayPass = true → ps.length = most

namespace Tried

variable {most : Nat} {ps qs : List Reply} {p q : Reply}

/-- There is a reply. -/
theorem length_pos (h : Tried most ps p) : 0 < ps.length := by
  have hne : ps ≠ [] := by
    rintro rfl
    cases h.last
  exact List.length_pos_iff.2 hne

/-- A last reply after some that may pass. -/
theorem concat (hps : ∀ q ∈ ps, q.mayPass = true) (hle : ps.length + 1 ≤ most)
    (heq : p.mayPass = true → ps.length + 1 = most) : Tried most (ps ++ [p]) p where
  last := List.getLast?_concat
  before := by rwa [List.dropLast_concat]
  length_le := by rwa [List.length_append]
  length_eq h := by rw [List.length_append]; exact heq h

/-- One try. -/
theorem single (hpos : 0 < most) (heq : p.mayPass = true → 1 = most) : Tried most [p] p where
  last := rfl
  before := List.forall_mem_nil _
  length_le := hpos
  length_eq := heq

/-- The tries of a block, and those after it. -/
theorem append (hps : ∀ q ∈ ps, q.mayPass = true) (h : Tried most qs p) :
    Tried (ps.length + most) (ps ++ qs) p := by
  have hne : qs ≠ [] := List.length_pos_iff.1 h.length_pos
  refine ⟨?_, ?_, ?_, ?_⟩
  · rw [List.getLast?_append, h.last, Option.some_or]
  · rw [List.dropLast_append_of_ne_nil hne]
    intro q hq
    rcases List.mem_append.1 hq with hq | hq
    · exact hps q hq
    · exact h.before q hq
  · rw [List.length_append]
    exact Nat.add_le_add_left h.length_le _
  · intro hp
    rw [List.length_append, h.length_eq hp]

/-- More tries make no difference after a last reply that may not pass. -/
theorem mono {most' : Nat} (h : Tried most ps p) (hp : p.mayPass = false) (hle : most ≤ most') :
    Tried most' ps p where
  last := h.last
  before := h.before
  length_le := Nat.le_trans h.length_le hle
  length_eq hpass := by
    rw [hp] at hpass
    cases hpass

/-- All replies may pass if the last one may. -/
theorem all_mayPass (h : Tried most ps p) (hp : p.mayPass = true) :
    ∀ q ∈ ps, q.mayPass = true := by
  obtain ⟨rs, rfl⟩ : ∃ rs, ps = rs ++ [p] := List.getLast?_eq_some_iff.1 h.last
  intro q hq
  rcases List.mem_append.1 hq with hq | hq
  · exact h.before q (by rwa [List.dropLast_concat])
  · rwa [List.mem_singleton.1 hq]

/-- Of two ways to go on trying, neither goes further than the other. -/
theorem eq_of_prefix (h : Tried most ps p) (h' : Tried most qs q) (hpq : ps <+: qs) :
    ps = qs := by
  obtain ⟨rs, rfl⟩ := hpq
  by_cases hrs : rs = []
  · rw [hrs, List.append_nil]
  · -- the last reply would be one of those that may pass
    have hmem : p ∈ (ps ++ rs).dropLast := by
      rw [List.dropLast_append_of_ne_nil hrs]
      exact List.mem_append_left _ (List.mem_of_getLast? h.last)
    have hlen : ps.length = most := h.length_eq (h'.before p hmem)
    have hle : ps.length + rs.length ≤ most := List.length_append ▸ h'.length_le
    have hpos : 0 < rs.length := List.length_pos_iff.2 hrs
    omega

end Tried

/-! ### Sequences of replies -/

/-- The replies are the first ones of a sequence. -/
def Begins (ρ : Nat → Reply) (ps : List Reply) : Prop := ps = (List.range ps.length).map ρ

namespace Begins

variable {ρ : Nat → Reply} {ps qs : List Reply}

theorem of_length_one (ρ : Nat → Reply) : Begins ρ [ρ 0] := rfl

/-- After the first reply come those of the rest of the sequence. -/
theorem cons (h : Begins (fun j => ρ (j + 1)) ps) : Begins ρ (ρ 0 :: ps) := by
  unfold Begins at h ⊢
  rw [List.length_cons, List.range_succ_eq_map, List.map_cons, List.map_map]
  exact congrArg (ρ 0 :: ·) h

/-- After some replies come those of the rest of the sequence. -/
theorem append (h : Begins ρ ps) (h' : Begins (fun j => ρ (ps.length + j)) qs) :
    Begins ρ (ps ++ qs) := by
  unfold Begins at h h' ⊢
  rw [List.length_append, List.range_add, List.map_append, List.map_map, ← h]
  exact congrArg (ps ++ ·) h'

/-- Of two beginnings of a sequence one begins with the other. -/
theorem prefix_of_length_le (h : Begins ρ ps) (h' : Begins ρ qs) (hle : ps.length ≤ qs.length) :
    ps <+: qs := by
  unfold Begins at h h'
  obtain ⟨d, hd⟩ := Nat.exists_eq_add_of_le hle
  rw [hd, List.range_add, List.map_append, ← h] at h'
  exact ⟨_, h'.symm⟩

end Begins

/-- **The replies decide how far a request is tried**: a sequence of replies has one beginning with
which it is finished. -/
theorem Tried.unique {most : Nat} {ρ : Nat → Reply} {ps qs : List Reply} {p q : Reply}
    (h : Tried most ps p) (h' : Tried most qs q) (hps : Begins ρ ps) (hqs : Begins ρ qs) :
    ps = qs ∧ p = q := by
  have hlists : ps = qs := by
    rcases Nat.le_total ps.length qs.length with hle | hle
    · exact h.eq_of_prefix h' (hps.prefix_of_length_le hqs hle)
    · exact (h'.eq_of_prefix h (hqs.prefix_of_length_le hps hle)).symm
  subst hlists
  exact ⟨rfl, Option.some.inj (h.last.symm.trans h'.last)⟩

/-- The replies to a request that may be sent as often again as given, when the server has a
sequence of replies for it. -/
def tries : Nat → (Nat → Reply) → List Reply
  | 0, ρ => [ρ 0]
  | limit + 1, ρ => if (ρ 0).mayPass then ρ 0 :: tries limit (fun j => ρ (j + 1)) else [ρ 0]

/-- The reply that it is finished with. -/
def settled : Nat → (Nat → Reply) → Reply
  | 0, ρ => ρ 0
  | limit + 1, ρ => if (ρ 0).mayPass then settled limit (fun j => ρ (j + 1)) else ρ 0

theorem begins_tries (limit : Nat) (ρ : Nat → Reply) : Begins ρ (tries limit ρ) := by
  induction limit generalizing ρ with
  | zero => exact .of_length_one ρ
  | succ limit ih =>
    unfold tries
    split
    · exact (ih fun j => ρ (j + 1)).cons
    · exact .of_length_one ρ

/-- A request is tried so far. -/
theorem tried_tries (limit : Nat) (ρ : Nat → Reply) :
    Tried (limit + 1) (tries limit ρ) (settled limit ρ) := by
  induction limit generalizing ρ with
  | zero => exact .single Nat.one_pos fun _ => rfl
  | succ limit ih =>
    unfold tries settled
    by_cases hp : (ρ 0).mayPass = true
    · rw [if_pos hp, if_pos hp]
      have hone : ∀ q ∈ [ρ 0], q.mayPass = true := by
        intro q hq
        rwa [List.mem_singleton.1 hq]
      have happend := Tried.append hone (ih fun j => ρ (j + 1))
      rwa [List.length_singleton, Nat.add_comm] at happend
    · rw [if_neg hp, if_neg hp]
      apply Tried.single (Nat.succ_pos _)
      intro h
      exact absurd h hp

/-! ### What the log tells -/

/-- The question after a reply, given how many have arrived: somebody is asked at the end of a
block of tries. -/
def question (policy : RetryPolicy) (count : Nat) (p : Reply) : List Event :=
  if policy.asks = true ∧ p.mayPass = true ∧ count % (policy.limit + 1) = 0 then
    p.failure.toList.map .asked
  else []

/-- What the log tells of a request, given how many replies it has had before, and those that it
has from then on. -/
def story (policy : RetryPolicy) (r : Request) : Nat → List Reply → List Event
  | _, [] => []
  | count, p :: ps => .sent r :: (question policy (count + 1) p ++ story policy r (count + 1) ps)

theorem story_append (policy : RetryPolicy) (r : Request) (count : Nat) (ps qs : List Reply) :
    story policy r count (ps ++ qs) =
      story policy r count ps ++ story policy r (count + ps.length) qs := by
  induction ps generalizing count with
  | nil => rfl
  | cons p ps ih =>
    have hcount : count + (ps.length + 1) = count + 1 + ps.length := by omega
    simp only [List.cons_append, story, ih, List.length_cons, hcount, List.append_assoc]

/-- Nobody is asked before the end of a block. -/
theorem story_within (policy : RetryPolicy) (r : Request) (yes : Nat) {j : Nat} {ps : List Reply}
    (h : j + ps.length ≤ policy.limit) :
    story policy r (yes * (policy.limit + 1) + j) ps =
      List.replicate ps.length (.sent r) := by
  induction ps generalizing j with
  | nil => rfl
  | cons p ps ih =>
    rw [List.length_cons] at h
    have hmod : (yes * (policy.limit + 1) + j + 1) % (policy.limit + 1) = j + 1 := by
      rw [Nat.add_assoc, Nat.mul_add_mod_self_right]
      exact Nat.mod_eq_of_lt (by omega)
    have hnone : question policy (yes * (policy.limit + 1) + j + 1) p = [] := by
      rw [question, if_neg]
      rintro ⟨-, -, hzero⟩
      omega
    have hrest := ih (j := j + 1) (by omega)
    rw [← Nat.add_assoc] at hrest
    rw [story, hnone, List.nil_append, hrest]
    rfl

/-- The story of a block: its tries, and the question at its end. -/
theorem story_of_tried (policy : RetryPolicy) (r : Request) (yes : Nat) {ps : List Reply}
    {p : Reply} (h : Tried (policy.limit + 1) ps p) :
    story policy r (yes * (policy.limit + 1)) ps =
      List.replicate ps.length (.sent r) ++
        if policy.asks = true ∧ p.mayPass = true then p.failure.toList.map .asked else [] := by
  obtain ⟨rs, rfl⟩ : ∃ rs, ps = rs ++ [p] := List.getLast?_eq_some_iff.1 h.last
  have hlen : (rs ++ [p]).length = rs.length + 1 := List.length_append
  have hle : 0 + rs.length ≤ policy.limit := by
    have := h.length_le
    omega
  have htries := story_within policy r yes hle
  rw [Nat.add_zero] at htries
  -- a reply that may pass is the last one of its block
  have hquestion : question policy (yes * (policy.limit + 1) + rs.length + 1) p =
      if policy.asks = true ∧ p.mayPass = true then p.failure.toList.map .asked else [] := by
    unfold question
    cases hp : p.mayPass with
    | false => simp
    | true =>
      have hblock : rs.length + 1 = policy.limit + 1 := by rw [← hlen, h.length_eq hp]
      have hmod : (yes * (policy.limit + 1) + rs.length + 1) % (policy.limit + 1) = 0 := by
        rw [Nat.add_assoc, hblock, Nat.mul_add_mod_self_right, Nat.mod_self]
      simp [hmod]
  rw [story_append, htries, hlen, List.replicate_succ', story, story, hquestion,
    List.append_nil, List.append_assoc]
  rfl

/-- Nobody is asked a question by a request. -/
theorem sentIn_question (policy : RetryPolicy) (count : Nat) (p : Reply) :
    sentIn (question policy count p) = [] := by
  unfold question
  split
  · cases p.failure <;> rfl
  · rfl

/-- The request is sent once for every reply. -/
theorem sentIn_story (policy : RetryPolicy) (r : Request) (count : Nat) (ps : List Reply) :
    sentIn (story policy r count ps) = List.replicate ps.length r := by
  induction ps generalizing count with
  | nil => rfl
  | cons p ps ih =>
    have hhead : sentIn (story policy r count (p :: ps)) =
        r :: sentIn (question policy (count + 1) p ++ story policy r (count + 1) ps) := rfl
    rw [hhead, sentIn_append, sentIn_question, List.nil_append, ih]
    rfl

end Batch

end SignIn
