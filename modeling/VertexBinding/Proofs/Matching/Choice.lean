import VertexBinding.Matching
import VertexBinding.Proofs.Naming.SameWords

/-! # Choice — where a field splits the pool

    The attribute that a field takes splits the pool in two: every candidate in
    front of it fits worse, and no candidate behind it fits better.  The split
    says everything about a choice, ties included: what is left of the pool is
    its two parts, joined.

    `sublist_of_choices` is the exchange argument: removing the first best
    element from a list and from a longer list keeps the one inside the other,
    whether or not both lists chose the same element. -/

namespace VertexBinding.Pool

open Naming

variable {α : Type}

/-- `best` is the first element with the highest score, and the score is not zero. -/
structure FirstBest (score : α → Nat) (before : List α) (best : α) (after : List α) : Prop where
  pos : 0 < score best
  before_lt : ∀ x ∈ before, score x < score best
  after_le : ∀ x ∈ after, score x ≤ score best

theorem FirstBest.le {score : α → Nat} {before after : List α} {best : α}
    (h : FirstBest score before best after) {x : α} (hx : x ∈ before ++ best :: after) :
    score x ≤ score best := by
  rcases List.mem_append.mp hx with hbefore | hrest
  · exact Nat.le_of_lt (h.before_lt x hbefore)
  · rcases List.mem_cons.mp hrest with rfl | hafter
    · exact Nat.le_refl _
    · exact h.after_le x hafter

/-- **EXCHANGE**: if one list lies inside another, it still does when each has lost
    its first best element. -/
theorem sublist_of_choices {score : α → Nat} {before after before' after' : List α}
    {best best' : α} (h : FirstBest score before best after)
    (h' : FirstBest score before' best' after')
    (hsub : (before ++ best :: after).Sublist (before' ++ best' :: after')) :
    (before ++ after).Sublist (before' ++ after') := by
  have hlost : (before ++ after).Sublist (before ++ best :: after) :=
    (List.sublist_cons_self best after).append_left before
  obtain ⟨front, back, hsplit, hfront, hback⟩ := List.sublist_append_iff.mp hsub
  rcases List.sublist_cons_iff.mp hback with hskip | ⟨tail, rfl, htail⟩
  · -- the longer list lost an element that the shorter one has no part in
    rw [hsplit] at hlost
    exact hlost.trans (hfront.append hskip)
  · -- the longer list lost an element of the shorter one: it is the same element
    have hbest' : score best' ≤ score best := by
      refine h.le ?_
      rw [hsplit]
      simp
    rcases List.append_eq_append_iff.mp hsplit with ⟨mid, rfl, hmid⟩ | ⟨mid, rfl, hmid⟩
    · cases mid with
      | nil =>
          rw [List.nil_append] at hmid
          obtain ⟨-, rfl⟩ := List.cons.inj hmid
          rw [List.append_nil] at hfront
          exact hfront.append htail
      | cons x mid =>
          -- `best` stands in front of `best'`, which would have lost to it
          obtain ⟨rfl, -⟩ := List.cons.inj hmid
          have hlt := h'.before_lt best (hfront.subset (by simp))
          omega
    · cases mid with
      | nil =>
          rw [List.nil_append] at hmid
          obtain ⟨-, rfl⟩ := List.cons.inj hmid
          rw [List.append_nil]
          exact hfront.append htail
      | cons x mid =>
          -- `best'` stands in front of `best` and scores as much
          obtain ⟨rfl, rfl⟩ := List.cons.inj hmid
          have hlt := h.before_lt best' (by simp)
          have hle := h'.after_le best (htail.subset (by simp))
          omega

/-! ## The choice of a pool -/

/-- A field scores names: what it takes is the first best of the names. -/
theorem FirstBest.names {field : Declaration} {before after : List Candidate} {c : Candidate}
    (h : FirstBest (score field) before c after) :
    FirstBest (affinity field.name) (before.map Candidate.name) c.name
      (after.map Candidate.name) := by
  refine ⟨h.pos, ?_, ?_⟩
  · intro y hy
    obtain ⟨x, hx, rfl⟩ := List.mem_map.mp hy
    exact h.before_lt x hx
  · intro y hy
    obtain ⟨x, hx, rfl⟩ := List.mem_map.mp hy
    exact h.after_le x hx

/-- Nothing is chosen exactly if every score is zero. -/
theorem pick?_eq_none_iff {score : Candidate → Nat} {cs : List Candidate} :
    pick? score cs = none ↔ ∀ c ∈ cs, score c = 0 := by
  induction cs with
  | nil => simp [pick?]
  | cons c rest ih =>
      rw [pick?]
      cases hrest : pick? score rest with
      | none =>
          have hzero := ih.mp hrest
          by_cases hc : 0 < score c
          · simp only [if_pos hc, reduceCtorEq, List.mem_cons, forall_eq_or_imp, false_iff]
            exact fun h => Nat.ne_of_gt hc h.1
          · simp only [if_neg hc, List.mem_cons, forall_eq_or_imp, true_iff]
            exact ⟨Nat.eq_zero_of_not_pos hc, hzero⟩
      | some choice =>
          have hsome : ¬ ∀ x ∈ c :: rest, score x = 0 := by
            intro h
            have := ih.mpr (fun x hx => h x (List.mem_cons_of_mem c hx))
            rw [hrest] at this
            exact nomatch this
          refine iff_of_false ?_ hsome
          dsimp only
          split <;> exact fun h => nomatch h

/-- What is chosen splits the candidates. -/
theorem firstBest_of_pick? {score : Candidate → Nat} {cs others : List Candidate}
    {best : Candidate} (h : pick? score cs = some (best, others)) :
    ∃ before after, cs = before ++ best :: after ∧ others = before ++ after ∧
      FirstBest score before best after := by
  induction cs generalizing best others with
  | nil => exact nomatch h
  | cons c rest ih =>
      rw [pick?] at h
      cases hrest : pick? score rest with
      | none =>
          rw [hrest] at h
          dsimp only at h
          have hzero := pick?_eq_none_iff.mp hrest
          by_cases hc : 0 < score c
          · rw [if_pos hc] at h
            obtain ⟨rfl, rfl⟩ := Prod.mk.inj (Option.some.inj h)
            refine ⟨[], rest, rfl, rfl, hc, (fun x hx => nomatch hx), ?_⟩
            intro x hx
            rw [hzero x hx]
            exact Nat.zero_le _
          · rw [if_neg hc] at h
            exact nomatch h
      | some choice =>
          obtain ⟨b, o⟩ := choice
          rw [hrest] at h
          dsimp only at h
          obtain ⟨before, after, rfl, rfl, hb⟩ := ih hrest
          -- in a tie the one in front is chosen, so it need not be better, only as good
          by_cases hle : score b ≤ score c
          · rw [if_pos hle] at h
            obtain ⟨rfl, rfl⟩ := Prod.mk.inj (Option.some.inj h)
            refine ⟨[], before ++ b :: after, rfl, rfl, Nat.lt_of_lt_of_le hb.pos hle,
              (fun x hx => nomatch hx), ?_⟩
            exact fun x hx => Nat.le_trans (hb.le hx) hle
          · rw [if_neg hle] at h
            obtain ⟨rfl, rfl⟩ := Prod.mk.inj (Option.some.inj h)
            refine ⟨c :: before, after, rfl, rfl, hb.pos, ?_, hb.after_le⟩
            intro x hx
            rcases List.mem_cons.mp hx with rfl | hmem
            · exact Nat.lt_of_not_le hle
            · exact hb.before_lt x hmem

/-- What splits the candidates is chosen. -/
theorem pick?_of_firstBest {score : Candidate → Nat} {before after : List Candidate}
    {best : Candidate} (h : FirstBest score before best after) :
    pick? score (before ++ best :: after) = some (best, before ++ after) := by
  induction before with
  | nil =>
      rw [List.nil_append, List.nil_append, pick?]
      cases hafter : pick? score after with
      | none => exact if_pos h.pos
      | some choice =>
          obtain ⟨b, o⟩ := choice
          -- whatever the rest would choose is one of those that are no better
          obtain ⟨front, back, rfl, -, -⟩ := firstBest_of_pick? hafter
          exact if_pos (h.after_le b (by simp))
  | cons c before ih =>
      have hrest : FirstBest score before best after :=
        ⟨h.pos, fun x hx => h.before_lt x (List.mem_cons_of_mem c hx), h.after_le⟩
      rw [List.cons_append, pick?, ih hrest]
      exact if_neg (Nat.not_le_of_lt (h.before_lt c (List.mem_cons_self ..)))

/-- **FIRST BEST**: a field takes the candidate that splits the pool, and leaves the
    two parts in their order. -/
theorem takeBest_eq_ok_iff {pool rest : Pool} {field : Declaration} {c : Candidate} :
    pool.takeBest field = .ok (c, rest) ↔
      ∃ before after, pool.candidates = before ++ c :: after ∧
        rest.candidates = before ++ after ∧ FirstBest (score field) before c after := by
  constructor
  · intro h
    rw [takeBest] at h
    cases hpick : pick? (score field) pool.candidates with
    | none =>
        rw [hpick] at h
        exact nomatch h
    | some choice =>
        obtain ⟨best, others⟩ := choice
        rw [hpick] at h
        obtain ⟨rfl, rfl⟩ := Prod.mk.inj (Except.ok.inj h)
        exact firstBest_of_pick? hpick
  · rintro ⟨before, after, hpool, hrest, hbest⟩
    rw [takeBest, hpool, pick?_of_firstBest hbest, ← hrest]

/-- A field is refused exactly if it fits no candidate; the refusal tells what there was. -/
theorem takeBest_eq_error_iff {pool : Pool} {field : Declaration} {e : NoMatch} :
    pool.takeBest field = .error e ↔
      (∀ c ∈ pool.candidates, score field c = 0) ∧ e = ⟨field.name, pool.names⟩ := by
  rw [← pick?_eq_none_iff, takeBest]
  cases pick? (score field) pool.candidates with
  | none => exact ⟨fun h => ⟨rfl, (Except.error.inj h).symm⟩, fun h => congrArg _ h.2.symm⟩
  | some choice => exact ⟨nofun, fun h => nomatch h.1⟩

/-- **SPELLING**: fields whose names have the same words take the same attribute and leave
    the same pool, or both fit nothing. -/
theorem takeBest_respelled (pool : Pool) {field field' : Declaration}
    (h : SameWords (fieldWords field.name) (fieldWords field'.name)) :
    (∃ c rest, pool.takeBest field = .ok (c, rest) ∧ pool.takeBest field' = .ok (c, rest)) ∨
      ∃ e e', pool.takeBest field = .error e ∧ pool.takeBest field' = .error e' := by
  have hscore : score field = score field' := by
    funext c
    exact wordAffinity_congr h (sameWords_of_eq rfl)
  rw [takeBest, takeBest, hscore]
  cases pick? (score field') pool.candidates with
  | none => exact Or.inr ⟨_, _, rfl, rfl⟩
  | some choice => exact Or.inl ⟨_, _, rfl, rfl⟩

end VertexBinding.Pool
