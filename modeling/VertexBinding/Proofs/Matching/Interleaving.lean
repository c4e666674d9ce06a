import VertexBinding.Proofs.Matching.Session
import Mathlib.Data.List.Forall2

/-! # Interleaving — a pool with candidates that fit nothing in between

    A list is interleaved with additions if it stands among them in its order, each
    element replaced by one it is related to.  Additions that no field fits are never
    taken, and in front of or behind a choice they do not change it.  So the sessions
    of two pools, one with such additions, go side by side: `takeBest_interleaved` is
    the step, `takeEach_interleaved` the run. -/

namespace VertexBinding.Pool

/-- The third list consists of the second and of what the first is related to, both in
    their order. -/
inductive Interleaved {α : Type} (R : α → α → Prop) : List α → List α → List α → Prop where
  | nil : Interleaved R [] [] []
  | kept {x y : α} {xs added ys : List α} (related : R x y) (rest : Interleaved R xs added ys) :
      Interleaved R (x :: xs) added (y :: ys)
  | added {y : α} {xs added ys : List α} (rest : Interleaved R xs added ys) :
      Interleaved R xs (y :: added) (y :: ys)

variable {α : Type} {R : α → α → Prop}

theorem Interleaved.mem_of_mem_added {xs added ys : List α} (h : Interleaved R xs added ys)
    {y : α} (hy : y ∈ added) : y ∈ ys := by
  induction h with
  | nil => exact nomatch hy
  | kept _ _ ih => exact List.mem_cons_of_mem _ (ih hy)
  | added _ ih =>
      rcases List.mem_cons.mp hy with rfl | hmem
      · exact List.mem_cons_self ..
      · exact List.mem_cons_of_mem _ (ih hmem)

theorem interleaved_self (xs : List α) : Interleaved Eq xs [] xs := by
  induction xs with
  | nil => exact .nil
  | cons x xs ih => exact .kept rfl ih

/-- A list is interleaved with one element that is put into it. -/
theorem interleaved_insert (before : List α) (x : α) (after : List α) :
    Interleaved Eq (before ++ after) [x] (before ++ x :: after) := by
  induction before with
  | nil => exact .added (interleaved_self after)
  | cons y before ih => exact .kept rfl ih

/-! ## The choice -/

variable {P : Candidate → Candidate → Prop} {cs added cs' : List Candidate}

/-- A candidate that scores nothing is passed over. -/
theorem pick?_cons_of_eq_zero {score : Candidate → Nat} {a : Candidate} (ha : score a = 0)
    (cs : List Candidate) :
    pick? score (a :: cs) = (pick? score cs).map (fun p => (p.1, a :: p.2)) := by
  rw [pick?, ha]
  cases hpick : pick? score cs with
  | none => rfl
  | some p =>
      -- what is chosen scores, so a zero does not even tie with it
      obtain ⟨_, _, -, -, hbest⟩ := firstBest_of_pick? hpick
      exact if_neg (Nat.not_le_of_lt hbest.pos)

/-- Additions that score nothing leave the choice as it is and stay. -/
theorem pick?_interleaved {score score' : Candidate → Nat} (h : Interleaved P cs added cs')
    (hscore : ∀ c c', P c c' → score c = score' c') (hzero : ∀ a ∈ added, score' a = 0) :
    Option.Rel (fun p p' => P p.1 p'.1 ∧ Interleaved P p.2 added p'.2)
      (pick? score cs) (pick? score' cs') := by
  induction h with
  | nil => exact .none
  | @kept c c' cs added cs' hc rest ih =>
      have hchoice := ih hzero
      rw [pick?, pick?, ← hscore c c' hc]
      generalize pick? score cs = r at hchoice
      generalize pick? score' cs' = r' at hchoice
      cases hchoice with
      | none =>
          by_cases hpos : 0 < score c
          · simp only [if_pos hpos]
            exact .some ⟨hc, rest⟩
          · simp only [if_neg hpos]
            exact .none
      | @some p p' hp =>
          obtain ⟨hbest, hothers⟩ := hp
          simp only [← hscore _ _ hbest]
          by_cases hle : score p.1 ≤ score c
          · simp only [if_pos hle]
            exact .some ⟨hc, rest⟩
          · simp only [if_neg hle]
            exact .some ⟨hbest, .kept hc hothers⟩
  | @added a cs added cs' rest ih =>
      have hchoice := ih (fun x hx => hzero x (List.mem_cons_of_mem a hx))
      rw [pick?_cons_of_eq_zero (hzero a (List.mem_cons_self ..))]
      generalize pick? score cs = r at hchoice
      generalize pick? score' cs' = r' at hchoice
      cases hchoice with
      | none => exact .none
      | some hp => exact .some ⟨hp.1, .added hp.2⟩

/-! ## Sessions side by side -/

variable {small large : Pool} {field field' : Declaration} {fields : List Declaration}

/-- **STEP**: fields that score alike take related candidates from the two pools, or
    nothing from either. -/
theorem takeBest_interleaved (h : Interleaved P small.candidates added large.candidates)
    (hscore : ∀ c c', P c c' → score field c = score field' c')
    (hzero : ∀ a ∈ added, score field' a = 0) :
    (∃ c c' rest rest', small.takeBest field = .ok (c, rest) ∧
        large.takeBest field' = .ok (c', rest') ∧ P c c' ∧
        Interleaved P rest.candidates added rest'.candidates) ∨
      ∃ e e', small.takeBest field = .error e ∧ large.takeBest field' = .error e' := by
  have hchoice := pick?_interleaved h hscore hzero
  rw [takeBest, takeBest]
  generalize pick? (score field) small.candidates = r at hchoice
  generalize pick? (score field') large.candidates = r' at hchoice
  cases hchoice with
  | none => exact Or.inr ⟨_, _, rfl, rfl⟩
  | @some p p' hp => exact Or.inl ⟨p.1, p'.1, ⟨p.2⟩, ⟨p'.2⟩, rfl, rfl, hp⟩

/-- **RUN**: all fields take related candidates from both pools, or nothing from either,
    and no addition is taken. -/
theorem takeEach_interleaved (h : Interleaved P small.candidates added large.candidates)
    (hname : ∀ c c', P c c' → c.name = c'.name)
    (hzero : ∀ field ∈ fields, ∀ a ∈ added, score field a = 0) :
    List.Forall₂ (Option.Rel P) (small.takeEach fields).1 (large.takeEach fields).1 ∧
      Interleaved P (small.takeEach fields).2.candidates added
        (large.takeEach fields).2.candidates := by
  induction fields generalizing small large with
  | nil => exact ⟨.nil, h⟩
  | cons field fields ih =>
      have hscore : ∀ c c', P c c' → score field c = score field c' := by
        intro c c' hc
        rw [score, score, hname c c' hc]
      have hrest : ∀ field' ∈ fields, ∀ a ∈ added, score field' a = 0 :=
        fun field' hmem => hzero field' (List.mem_cons_of_mem field hmem)
      rcases takeBest_interleaved h hscore (hzero field (List.mem_cons_self ..)) with
        ⟨c, c', rest, rest', hc, hc', hrelated, h'⟩ | ⟨e, e', he, he'⟩
      · obtain ⟨hanswers, hlast⟩ := ih h' hrest
        rw [takeEach_cons_ok hc, takeEach_cons_ok hc']
        exact ⟨.cons (.some hrelated) hanswers, hlast⟩
      · obtain ⟨hanswers, hlast⟩ := ih h hrest
        rw [takeEach_cons_error he, takeEach_cons_error he']
        exact ⟨.cons .none hanswers, hlast⟩

end VertexBinding.Pool
