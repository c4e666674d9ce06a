import VertexBinding.Proofs.Matching.Choice

/-! # Locations — which attributes have left the pool

    A pool shrinks from anywhere, so the position of a candidate in the pool says
    nothing about its declaration; the index of the declaration does.  The invariant of
    every run from a fresh pool is that it holds what is open: the declarations in their
    order without those whose indices were taken.  `takeBest_openAt` is the step, whatever
    candidates are made of the declarations.

    Where there are locations for all attributes, a candidate's location is the index of
    its declaration, and a pool is `unclaimed` by its locations (`takeBest_unclaimed`). -/

namespace VertexBinding.Pool

variable {declared : List Declaration} {taken : List Nat} {pool rest : Pool} {field : Declaration}
  {c : Candidate}

/-! ## Indices -/

/-- The declarations whose indices were not taken, each with its index. -/
def openAt (declared : List Declaration) (taken : List Nat) : List (Declaration × Nat) :=
  declared.zipIdx.filter (fun p => decide (p.2 ∉ taken))

theorem mem_openAt {p : Declaration × Nat} :
    p ∈ openAt declared taken ↔ declared[p.2]? = some p.1 ∧ p.2 ∉ taken := by
  rw [openAt, List.mem_filter, decide_eq_true_iff, ← List.mk_mem_zipIdx_iff_getElem?]

/-- Indices are increasing, so no two declarations share one. -/
theorem openAt_pairwise (declared : List Declaration) (taken : List Nat) :
    ((openAt declared taken).map Prod.snd).Pairwise (· < ·) := by
  have hall : (declared.zipIdx.map Prod.snd).Pairwise (· < ·) := by
    rw [List.zipIdx_map_snd]
    exact List.pairwise_lt_range'
  exact hall.sublist (List.filter_sublist.map Prod.snd)

/-- One more index taken is one more declaration gone. -/
theorem openAt_concat {before after : List (Declaration × Nat)} {p : Declaration × Nat}
    (h : openAt declared taken = before ++ p :: after) :
    openAt declared (taken ++ [p.2]) = before ++ after := by
  have hfilter : openAt declared (taken ++ [p.2])
      = (openAt declared taken).filter (fun q => decide (q.2 ≠ p.2)) := by
    rw [openAt, openAt, List.filter_filter]
    refine List.filter_congr ?_
    intro q _
    simp only [List.mem_append, List.mem_singleton, not_or, ne_eq, Bool.decide_and, Bool.and_comm]
  have hordered := openAt_pairwise declared taken
  rw [h, List.map_append, List.map_cons, List.pairwise_append, List.pairwise_cons] at hordered
  obtain ⟨-, ⟨hafter, -⟩, hbefore⟩ := hordered
  rw [hfilter, h, List.filter_append, List.filter_cons_of_neg (by simp)]
  congr 1
  · refine List.filter_eq_self.mpr ?_
    intro q hq
    have hlt := hbefore q.2 (List.mem_map_of_mem hq) p.2 (List.mem_cons_self ..)
    exact decide_eq_true (Nat.ne_of_lt hlt)
  · refine List.filter_eq_self.mpr ?_
    intro q hq
    have hlt := hafter q.2 (List.mem_map_of_mem hq)
    exact decide_eq_true (Nat.ne_of_gt hlt)

/-- **STEP**: from a pool of what is open a field takes something open that fits, and the
    rest is open once its index is taken. -/
theorem takeBest_openAt {f : Declaration × Nat → Candidate}
    (hpool : pool.candidates = (openAt declared taken).map f)
    (h : pool.takeBest field = .ok (c, rest)) :
    ∃ p ∈ openAt declared taken, f p = c ∧ 0 < score field c ∧
      rest.candidates = (openAt declared (taken ++ [p.2])).map f := by
  obtain ⟨before, after, hsplit, hrest, hbest⟩ := takeBest_eq_ok_iff.mp h
  obtain ⟨ps, ps', hopen, rfl, hps'⟩ := List.map_eq_append_iff.mp (hpool.symm.trans hsplit)
  obtain ⟨p, qs, rfl, rfl, rfl⟩ := List.map_eq_cons_iff.mp hps'
  refine ⟨p, ?_, rfl, hbest.pos, ?_⟩
  · rw [hopen]
    simp
  · rw [hrest, openAt_concat hopen, List.map_append]

/-! ## Locations -/

/-- The declarations whose indices were not taken, each with its index as location. -/
def unclaimed (declared : List Declaration) (taken : List Nat) : List Candidate :=
  (declared.zipIdx.filter (fun p => decide (p.2 ∉ taken))).map (fun p => ⟨p.2, p.1⟩)

theorem unclaimed_eq_map (declared : List Declaration) (taken : List Nat) :
    unclaimed declared taken = (openAt declared taken).map (fun p => ⟨p.2, p.1⟩) := rfl

/-- A candidate is unclaimed exactly if it stands at its location and was not taken. -/
theorem mem_unclaimed :
    c ∈ unclaimed declared taken ↔
      declared[c.location]? = some c.declaration ∧ c.location ∉ taken := by
  rw [unclaimed_eq_map, List.mem_map]
  constructor
  · rintro ⟨p, hp, rfl⟩
    exact mem_openAt.mp hp
  · intro h
    exact ⟨(c.declaration, c.location), mem_openAt.mpr h, rfl⟩

/-- Locations are increasing, so no two candidates share one. -/
theorem unclaimed_pairwise (declared : List Declaration) (taken : List Nat) :
    ((unclaimed declared taken).map Candidate.location).Pairwise (· < ·) := by
  rw [unclaimed_eq_map, List.map_map]
  exact openAt_pairwise declared taken

/-- Declarations as candidates whose locations count from a number on. -/
def candidatesFrom (l : Nat) (ds : List Declaration) : List Candidate :=
  (ds.zipIdx l).map (fun p => ⟨p.2, p.1⟩)

/-- Where there are locations for all attributes, each has its index. -/
theorem candidates_eq_candidatesFrom (h : declared.length ≤ locationLimit) :
    (ofDeclarations declared).candidates = candidatesFrom 0 declared := by
  refine List.map_congr_left ?_
  intro p hp
  obtain ⟨d, i⟩ := p
  have hlt : i < declared.length :=
    (List.getElem?_eq_some_iff.mp (List.mk_mem_zipIdx_iff_getElem?.mp hp)).1
  show (⟨i % locationLimit, d⟩ : Candidate) = ⟨i, d⟩
  rw [Nat.mod_eq_of_lt (Nat.lt_of_lt_of_le hlt h)]

/-- The pool of a shader with locations for all its attributes starts unclaimed. -/
theorem candidates_ofDeclarations (h : declared.length ≤ locationLimit) :
    (ofDeclarations declared).candidates = unclaimed declared [] := by
  have hfilter : declared.zipIdx.filter (fun p => decide (p.2 ∉ [])) = declared.zipIdx :=
    List.filter_eq_self.mpr (fun p _ => by simp)
  rw [candidates_eq_candidatesFrom h, candidatesFrom, unclaimed, hfilter]

/-- From an unclaimed pool a field takes an unclaimed candidate that fits, and the rest is
    unclaimed once its location is taken. -/
theorem takeBest_unclaimed (hpool : pool.candidates = unclaimed declared taken)
    (h : pool.takeBest field = .ok (c, rest)) :
    c ∈ unclaimed declared taken ∧ 0 < score field c ∧
      rest.candidates = unclaimed declared (taken ++ [c.location]) := by
  obtain ⟨p, hp, rfl, hpos, hrest⟩ := takeBest_openAt hpool h
  exact ⟨List.mem_map_of_mem hp, hpos, hrest⟩

end VertexBinding.Pool
