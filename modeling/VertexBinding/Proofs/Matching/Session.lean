import VertexBinding.Proofs.Matching.Choice
import VertexBinding.Proofs.Outcome

/-! # Sessions — the fields of a vertex served in order from one pool

    A session serves each field from what the fields before it have left.  It
    succeeds if every field is served (`takeAll`).  It may also go on behind a field
    that fits nothing (`takeEach`), which tells for every field what it takes.

    What a pool offers is the list of its names.  `takeBest_sublist` is the step:
    a pool that offers more serves a field that the smaller pool serves, and still
    offers more afterwards.  `takeAll_sublist` is the run. -/

namespace VertexBinding.Pool

/-- Serves fields in order: the attributes they take, and what is left. -/
def takeAll : Pool → List Declaration → Except NoMatch (List Candidate × Pool)
  | pool, [] => .ok ([], pool)
  | pool, field :: fields => do
      let (c, pool) ← pool.takeBest field
      let (cs, pool) ← pool.takeAll fields
      return (c :: cs, pool)

theorem takeAll_nil (pool : Pool) : pool.takeAll [] = .ok ([], pool) := rfl

/-- A session succeeds exactly if its first field is served and the others are
    served from the rest. -/
theorem takeAll_cons_eq_ok_iff {pool last : Pool} {field : Declaration}
    {fields : List Declaration} {cs : List Candidate} :
    pool.takeAll (field :: fields) = .ok (cs, last) ↔
      ∃ c rest cs', pool.takeBest field = .ok (c, rest) ∧
        rest.takeAll fields = .ok (cs', last) ∧ cs = c :: cs' := by
  rw [takeAll]
  exact bind_cons_eq_ok_iff (pool.takeBest field) (fun rest => rest.takeAll fields)

/-- Serves fields in order, going on behind a field that fits nothing: what each field
    takes, and what is left. -/
def takeEach : Pool → List Declaration → List (Option Candidate) × Pool
  | pool, [] => ([], pool)
  | pool, field :: fields =>
      match pool.takeBest field with
      | .ok (c, rest) => (some c :: (rest.takeEach fields).1, (rest.takeEach fields).2)
      | .error _ => (none :: (pool.takeEach fields).1, (pool.takeEach fields).2)

theorem takeEach_nil (pool : Pool) : pool.takeEach [] = ([], pool) := rfl

/-- A field that is served takes its candidate from the others. -/
theorem takeEach_cons_ok {pool rest : Pool} {field : Declaration} {c : Candidate}
    (h : pool.takeBest field = .ok (c, rest)) (fields : List Declaration) :
    pool.takeEach (field :: fields)
      = (some c :: (rest.takeEach fields).1, (rest.takeEach fields).2) := by
  rw [takeEach, h]

/-- A field that is refused takes nothing from the others. -/
theorem takeEach_cons_error {pool : Pool} {field : Declaration} {e : NoMatch}
    (h : pool.takeBest field = .error e) (fields : List Declaration) :
    pool.takeEach (field :: fields)
      = (none :: (pool.takeEach fields).1, (pool.takeEach fields).2) := by
  rw [takeEach, h]

/-- A session succeeds exactly if no field goes without, were it to go on. -/
theorem takeAll_eq_ok_iff {pool last : Pool} {fields : List Declaration} {cs : List Candidate} :
    pool.takeAll fields = .ok (cs, last) ↔ pool.takeEach fields = (cs.map some, last) := by
  induction fields generalizing pool cs with
  | nil =>
      rw [takeAll_nil, takeEach_nil]
      cases cs with
      | nil => simp
      | cons c cs => simp
  | cons field fields ih =>
      rw [takeAll_cons_eq_ok_iff]
      cases htake : pool.takeBest field with
      | error e =>
          rw [takeEach_cons_error htake]
          constructor
          · rintro ⟨_, _, _, h, _⟩
            exact nomatch h
          · intro h
            obtain ⟨hcs, -⟩ := Prod.mk.inj h
            cases cs with
            | nil => exact nomatch hcs
            | cons c cs => exact nomatch hcs
      | ok r =>
          obtain ⟨c, rest⟩ := r
          rw [takeEach_cons_ok htake]
          constructor
          · rintro ⟨_, _, cs', h, hall, rfl⟩
            obtain ⟨rfl, rfl⟩ := Prod.mk.inj (Except.ok.inj h)
            rw [ih.mp hall]
            rfl
          · intro h
            obtain ⟨hcs, hlast⟩ := Prod.mk.inj h
            cases cs with
            | nil => exact nomatch hcs
            | cons c' cs =>
                obtain ⟨hc, hothers⟩ := List.cons.inj hcs
                obtain rfl := Option.some.inj hc
                exact ⟨c, rest, cs, rfl, ih.mpr (Prod.ext hothers hlast), rfl⟩

theorem name_mem_of_takeBest {pool rest : Pool} {field : Declaration} {c : Candidate}
    (h : pool.takeBest field = .ok (c, rest)) : c.name ∈ pool.names := by
  obtain ⟨before, after, hpool, -⟩ := takeBest_eq_ok_iff.mp h
  refine List.mem_map_of_mem ?_
  rw [hpool]
  exact List.mem_append_right _ (List.mem_cons_self ..)

/-- What is left of a pool is part of it. -/
theorem takeBest_names_sublist {pool rest : Pool} {field : Declaration} {c : Candidate}
    (h : pool.takeBest field = .ok (c, rest)) : rest.names.Sublist pool.names := by
  obtain ⟨before, after, hpool, hrest, -⟩ := takeBest_eq_ok_iff.mp h
  rw [names, names, hpool, hrest]
  exact ((List.sublist_cons_self c after).append_left before).map Candidate.name

/-- Something is taken wherever some candidate fits. -/
theorem exists_takeBest {pool : Pool} {field : Declaration} {c : Candidate}
    (hmem : c ∈ pool.candidates) (hpos : 0 < score field c) :
    ∃ best rest, pool.takeBest field = .ok (best, rest) := by
  cases hpick : pick? (score field) pool.candidates with
  | none =>
      have hzero := pick?_eq_none_iff.mp hpick c hmem
      omega
  | some choice =>
      refine ⟨choice.1, ⟨choice.2⟩, ?_⟩
      rw [takeBest, hpick]

/-- **STEP**: a pool that offers more serves the field as well, and still offers more
    afterwards. -/
theorem takeBest_sublist {small large rest : Pool} {field : Declaration} {c : Candidate}
    (hsub : small.names.Sublist large.names) (h : small.takeBest field = .ok (c, rest)) :
    ∃ c' rest', large.takeBest field = .ok (c', rest') ∧ rest.names.Sublist rest'.names := by
  obtain ⟨before, after, hsmall, hrest, hbest⟩ := takeBest_eq_ok_iff.mp h
  -- the attribute taken from the smaller pool has a namesake in the larger one
  have hname : c.name ∈ large.names := by
    refine hsub.subset (List.mem_map_of_mem ?_)
    rw [hsmall]
    simp
  obtain ⟨twin, htwin, hsame⟩ := List.mem_map.mp hname
  have hpos : 0 < score field twin := by
    rw [score, hsame]
    exact hbest.pos
  obtain ⟨c', rest', h'⟩ := exists_takeBest htwin hpos
  refine ⟨c', rest', h', ?_⟩
  obtain ⟨before', after', hlarge, hrest', hbest'⟩ := takeBest_eq_ok_iff.mp h'
  rw [names, names, hsmall, hlarge, List.map_append, List.map_append, List.map_cons,
    List.map_cons] at hsub
  rw [names, names, hrest, hrest', List.map_append, List.map_append]
  exact sublist_of_choices hbest.names hbest'.names hsub

/-- **RUN**: a pool that offers more serves every part of the fields that the smaller
    pool serves. -/
theorem takeAll_sublist {small large last : Pool} {fields fields' : List Declaration}
    {cs : List Candidate} (hfields : fields'.Sublist fields)
    (hsub : small.names.Sublist large.names) (h : small.takeAll fields = .ok (cs, last)) :
    ∃ cs' last', large.takeAll fields' = .ok (cs', last') := by
  induction hfields generalizing small large cs with
  | slnil => exact ⟨[], large, takeAll_nil large⟩
  | cons field _ ih =>
      -- the field is served only from the smaller pool, which shrinks
      obtain ⟨c, rest, cs', htake, hall, rfl⟩ := takeAll_cons_eq_ok_iff.mp h
      exact ih ((takeBest_names_sublist htake).trans hsub) hall
  | cons_cons field _ ih =>
      obtain ⟨c, rest, cs', htake, hall, rfl⟩ := takeAll_cons_eq_ok_iff.mp h
      obtain ⟨c', rest', htake', hrest⟩ := takeBest_sublist hsub htake
      obtain ⟨cs'', last', hall'⟩ := ih hrest hall
      exact ⟨c' :: cs'', last', takeAll_cons_eq_ok_iff.mpr ⟨c', rest', cs'', htake', hall', rfl⟩⟩

/-- A fresh pool offers the names of its declarations. -/
theorem names_ofDeclarations (ds : List Declaration) :
    (ofDeclarations ds).names = ds.map Declaration.name := by
  rw [names, ofDeclarations, List.map_map]
  have hfun : (Candidate.name ∘ fun p : Declaration × Nat => ⟨p.2 % locationLimit, p.1⟩)
      = Declaration.name ∘ Prod.fst := rfl
  show ds.zipIdx.map (Candidate.name ∘ fun p : Declaration × Nat => ⟨p.2 % locationLimit, p.1⟩) = _
  rw [hfun, ← List.map_map, List.zipIdx_map_fst]

end VertexBinding.Pool
