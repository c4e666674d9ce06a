import VertexBinding.Proofs.Matching.Interleaving
import Mathlib.Data.List.Perm.Basic

/-! # Independence — fields that do not compete take the same in every order

    Two fields compete for a candidate if both fit it.  Fields that compete for none
    cannot take anything from one another: each takes what it would take alone, and
    the pool loses what they take.  Neither depends on the order of the fields. -/

namespace VertexBinding.Pool

/-- What a field takes from a pool. -/
def best? (pool : Pool) (field : Declaration) : Option Candidate :=
  match pool.takeBest field with
  | .ok (c, _) => some c
  | .error _ => none

/-- No candidate of the pool fits both fields. -/
def Independent (pool : Pool) (f g : Declaration) : Prop :=
  ∀ c ∈ pool.candidates, score f c = 0 ∨ score g c = 0

instance (pool : Pool) (f g : Declaration) : Decidable (Independent pool f g) :=
  inferInstanceAs (Decidable (∀ c ∈ pool.candidates, score f c = 0 ∨ score g c = 0))

variable {pool rest : Pool} {field f g : Declaration} {fields : List Declaration} {c : Candidate}

theorem Independent.symm (h : Independent pool f g) : Independent pool g f :=
  fun c hc => (h c hc).symm

theorem best?_of_ok (h : pool.takeBest field = .ok (c, rest)) : pool.best? field = some c := by
  rw [best?, h]

theorem best?_of_error {e : NoMatch} (h : pool.takeBest field = .error e) :
    pool.best? field = none := by
  rw [best?, h]

/-- What a field takes is erased from the pool: a candidate like it cannot stand in
    front of it. -/
theorem rest_eq_erase (h : pool.takeBest field = .ok (c, rest)) :
    rest.candidates = pool.candidates.erase c := by
  obtain ⟨before, after, hpool, hrest, hbest⟩ := takeBest_eq_ok_iff.mp h
  have hnotin : c ∉ before := fun hmem => Nat.lt_irrefl _ (hbest.before_lt c hmem)
  rw [hpool, hrest, List.erase_append_right _ hnotin, List.erase_cons_head]

/-- **STEP**: what one field takes is not missed by a field that is independent of it. -/
theorem best?_of_independent (h : pool.takeBest f = .ok (c, rest)) (hfg : Independent pool f g) :
    rest.best? g = pool.best? g := by
  obtain ⟨before, after, hpool, hrest, hbest⟩ := takeBest_eq_ok_iff.mp h
  have hzero : score g c = 0 := by
    rcases hfg c (by rw [hpool]; simp) with hf | hg
    · exact absurd hf (Nat.ne_of_gt hbest.pos)
    · exact hg
  have hinter : Interleaved Eq rest.candidates [c] pool.candidates := by
    rw [hpool, hrest]
    exact interleaved_insert before c after
  rcases takeBest_interleaved hinter (fun x y hxy => congrArg (score g) hxy)
      (fun a ha => by rw [List.mem_singleton.mp ha, hzero]) with
    ⟨x, y, _, _, hx, hy, rfl, -⟩ | ⟨_, _, hx, hy⟩
  · rw [best?_of_ok hx, best?_of_ok hy]
  · rw [best?_of_error hx, best?_of_error hy]

/-- **RUN**: fields that are independent of one another take what each would take alone,
    and the pool loses what they take. -/
theorem takeEach_of_independent (h : fields.Pairwise (Independent pool)) :
    pool.takeEach fields
      = (fields.map pool.best?, ⟨pool.candidates.diff (fields.filterMap pool.best?)⟩) := by
  induction fields generalizing pool with
  | nil => rfl
  | cons field fields ih =>
      obtain ⟨hfield, hfields⟩ := List.pairwise_cons.mp h
      cases htake : pool.takeBest field with
      | error e =>
          have hbest := best?_of_error htake
          rw [takeEach_cons_error htake, ih hfields, List.map_cons, hbest,
            List.filterMap_cons_none hbest]
      | ok r =>
          obtain ⟨c, rest⟩ := r
          have hbest := best?_of_ok htake
          have herase := rest_eq_erase htake
          -- the others compete for nothing in the smaller pool, and choose as they would have
          have hrest : fields.Pairwise (Independent rest) := by
            refine hfields.imp ?_
            intro f g hfg x hx
            rw [herase] at hx
            exact hfg x (List.mem_of_mem_erase hx)
          have hsame : ∀ g ∈ fields, rest.best? g = pool.best? g :=
            fun g hg => best?_of_independent htake (hfield g hg)
          rw [takeEach_cons_ok htake, ih hrest, List.map_congr_left hsame,
            List.filterMap_congr hsame, List.map_cons, hbest, List.filterMap_cons_some hbest,
            List.diff_cons, herase]

/-- In whatever order independent fields come, each takes the same, and the same is left. -/
theorem takeEach_perm {fields' : List Declaration} (hperm : fields.Perm fields')
    (h : fields.Pairwise (Independent pool)) :
    pool.takeEach fields' = (fields'.map pool.best?, (pool.takeEach fields).2) := by
  have h' : fields'.Pairwise (Independent pool) :=
    (hperm.pairwise_iff Independent.symm).mp h
  rw [takeEach_of_independent h, takeEach_of_independent h',
    (hperm.filterMap pool.best?).diff_left]

/-- Fields that each take something take a list of candidates. -/
theorem exists_map_some_eq (h : ∀ field ∈ fields, ∃ c, pool.best? field = some c) :
    ∃ cs : List Candidate, cs.map some = fields.map pool.best? := by
  induction fields with
  | nil => exact ⟨[], rfl⟩
  | cons field fields ih =>
      obtain ⟨c, hc⟩ := h field (List.mem_cons_self ..)
      obtain ⟨cs, hcs⟩ := ih (fun g hg => h g (List.mem_cons_of_mem field hg))
      refine ⟨c :: cs, ?_⟩
      rw [List.map_cons, List.map_cons, hc, hcs]

/-- A session of independent fields succeeds exactly if each would take something alone. -/
theorem exists_takeAll_iff_of_independent (h : fields.Pairwise (Independent pool)) :
    (∃ r, pool.takeAll fields = .ok r) ↔ ∀ field ∈ fields, ∃ c, pool.best? field = some c := by
  have heach := takeEach_of_independent h
  constructor
  · rintro ⟨⟨cs, last⟩, hall⟩ field hmem
    obtain ⟨hanswers, -⟩ := Prod.mk.inj (heach.symm.trans (takeAll_eq_ok_iff.mp hall))
    have hbest : pool.best? field ∈ cs.map some := by
      rw [← hanswers]
      exact List.mem_map_of_mem hmem
    obtain ⟨c, -, hc⟩ := List.mem_map.mp hbest
    exact ⟨c, hc.symm⟩
  · intro hfound
    obtain ⟨cs, hcs⟩ := exists_map_some_eq hfound
    rw [← hcs] at heach
    exact ⟨_, takeAll_eq_ok_iff.mpr heach⟩

end VertexBinding.Pool
