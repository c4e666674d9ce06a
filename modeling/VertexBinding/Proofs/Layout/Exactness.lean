import VertexBinding.Proofs.Layout.Placement
import VertexBinding.Proofs.Layout.Run
import Mathlib.Data.List.Forall2

/-! # Exactness — a plan in 64 bits is the plan without limit, or none

    A run has three parts that do not disturb one another: the table knows the types,
    the pool serves the fields, and the arithmetic places them.  The first two make
    up `Served`, the third is `Placeable`.  `bindFields_eq_ok_iff` says that a run
    succeeds exactly if all three do, and `bindFields_faulted_iff` that it faults
    exactly at the first field that is served and has no place. -/

namespace VertexBinding.Plan

/-- The table knows the types of the fields, and the pool serves the fields. -/
structure Served (types : TypeTable) (pool : Pool) (fields : List Declaration)
    (ts : List FieldType) (cs : List Candidate) (last : Pool) : Prop where
  typed : List.Forall₂ (fun field t => types.get? field.type = some t) fields ts
  taken : pool.takeAll fields = .ok (cs, last)

variable {types : TypeTable} {vertex : String} {field : Declaration}
  {fields : List Declaration} {s last : Cursor} {bs : List Binding}

/-- Fields have their types from the table alone. -/
theorem eq_filterMap_of_typed {ts : List FieldType}
    (h : List.Forall₂ (fun field t => types.get? field.type = some t) fields ts) :
    ts = fields.filterMap (fun field => types.get? field.type) := by
  induction h with
  | nil => rfl
  | cons ht _ ih => rw [List.filterMap_cons, ht, ← ih]

theorem served_nil_iff {pool rest : Pool} {ts : List FieldType} {cs : List Candidate} :
    Served types pool [] ts cs rest ↔ ts = [] ∧ cs = [] ∧ rest = pool := by
  constructor
  · rintro ⟨htyped, htaken⟩
    rw [Pool.takeAll_nil] at htaken
    obtain ⟨rfl, rfl⟩ := Prod.mk.inj (Except.ok.inj htaken)
    exact ⟨List.forall₂_nil_left_iff.mp htyped, rfl, rfl⟩
  · rintro ⟨rfl, rfl, rfl⟩
    exact ⟨.nil, Pool.takeAll_nil _⟩

/-- Fields are served exactly if the first is and the others are from the rest. -/
theorem served_cons_iff {pool rest : Pool} {ts : List FieldType} {cs : List Candidate} :
    Served types pool (field :: fields) ts cs rest ↔
      ∃ t c pool' ts' cs', types.get? field.type = some t ∧
        pool.takeBest field = .ok (c, pool') ∧ Served types pool' fields ts' cs' rest ∧
        ts = t :: ts' ∧ cs = c :: cs' := by
  constructor
  · rintro ⟨htyped, htaken⟩
    obtain ⟨t, ts', ht, hts, rfl⟩ := List.forall₂_cons_left_iff.mp htyped
    obtain ⟨c, pool', cs', hc, hcs, rfl⟩ := Pool.takeAll_cons_eq_ok_iff.mp htaken
    exact ⟨t, c, pool', ts', cs', ht, hc, ⟨hts, hcs⟩, rfl, rfl⟩
  · rintro ⟨t, c, pool', ts', cs', ht, hc, ⟨hts, hcs⟩, rfl, rfl⟩
    exact ⟨.cons ht hts, Pool.takeAll_cons_eq_ok_iff.mpr ⟨c, pool', cs', hc, hcs, rfl⟩⟩

/-- The bindings of fields that are served with types and attributes behind an end. -/
def bindingsFrom : Nat → List Declaration → List FieldType → List Candidate → List Binding
  | finish, field :: fields, t :: ts, c :: cs =>
      ⟨field.name, c.name, c.location, t.format, t.components, t.offsetAfter finish⟩
        :: bindingsFrom (t.finishAfter finish) fields ts cs
  | _, _, _, _ => []

theorem Served.offsets {pool rest : Pool} {ts : List FieldType} {cs : List Candidate}
    (h : Served types pool fields ts cs rest) (finish : Nat) :
    (bindingsFrom finish fields ts cs).map Binding.offset = offsetsFrom finish ts := by
  induction fields generalizing pool ts cs finish with
  | nil =>
      obtain ⟨rfl, rfl, -⟩ := served_nil_iff.mp h
      rfl
  | cons field fields ih =>
      obtain ⟨t, c, pool', ts', cs', -, -, hserved, rfl, rfl⟩ := served_cons_iff.mp h
      exact congrArg (t.offsetAfter finish :: ·) (ih hserved (t.finishAfter finish))

theorem Served.fieldNames {pool rest : Pool} {ts : List FieldType} {cs : List Candidate}
    (h : Served types pool fields ts cs rest) (finish : Nat) :
    (bindingsFrom finish fields ts cs).map Binding.field = fields.map Declaration.name := by
  induction fields generalizing pool ts cs finish with
  | nil =>
      obtain ⟨rfl, rfl, -⟩ := served_nil_iff.mp h
      rfl
  | cons field fields ih =>
      obtain ⟨t, c, pool', ts', cs', -, -, hserved, rfl, rfl⟩ := served_cons_iff.mp h
      exact congrArg (field.name :: ·) (ih hserved (t.finishAfter finish))

/-! ## One field -/

/-- A field is bound exactly if its type is known, it is served and it has a place. -/
theorem bindField_placed_iff {s' : Cursor} {b : Binding} :
    bindField types vertex field s = .ok (b, s') ↔
      ∃ t c rest, types.get? field.type = some t ∧ s.pool.takeBest field = .ok (c, rest) ∧
        ¬ t.Faults s.finish ∧
        b = ⟨field.name, c.name, c.location, t.format, t.components, t.offsetAfter s.finish⟩ ∧
        s' = ⟨rest, t.finishAfter s.finish, max s.align t.align⟩ := by
  rw [bindField_eq_ok_iff]
  constructor
  · rintro ⟨t, c, rest, offset, ht, hc, hoffset, hfit, rfl, rfl⟩
    obtain ⟨hplace, rfl⟩ := place_iff.mp ⟨hoffset, hfit⟩
    exact ⟨t, c, rest, ht, hc, hplace, rfl, rfl⟩
  · rintro ⟨t, c, rest, ht, hc, hplace, rfl, rfl⟩
    obtain ⟨hoffset, hfit⟩ := place_iff.mpr ⟨hplace, rfl⟩
    exact ⟨t, c, rest, t.offsetAfter s.finish, ht, hc, hoffset, hfit, rfl, rfl⟩

/-- A field faults exactly if its type is known and it is served, but it has no place. -/
theorem bindField_faulted_iff :
    (∃ f, bindField types vertex field s = .error (.faulted f)) ↔
      ∃ t c rest, types.get? field.type = some t ∧ s.pool.takeBest field = .ok (c, rest) ∧
        t.Faults s.finish := by
  cases h : bindField types vertex field s with
  | ok r =>
      obtain ⟨t, c, rest, ht, hc, hplace, -⟩ := bindField_placed_iff.mp h
      refine iff_of_false (fun ⟨_, hf⟩ => nomatch hf) ?_
      rintro ⟨t', c', rest', ht', -, hfaults⟩
      rw [ht] at ht'
      obtain rfl := Option.some.inj ht'
      exact hplace hfaults
  | error stop =>
      cases stop with
      | failed e =>
          refine iff_of_false (fun ⟨_, hf⟩ => nomatch hf) ?_
          rintro ⟨t', c', rest', ht', hc', -⟩
          rcases bindField_eq_failed_iff.mp h with ⟨hnone, -⟩ | ⟨_, _, -, herror, -⟩
          · rw [ht'] at hnone
            exact nomatch hnone
          · rw [hc'] at herror
            exact nomatch herror
      | faulted f =>
          refine iff_of_true ⟨f, rfl⟩ ?_
          -- had the type been unknown or nothing fitted, the field would have failed
          cases ht : types.get? field.type with
          | none =>
              rw [bindField_eq_failed_iff.mpr (Or.inl ⟨ht, rfl⟩)] at h
              exact nomatch h
          | some t =>
              cases hc : s.pool.takeBest field with
              | error cause =>
                  rw [bindField_eq_failed_iff.mpr (Or.inr ⟨t, cause, ht, hc, rfl⟩)] at h
                  exact nomatch h
              | ok r =>
                  obtain ⟨c, rest⟩ := r
                  refine ⟨t, c, rest, rfl, rfl, ?_⟩
                  by_contra hplace
                  rw [bindField_placed_iff.mpr ⟨t, c, rest, ht, hc, hplace, rfl, rfl⟩] at h
                  exact nomatch h

/-! ## All fields -/

/-- **EXACT RUNS**: a run succeeds exactly if its fields are served and have places, and
    then its bindings lie in these places. -/
theorem bindFields_eq_ok_iff :
    bindFields types vertex fields s = .ok (bs, last) ↔
      ∃ ts cs, Served types s.pool fields ts cs last.pool ∧ Placeable s.finish ts ∧
        bs = bindingsFrom s.finish fields ts cs ∧
        last = ⟨last.pool, finishFrom s.finish ts, strictest s.align ts⟩ := by
  induction fields generalizing s bs with
  | nil =>
      rw [bindFields_nil]
      constructor
      · intro h
        obtain ⟨rfl, rfl⟩ := Prod.mk.inj (Except.ok.inj h)
        exact ⟨[], [], served_nil_iff.mpr ⟨rfl, rfl, rfl⟩, trivial, rfl, rfl⟩
      · rintro ⟨ts, cs, hserved, -, rfl, hlast⟩
        obtain ⟨rfl, rfl, hpool⟩ := served_nil_iff.mp hserved
        rw [hlast, hpool]
        rfl
  | cons field fields ih =>
      rw [bindFields_cons_eq_ok_iff]
      constructor
      · rintro ⟨b, s', bs', hfield, hfields, rfl⟩
        obtain ⟨t, c, rest, ht, hc, hplace, rfl, rfl⟩ := bindField_placed_iff.mp hfield
        obtain ⟨ts, cs, hserved, hplaces, rfl, hlast⟩ := ih.mp hfields
        refine ⟨t :: ts, c :: cs, ?_, ⟨hplace, hplaces⟩, rfl, hlast⟩
        exact served_cons_iff.mpr ⟨t, c, rest, ts, cs, ht, hc, hserved, rfl, rfl⟩
      · rintro ⟨ts, cs, hserved, hplaces, rfl, hlast⟩
        obtain ⟨t, c, rest, ts', cs', ht, hc, hserved', rfl, rfl⟩ := served_cons_iff.mp hserved
        obtain ⟨hplace, hplaces'⟩ := hplaces
        exact ⟨_, _, _, bindField_placed_iff.mpr ⟨t, c, rest, ht, hc, hplace, rfl, rfl⟩,
          ih.mpr ⟨ts', cs', hserved', hplaces', rfl, hlast⟩, rfl⟩

/-- A run stops at the first field that stops. -/
theorem bindFields_eq_error_iff {stop : Stop} :
    bindFields types vertex fields s = .error stop ↔
      ∃ before field after bs s', fields = before ++ field :: after ∧
        bindFields types vertex before s = .ok (bs, s') ∧
        bindField types vertex field s' = .error stop := by
  induction fields generalizing s with
  | nil =>
      rw [bindFields_nil]
      refine iff_of_false nofun ?_
      rintro ⟨before, field, after, _, _, hfields, -⟩
      exact List.append_ne_nil_of_right_ne_nil before (List.cons_ne_nil field after) hfields.symm
  | cons field fields ih =>
      rw [bindFields_cons_eq_error_iff]
      constructor
      · rintro (h | ⟨b, s', hfield, h⟩)
        · exact ⟨[], field, fields, [], s, rfl, rfl, h⟩
        · obtain ⟨before, stopper, after, bs, s'', rfl, hbefore, hstop⟩ := ih.mp h
          exact ⟨field :: before, stopper, after, b :: bs, s'', rfl,
            bindFields_cons_eq_ok_iff.mpr ⟨b, s', bs, hfield, hbefore, rfl⟩, hstop⟩
      · rintro ⟨before, stopper, after, bs, s', hfields, hbefore, hstop⟩
        cases before with
        | nil =>
            obtain ⟨rfl, rfl⟩ := List.cons.inj hfields
            rw [bindFields_nil] at hbefore
            obtain ⟨-, rfl⟩ := Prod.mk.inj (Except.ok.inj hbefore)
            exact Or.inl hstop
        | cons first before =>
            obtain ⟨rfl, rfl⟩ := List.cons.inj hfields
            obtain ⟨b, s'', bs', hfield, hbefore', -⟩ := bindFields_cons_eq_ok_iff.mp hbefore
            exact Or.inr ⟨b, s'', hfield, ih.mpr ⟨before, stopper, after, bs', s', rfl,
              hbefore', hstop⟩⟩

/-! ## Where a plan stops -/

/-- Some field has no place, though it and all fields before it are served, and those
    before it have places. -/
def FieldFaults (types : TypeTable) (pool : Pool) (finish : Nat) (fields : List Declaration) :
    Prop :=
  ∃ before field after ts cs rest, fields = before ++ field :: after ∧
    Served types pool before ts cs rest ∧ Placeable finish ts ∧
    ∃ t c rest', types.get? field.type = some t ∧ rest.takeBest field = .ok (c, rest') ∧
      t.Faults (finishFrom finish ts)

/-- All fields are served and have places, but the stride does not fit. -/
def StrideFaults (types : TypeTable) (pool : Pool) (vertex : Vertex) : Prop :=
  ∃ ts cs rest, Served types pool vertex.fields ts cs rest ∧ Placeable 0 ts ∧
    offsetLimit ≤ strideOf vertex.align ts

/-- The first field that is not served is refused for its type, or else for its name. -/
def Refused (types : TypeTable) (pool : Pool) (vertex : Vertex) (e : LayoutError) : Prop :=
  ∃ before field after ts cs rest, vertex.fields = before ++ field :: after ∧
    Served types pool before ts cs rest ∧
    ((types.get? field.type = none ∧ e = .unsupportedType vertex.name field.name field.type) ∨
      ∃ t cause, types.get? field.type = some t ∧ rest.takeBest field = .error cause ∧
        e = .noMatch vertex.name cause)

/-- A run faults exactly if a field does. -/
theorem bindFields_faulted_iff :
    (∃ f, bindFields types vertex fields s = .error (.faulted f)) ↔
      FieldFaults types s.pool s.finish fields := by
  constructor
  · rintro ⟨f, h⟩
    obtain ⟨before, field, after, bs, s', hfields, hbefore, hstop⟩ :=
      bindFields_eq_error_iff.mp h
    obtain ⟨ts, cs, hserved, hplaces, -, hs'⟩ := bindFields_eq_ok_iff.mp hbefore
    refine ⟨before, field, after, ts, cs, s'.pool, hfields, hserved, hplaces, ?_⟩
    have hfield := bindField_faulted_iff.mp ⟨f, hstop⟩
    rw [hs'] at hfield
    exact hfield
  · rintro ⟨before, field, after, ts, cs, rest, hfields, hserved, hplaces, hfield⟩
    have hbefore : bindFields types vertex before s = .ok (bindingsFrom s.finish before ts cs,
        ⟨rest, finishFrom s.finish ts, strictest s.align ts⟩) :=
      bindFields_eq_ok_iff.mpr ⟨ts, cs, hserved, hplaces, rfl, rfl⟩
    obtain ⟨f, hstop⟩ : ∃ f, bindField types vertex field
        ⟨rest, finishFrom s.finish ts, strictest s.align ts⟩ = .error (.faulted f) :=
      bindField_faulted_iff.mpr hfield
    exact ⟨f, bindFields_eq_error_iff.mpr ⟨before, field, after, _, _, hfields, hbefore, hstop⟩⟩

/-! ## The plan -/

/-- A plan stops where its run stops. -/
theorem ofVertex_of_stop {shader : String} {v : Vertex} {stop : Stop}
    (h : bindFields types v.name v.fields (start shader v) = .error stop) :
    ofVertex shader v types = .error stop := by
  rw [ofVertex, h]
  rfl

/-- Behind a run that succeeds only the stride can fault. -/
theorem ofVertex_of_run {shader : String} {v : Vertex}
    (h : bindFields types v.name v.fields (start shader v) = .ok (bs, s)) :
    ofVertex shader v types
      = (faulting (align? s.finish s.align)).map (fun stride => ⟨v.name, stride, bs⟩) := by
  rw [ofVertex, h]
  rfl

theorem align?_stride (align : Nat) (ts : List FieldType) :
    align? (finishFrom 0 ts) (strictest (max align 1) ts)
      = if strideOf align ts < offsetLimit then .ok (strideOf align ts) else .error .overflow := by
  have hpos : strictest (max align 1) ts ≠ 0 := by
    have h1 := Nat.le_max_right align 1
    have h2 := le_strictest (max align 1) ts
    omega
  rw [align?, if_neg hpos, fit, alignUp_eq_ceilDiv, strideOf]

/-- What a vertex comes to whose fields are served and have places. -/
theorem ofVertex_of_served {shader : String} {v : Vertex} {ts : List FieldType}
    {cs : List Candidate} {rest : Pool}
    (hserved : Served types (Pool.ofShader shader) v.fields ts cs rest) (hplaces : Placeable 0 ts) :
    (strideOf v.align ts < offsetLimit ∧ ofVertex shader v types
        = .ok ⟨v.name, strideOf v.align ts, bindingsFrom 0 v.fields ts cs⟩) ∨
      (offsetLimit ≤ strideOf v.align ts ∧
        ofVertex shader v types = .error (.faulted .overflow)) := by
  have hrun : bindFields types v.name v.fields (start shader v)
      = .ok (bindingsFrom 0 v.fields ts cs,
          ⟨rest, finishFrom 0 ts, strictest (max v.align 1) ts⟩) :=
    bindFields_eq_ok_iff.mpr ⟨ts, cs, hserved, hplaces, rfl, rfl⟩
  rw [ofVertex_of_run hrun, align?_stride]
  rcases Nat.lt_or_ge (strideOf v.align ts) offsetLimit with h | h
  · rw [if_pos h]
    exact Or.inl ⟨h, rfl⟩
  · rw [if_neg (Nat.not_lt_of_ge h)]
    exact Or.inr ⟨h, rfl⟩

/-- A plan faults where its run faults, or else at its stride. -/
theorem ofVertex_faulted_iff {shader : String} {v : Vertex} :
    (∃ f, ofVertex shader v types = .error (.faulted f)) ↔
      FieldFaults types (Pool.ofShader shader) 0 v.fields ∨
        StrideFaults types (Pool.ofShader shader) v := by
  have hfield : (∃ f, bindFields types v.name v.fields (start shader v) = .error (.faulted f)) ↔
      FieldFaults types (Pool.ofShader shader) 0 v.fields := bindFields_faulted_iff
  constructor
  · rintro ⟨f, h⟩
    cases hrun : bindFields types v.name v.fields (start shader v) with
    | error stop =>
        rw [ofVertex_of_stop hrun] at h
        obtain rfl := Except.error.inj h
        exact Or.inl (hfield.mp ⟨f, hrun⟩)
    | ok r =>
        obtain ⟨bs, s⟩ := r
        obtain ⟨ts, cs, hserved, hplaces, -⟩ := bindFields_eq_ok_iff.mp hrun
        rcases ofVertex_of_served hserved hplaces with ⟨-, hok⟩ | ⟨hlimit, -⟩
        · rw [hok] at h
          exact nomatch h
        · exact Or.inr ⟨ts, cs, s.pool, hserved, hplaces, hlimit⟩
  · rintro (h | ⟨ts, cs, rest, hserved, hplaces, hlimit⟩)
    · obtain ⟨f, hrun⟩ := hfield.mpr h
      exact ⟨f, ofVertex_of_stop hrun⟩
    · rcases ofVertex_of_served hserved hplaces with ⟨hfits, -⟩ | ⟨-, hfault⟩
      · exact absurd hlimit (Nat.not_le_of_lt hfits)
      · exact ⟨.overflow, hfault⟩

/-- A plan that fails reports the first field that is not served. -/
theorem refused_of_failed {shader : String} {v : Vertex} {e : LayoutError}
    (h : ofVertex shader v types = .error (.failed e)) :
    Refused types (Pool.ofShader shader) v e := by
  obtain ⟨before, field, after, bs, s', hfields, hbefore, hstop⟩ :=
    bindFields_eq_error_iff.mp (ofVertex_eq_failed_iff.mp h)
  obtain ⟨ts, cs, hserved, -⟩ := bindFields_eq_ok_iff.mp hbefore
  exact ⟨before, field, after, ts, cs, s'.pool, hfields, hserved, bindField_eq_failed_iff.mp hstop⟩

/-- A plan is the one without limit. -/
theorem served_of_plan {shader : String} {v : Vertex} {plan : Plan}
    (h : ofVertex shader v types = .ok plan) :
    ∃ ts cs rest, Served types (Pool.ofShader shader) v.fields ts cs rest ∧ Placeable 0 ts ∧
      plan = ⟨v.name, strideOf v.align ts, bindingsFrom 0 v.fields ts cs⟩ := by
  obtain ⟨bs, s, stride, hrun, -, -⟩ := ofVertex_eq_ok_iff.mp h
  obtain ⟨ts, cs, hserved, hplaces, -⟩ := bindFields_eq_ok_iff.mp hrun
  refine ⟨ts, cs, s.pool, hserved, hplaces, ?_⟩
  rcases ofVertex_of_served hserved hplaces with ⟨-, hok⟩ | ⟨-, hfault⟩
  · exact Except.ok.inj (h.symm.trans hok)
  · rw [hfault] at h
    exact nomatch h

/-- **EXACT OR A FAULT**: planning faults exactly if the first field without a place comes
    before every field that is not served, or if all fields have places and the stride
    does not fit.  In every other case it returns: the first field that is not served is
    reported, or the plan lies where fields lie without limit. -/
theorem ofVertex_exact (shader : String) (vertex : Vertex) (types : TypeTable) :
    ((∃ f, ofVertex shader vertex types = .error (.faulted f)) ↔
      FieldFaults types (Pool.ofShader shader) 0 vertex.fields ∨
      StrideFaults types (Pool.ofShader shader) vertex) ∧
    (FieldFaults types (Pool.ofShader shader) 0 vertex.fields ∨
      StrideFaults types (Pool.ofShader shader) vertex ∨
      (∃ e, Refused types (Pool.ofShader shader) vertex e ∧
        ofVertex shader vertex types = .error (.failed e)) ∨
      ∃ ts cs rest plan, Served types (Pool.ofShader shader) vertex.fields ts cs rest ∧
        ofVertex shader vertex types = .ok plan ∧
        plan.bindings.map Binding.offset = offsetsFrom 0 ts ∧
        plan.stride = strideOf vertex.align ts) := by
  refine ⟨ofVertex_faulted_iff, ?_⟩
  cases h : ofVertex shader vertex types with
  | ok plan =>
      obtain ⟨ts, cs, rest, hserved, -, rfl⟩ := served_of_plan h
      exact Or.inr (Or.inr (Or.inr ⟨ts, cs, rest, _, hserved, rfl, hserved.offsets 0, rfl⟩))
  | error stop =>
      cases stop with
      | failed e => exact Or.inr (Or.inr (Or.inl ⟨e, refused_of_failed h, rfl⟩))
      | faulted f =>
          rcases ofVertex_faulted_iff.mp ⟨f, h⟩ with hfield | hstride
          · exact Or.inl hfield
          · exact Or.inr (Or.inl hstride)

/-- The last byte below the limit, and a struct whose padding would go beyond it. -/
example : ofVertex "attribute float a_Weight;" ⟨"Vertex", [⟨"weight", "Blob"⟩], 2⟩
    (TypeTable.empty.insert "Blob" ⟨.float32, 1, 2 ^ 64 - 1, 1⟩)
      = .error (.faulted .overflow) := by
  decide +kernel

end VertexBinding.Plan
