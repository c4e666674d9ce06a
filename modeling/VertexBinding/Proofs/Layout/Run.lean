import VertexBinding.Layout.Plan
import VertexBinding.Proofs.Matching.Session

/-! # Runs of a plan — what binding one field does, and what a run adds up to

    Binding a field does one thing when all goes well, and there are two ways in
    which it fails: the type is unknown, or nothing fits.  A fault of the
    arithmetic is neither.  Everything later is derived from these lemmas and does
    not look into the steps again.

    Apart from offsets a run is a session: `takeAll_of_bindFields` and
    `bindFields_ne_failed` go from the one to the other. -/

namespace VertexBinding.Plan

theorem faulting_eq_mapError {α : Type} (x : Except Fault α) :
    faulting x = x.mapError .faulted := by
  cases x <;> rfl

theorem faulting_eq_ok_iff {α : Type} {x : Except Fault α} {a : α} :
    faulting x = .ok a ↔ x = .ok a := by
  rw [faulting_eq_mapError, mapError_eq_ok_iff]

/-- A fault is no failure. -/
theorem faulting_ne_failed {α : Type} (x : Except Fault α) (e : LayoutError) :
    faulting x ≠ .error (.failed e) := by
  rw [faulting_eq_mapError, ne_eq, mapError_eq_error_iff]
  rintro ⟨fault, -, h⟩
  exact nomatch h

/-! ## One field -/

theorem fieldType_eq_ok_iff {types : TypeTable} {vertex : String} {field : Declaration}
    {t : FieldType} : fieldType types vertex field = .ok t ↔ types.get? field.type = some t := by
  rw [fieldType]
  cases types.get? field.type with
  | none => exact ⟨nofun, nofun⟩
  | some t' =>
      show Except.ok t' = Except.ok t ↔ _
      rw [Except.ok.injEq, Option.some.injEq]

/-- A type that is not found is reported with the field. -/
theorem fieldType_eq_error_iff {types : TypeTable} {vertex : String} {field : Declaration}
    {stop : Stop} : fieldType types vertex field = .error stop ↔
      types.get? field.type = none ∧
        stop = .failed (.unsupportedType vertex field.name field.type) := by
  rw [fieldType]
  cases types.get? field.type with
  | none =>
      constructor
      · exact fun h => ⟨rfl, (Except.error.inj h).symm⟩
      · rintro ⟨-, rfl⟩
        rfl
  | some t => exact ⟨nofun, fun h => nomatch h.1⟩

theorem fieldAttribute_eq_mapError (pool : Pool) (vertex : String) (field : Declaration) :
    fieldAttribute pool vertex field
      = (pool.takeBest field).mapError (fun e => .failed (.noMatch vertex e)) := by
  rw [fieldAttribute]
  cases pool.takeBest field <;> rfl

theorem fieldAttribute_eq_ok_iff {pool : Pool} {vertex : String} {field : Declaration}
    {r : Candidate × Pool} : fieldAttribute pool vertex field = .ok r ↔
      pool.takeBest field = .ok r := by
  rw [fieldAttribute_eq_mapError, mapError_eq_ok_iff]

/-- A field that fits nothing is reported with what was free. -/
theorem fieldAttribute_eq_error_iff {pool : Pool} {vertex : String} {field : Declaration}
    {stop : Stop} : fieldAttribute pool vertex field = .error stop ↔
      ∃ e, pool.takeBest field = .error e ∧ stop = .failed (.noMatch vertex e) := by
  rw [fieldAttribute_eq_mapError, mapError_eq_error_iff]

/-- **ONE FIELD**: what binding a field looks up, takes, computes and leaves. -/
theorem bindField_eq_ok_iff {types : TypeTable} {vertex : String} {field : Declaration}
    {s s' : Cursor} {b : Binding} :
    bindField types vertex field s = .ok (b, s') ↔
      ∃ t c rest offset, types.get? field.type = some t ∧
        s.pool.takeBest field = .ok (c, rest) ∧ align? s.finish t.align = .ok offset ∧
        offset + t.size < offsetLimit ∧
        b = ⟨field.name, c.name, c.location, t.format, t.components, offset⟩ ∧
        s' = ⟨rest, offset + t.size, max s.align t.align⟩ := by
  rw [bindField, bind_eq_ok_iff]
  constructor
  · rintro ⟨t, ht, h⟩
    obtain ⟨⟨c, rest⟩, hc, h⟩ := bind_eq_ok_iff.mp h
    obtain ⟨offset, hoffset, h⟩ := bind_eq_ok_iff.mp h
    obtain ⟨finish, hfinish, h⟩ := bind_eq_ok_iff.mp h
    obtain ⟨hfit, rfl⟩ := fit_eq_ok_iff.mp (faulting_eq_ok_iff.mp hfinish)
    obtain ⟨rfl, rfl⟩ := Prod.mk.inj (Except.ok.inj h)
    exact ⟨t, c, rest, offset, fieldType_eq_ok_iff.mp ht, fieldAttribute_eq_ok_iff.mp hc,
      faulting_eq_ok_iff.mp hoffset, hfit, rfl, rfl⟩
  · rintro ⟨t, c, rest, offset, ht, hc, hoffset, hfit, rfl, rfl⟩
    refine ⟨t, fieldType_eq_ok_iff.mpr ht, ?_⟩
    refine bind_eq_ok_iff.mpr ⟨(c, rest), fieldAttribute_eq_ok_iff.mpr hc, ?_⟩
    refine bind_eq_ok_iff.mpr ⟨offset, faulting_eq_ok_iff.mpr hoffset, ?_⟩
    refine bind_eq_ok_iff.mpr ⟨offset + t.size, ?_, rfl⟩
    exact faulting_eq_ok_iff.mpr (fit_eq_ok_iff.mpr ⟨hfit, rfl⟩)

/-- **TWO FAILURES**: a field fails if its type is unknown, or else if it fits no
    free attribute. -/
theorem bindField_eq_failed_iff {types : TypeTable} {vertex : String} {field : Declaration}
    {s : Cursor} {e : LayoutError} :
    bindField types vertex field s = .error (.failed e) ↔
      (types.get? field.type = none ∧ e = .unsupportedType vertex field.name field.type) ∨
      ∃ t cause, types.get? field.type = some t ∧ s.pool.takeBest field = .error cause ∧
        e = .noMatch vertex cause := by
  rw [bindField, bind_eq_error_iff]
  constructor
  · rintro (h | ⟨t, ht, h⟩)
    · obtain ⟨hnone, he⟩ := fieldType_eq_error_iff.mp h
      exact Or.inl ⟨hnone, Stop.failed.inj he⟩
    · rcases bind_eq_error_iff.mp h with h | ⟨⟨c, rest⟩, -, h⟩
      · obtain ⟨cause, htake, he⟩ := fieldAttribute_eq_error_iff.mp h
        exact Or.inr ⟨t, cause, fieldType_eq_ok_iff.mp ht, htake, Stop.failed.inj he⟩
      · -- only arithmetic is left, and arithmetic does not fail
        rcases bind_eq_error_iff.mp h with h | ⟨offset, -, h⟩
        · exact absurd h (faulting_ne_failed _ e)
        · rcases bind_eq_error_iff.mp h with h | ⟨finish, -, h⟩
          · exact absurd h (faulting_ne_failed _ e)
          · exact nomatch h
  · rintro (⟨hnone, rfl⟩ | ⟨t, cause, ht, htake, rfl⟩)
    · exact Or.inl (fieldType_eq_error_iff.mpr ⟨hnone, rfl⟩)
    · refine Or.inr ⟨t, fieldType_eq_ok_iff.mpr ht, ?_⟩
      exact bind_eq_error_iff.mpr (Or.inl (fieldAttribute_eq_error_iff.mpr ⟨cause, htake, rfl⟩))

/-! ## All fields -/

theorem bindFields_nil (types : TypeTable) (vertex : String) (s : Cursor) :
    bindFields types vertex [] s = .ok ([], s) := rfl

/-- A run succeeds exactly if its first field is bound and the others are bound
    behind it. -/
theorem bindFields_cons_eq_ok_iff {types : TypeTable} {vertex : String} {field : Declaration}
    {fields : List Declaration} {s last : Cursor} {bs : List Binding} :
    bindFields types vertex (field :: fields) s = .ok (bs, last) ↔
      ∃ b s' bs', bindField types vertex field s = .ok (b, s') ∧
        bindFields types vertex fields s' = .ok (bs', last) ∧ bs = b :: bs' := by
  rw [bindFields]
  exact bind_cons_eq_ok_iff (bindField types vertex field s) (bindFields types vertex fields)

/-- A run stops where its first field stops, or else where the others stop. -/
theorem bindFields_cons_eq_error_iff {types : TypeTable} {vertex : String} {field : Declaration}
    {fields : List Declaration} {s : Cursor} {stop : Stop} :
    bindFields types vertex (field :: fields) s = .error stop ↔
      bindField types vertex field s = .error stop ∨
      ∃ b s', bindField types vertex field s = .ok (b, s') ∧
        bindFields types vertex fields s' = .error stop := by
  rw [bindFields, bind_eq_error_iff]
  constructor
  · rintro (h | ⟨⟨b, s'⟩, hfield, h⟩)
    · exact Or.inl h
    · rcases bind_eq_error_iff.mp h with h | ⟨_, _, h⟩
      · exact Or.inr ⟨b, s', hfield, h⟩
      · exact nomatch h
  · rintro (h | ⟨b, s', hfield, h⟩)
    · exact Or.inl h
    · exact Or.inr ⟨(b, s'), hfield, bind_eq_error_iff.mpr (Or.inl h)⟩

/-- A plan is a run and a stride. -/
theorem ofVertex_eq_ok_iff {shader : String} {vertex : Vertex} {types : TypeTable} {plan : Plan} :
    ofVertex shader vertex types = .ok plan ↔
      ∃ bs s stride,
        bindFields types vertex.name vertex.fields (start shader vertex) = .ok (bs, s) ∧
        align? s.finish s.align = .ok stride ∧ plan = ⟨vertex.name, stride, bs⟩ := by
  rw [ofVertex, bind_eq_ok_iff]
  constructor
  · rintro ⟨⟨bs, s⟩, hrun, h⟩
    obtain ⟨stride, hstride, h⟩ := bind_eq_ok_iff.mp h
    exact ⟨bs, s, stride, hrun, faulting_eq_ok_iff.mp hstride, (Except.ok.inj h).symm⟩
  · rintro ⟨bs, s, stride, hrun, hstride, rfl⟩
    exact ⟨(bs, s), hrun, bind_eq_ok_iff.mpr ⟨stride, faulting_eq_ok_iff.mpr hstride, rfl⟩⟩

/-- A plan fails where its run fails. -/
theorem ofVertex_eq_failed_iff {shader : String} {vertex : Vertex} {types : TypeTable}
    {e : LayoutError} :
    ofVertex shader vertex types = .error (.failed e) ↔
      bindFields types vertex.name vertex.fields (start shader vertex) = .error (.failed e) := by
  rw [ofVertex, bind_eq_error_iff]
  constructor
  · rintro (h | ⟨⟨bs, s⟩, -, h⟩)
    · exact h
    · rcases bind_eq_error_iff.mp h with h | ⟨_, _, h⟩
      · exact absurd h (faulting_ne_failed _ e)
      · exact nomatch h
  · exact Or.inl

/-! ## Runs and sessions -/

/-- A run that succeeds is a session, and the table knows the types of its fields. -/
theorem takeAll_of_bindFields {types : TypeTable} {vertex : String} {fields : List Declaration}
    {s last : Cursor} {bs : List Binding}
    (h : bindFields types vertex fields s = .ok (bs, last)) :
    (∃ cs, s.pool.takeAll fields = .ok (cs, last.pool)) ∧
      ∀ field ∈ fields, ∃ t, types.get? field.type = some t := by
  induction fields generalizing s bs with
  | nil =>
      rw [bindFields_nil] at h
      obtain ⟨-, rfl⟩ := Prod.mk.inj (Except.ok.inj h)
      exact ⟨⟨[], Pool.takeAll_nil _⟩, fun field hmem => nomatch hmem⟩
  | cons field fields ih =>
      obtain ⟨b, s', bs', hfield, hfields, rfl⟩ := bindFields_cons_eq_ok_iff.mp h
      obtain ⟨t, c, rest, offset, ht, htake, -, -, -, rfl⟩ := bindField_eq_ok_iff.mp hfield
      obtain ⟨⟨cs, hcs⟩, htypes⟩ := ih hfields
      refine ⟨⟨c :: cs, Pool.takeAll_cons_eq_ok_iff.mpr ⟨c, rest, cs, htake, hcs, rfl⟩⟩, ?_⟩
      intro f hf
      rcases List.mem_cons.mp hf with rfl | hmem
      · exact ⟨t, ht⟩
      · exact htypes f hmem

/-- Where the session succeeds and the types are known, a run does not fail. -/
theorem bindFields_ne_failed {types : TypeTable} {vertex : String} {fields : List Declaration}
    {s : Cursor} {last : Pool} {cs : List Candidate}
    (htypes : ∀ field ∈ fields, ∃ t, types.get? field.type = some t)
    (h : s.pool.takeAll fields = .ok (cs, last)) (e : LayoutError) :
    bindFields types vertex fields s ≠ .error (.failed e) := by
  induction fields generalizing s cs with
  | nil =>
      rw [bindFields_nil]
      exact fun h => nomatch h
  | cons field fields ih =>
      obtain ⟨c, rest, cs', htake, hall, rfl⟩ := Pool.takeAll_cons_eq_ok_iff.mp h
      intro hfail
      rcases bindFields_cons_eq_error_iff.mp hfail with hstop | ⟨b, s', hfield, hrest⟩
      · rcases bindField_eq_failed_iff.mp hstop with ⟨hnone, -⟩ | ⟨_, cause, -, herror, -⟩
        · obtain ⟨t, ht⟩ := htypes field (List.mem_cons_self ..)
          rw [hnone] at ht
          exact nomatch ht
        · rw [htake] at herror
          exact nomatch herror
      · -- run and session take the same attribute, so the pools stay the same
        obtain ⟨_, c', rest', _, -, htake', -, -, -, rfl⟩ := bindField_eq_ok_iff.mp hfield
        rw [htake] at htake'
        obtain ⟨-, rfl⟩ := Prod.mk.inj (Except.ok.inj htake')
        exact ih (fun f hf => htypes f (List.mem_cons_of_mem field hf)) hall hrest

end VertexBinding.Plan
