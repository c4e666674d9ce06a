import VertexBinding.Proofs.Layout.Exactness

/-! # Leading fields — what comes behind a field does not change how it is bound

    A run binds its fields from the front, and what it knows at a field comes from the
    fields in front of it only.  So a run over some fields is the beginning of every run
    over more: it stops at the same field (`bindFields_append_of_stop`), or its bindings
    come first (`exists_bindings_of_append`).

    Where no number is too large, a plan fails exactly if some field is refused behind
    fields that are served (`ofVertex_eq_failed_iff_refused`). -/

namespace VertexBinding.Plan

variable {types : TypeTable} {vertex : String} {fields : List Declaration} {s last : Cursor}
  {bs : List Binding} {shader : String} {v : Vertex} {plan : Plan} {e : LayoutError}

/-! ## Runs -/

theorem bindFields_append_of_stop {stop : Stop} (h : bindFields types vertex fields s = .error stop)
    (more : List Declaration) : bindFields types vertex (fields ++ more) s = .error stop := by
  obtain ⟨before, field, after, bs, s', rfl, hbefore, hstop⟩ := bindFields_eq_error_iff.mp h
  refine bindFields_eq_error_iff.mpr ⟨before, field, after ++ more, bs, s', ?_, hbefore, hstop⟩
  rw [List.append_assoc, List.cons_append]

theorem exists_bindings_of_append {more : List Declaration}
    (h : bindFields types vertex (fields ++ more) s = .ok (bs, last)) :
    ∃ bs' s', bindFields types vertex fields s = .ok (bs', s') ∧ bs' <+: bs := by
  induction fields generalizing s bs with
  | nil => exact ⟨[], s, bindFields_nil types vertex s, List.nil_prefix⟩
  | cons field fields ih =>
      obtain ⟨b, s₁, bs₁, hfield, hfields, rfl⟩ := bindFields_cons_eq_ok_iff.mp h
      obtain ⟨bs', s', hrun, hprefix⟩ := ih hfields
      refine ⟨b :: bs', s', bindFields_cons_eq_ok_iff.mpr ⟨b, s₁, bs', hfield, hrun, rfl⟩, ?_⟩
      exact (List.prefix_cons_inj b).mpr hprefix

/-! ## Plans -/

/-- **THE SAME FAILURE** for a vertex with more fields. -/
theorem ofVertex_append_of_failed (h : ofVertex shader v types = .error (.failed e))
    (more : List Declaration) :
    ofVertex shader { v with fields := v.fields ++ more } types = .error (.failed e) := by
  rw [ofVertex_eq_failed_iff] at h ⊢
  exact bindFields_append_of_stop h more

/-- **THE SAME BINDINGS** for a vertex with more fields, and more behind them. -/
theorem exists_plan_of_append {more : List Declaration}
    (hfault : ∀ f, ofVertex shader v types ≠ .error (.faulted f))
    (h : ofVertex shader { v with fields := v.fields ++ more } types = .ok plan) :
    ∃ plan', ofVertex shader v types = .ok plan' ∧ plan'.bindings <+: plan.bindings := by
  obtain ⟨bs, s, stride, hrun, -, rfl⟩ := ofVertex_eq_ok_iff.mp h
  obtain ⟨bs', s', hrun', hprefix⟩ := exists_bindings_of_append hrun
  have hplan := ofVertex_of_run (v := v) hrun'
  cases hstride : align? s'.finish s'.align with
  | ok stride' =>
      rw [hstride] at hplan
      exact ⟨_, hplan, hprefix⟩
  | error f =>
      rw [hstride] at hplan
      exact absurd hplan (hfault f)

/-! ## Refusals -/

theorem Served.exists_type {pool rest : Pool} {ts : List FieldType} {cs : List Candidate}
    (h : Served types pool fields ts cs rest) :
    ∀ field ∈ fields, ∃ t, types.get? field.type = some t := by
  have htyped := h.typed
  clear h
  induction htyped with
  | nil => exact nofun
  | cons ht _ ih => exact List.forall_mem_cons.mpr ⟨⟨_, ht⟩, ih⟩

/-- **THE FIRST REFUSAL**: without a fault, a plan fails exactly if a field is refused behind
    fields that are all served. -/
theorem ofVertex_eq_failed_iff_refused
    (hfault : ∀ f, ofVertex shader v types ≠ .error (.faulted f)) :
    ofVertex shader v types = .error (.failed e) ↔ Refused types (Pool.ofShader shader) v e := by
  refine ⟨refused_of_failed, ?_⟩
  rintro ⟨before, field, after, ts, cs, rest, hfields, hserved, hrefused⟩
  cases hrun : bindFields types v.name before (start shader v) with
  | ok r =>
      obtain ⟨bs, s⟩ := r
      obtain ⟨ts', cs', hserved', -⟩ := bindFields_eq_ok_iff.mp hrun
      -- the session leaves one pool, so the run comes to the field with the same
      obtain ⟨-, rfl⟩ := Prod.mk.inj (Except.ok.inj (hserved.taken.symm.trans hserved'.taken))
      rw [ofVertex_eq_failed_iff, bindFields_eq_error_iff]
      exact ⟨before, field, after, bs, s, hfields, hrun, bindField_eq_failed_iff.mpr hrefused⟩
  | error stop =>
      cases stop with
      | failed e' =>
          exact absurd hrun (bindFields_ne_failed (s := start shader v) hserved.exists_type
            hserved.taken e')
      | faulted f =>
          refine absurd (ofVertex_of_stop ?_) (hfault f)
          rw [hfields]
          exact bindFields_append_of_stop hrun _

end VertexBinding.Plan
