import VertexBinding.Proofs.Emission.Run
import VertexBinding.Proofs.Layout.Leading
import VertexBinding.Proofs.Matching.Leftovers

/-! # The first failure — what a vertex that cannot be written is refused for

    The fields of a vertex are checked in order, each for its type and then for an
    attribute; behind all of them the name of the vertex is checked, and then the names
    of the fields in order.  `FirstFailure` lists the four ways in which one of these
    checks can be the first that is not passed, each with the failure that reports it.

    The two checks of the fields are those of the plan, the two checks of names those of
    the block (`firstFailure_iff`).  Where no number is too large, the failure of a run is
    the first failure and nothing else (`vertexLayout_first_failure`). -/

namespace VertexBinding

open Emission Plan

/-- A check that the vertex does not pass while it passes every check in front of it, and
    the failure that reports it. -/
inductive FirstFailure (shader : String) (types : TypeTable) (vertex : Vertex) :
    LayoutError → Prop where
  /-- The table does not know the type of a field. -/
  | unknownType {before after : List Declaration} {field : Declaration} {ts : List FieldType}
      {cs : List Candidate} {rest : Pool} (hfields : vertex.fields = before ++ field :: after)
      (hserved : Served types (Pool.ofShader shader) before ts cs rest)
      (htype : types.get? field.type = none) :
      FirstFailure shader types vertex (.unsupportedType vertex.name field.name field.type)
  /-- A field of a known type fits none of the attributes that are left. -/
  | unmatched {before after : List Declaration} {field : Declaration} {ts : List FieldType}
      {cs : List Candidate} {rest : Pool} {t : FieldType}
      (hfields : vertex.fields = before ++ field :: after)
      (hserved : Served types (Pool.ofShader shader) before ts cs rest)
      (htype : types.get? field.type = some t)
      (hzero : ∀ c ∈ rest.candidates, Pool.score field c = 0) :
      FirstFailure shader types vertex (.noMatch vertex.name ⟨field.name, rest.names⟩)
  /-- The vertex has a plan, and its name is no path. -/
  | vertexName {plan : Plan} (hplan : ofVertex shader vertex types = .ok plan)
      (hpath : path? vertex.name = none) :
      FirstFailure shader types vertex (.invalidIdentifier vertex.name)
  /-- The vertex has a plan and its name is a path, and a field cannot be written. -/
  | fieldName {plan : Plan} {path : List Source.Token} {before after : List Declaration}
      {field : Declaration} (hplan : ofVertex shader vertex types = .ok plan)
      (hpath : path? vertex.name = some path) (hfields : vertex.fields = before ++ field :: after)
      (hbefore : ∀ f ∈ before, Writable f.name) (hfield : ¬ Writable field.name) :
      FirstFailure shader types vertex (.invalidIdentifier field.name)

variable {shader : String} {types : TypeTable} {vertex : Vertex} {options : WriteOptions}
  {plan : Plan} {e : LayoutError}

/-! ## Names -/

theorem fields_of_plan (hplan : ofVertex shader vertex types = .ok plan) :
    plan.vertex = vertex.name ∧
      plan.bindings.map Binding.field = vertex.fields.map Declaration.name := by
  obtain ⟨ts, cs, rest, hserved, -, rfl⟩ := served_of_plan hplan
  exact ⟨rfl, hserved.fieldNames 0⟩

/-- Where the first exception among names stands does not depend on whose names they are. -/
theorem exists_first_of_map_eq {α β γ : Type} {f : α → γ} {g : β → γ} {P Q : γ → Prop}
    {xs : List α} {ys : List β} (hmap : xs.map f = ys.map g)
    (h : ∃ before x after, xs = before ++ x :: after ∧ (∀ x' ∈ before, P (f x')) ∧ Q (f x)) :
    ∃ before y after, ys = before ++ y :: after ∧ (∀ y' ∈ before, P (g y')) ∧ Q (g y) := by
  obtain ⟨before, x, after, rfl, hbefore, hx⟩ := h
  rw [List.map_append, List.map_cons] at hmap
  obtain ⟨before', back, rfl, hfront, hback⟩ := List.map_eq_append_iff.mp hmap.symm
  obtain ⟨y, after', rfl, hy, -⟩ := List.map_eq_cons_iff.mp hback
  refine ⟨before', y, after', rfl, ?_, hy.symm ▸ hx⟩
  intro y' hy'
  have hmem : g y' ∈ before.map f := hfront ▸ List.mem_map_of_mem hy'
  obtain ⟨x', hx', hname⟩ := List.mem_map.mp hmem
  exact hname ▸ hbefore x' hx'

/-- The first binding that cannot be written is that of the first field that cannot. -/
theorem entriesOf_eq_error_iff_fields (hplan : ofVertex shader vertex types = .ok plan) :
    entriesOf plan.bindings = .error e ↔ ∃ before field after,
      vertex.fields = before ++ field :: after ∧ (∀ f ∈ before, Writable f.name) ∧
      ¬ Writable field.name ∧ e = .invalidIdentifier field.name := by
  have hnames := (fields_of_plan hplan).2
  rw [entriesOf_eq_error_iff]
  constructor
  · exact exists_first_of_map_eq (P := Writable)
      (Q := fun name => ¬ Writable name ∧ e = .invalidIdentifier name) hnames
  · exact exists_first_of_map_eq (P := Writable)
      (Q := fun name => ¬ Writable name ∧ e = .invalidIdentifier name) hnames.symm

/-! ## Failures -/

/-- **TWO STAGES**: the first failure is the refusal of a field, or else that of the block
    of the plan. -/
theorem firstFailure_iff (names : Bool) :
    FirstFailure shader types vertex e ↔
      Refused types (Pool.ofShader shader) vertex e ∨
      ∃ plan, ofVertex shader vertex types = .ok plan ∧ ImplBlock.ofPlan names plan = .error e := by
  constructor
  · intro h
    cases h with
    | unknownType hfields hserved htype =>
        exact Or.inl ⟨_, _, _, _, _, _, hfields, hserved, Or.inl ⟨htype, rfl⟩⟩
    | unmatched hfields hserved htype hzero =>
        refine Or.inl ⟨_, _, _, _, _, _, hfields, hserved, Or.inr ⟨_, _, htype, ?_, rfl⟩⟩
        exact Pool.takeBest_eq_error_iff.mpr ⟨hzero, rfl⟩
    | @vertexName plan hplan hpath =>
        refine Or.inr ⟨plan, hplan, ImplBlock.ofPlan_eq_error_iff.mpr (Or.inl ?_)⟩
        rw [(fields_of_plan hplan).1]
        exact ⟨hpath, rfl⟩
    | @fieldName plan path before after field hplan hpath hfields hbefore hfield =>
        refine Or.inr ⟨plan, hplan, ImplBlock.ofPlan_eq_error_iff.mpr (Or.inr ⟨path, ?_, ?_⟩)⟩
        · rw [(fields_of_plan hplan).1]
          exact hpath
        · exact (entriesOf_eq_error_iff_fields hplan).mpr
            ⟨before, field, after, hfields, hbefore, hfield, rfl⟩
  · rintro (⟨before, field, after, ts, cs, rest, hfields, hserved, hrefused⟩ | ⟨plan, hplan, hblock⟩)
    · rcases hrefused with ⟨htype, rfl⟩ | ⟨t, cause, htype, htake, rfl⟩
      · exact .unknownType hfields hserved htype
      · obtain ⟨hzero, rfl⟩ := Pool.takeBest_eq_error_iff.mp htake
        exact .unmatched hfields hserved htype hzero
    · rw [ImplBlock.ofPlan_eq_error_iff, (fields_of_plan hplan).1,
        entriesOf_eq_error_iff_fields hplan] at hblock
      rcases hblock with ⟨hpath, rfl⟩ | ⟨path, hpath, before, field, after, hfields, hnames⟩
      · exact .vertexName hplan hpath
      · obtain ⟨hbefore, hfield, rfl⟩ := hnames
        exact .fieldName hplan hpath hfields hbefore hfield

/-- Planning faults only where writing does. -/
theorem ofVertex_ne_faulted
    (hfault : ∀ f, vertexLayout shader vertex types options ≠ .error (.faulted f)) :
    ∀ f, ofVertex shader vertex types ≠ .error (.faulted f) := by
  intro f h
  refine hfault f ?_
  rw [vertexLayout_eq_map, map_eq_error_iff, blockOf_eq_error_iff]
  exact Or.inl h

theorem vertexLayout_eq_failed_iff
    (hfault : ∀ f, vertexLayout shader vertex types options ≠ .error (.faulted f)) :
    vertexLayout shader vertex types options = .error (.failed e) ↔
      FirstFailure shader types vertex e := by
  rw [vertexLayout_eq_map, map_eq_error_iff, blockOf_eq_error_iff,
    ofVertex_eq_failed_iff_refused (ofVertex_ne_faulted hfault),
    firstFailure_iff options.attributeNames]
  simp only [Stop.failed.injEq, exists_and_left, exists_eq_right']

/-- **THE FIRST FAILURE**: where no number is too large, writing a vertex fails with the
    first failure, and gives a text if there is none.  What a refused field is offered are
    the names of exactly the attributes that the fields in front of it did not take.  And
    what is found out about leading fields stays true with more fields behind them. -/
theorem vertexLayout_first_failure
    (hfault : ∀ f, vertexLayout shader vertex types options ≠ .error (.faulted f)) :
    (∀ e, vertexLayout shader vertex types options = .error (.failed e) ↔
        FirstFailure shader types vertex e) ∧
      ((∃ text, vertexLayout shader vertex types options = .ok text) ↔
        ∀ e, ¬ FirstFailure shader types vertex e) ∧
      (∀ before ts cs rest, Served types (Pool.ofShader shader) before ts cs rest →
        ∃ taken : List Nat, taken.Nodup ∧ Pool.MadeAt (Shader.attributes shader) taken cs ∧
          rest.names = Pool.openNames (Shader.attributes shader) taken) ∧
      ∀ more,
        (∀ e, ofVertex shader vertex types = .error (.failed e) →
          ofVertex shader { vertex with fields := vertex.fields ++ more } types
            = .error (.failed e)) ∧
        ∀ plan', ofVertex shader { vertex with fields := vertex.fields ++ more } types = .ok plan' →
          ∃ plan, ofVertex shader vertex types = .ok plan ∧ plan.bindings <+: plan'.bindings := by
  refine ⟨fun e => vertexLayout_eq_failed_iff hfault, ?_, ?_, ?_⟩
  · constructor
    · rintro ⟨text, htext⟩ e hfirst
      exact nomatch htext.symm.trans ((vertexLayout_eq_failed_iff hfault).mpr hfirst)
    · intro hnone
      cases hlayout : vertexLayout shader vertex types options with
      | ok text => exact ⟨text, rfl⟩
      | error stop =>
          cases stop with
          | failed e => exact absurd ((vertexLayout_eq_failed_iff hfault).mp hlayout) (hnone e)
          | faulted f => exact absurd hlayout (hfault f)
  · intro before ts cs rest hserved
    exact Pool.names_of_takeAll hserved.taken
  · intro more
    refine ⟨fun e h => ofVertex_append_of_failed h more, fun plan' h => ?_⟩
    exact exists_plan_of_append (ofVertex_ne_faulted hfault) h

/-- The second field fits nothing that is left; the unknown type behind it and the name of
    the vertex, which is no path, are not looked at. -/
theorem vertexLayout_first_failure_unmatched :
    vertexLayout "attribute vec3 a_Normal; attribute vec2 a_UV; attribute vec4 a_Color;"
        ⟨"not a path", [⟨"uv", "[f32; 2]"⟩, ⟨"tangent", "[f32; 4]"⟩, ⟨"normal", "[f16; 3]"⟩], 1⟩
        TypeTable.standard {}
      = .error (.failed (.noMatch "not a path" ⟨"tangent", ["a_Normal", "a_Color"]⟩)) := by
  have hfault : ∀ f, vertexLayout
      "attribute vec3 a_Normal; attribute vec2 a_UV; attribute vec4 a_Color;"
      ⟨"not a path", [⟨"uv", "[f32; 2]"⟩, ⟨"tangent", "[f32; 4]"⟩, ⟨"normal", "[f16; 3]"⟩], 1⟩
      TypeTable.standard {} ≠ .error (.faulted f) := by
    intro f
    cases f <;> decide +kernel
  have huv : Served TypeTable.standard
      (Pool.ofShader "attribute vec3 a_Normal; attribute vec2 a_UV; attribute vec4 a_Color;")
      [⟨"uv", "[f32; 2]"⟩] [.ofFormat .float32x2 2 4] [⟨1, ⟨"a_UV", "vec2"⟩⟩]
      ⟨[⟨0, ⟨"a_Normal", "vec3"⟩⟩, ⟨2, ⟨"a_Color", "vec4"⟩⟩]⟩ := by
    refine ⟨List.Forall₂.cons ?_ List.Forall₂.nil, ?_⟩ <;> decide +kernel
  have htype : TypeTable.standard.get? "[f32; 4]" = some (.ofFormat .float32x4 4 4) := by
    decide +kernel
  have hzero : ∀ c ∈ [⟨0, ⟨"a_Normal", "vec3"⟩⟩, (⟨2, ⟨"a_Color", "vec4"⟩⟩ : Candidate)],
      Pool.score ⟨"tangent", "[f32; 4]"⟩ c = 0 := by
    decide +kernel
  have hfirst : FirstFailure
      "attribute vec3 a_Normal; attribute vec2 a_UV; attribute vec4 a_Color;" TypeTable.standard
      ⟨"not a path", [⟨"uv", "[f32; 2]"⟩, ⟨"tangent", "[f32; 4]"⟩, ⟨"normal", "[f16; 3]"⟩], 1⟩
      (.noMatch "not a path" ⟨"tangent", ["a_Normal", "a_Color"]⟩) :=
    @FirstFailure.unmatched _ _ _ [⟨"uv", "[f32; 2]"⟩] [⟨"normal", "[f16; 3]"⟩]
      ⟨"tangent", "[f32; 4]"⟩ _ _ _ _ rfl huv htype hzero
  exact ((vertexLayout_first_failure hfault).1 _).mpr hfirst

end VertexBinding
