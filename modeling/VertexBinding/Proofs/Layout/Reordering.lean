import VertexBinding.Proofs.Layout.Exactness
import VertexBinding.Proofs.Matching.Independence

/-! # Reordering — the order of fields that do not compete moves only their places

    The order of the fields decides where they lie.  It decides what they are bound to
    only if they compete: otherwise each is bound to what it would be bound to alone,
    and a vertex that can be planned in one order can be planned in every other,
    unless its numbers grow too large. -/

namespace VertexBinding

/-- A binding apart from the place of its field. -/
def Binding.unplaced (b : Binding) : Binding :=
  { b with offset := 0 }

namespace Plan

/-- How a field is bound that has a pool for itself, apart from its place. -/
def boundAlone (types : TypeTable) (pool : Pool) (field : Declaration) : Option Binding := do
  let t ← types.get? field.type
  let c ← pool.best? field
  return ⟨field.name, c.name, c.location, t.format, t.components, 0⟩

variable {types : TypeTable} {pool : Pool} {fields : List Declaration}

/-- Fields that take what they would take alone are bound as they would be alone. -/
theorem unplaced_bindingsFrom {ts : List FieldType} {cs : List Candidate}
    (htyped : List.Forall₂ (fun field t => types.get? field.type = some t) fields ts)
    (htaken : cs.map some = fields.map pool.best?) (finish : Nat) :
    (bindingsFrom finish fields ts cs).map (fun b => some b.unplaced)
      = fields.map (boundAlone types pool) := by
  induction htyped generalizing cs finish with
  | nil => rfl
  | @cons field t fields ts ht _ ih =>
      cases cs with
      | nil => exact nomatch htaken
      | cons c cs =>
          obtain ⟨hc, hcs⟩ := List.cons.inj htaken
          have hbound : boundAlone types pool field
              = some ⟨field.name, c.name, c.location, t.format, t.components, 0⟩ := by
            rw [boundAlone, ht, ← hc]
            rfl
          rw [List.map_cons, hbound, ← ih hcs (t.finishAfter finish)]
          rfl

/-- A plan without fault exists exactly if the types are known and the session of the
    fields succeeds. -/
theorem exists_plan_iff {shader : String} {vertex : Vertex}
    (hfault : ∀ f, ofVertex shader vertex types ≠ .error (.faulted f)) :
    (∃ plan, ofVertex shader vertex types = .ok plan) ↔
      (∀ field ∈ vertex.fields, ∃ t, types.get? field.type = some t) ∧
        ∃ r, (Pool.ofShader shader).takeAll vertex.fields = .ok r := by
  constructor
  · rintro ⟨plan, hplan⟩
    obtain ⟨bs, s, stride, hrun, -, -⟩ := ofVertex_eq_ok_iff.mp hplan
    obtain ⟨⟨cs, hcs⟩, htypes⟩ := takeAll_of_bindFields hrun
    exact ⟨htypes, (cs, s.pool), hcs⟩
  · rintro ⟨htypes, ⟨cs, last⟩, hall⟩
    cases hplan : ofVertex shader vertex types with
    | ok plan => exact ⟨plan, rfl⟩
    | error stop =>
        cases stop with
        | failed e =>
            exact absurd (ofVertex_eq_failed_iff.mp hplan)
              (bindFields_ne_failed (s := start shader vertex) htypes hall e)
        | faulted f => exact absurd hplan (hfault f)

/-- The bindings of a plan for independent fields. -/
theorem unplaced_of_plan {shader : String} {vertex : Vertex} {plan : Plan}
    (h : vertex.fields.Pairwise (Pool.Independent (Pool.ofShader shader)))
    (hplan : ofVertex shader vertex types = .ok plan) :
    plan.bindings.map (fun b => some b.unplaced)
      = vertex.fields.map (boundAlone types (Pool.ofShader shader)) := by
  obtain ⟨ts, cs, rest, hserved, -, rfl⟩ := served_of_plan hplan
  have heach := (Pool.takeAll_eq_ok_iff.mp hserved.taken).symm.trans
    (Pool.takeEach_of_independent h)
  exact unplaced_bindingsFrom hserved.typed (Prod.mk.inj heach).1 0

/-- **ORDER DOES NOT MATTER WITHOUT COMPETITION**: independent fields take the same from a
    pool in whatever order they come, and leave the same.  If no number grows too
    large, a vertex with such fields can be planned in one order exactly if it can in the
    other, and each field is bound alike but for its place. -/
theorem reordering_keeps_bindings {pool : Pool} {fields fields' : List Declaration}
    (hperm : fields.Perm fields') (hindependent : fields.Pairwise (Pool.Independent pool)) :
    (∃ answer last, pool.takeEach fields = (fields.map answer, last) ∧
        pool.takeEach fields' = (fields'.map answer, last)) ∧
      ∀ (shader : String) (vertex vertex' : Vertex) (types : TypeTable),
        Pool.ofShader shader = pool → vertex.fields = fields → vertex'.fields = fields' →
        (∀ f, ofVertex shader vertex types ≠ .error (.faulted f)) →
        (∀ f, ofVertex shader vertex' types ≠ .error (.faulted f)) →
        ((∃ plan, ofVertex shader vertex types = .ok plan) ↔
          ∃ plan', ofVertex shader vertex' types = .ok plan') ∧
        ∃ bound : Declaration → Option Binding,
          (∀ plan, ofVertex shader vertex types = .ok plan →
            plan.bindings.map (fun b => some b.unplaced) = fields.map bound) ∧
          ∀ plan', ofVertex shader vertex' types = .ok plan' →
            plan'.bindings.map (fun b => some b.unplaced) = fields'.map bound := by
  have hindependent' : fields'.Pairwise (Pool.Independent pool) :=
    (hperm.pairwise_iff Pool.Independent.symm).mp hindependent
  constructor
  · refine ⟨pool.best?, (pool.takeEach fields).2, ?_, Pool.takeEach_perm hperm hindependent⟩
    rw [Pool.takeEach_of_independent hindependent]
  · rintro shader vertex vertex' types rfl rfl rfl hfault hfault'
    refine ⟨?_, boundAlone types (Pool.ofShader shader), ?_, ?_⟩
    · rw [exists_plan_iff hfault, exists_plan_iff hfault',
        Pool.exists_takeAll_iff_of_independent hindependent,
        Pool.exists_takeAll_iff_of_independent hindependent']
      simp only [hperm.mem_iff]
    · exact fun plan hplan => unplaced_of_plan hindependent hplan
    · exact fun plan' hplan' => unplaced_of_plan hindependent' hplan'

/-- Two fields in both orders, with a tie for one of them. -/
theorem reordering_keeps_bindings_tied :
    (Pool.ofShader "attribute vec2 a_UV; attribute vec3 a_Pos; attribute vec2 a_Tex;").takeEach
        [⟨"uv", "[f32; 2]"⟩, ⟨"position", "[f32; 3]"⟩]
      = ([some ⟨0, ⟨"a_UV", "vec2"⟩⟩, some ⟨1, ⟨"a_Pos", "vec3"⟩⟩], ⟨[⟨2, ⟨"a_Tex", "vec2"⟩⟩]⟩) ∧
    ∃ plan, ofVertex "attribute vec2 a_UV; attribute vec3 a_Pos; attribute vec2 a_Tex;"
      ⟨"Vertex", [⟨"uv", "[f32; 2]"⟩, ⟨"position", "[f32; 3]"⟩], 1⟩ TypeTable.standard = .ok plan := by
  have hperm : [(⟨"position", "[f32; 3]"⟩ : Declaration), ⟨"uv", "[f32; 2]"⟩].Perm
      [⟨"uv", "[f32; 2]"⟩, ⟨"position", "[f32; 3]"⟩] := by
    decide
  have hindependent : [(⟨"position", "[f32; 3]"⟩ : Declaration), ⟨"uv", "[f32; 2]"⟩].Pairwise
      (Pool.Independent
        (Pool.ofShader "attribute vec2 a_UV; attribute vec3 a_Pos; attribute vec2 a_Tex;")) := by
    decide +kernel
  obtain ⟨⟨answer, last, hone, hother⟩, hplans⟩ := reordering_keeps_bindings hperm hindependent
  constructor
  · have hone' : (Pool.ofShader
        "attribute vec2 a_UV; attribute vec3 a_Pos; attribute vec2 a_Tex;").takeEach
          [⟨"position", "[f32; 3]"⟩, ⟨"uv", "[f32; 2]"⟩]
        = ([some ⟨1, ⟨"a_Pos", "vec3"⟩⟩, some ⟨0, ⟨"a_UV", "vec2"⟩⟩],
          ⟨[⟨2, ⟨"a_Tex", "vec2"⟩⟩]⟩) := by
      decide +kernel
    obtain ⟨hanswers, rfl⟩ := Prod.mk.inj (hone.symm.trans hone')
    obtain ⟨hposition, huv⟩ := List.cons.inj hanswers
    obtain ⟨huv, -⟩ := List.cons.inj huv
    rw [hother, List.map_cons, List.map_cons, List.map_nil, hposition, huv]
  · have hplan : ofVertex "attribute vec2 a_UV; attribute vec3 a_Pos; attribute vec2 a_Tex;"
        ⟨"Vertex", [⟨"position", "[f32; 3]"⟩, ⟨"uv", "[f32; 2]"⟩], 1⟩ TypeTable.standard
        = .ok ⟨"Vertex", 20, [⟨"position", "a_Pos", 1, .float32x3, 3, 0⟩,
            ⟨"uv", "a_UV", 0, .float32x2, 2, 12⟩]⟩ := by
      decide +kernel
    have hplan' : ∀ f, ofVertex "attribute vec2 a_UV; attribute vec3 a_Pos; attribute vec2 a_Tex;"
        ⟨"Vertex", [⟨"uv", "[f32; 2]"⟩, ⟨"position", "[f32; 3]"⟩], 1⟩ TypeTable.standard
        ≠ .error (.faulted f) := by
      intro f
      cases f with
      | zeroAlignment => decide +kernel
      | overflow => decide +kernel
    refine (hplans _ _ _ _ rfl rfl rfl ?_ hplan').1.mp ⟨_, hplan⟩
    intro f h
    rw [hplan] at h
    exact nomatch h

end Plan

end VertexBinding
