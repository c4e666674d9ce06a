import VertexBinding.Proofs.Layout.Run
import VertexBinding.Proofs.Matching.Locations
import Mathlib.Data.List.Forall2

/-! # Soundness of plans — every binding is what it claims to be

    A binding is `Sound` for its field if its location leads back to a declaration
    of its attribute, its format is that of the field's type, and the two names
    share a word.  A run keeps the pool unclaimed, so no location is given twice and
    what is left over is what no binding names. -/

namespace VertexBinding.Plan

open Naming Pool

/-- A binding that binds its field to a declaration of the shader. -/
structure Sound (declared : List Declaration) (types : TypeTable) (field : Declaration)
    (b : Binding) : Prop where
  /-- The binding is the field's. -/
  field_eq : b.field = field.name
  /-- The location is the index of a declaration of the attribute. -/
  located : ∃ d, declared[b.location]? = some d ∧ d.name = b.attributeName
  /-- Format and components are those of the field's type. -/
  typed : ∃ t, types.get? field.type = some t ∧ b.format = t.format ∧
    b.components = t.components
  /-- Field and attribute share a word that is not made of numbers only. -/
  related : ∃ w, w ∈ fieldWords field.name ∧ w ∈ attributeWords b.attributeName ∧
    isNumeral w = false

/-- **STEP**: binding a field to what is unclaimed is sound and claims one location. -/
theorem bindField_sound {declared : List Declaration} {types : TypeTable} {vertex : String}
    {field : Declaration} {s s' : Cursor} {b : Binding} {taken : List Nat}
    (hpool : s.pool.candidates = unclaimed declared taken)
    (h : bindField types vertex field s = .ok (b, s')) :
    Sound declared types field b ∧ b.location ∉ taken ∧
      s'.pool.candidates = unclaimed declared (taken ++ [b.location]) := by
  obtain ⟨t, c, rest, offset, ht, htake, -, -, rfl, rfl⟩ := bindField_eq_ok_iff.mp h
  obtain ⟨hmem, hpos, hrest⟩ := takeBest_unclaimed hpool htake
  obtain ⟨hdeclared, htaken⟩ := mem_unclaimed.mp hmem
  refine ⟨⟨rfl, ⟨c.declaration, hdeclared, rfl⟩, ⟨t, ht, rfl, rfl⟩, ?_⟩, htaken, hrest⟩
  exact wordAffinity_pos_iff.mp hpos

/-- **RUN**: binding fields to what is unclaimed is sound and claims new locations only,
    each once. -/
theorem bindFields_sound {declared : List Declaration} {types : TypeTable} {vertex : String}
    {fields : List Declaration} {s last : Cursor} {bs : List Binding} {taken : List Nat}
    (hpool : s.pool.candidates = unclaimed declared taken)
    (h : bindFields types vertex fields s = .ok (bs, last)) :
    List.Forall₂ (Sound declared types) fields bs ∧ (bs.map Binding.location).Nodup ∧
      (∀ l ∈ bs.map Binding.location, l ∉ taken) ∧
      last.pool.candidates = unclaimed declared (taken ++ bs.map Binding.location) := by
  induction fields generalizing s bs taken with
  | nil =>
      rw [bindFields_nil] at h
      obtain ⟨rfl, rfl⟩ := Prod.mk.inj (Except.ok.inj h)
      refine ⟨.nil, List.nodup_nil, (fun l hl => nomatch hl), ?_⟩
      rw [List.map_nil, List.append_nil]
      exact hpool
  | cons field fields ih =>
      obtain ⟨b, s', bs', hfield, hfields, rfl⟩ := bindFields_cons_eq_ok_iff.mp h
      obtain ⟨hsound, hnew, hpool'⟩ := bindField_sound hpool hfield
      obtain ⟨hall, hnodup, hfresh, hlast⟩ := ih hpool' hfields
      refine ⟨.cons hsound hall, ?_, ?_, ?_⟩
      · -- what this field takes is taken for every later field
        rw [List.map_cons, List.nodup_cons]
        refine ⟨?_, hnodup⟩
        intro hmem
        exact hfresh b.location hmem (List.mem_append_right _ (List.mem_singleton.mpr rfl))
      · intro l hl
        rcases List.mem_cons.mp hl with rfl | hmem
        · exact hnew
        · exact fun htaken => hfresh l hmem (List.mem_append_left _ htaken)
      · rw [hlast, List.map_cons, List.append_assoc, List.singleton_append]

/-- **SOUND PLANS**: a plan binds every field, in order, to a declaration of the shader
    that suits it; no two fields share a location; and the run leaves over exactly the
    attributes that no binding names, in the order of their declarations. -/
theorem ofVertex_sound {shader : String} {vertex : Vertex} {types : TypeTable} {plan : Plan}
    (hcount : (Shader.attributes shader).length ≤ locationLimit)
    (hplan : ofVertex shader vertex types = .ok plan) :
    List.Forall₂ (Sound (Shader.attributes shader) types) vertex.fields plan.bindings ∧
      (plan.bindings.map Binding.location).Nodup ∧
      ∃ last, bindFields types vertex.name vertex.fields (start shader vertex)
          = .ok (plan.bindings, last) ∧
        last.pool.candidates
          = unclaimed (Shader.attributes shader) (plan.bindings.map Binding.location) := by
  obtain ⟨bs, last, stride, hrun, -, rfl⟩ := ofVertex_eq_ok_iff.mp hplan
  have hstart : (start shader vertex).pool.candidates
      = unclaimed (Shader.attributes shader) [] := candidates_ofDeclarations hcount
  obtain ⟨hsound, hnodup, -, hlast⟩ := bindFields_sound hstart hrun
  exact ⟨hsound, hnodup, last, hrun, hlast⟩

/-- Two attributes of one name, a tie, and a number in both names. -/
theorem ofVertex_sound_tie :
    ∃ last, bindFields TypeTable.standard "Vertex"
        [⟨"uv1", "[f32; 2]"⟩, ⟨"tex_coord", "[f32; 2]"⟩]
        (start "attribute vec2 a_UV; attribute vec2 a_UV1; attribute vec2 a_UV; attribute float x1;"
          ⟨"Vertex", [⟨"uv1", "[f32; 2]"⟩, ⟨"tex_coord", "[f32; 2]"⟩], 1⟩)
        = .ok ([⟨"uv1", "a_UV1", 1, .float32x2, 2, 0⟩, ⟨"tex_coord", "a_UV", 0, .float32x2, 2, 8⟩],
            last) ∧
      last.pool.candidates = [⟨2, ⟨"a_UV", "vec2"⟩⟩, ⟨3, ⟨"x1", "float"⟩⟩] := by
  have hdeclared : Shader.attributes
      "attribute vec2 a_UV; attribute vec2 a_UV1; attribute vec2 a_UV; attribute float x1;"
      = [⟨"a_UV", "vec2"⟩, ⟨"a_UV1", "vec2"⟩, ⟨"a_UV", "vec2"⟩, ⟨"x1", "float"⟩] := by
    decide +kernel
  have hplan : ofVertex
      "attribute vec2 a_UV; attribute vec2 a_UV1; attribute vec2 a_UV; attribute float x1;"
      ⟨"Vertex", [⟨"uv1", "[f32; 2]"⟩, ⟨"tex_coord", "[f32; 2]"⟩], 1⟩ TypeTable.standard
      = .ok ⟨"Vertex", 16, [⟨"uv1", "a_UV1", 1, .float32x2, 2, 0⟩,
          ⟨"tex_coord", "a_UV", 0, .float32x2, 2, 8⟩]⟩ := by
    decide +kernel
  obtain ⟨-, -, last, hrun, hlast⟩ := ofVertex_sound (by rw [hdeclared]; decide) hplan
  refine ⟨last, hrun, ?_⟩
  rw [hlast, hdeclared]
  rfl

end VertexBinding.Plan
