import VertexBinding.Proofs.Layout.Run

/-! # Growth — more attributes and fewer fields never break a binding

    An attribute added to a shader may take the place of another: the field that
    finds it fits better lets go of what it had before.  What it lets go of stays
    in the pool, so the larger pool always offers what the smaller one offers, and
    a field that was served is served.  Leaving out fields only leaves more. -/

namespace VertexBinding.Plan

/-- **GROWTH NEVER BREAKS A BINDING**: if a list of attributes serves all fields, so
    does every list that contains it, for all the fields or for some of them.  A
    vertex that can be planned for a shader does not fail to be planned for a shader
    that declares more, nor does a vertex that keeps some of its fields. -/
theorem growth_keeps_bindings {declared declared' fields fields' : List Declaration}
    (hdeclared : declared.Sublist declared') (hfields : fields'.Sublist fields) :
    ((∃ r, (Pool.ofDeclarations declared).takeAll fields = .ok r) →
      ∃ r, (Pool.ofDeclarations declared').takeAll fields' = .ok r) ∧
    ∀ (shader shader' : String) (vertex vertex' : Vertex) (types : TypeTable) (plan : Plan),
      Shader.attributes shader = declared → Shader.attributes shader' = declared' →
      vertex.fields = fields → vertex'.fields = fields' →
      ofVertex shader vertex types = .ok plan →
      ∀ e, ofVertex shader' vertex' types ≠ .error (.failed e) := by
  have hnames : (Pool.ofDeclarations declared).names.Sublist
      (Pool.ofDeclarations declared').names := by
    rw [Pool.names_ofDeclarations, Pool.names_ofDeclarations]
    exact hdeclared.map Declaration.name
  constructor
  · rintro ⟨⟨cs, last⟩, h⟩
    obtain ⟨cs', last', h'⟩ := Pool.takeAll_sublist hfields hnames h
    exact ⟨(cs', last'), h'⟩
  · intro shader shader' vertex vertex' types plan hshader hshader' hvertex hvertex' hplan e hfail
    obtain ⟨bs, s, stride, hrun, -, -⟩ := ofVertex_eq_ok_iff.mp hplan
    obtain ⟨⟨cs, hcs⟩, htypes⟩ := takeAll_of_bindFields hrun
    have hpool : (start shader vertex).pool = Pool.ofDeclarations declared := by
      rw [← hshader]
      rfl
    have hpool' : (start shader' vertex').pool = Pool.ofDeclarations declared' := by
      rw [← hshader']
      rfl
    rw [hpool, hvertex] at hcs
    rw [hvertex] at htypes
    obtain ⟨cs', last', hcs'⟩ := Pool.takeAll_sublist hfields hnames hcs
    rw [← hpool', ← hvertex'] at hcs'
    refine bindFields_ne_failed ?_ hcs' e (ofVertex_eq_failed_iff.mp hfail)
    intro field hmem
    rw [hvertex'] at hmem
    exact htypes field (hfields.subset hmem)

/-- An attribute that takes the place of another, and a field left out. -/
theorem growth_keeps_bindings_stolen :
    (∃ r, (Pool.ofDeclarations
        [⟨"a_Position", "vec3"⟩, ⟨"a_VertexPosition", "vec3"⟩, ⟨"a_UV", "vec2"⟩]).takeAll
      [⟨"vertex_position", "[f32; 3]"⟩] = .ok r) ∧
    ∀ e, ofVertex "attribute vec3 a_Position; attribute vec3 a_VertexPosition; attribute vec2 a_UV;"
      ⟨"Vertex", [⟨"vertex_position", "[f32; 3]"⟩], 1⟩ TypeTable.standard ≠ .error (.failed e) := by
  have hdeclared : [⟨"a_Position", "vec3"⟩, ⟨"a_UV", "vec2"⟩].Sublist
      [(⟨"a_Position", "vec3"⟩ : Declaration), ⟨"a_VertexPosition", "vec3"⟩, ⟨"a_UV", "vec2"⟩] := by
    decide
  have hfields : [⟨"vertex_position", "[f32; 3]"⟩].Sublist
      [(⟨"vertex_position", "[f32; 3]"⟩ : Declaration), ⟨"tex_coord", "[f32; 2]"⟩] := by
    decide
  have h := growth_keeps_bindings hdeclared hfields
  refine ⟨h.1 ⟨([⟨0, ⟨"a_Position", "vec3"⟩⟩, ⟨1, ⟨"a_UV", "vec2"⟩⟩], ⟨[]⟩), by decide +kernel⟩, ?_⟩
  exact h.2 "attribute vec3 a_Position; attribute vec2 a_UV;" _
    ⟨"Vertex", [⟨"vertex_position", "[f32; 3]"⟩, ⟨"tex_coord", "[f32; 2]"⟩], 1⟩ _ _
    ⟨"Vertex", 20, [⟨"vertex_position", "a_Position", 0, .float32x3, 3, 0⟩,
      ⟨"tex_coord", "a_UV", 1, .float32x2, 2, 12⟩]⟩
    (by decide +kernel) (by decide +kernel) rfl rfl (by decide +kernel)

end VertexBinding.Plan
