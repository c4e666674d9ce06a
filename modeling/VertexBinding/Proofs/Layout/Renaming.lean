import VertexBinding.Proofs.Layout.Exactness
import VertexBinding.Proofs.Matching.Interleaving
import VertexBinding.Proofs.Naming.SameWords

/-! # Renaming — names count by their canonical words only

    Two shaders and two vertices whose names have the same canonical words, place by
    place, are planned side by side.  Every field takes the attribute of the same
    location, because every score is the same; types and alignments are the same, so
    offsets and faults are.  What may differ is the names in the result.

    The proof follows the plan: `takeBest_renamed` for the choice, `bindField_renamed`
    for one field, `bindFields_renamed` for the run. -/

namespace VertexBinding

open Naming

/-- The kinds of failures, without what they are about. -/
inductive LayoutError.Kind where
  | noMatch
  | unsupportedType
  | invalidStruct
  | invalidIdentifier
  deriving DecidableEq, Repr

def LayoutError.kind : LayoutError → Kind
  | noMatch _ _ => .noMatch
  | unsupportedType _ _ _ => .unsupportedType
  | invalidStruct _ => .invalidStruct
  | invalidIdentifier _ => .invalidIdentifier

/-- Two runs stop alike: by failures of one kind, or by the same fault. -/
inductive Stop.Alike : Stop → Stop → Prop where
  | failed {e e' : LayoutError} (h : e.kind = e'.kind) : Alike (.failed e) (.failed e')
  | faulted (f : Fault) : Alike (.faulted f) (.faulted f)

/-- A binding without its names. -/
def Binding.nameless (b : Binding) : Binding :=
  { b with field := "", attributeName := "" }

/-- Two candidates of one location whose names have the same words. -/
structure Candidate.Renamed (c c' : Candidate) : Prop where
  location_eq : c.location = c'.location
  words : SameWords (attributeWords c.name) (attributeWords c'.name)

namespace Plan

/-- Two fields whose names have the same words and whose types have the same entry. -/
structure Renamed (types : TypeTable) (field field' : Declaration) : Prop where
  words : SameWords (fieldWords field.name) (fieldWords field'.name)
  type_eq : types.get? field.type = types.get? field'.type

/-- Two partial plans that differ in names only. -/
structure Cursor.Renamed (s s' : Cursor) : Prop where
  pool : Pool.Interleaved Candidate.Renamed s.pool.candidates [] s'.pool.candidates
  finish_eq : s.finish = s'.finish
  align_eq : s.align = s'.align

variable {types : TypeTable} (vertex vertex' : String) {field field' : Declaration}
  {fields fields' : List Declaration} {s s' : Cursor}

/-! ## Side by side -/

/-- A field takes candidates of one location from the two pools, or nothing from either. -/
theorem fieldAttribute_renamed (hs : s.Renamed s') (h : Renamed types field field') :
    SideBySide Stop.Alike
      (fun r r' => r.1.Renamed r'.1 ∧
        Pool.Interleaved Candidate.Renamed r.2.candidates [] r'.2.candidates)
      (fieldAttribute s.pool vertex field) (fieldAttribute s'.pool vertex' field') := by
  have hscore : ∀ c c', Candidate.Renamed c c' → Pool.score field c = Pool.score field' c' := by
    intro c c' hc
    exact wordAffinity_congr h.words hc.words
  rw [fieldAttribute, fieldAttribute]
  rcases Pool.takeBest_interleaved hs.pool hscore (List.forall_mem_nil _) with
    ⟨c, c', rest, rest', hc, hc', hrelated, hrest⟩ | ⟨e, e', he, he'⟩
  · rw [hc, hc']
    exact .ok ⟨hrelated, hrest⟩
  · rw [he, he']
    exact .error (.failed rfl)

theorem fieldType_renamed (h : Renamed types field field') :
    SideBySide Stop.Alike Eq (fieldType types vertex field) (fieldType types vertex' field') := by
  rw [fieldType, fieldType, ← h.type_eq]
  cases types.get? field.type with
  | none => exact .error (.failed rfl)
  | some t => exact .ok rfl

theorem faulting_alike {α : Type} (x : Except Fault α) :
    SideBySide Stop.Alike Eq (faulting x) (faulting x) := by
  cases x with
  | error f => exact .error (.faulted f)
  | ok a => exact .ok rfl

/-- **STEP**: fields that differ in names only are bound alike. -/
theorem bindField_renamed (hs : s.Renamed s') (h : Renamed types field field') :
    SideBySide Stop.Alike (fun r r' => r.1.nameless = r'.1.nameless ∧ r.2.Renamed r'.2)
      (bindField types vertex field s) (bindField types vertex' field' s') := by
  rw [bindField, bindField]
  refine (fieldType_renamed vertex vertex' h).bind ?_
  rintro t _ rfl
  refine (fieldAttribute_renamed vertex vertex' hs h).bind ?_
  rintro ⟨c, rest⟩ ⟨c', rest'⟩ ⟨hc, hrest⟩
  dsimp only
  rw [← hs.finish_eq]
  refine (faulting_alike (align? s.finish t.align)).bind ?_
  rintro offset _ rfl
  refine (faulting_alike (fit (offset + t.size))).bind ?_
  rintro finish _ rfl
  have hlocation : c.location = c'.location := hc.location_eq
  refine .ok ⟨?_, hrest, rfl, ?_⟩
  · simp only [Binding.nameless, hlocation]
  · simp only [hs.align_eq]

/-- **RUN**: so are lists of fields. -/
theorem bindFields_renamed (hs : s.Renamed s')
    (h : List.Forall₂ (Renamed types) fields fields') :
    SideBySide Stop.Alike
      (fun r r' => r.1.map Binding.nameless = r'.1.map Binding.nameless ∧ r.2.Renamed r'.2)
      (bindFields types vertex fields s) (bindFields types vertex' fields' s') := by
  induction h generalizing s s' with
  | nil => exact .ok ⟨rfl, hs⟩
  | cons hfield _ ih =>
      rw [bindFields, bindFields]
      refine (bindField_renamed vertex vertex' hs hfield).bind ?_
      rintro ⟨b, s₁⟩ ⟨b', s₁'⟩ ⟨hb, hs₁⟩
      refine (ih hs₁).bind ?_
      rintro ⟨bs, s₂⟩ ⟨bs', s₂'⟩ ⟨hbs, hs₂⟩
      refine .ok ⟨?_, hs₂⟩
      rw [List.map_cons, List.map_cons, hb, hbs]

/-! ## The plan -/

/-- The run fails at the field of an index: the fields in front of it are bound, and it is
    not. -/
def FailsAt (types : TypeTable) (shader : String) (v : Vertex) (i : Nat) (e : LayoutError) :
    Prop :=
  ∃ field bs s, v.fields[i]? = some field ∧
    bindFields types v.name (v.fields.take i) (start shader v) = .ok (bs, s) ∧
    bindField types v.name field s = .error (.failed e)

/-- A plan fails exactly if its run fails at some field. -/
theorem ofVertex_eq_failed_iff_failsAt {shader : String} {v : Vertex} {e : LayoutError} :
    ofVertex shader v types = .error (.failed e) ↔ ∃ i, FailsAt types shader v i e := by
  rw [ofVertex_eq_failed_iff, bindFields_eq_error_iff]
  constructor
  · rintro ⟨before, field, after, bs, s, hfields, hbefore, hstop⟩
    refine ⟨before.length, field, bs, s, ?_, ?_, hstop⟩
    · rw [hfields]
      simp
    · rw [hfields, List.take_left]
      exact hbefore
  · rintro ⟨i, field, bs, s, hfield, hbefore, hstop⟩
    obtain ⟨hi, rfl⟩ := List.getElem?_eq_some_iff.mp hfield
    refine ⟨v.fields.take i, _, v.fields.drop (i + 1), bs, s, ?_, hbefore, hstop⟩
    rw [← List.drop_eq_getElem_cons hi, List.take_append_drop]

/-- What two vertices, each with its shader, come to if the names do not count: plans that
    differ in names only, or failures of one kind at the same field, or the same fault. -/
inductive Agree (types : TypeTable) (shader shader' : String) (v v' : Vertex) : Prop where
  | planned (plan plan' : Plan) (hplan : ofVertex shader v types = .ok plan)
      (hplan' : ofVertex shader' v' types = .ok plan') (hstride : plan.stride = plan'.stride)
      (hbindings : plan.bindings.map Binding.nameless = plan'.bindings.map Binding.nameless)
  | failed (i : Nat) (e e' : LayoutError) (hplan : ofVertex shader v types = .error (.failed e))
      (hplan' : ofVertex shader' v' types = .error (.failed e'))
      (hat : FailsAt types shader v i e) (hat' : FailsAt types shader' v' i e')
      (hkind : e.kind = e'.kind)
  | faulted (f : Fault) (hplan : ofVertex shader v types = .error (.faulted f))
      (hplan' : ofVertex shader' v' types = .error (.faulted f))

/-- Pools of attributes whose names have the same words differ in names only. -/
theorem interleaved_ofDeclarations {ds ds' : List Declaration}
    (h : List.Forall₂ (fun d d' => SameWords (attributeWords d.name) (attributeWords d'.name))
      ds ds') :
    Pool.Interleaved Candidate.Renamed (Pool.ofDeclarations ds).candidates []
      (Pool.ofDeclarations ds').candidates := by
  rw [Pool.ofDeclarations, Pool.ofDeclarations]
  -- locations count from the front, so the induction is over lists counted from any number
  generalize 0 = n
  induction h generalizing n with
  | nil => exact .nil
  | cons hd _ ih => exact .kept ⟨rfl, hd⟩ (ih (n + 1))

section

variable {shader shader' : String} {v v' : Vertex}

/-- Where one run fails the other fails as well. -/
theorem FailsAt.renamed {i : Nat} {e : LayoutError}
    (hstart : (start shader v).Renamed (start shader' v'))
    (hfields : List.Forall₂ (Renamed types) v.fields v'.fields)
    (h : FailsAt types shader v i e) :
    ∃ e', FailsAt types shader' v' i e' ∧ e.kind = e'.kind := by
  obtain ⟨field, bs, s, hfield, hbefore, hstop⟩ := h
  have hrun := bindFields_renamed v.name v'.name hstart (List.forall₂_take i hfields)
  rw [hbefore] at hrun
  obtain ⟨⟨bs', s'⟩, hbefore', -, hs⟩ := hrun.exists_ok
  obtain ⟨field', hfield', hrenamed⟩ : ∃ field', v'.fields[i]? = some field' ∧
      Renamed types field field' := by
    obtain ⟨hi, rfl⟩ := List.getElem?_eq_some_iff.mp hfield
    have hi' : i < v'.fields.length := by
      rw [← hfields.length_eq]
      exact hi
    exact ⟨v'.fields[i], List.getElem?_eq_getElem hi', hfields.get hi hi'⟩
  have hstep := bindField_renamed v.name v'.name hs hrenamed
  rw [hstop] at hstep
  obtain ⟨stop', hstop', halike⟩ := hstep.exists_error
  cases halike with
  | failed hkind => exact ⟨_, ⟨field', bs', s', hfield', hbefore', hstop'⟩, hkind⟩

/-- Vertices that differ in names only agree. -/
theorem agree_of_renamed (hstart : (start shader v).Renamed (start shader' v'))
    (hfields : List.Forall₂ (Renamed types) v.fields v'.fields) :
    Agree types shader shader' v v' := by
  have hside : SideBySide Stop.Alike
      (fun plan plan' => plan.stride = plan'.stride ∧
        plan.bindings.map Binding.nameless = plan'.bindings.map Binding.nameless)
      (ofVertex shader v types) (ofVertex shader' v' types) := by
    rw [ofVertex, ofVertex]
    refine (bindFields_renamed v.name v'.name hstart hfields).bind ?_
    rintro ⟨bs, s⟩ ⟨bs', s'⟩ ⟨hbs, hs⟩
    dsimp only
    rw [← hs.finish_eq, ← hs.align_eq]
    refine (faulting_alike (align? s.finish s.align)).bind ?_
    rintro stride _ rfl
    exact .ok ⟨rfl, hbs⟩
  cases hplan : ofVertex shader v types with
  | ok plan =>
      rw [hplan] at hside
      obtain ⟨plan', hplan', hstride, hbindings⟩ := hside.exists_ok
      exact .planned plan plan' hplan hplan' hstride hbindings
  | error stop =>
      rw [hplan] at hside
      obtain ⟨stop', hplan', halike⟩ := hside.exists_error
      cases halike with
      | faulted f => exact .faulted f hplan hplan'
      | failed hkind =>
          obtain ⟨i, hat⟩ := ofVertex_eq_failed_iff_failsAt.mp hplan
          obtain ⟨e', hat', hkind'⟩ := hat.renamed hstart hfields
          -- the other vertex fails in one way only, and it is the one found at this field
          have hplan'' := ofVertex_eq_failed_iff_failsAt.mpr ⟨i, hat'⟩
          rw [hplan'] at hplan''
          obtain rfl := Stop.failed.inj (Except.error.inj hplan'')
          exact .failed i _ _ hplan hplan' hat hat' hkind'

end

/-- **NAMES COUNT BY THEIR WORDS**: if the attributes of two shaders have the same words,
    place by place, and so have the fields of two vertices of one alignment, whose types
    have the same entries, then both vertices are planned alike, fail alike or fault.  A
    qualifier in front of an attribute's name changes nothing. -/
theorem planning_reads_words_only (types : TypeTable) :
    (∀ (shader shader' : String) (v v' : Vertex),
      List.Forall₂ (fun d d' => SameWords (attributeWords d.name) (attributeWords d'.name))
        (Shader.attributes shader) (Shader.attributes shader') →
      List.Forall₂ (fun field field' =>
          SameWords (fieldWords field.name) (fieldWords field'.name) ∧
            types.get? field.type = types.get? field'.type) v.fields v'.fields →
      v.align = v'.align → Agree types shader shader' v v') ∧
    ∀ (shader shader' : String) (v : Vertex),
      List.Forall₂ (fun d d' => Qualified d.name d'.name)
        (Shader.attributes shader) (Shader.attributes shader') →
      Agree types shader shader' v v := by
  constructor
  · intro shader shader' v v' hattributes hfields halign
    refine agree_of_renamed ⟨interleaved_ofDeclarations hattributes, rfl, ?_⟩ ?_
    · show max v.align 1 = max v'.align 1
      rw [halign]
    · exact hfields.imp (fun field field' h => ⟨h.1, h.2⟩)
  · intro shader shader' v hattributes
    have hwords : List.Forall₂
        (fun d d' => SameWords (attributeWords d.name) (attributeWords d'.name))
        (Shader.attributes shader) (Shader.attributes shader') :=
      hattributes.imp (fun d d' h => sameWords_of_eq h.attributeWords_eq)
    refine agree_of_renamed ⟨interleaved_ofDeclarations hwords, rfl, rfl⟩ ?_
    exact List.forall₂_same.mpr (fun field _ => ⟨sameWords_of_eq rfl, rfl⟩)

/-- Synonyms, another order of the words, another case, and a qualifier. -/
theorem planning_reads_words_only_synonyms :
    (∃ plan', ofVertex "attribute vec4 coord_tex_uv; attribute float v_POSITION;"
        ⟨"Other", [⟨"TexCoord", "[f32;2]"⟩, ⟨"Pos", "[ f32; 3 ]"⟩], 4⟩ TypeTable.standard
          = .ok plan' ∧
      plan'.stride = 20 ∧ plan'.bindings.map Binding.location = [0, 1]) ∧
    Agree TypeTable.standard "attribute vec3 _normal;" "attribute vec3 a__normal;"
      ⟨"Vertex", [⟨"nrm", "[f32; 3]"⟩], 1⟩ ⟨"Vertex", [⟨"nrm", "[f32; 3]"⟩], 1⟩ := by
  obtain ⟨hwords, hqualified⟩ := planning_reads_words_only TypeTable.standard
  constructor
  · have hdeclared : Shader.attributes "attribute vec2 a_UV; attribute vec3 a_Pos;"
        = [⟨"a_UV", "vec2"⟩, ⟨"a_Pos", "vec3"⟩] := by
      decide +kernel
    have hdeclared' : Shader.attributes "attribute vec4 coord_tex_uv; attribute float v_POSITION;"
        = [⟨"coord_tex_uv", "vec4"⟩, ⟨"v_POSITION", "float"⟩] := by
      decide +kernel
    have hplan : ofVertex "attribute vec2 a_UV; attribute vec3 a_Pos;"
        ⟨"Vertex", [⟨"uv", "[f32; 2]"⟩, ⟨"position", "[f32; 3]"⟩], 4⟩ TypeTable.standard
        = .ok ⟨"Vertex", 20, [⟨"uv", "a_UV", 0, .float32x2, 2, 0⟩,
            ⟨"position", "a_Pos", 1, .float32x3, 3, 8⟩]⟩ := by
      decide +kernel
    have hagree := hwords "attribute vec2 a_UV; attribute vec3 a_Pos;"
      "attribute vec4 coord_tex_uv; attribute float v_POSITION;"
      ⟨"Vertex", [⟨"uv", "[f32; 2]"⟩, ⟨"position", "[f32; 3]"⟩], 4⟩
      ⟨"Other", [⟨"TexCoord", "[f32;2]"⟩, ⟨"Pos", "[ f32; 3 ]"⟩], 4⟩
      (by
        rw [hdeclared, hdeclared']
        exact .cons (by decide +kernel) (.cons (by decide +kernel) .nil))
      (.cons ⟨by decide +kernel, by decide +kernel⟩
        (.cons ⟨by decide +kernel, by decide +kernel⟩ .nil)) rfl
    cases hagree with
    | planned plan plan' h h' hstride hbindings =>
        obtain rfl := Except.ok.inj (hplan.symm.trans h)
        have hlocations := congrArg (List.map Binding.location) hbindings
        rw [List.map_map, List.map_map] at hlocations
        exact ⟨plan', h', hstride.symm, hlocations.symm⟩
    | failed i e e' h => exact nomatch hplan.symm.trans h
    | faulted f h => exact nomatch hplan.symm.trans h
  · have hdeclared : Shader.attributes "attribute vec3 _normal;" = [⟨"_normal", "vec3"⟩] := by
      decide +kernel
    have hdeclared' : Shader.attributes "attribute vec3 a__normal;" = [⟨"a__normal", "vec3"⟩] := by
      decide +kernel
    refine hqualified _ _ _ ?_
    rw [hdeclared, hdeclared']
    exact .cons (Or.inr ⟨by decide, "a_", by decide, by decide⟩) .nil

end Plan

end VertexBinding
