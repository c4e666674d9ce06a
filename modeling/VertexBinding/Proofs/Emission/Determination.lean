import VertexBinding.Proofs.Emission.FirstFailure
import VertexBinding.Proofs.Emission.Renditions
import VertexBinding.Proofs.Shader.Occurrences

/-! # Determination — generated code tells how the fields are bound

    Two vertices of one name, planned against any two shaders and tables, are written as
    the same text exactly if their plans bind alike, entry by entry: the same identifiers,
    formats, locations and names of attributes (`text_determines_bindings`).

    Both texts are block texts with heads that the path of the vertex settles, so the text
    tells the entries of the block.  An entry in turn is the binding it was made of, up to
    what a block leaves to the compiler (`entries_eq_iff`). -/

namespace VertexBinding

open Emission Source Text

/-- Two bindings that a block cannot tell apart. -/
structure Binding.Alike (b b' : Binding) : Prop where
  identifier : ∃ w, fieldIdentifier? b.field = some w ∧ fieldIdentifier? b'.field = some w
  format : b.format = b'.format
  location : b.location = b'.location
  attributeName : b.attributeName = b'.attributeName

variable {shader shader' : String} {types types' : TypeTable} {vertex vertex' : Vertex}
  {plan : Plan}

/-! ## Entries and bindings -/

/-- Entries are equal exactly if their bindings are alike. -/
theorem entry_eq_iff {b b' : Binding} {e e' : Entry} (h : entryOf b = .ok e)
    (h' : entryOf b' = .ok e') : e = e' ↔ b.Alike b' := by
  obtain ⟨w, hw, rfl⟩ := entryOf_eq_ok_iff.mp h
  obtain ⟨w', hw', rfl⟩ := entryOf_eq_ok_iff.mp h'
  rw [Entry.mk.injEq]
  constructor
  · rintro ⟨rfl, hname, hformat, hlocation⟩
    exact ⟨⟨w, hw, hw'⟩, hformat, hlocation, hname⟩
  · rintro ⟨⟨v, hv, hv'⟩, hformat, hlocation, hname⟩
    rw [hw] at hv
    rw [hw'] at hv'
    exact ⟨Option.some.inj (hv.trans hv'.symm), hname, hformat, hlocation⟩

/-- Bindings have the same entries exactly if they are alike. -/
theorem entries_eq_iff {bs bs' : List Binding} {es es' : List Entry}
    (h : entriesOf bs = .ok es) (h' : entriesOf bs' = .ok es') :
    es = es' ↔ List.Forall₂ Binding.Alike bs bs' := by
  rw [entriesOf_eq_mapM, mapM_eq_ok_iff] at h h'
  induction h generalizing bs' es' with
  | nil =>
      cases h' with
      | nil => exact iff_of_true rfl .nil
      | cons _ _ => exact iff_of_false nofun nofun
  | cons he _ ih =>
      cases h' with
      | nil => exact iff_of_false nofun nofun
      | cons he' hes' => rw [List.cons.injEq, List.forall₂_cons, entry_eq_iff he he', ih hes']

/-! ## Plain entries -/

/-- An identifier that is found in a text is a word of some source. -/
theorem isSourceWord_of_identifier? {s w : String} (h : Emission.identifier? s = some w) :
    IsSourceWord w := by
  unfold Emission.identifier? at h
  split at h
  · next htokens =>
      split at h
      · obtain rfl := Option.some.inj h
        exact isSourceWord_of_mem_tokens htokens (List.mem_singleton_self _)
      · exact nomatch h
  · exact nomatch h

theorem isSourceWord_of_fieldIdentifier? {name w : String}
    (h : fieldIdentifier? name = some w) : IsSourceWord w := by
  unfold fieldIdentifier? at h
  split at h
  · next hname =>
      obtain rfl := Option.some.inj h
      exact isSourceWord_of_identifier? hname
  · exact isSourceWord_of_identifier? h

/-- A run names attributes of its pool. -/
theorem Plan.attributeName_mem_names {fields : List Declaration} {s last : Cursor}
    {name : String} {bs : List Binding} (h : bindFields types name fields s = .ok (bs, last)) :
    ∀ b ∈ bs, b.attributeName ∈ s.pool.names := by
  induction fields generalizing s bs with
  | nil =>
      rw [bindFields_nil] at h
      obtain ⟨rfl, -⟩ := Prod.mk.inj (Except.ok.inj h)
      exact nofun
  | cons field fields ih =>
      obtain ⟨b, s', bs', hfield, hfields, rfl⟩ := bindFields_cons_eq_ok_iff.mp h
      obtain ⟨t, c, rest, offset, -, htake, -, -, rfl, rfl⟩ := bindField_eq_ok_iff.mp hfield
      refine List.forall_mem_cons.mpr ⟨Pool.name_mem_of_takeBest htake, ?_⟩
      exact fun b hb => (Pool.takeBest_names_sublist htake).subset (ih hfields b hb)

/-- Attributes are named by words. -/
theorem Plan.isWordChar_of_attributeName
    (hplan : Plan.ofVertex shader vertex types = .ok plan) :
    ∀ b ∈ plan.bindings, ∀ c ∈ b.attributeName.toList, isWordChar c = true := by
  obtain ⟨bs, s, stride, hrun, -, rfl⟩ := ofVertex_eq_ok_iff.mp hplan
  intro b hb
  have hname := attributeName_mem_names hrun b hb
  rw [start, Pool.ofShader, Pool.names_ofDeclarations] at hname
  obtain ⟨d, hd, hname⟩ := List.mem_map.mp hname
  rw [← hname]
  exact Shader.isWordChar_of_mem_declarationsFrom hd

theorem plain_of_entries {bs : List Binding} {es : List Entry} (h : entriesOf bs = .ok es)
    (hnames : ∀ b ∈ bs, ∀ c ∈ b.attributeName.toList, isWordChar c = true) :
    ∀ e ∈ es, e.Plain := by
  rw [entriesOf_eq_mapM, mapM_eq_ok_iff] at h
  induction h with
  | nil => exact nofun
  | cons he _ ih =>
      obtain ⟨hname, hothers⟩ := List.forall_mem_cons.mp hnames
      obtain ⟨w, hw, rfl⟩ := entryOf_eq_ok_iff.mp he
      refine List.forall_mem_cons.mpr ⟨⟨isSourceWord_of_fieldIdentifier? hw, ?_⟩, ih hothers⟩
      exact fun c hc => not_isBlank_of_isWordChar (hname c hc)

/-! ## Texts -/

/-- A text is the block of a plan, set or as tokens. -/
theorem vertexLayout_eq_ok_iff {text : String} :
    vertexLayout shader vertex types ⟨true, none⟩ = .ok text ↔
      ∃ plan path entries, Plan.ofVertex shader vertex types = .ok plan ∧
        path? plan.vertex = some path ∧ entriesOf plan.bindings = .ok entries ∧
        text = setBlocks [⟨path, true, entries⟩] := by
  rw [vertexLayout_eq_map, map_eq_ok_iff]
  constructor
  · rintro ⟨b, hb, rfl⟩
    obtain ⟨plan, hplan, hblock⟩ := blockOf_eq_ok_iff.mp hb
    obtain ⟨path, entries, hpath, hentries, rfl⟩ := ImplBlock.ofPlan_eq_ok_iff.mp hblock
    exact ⟨plan, path, entries, hplan, hpath, hentries, rfl⟩
  · rintro ⟨plan, path, entries, hplan, hpath, hentries, rfl⟩
    have hblock : ImplBlock.ofPlan true plan = .ok ⟨path, true, entries⟩ :=
      ImplBlock.ofPlan_eq_ok_iff.mpr ⟨path, entries, hpath, hentries, rfl⟩
    exact ⟨_, blockOf_eq_ok_iff.mpr ⟨plan, hplan, hblock⟩, rfl⟩

/-- **THE TEXT DETERMINES THE BINDINGS**: for one name of a vertex, with the names of the
    attributes and without an outside formatter, two texts are equal exactly if the plans
    have equally many entries, and those in the same place are alike.  White space adds
    nothing: what tells the bindings is not where lines are broken. -/
theorem text_determines_bindings {text text' : String}
    (h : vertexLayout shader vertex types { attributeNames := true, formatter? := none }
      = .ok text)
    (h' : vertexLayout shader' vertex' types' { attributeNames := true, formatter? := none }
      = .ok text')
    (hname : vertex.name = vertex'.name) :
    ∃ plan plan', Plan.ofVertex shader vertex types = .ok plan ∧
      Plan.ofVertex shader' vertex' types' = .ok plan' ∧
      (text = text' ↔ List.Forall₂ Binding.Alike plan.bindings plan'.bindings) ∧
      (dropBlanks text.toList = dropBlanks text'.toList ↔ text = text') := by
  obtain ⟨plan, path, es, hplan, hpath, hes, rfl⟩ := vertexLayout_eq_ok_iff.mp h
  obtain ⟨plan', path', es', hplan', hpath', hes', rfl⟩ := vertexLayout_eq_ok_iff.mp h'
  rw [(fields_of_plan hplan).1, hname, ← (fields_of_plan hplan').1, hpath'] at hpath
  obtain rfl := Option.some.inj hpath
  obtain ⟨heads, hsettled, hblock⟩ := exists_heads path'
  have hplain := plain_of_entries hes (Plan.isWordChar_of_attributeName hplan)
  have hplain' := plain_of_entries hes' (Plan.isWordChar_of_attributeName hplan')
  have hentries : dropBlanks (setBlocks [⟨path', true, es⟩]).toList
      = dropBlanks (setBlocks [⟨path', true, es'⟩]).toList → es = es' := by
    intro heq
    have htext := hblock es hplain
    rw [heq] at htext
    exact htext.entries_eq hsettled (hblock es' hplain')
  refine ⟨plan, plan', hplan, hplan', ?_, ?_⟩
  · rw [← entries_eq_iff hes hes']
    constructor
    · intro heq
      exact hentries (congrArg (fun text => dropBlanks text.toList) heq)
    · rintro rfl
      rfl
  · constructor
    · intro heq
      rw [hentries heq]
    · intro heq
      rw [heq]

/-- A keyword and its raw form, a type of one's own, another alignment and an attribute that
    no field takes: the plans differ in their offsets and strides, and the texts agree. -/
theorem text_determines_bindings_raw :
    ∃ text,
      vertexLayout "attribute vec2 a_Type; attribute vec4 a_Color;"
        ⟨"Mesh", [⟨"type", "[f32; 2]"⟩, ⟨"color", "[f32; 4]"⟩], 1⟩ TypeTable.standard
        ⟨true, none⟩ = .ok text ∧
      vertexLayout "attribute float a_Type;\nattribute vec3 a_Color; attribute vec3 a_Spare;"
        ⟨"Mesh", [⟨"r#type", "Pair"⟩, ⟨"color", "glam::Vec4"⟩], 64⟩
        (TypeTable.standard.insert "Pair" (.ofFormat .float32x2 2 4))
        ⟨true, none⟩ = .ok text := by
  have hplan : Plan.ofVertex "attribute vec2 a_Type; attribute vec4 a_Color;"
      ⟨"Mesh", [⟨"type", "[f32; 2]"⟩, ⟨"color", "[f32; 4]"⟩], 1⟩ TypeTable.standard
      = .ok ⟨"Mesh", 24, [⟨"type", "a_Type", 0, .float32x2, 2, 0⟩,
          ⟨"color", "a_Color", 1, .float32x4, 4, 8⟩]⟩ := by
    decide +kernel
  have hplan' : Plan.ofVertex
      "attribute float a_Type;\nattribute vec3 a_Color; attribute vec3 a_Spare;"
      ⟨"Mesh", [⟨"r#type", "Pair"⟩, ⟨"color", "glam::Vec4"⟩], 64⟩
      (TypeTable.standard.insert "Pair" (.ofFormat .float32x2 2 4))
      = .ok ⟨"Mesh", 64, [⟨"r#type", "a_Type", 0, .float32x2, 2, 0⟩,
          ⟨"color", "a_Color", 1, .float32x4, 4, 16⟩]⟩ := by
    decide +kernel
  have hwords : fieldIdentifier? "type" = some "r#type" ∧
      fieldIdentifier? "r#type" = some "r#type" ∧ fieldIdentifier? "color" = some "color" := by
    decide +kernel
  have hpath : path? "Mesh" = some [.word "Mesh"] := by decide +kernel
  have hentries : entriesOf [⟨"type", "a_Type", 0, .float32x2, 2, 0⟩,
      ⟨"color", "a_Color", 1, .float32x4, 4, 8⟩]
      = .ok [⟨"r#type", "a_Type", .float32x2, 0⟩, ⟨"color", "a_Color", .float32x4, 1⟩] := by
    rw [entriesOf_eq_mapM, mapM_eq_ok_iff]
    exact .cons (entryOf_eq_ok_iff.mpr ⟨_, hwords.1, rfl⟩)
      (.cons (entryOf_eq_ok_iff.mpr ⟨_, hwords.2.2, rfl⟩) .nil)
  have hentries' : entriesOf [⟨"r#type", "a_Type", 0, .float32x2, 2, 0⟩,
      ⟨"color", "a_Color", 1, .float32x4, 4, 16⟩]
      = .ok [⟨"r#type", "a_Type", .float32x2, 0⟩, ⟨"color", "a_Color", .float32x4, 1⟩] := by
    rw [entriesOf_eq_mapM, mapM_eq_ok_iff]
    exact .cons (entryOf_eq_ok_iff.mpr ⟨_, hwords.2.1, rfl⟩)
      (.cons (entryOf_eq_ok_iff.mpr ⟨_, hwords.2.2, rfl⟩) .nil)
  have htext := vertexLayout_eq_ok_iff.mpr ⟨_, _, _, hplan, hpath, hentries, rfl⟩
  have htext' := vertexLayout_eq_ok_iff.mpr ⟨_, _, _, hplan', hpath, hentries', rfl⟩
  obtain ⟨plan, plan', h, h', hequal, -⟩ := text_determines_bindings htext htext' rfl
  obtain rfl := Except.ok.inj (hplan.symm.trans h)
  obtain rfl := Except.ok.inj (hplan'.symm.trans h')
  obtain ⟨htype, hraw, hcolor⟩ := hwords
  have htexts := hequal.mpr
    (.cons ⟨⟨_, htype, hraw⟩, rfl, rfl, rfl⟩
      (.cons ⟨⟨_, hcolor, hcolor⟩, rfl, rfl, rfl⟩ .nil))
  exact ⟨_, htext, htexts ▸ htext'⟩

end VertexBinding
