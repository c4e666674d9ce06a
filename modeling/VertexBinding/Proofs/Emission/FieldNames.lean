import VertexBinding.Emission.Layouts
import VertexBinding.Layout.Definition
import VertexBinding.Proofs.Emission.Blocks
import VertexBinding.Proofs.Layout.Exactness
import VertexBinding.Proofs.Layout.Files
import VertexBinding.Proofs.Shader.Occurrences
import VertexBinding.Proofs.Source.Remainders

/-! # Field names — what a source names can be written back

    A vertex read from a source takes its names from the words of the source; the names
    of its fields lose the mark of raw ones (`Vertex.named_of_readFrom`).  A name that lost
    its mark is written back with it exactly if it is a keyword
    (`exists_fieldIdentifier`).  The only word for which there is no way back is the
    underscore, and a field of that name fits no attribute, so it has no plan.

    `Vertex.Named.exists_block` puts this together for one vertex; a run takes the vertices
    one by one (`blocksOf_of_named`) and writes one call for each field (`exists_calls`). -/

namespace VertexBinding

open Emission Source Text

/-! ## Identifiers -/

namespace Emission

theorem identifier?_of_sourceWord {w : String} (h : IsSourceWord w) (hname : isName w = true) :
    identifier? w = some w := by
  rw [identifier?, h.tokens]
  exact if_pos hname

/-- A name without the mark of a raw identifier is its own. -/
theorem unraw_plain {name : List Char} (h : IsIdentifier name) :
    unraw (String.ofList name) = String.ofList name := by
  rw [unraw, String.toList_ofList]
  split
  · exact absurd (List.mem_cons_of_mem _ (List.mem_cons_self ..)) (h.not_mem (by decide))
  · rfl

/-- The mark of a raw identifier is no part of its name. -/
theorem unraw_raw (name : List Char) :
    unraw (String.ofList ('r' :: '#' :: name)) = String.ofList name := by
  rw [unraw, String.toList_ofList]
  rfl

/-- **BACK TO A WORD**: the name of a field is written with the mark of a raw identifier
    if it needs it. -/
theorem exists_fieldIdentifier {w : String} (h : IsSourceWord w) (hname : isName w = true) :
    ∃ w', fieldIdentifier? (unraw w) = some w' ∧ IsSourceWord w' ∧ unraw w' = unraw w := by
  have hword := identifier?_of_sourceWord h hname
  cases h with
  | @plain name hplain =>
      rw [unraw_plain hplain, fieldIdentifier?, hword]
      exact ⟨_, rfl, .plain hplain, unraw_plain hplain⟩
  | @raw name hplain hraw =>
      rw [unraw_raw, fieldIdentifier?]
      cases hfound : identifier? (String.ofList name) with
      | some w' =>
          -- the name is no keyword, so it is found as it is
          have hw' : w' = String.ofList name := by
            rw [identifier?, (IsSourceWord.plain hplain).tokens] at hfound
            dsimp only at hfound
            split at hfound
            · exact (Option.some.inj hfound).symm
            · exact nomatch hfound
          rw [hw']
          exact ⟨_, rfl, .plain hplain, unraw_plain hplain⟩
      | none =>
          have hmark : "r#" ++ String.ofList name = String.ofList ('r' :: '#' :: name) := by
            rw [← String.toList_inj, String.toList_append]
            simp only [String.toList_ofList]
            rfl
          rw [hmark]
          exact ⟨_, hword, .raw hplain hraw, unraw_raw name⟩

/-- A word that is an identifier is a path. -/
theorem path?_of_sourceWord {w : String} (h : IsSourceWord w) (hname : isName w = true) :
    path? w = some [Token.word w] := by
  have hbare : Grammar.bareSegments.contains w = false := by
    rw [← Bool.not_eq_true, List.contains_iff_mem]
    intro hmem
    have hkeywords : ∀ x ∈ Grammar.bareSegments, isName x = false := by decide
    rw [hkeywords w hmem] at hname
    exact nomatch hname
  have hread : Phrase.namePath.read [Token.word w] = some ([Token.word w], []) := by
    obtain ⟨depth, hdepth⟩ := Phrase.namePath.exists_read_eq [Token.word w]
    rw [hdepth, Phrase.rule, Grammar.namePath, Grammar.segment, Rule.read, if_neg]
    · have hsegment : (Rule.one (fun t => t.isIdentifier || t.isWord "Self")).read
          (Rule.readTo Phrase.rule depth) [Token.word w] = some ([Token.word w], []) := by
        show (if isName w || Token.isWord "Self" (.word w) then _ else none) = _
        rw [hname]
        rfl
      rw [Rule.read, hsegment]
      rfl
    · show ¬ Grammar.bareSegments.contains w = true
      rw [hbare]
      exact Bool.false_ne_true
  rw [path?, h.tokens]
  show (Phrase.namePath.read [Token.word w]).bind _ = _
  rw [hread]
  rfl

end Emission

/-! ## Vertices that are read -/

/-- The source is one struct and reads as the vertex, or it is a file and the vertex is
    among those it defines. -/
def Vertex.ReadFrom (source : String) (v : Vertex) : Prop :=
  (Vertex.ofSource source).1 = .ok v ∨ ∃ vs, (Vertex.ofFile source).1 = .ok vs ∧ v ∈ vs

/-- The names of a vertex and its fields come from words of a source. -/
structure Vertex.Named (v : Vertex) : Prop where
  word : IsSourceWord v.name
  isName : Source.isName v.name = true
  fields : ∀ f ∈ v.fields, FieldNamed IsSourceWord f

/-- A struct that is read and its fields are called by identifiers of its source. -/
theorem Vertex.named_of_item {source : List Char} {ts : List Token} {item : StructItem}
    {v : Vertex} (hts : tokens? source = some ts) (hitem : item.NamedIn ts)
    (h : Vertex.ofItem item = .ok v) : v.Named := by
  obtain ⟨-, hshape, -⟩ := Vertex.ofItem_eq_ok_iff.mp h
  have hname : item.name = v.name := congrArg StructItem.name hshape
  refine ⟨?_, ?_, ?_⟩
  · rw [← hname]
    exact isSourceWord_of_mem_tokens hts hitem.word
  · rw [← hname]
    exact hitem.isName
  · intro f hf
    exact (hitem.fields v.fields (congrArg StructItem.fields hshape) f hf).mono
      (fun w hw => isSourceWord_of_mem_tokens hts hw)

/-- **NAMES COME FROM WORDS** in every vertex that is read. -/
theorem Vertex.named_of_readFrom {source : String} {v : Vertex} (h : v.ReadFrom source) :
    v.Named := by
  rcases h with h | ⟨vs, h, hv⟩
  · obtain ⟨item, hitem, hok⟩ := Vertex.ofSource_eq_ok_iff.mp h
    obtain ⟨ts, hts, hread⟩ := Option.bind_eq_some_iff.mp hitem
    exact Vertex.named_of_item hts (StructItem.namedIn_of_ofTokens? hread) hok
  · unfold Vertex.ofFile at h
    split at h
    · next items hitems =>
        obtain ⟨ts, hts, hnamed⟩ := namedIn_of_structItems? hitems
        rw [Vertex.ofItems_eq_mapM] at h
        obtain ⟨item, hitem, hread⟩ := exists_of_mem_right (mapM_eq_ok_iff.mp h) hv
        exact Vertex.named_of_item hts (hnamed item hitem) hread
    · exact nomatch h

/-! ## Plans -/

namespace Plan

/-- A field that is served is not called by an underscore, which has no words. -/
theorem ne_underscore_of_served {types : TypeTable} {pool rest : Pool}
    {fields : List Declaration} {ts : List FieldType} {cs : List Candidate}
    (h : Served types pool fields ts cs rest) : ∀ f ∈ fields, f.name ≠ "_" := by
  induction fields generalizing pool ts cs with
  | nil => exact nofun
  | cons field fields ih =>
      obtain ⟨t, c, pool', ts', cs', -, hc, hserved, -, -⟩ := served_cons_iff.mp h
      refine List.forall_mem_cons.mpr ⟨?_, ih hserved⟩
      intro hname
      obtain ⟨before, after, -, -, hbest⟩ := Pool.takeBest_eq_ok_iff.mp hc
      obtain ⟨w, hw, -⟩ := Naming.wordAffinity_pos_iff.mp hbest.pos
      rw [hname, show Naming.fieldWords "_" = [] by decide] at hw
      exact nomatch hw

/-- **EVERY BINDING IS AN ENTRY**: fields that are served can be written, each by an
    identifier that is its name up to the mark of a raw one. -/
theorem exists_entries {types : TypeTable} {pool rest : Pool} {fields : List Declaration}
    {ts : List FieldType} {cs : List Candidate} (h : Served types pool fields ts cs rest)
    (hfields : ∀ f ∈ fields, FieldNamed IsSourceWord f)
    (hpool : ∀ name ∈ pool.names, '!' ∉ name.toList) (finish : Nat) :
    ∃ es, entriesOf (bindingsFrom finish fields ts cs) = .ok es ∧
      (∀ e ∈ es, IsSourceWord e.field ∧ '!' ∉ e.attributeName.toList) ∧
      es.map (fun e => unraw e.field) = fields.map Declaration.name := by
  induction fields generalizing pool ts cs finish with
  | nil =>
      obtain ⟨rfl, rfl, -⟩ := served_nil_iff.mp h
      exact ⟨[], rfl, nofun, rfl⟩
  | cons field fields ih =>
      have hne := ne_underscore_of_served h field (List.mem_cons_self ..)
      obtain ⟨t, c, pool', ts', cs', -, hc, hserved, rfl, rfl⟩ := served_cons_iff.mp h
      obtain ⟨hfield, hothers⟩ := List.forall_mem_cons.mp hfields
      have hmark : '!' ∉ c.name.toList := hpool c.name (Pool.name_mem_of_takeBest hc)
      have hpool' : ∀ name ∈ pool'.names, '!' ∉ name.toList :=
        fun name hname => hpool name ((Pool.takeBest_names_sublist hc).subset hname)
      obtain ⟨es, hes, hall, hnames⟩ := ih hserved hothers hpool' (t.finishAfter finish)
      -- the word behind the name is no underscore, so it is an identifier
      obtain ⟨w, hw, hname, hunraw⟩ := hfield
      have hidentifier : isName w = true := by
        rcases hname with hname | rfl
        · exact hname
        · exact absurd hunraw hne
      obtain ⟨w', hw', hword, hback⟩ := exists_fieldIdentifier hw hidentifier
      have hentry : entryOf ⟨field.name, c.name, c.location, t.format, t.components,
          t.offsetAfter finish⟩ = .ok ⟨w', c.name, t.format, c.location⟩ := by
        rw [entryOf, hunraw, hw']
      refine ⟨⟨w', c.name, t.format, c.location⟩ :: es, ?_, ?_, ?_⟩
      · exact bind_eq_ok_iff.mpr ⟨_, hentry, bind_eq_ok_iff.mpr ⟨es, hes, rfl⟩⟩
      · exact List.forall_mem_cons.mpr ⟨⟨hword, hmark⟩, hall⟩
      · rw [List.map_cons, List.map_cons, hnames, hunraw, hback]

end Plan

/-! ## Blocks -/

/-- The block names its vertex and the vertex's fields, up to the marks of raw names. -/
structure Vertex.WrittenBy (v : Vertex) (b : ImplBlock) : Prop where
  names : b.Names v.name
  fields : b.entries.map (fun e => unraw e.field) = v.fields.map Declaration.name

variable {shader : String} {types : TypeTable} {options : WriteOptions}

/-- Names of attributes hold no exclamation mark. -/
theorem mark_not_mem_poolNames (shader : String) :
    ∀ name ∈ (Pool.ofShader shader).names, '!' ∉ name.toList := by
  rw [Pool.ofShader, Pool.names_ofDeclarations, List.forall_mem_map]
  intro d hd hmem
  have hword := Shader.isWordChar_of_mem_declarationsFrom hd '!' hmem
  exact absurd hword (by decide)

/-- **A PLAN IS WRITTEN**: the plan of a vertex that was read has a block. -/
theorem Vertex.Named.exists_block {v : Vertex} (hv : v.Named) {plan : Plan}
    (h : Plan.ofVertex shader v types = .ok plan) (names : Bool) :
    ∃ b, ImplBlock.ofPlan names plan = .ok b ∧ v.WrittenBy b := by
  obtain ⟨ts, cs, rest, hserved, -, rfl⟩ := Plan.served_of_plan h
  obtain ⟨es, hes, hall, hnames⟩ :=
    Plan.exists_entries hserved hv.fields (mark_not_mem_poolNames shader) 0
  refine ⟨⟨[Token.word v.name], names, es⟩, ?_, ⟨rfl, hv.word, ?_, ?_⟩, hnames⟩
  · rw [ImplBlock.ofPlan, path?_of_sourceWord hv.word hv.isName]
    exact bind_eq_ok_iff.mpr ⟨es, hes, rfl⟩
  · exact fun e he => (hall e he).1
  · exact fun e he => (hall e he).2

/-- A stop that is not about a name. -/
def Stop.NotOfName (stop : Stop) : Prop :=
  ∀ name, stop ≠ .failed (.invalidIdentifier name)

/-- A block is written with the names of its vertex, or something other than a name stops it. -/
theorem Vertex.Named.blockOf {v : Vertex} (hv : v.Named) (shader : String) (types : TypeTable)
    (options : WriteOptions) :
    (∃ b, blockOf shader types options v = .ok b ∧ v.WrittenBy b) ∨
      ∃ stop, blockOf shader types options v = .error stop ∧ stop.NotOfName := by
  cases hplan : Plan.ofVertex shader v types with
  | ok plan =>
      obtain ⟨b, hb, hwritten⟩ := hv.exists_block hplan options.attributeNames
      refine Or.inl ⟨b, bind_eq_ok_iff.mpr ⟨plan, hplan, ?_⟩, hwritten⟩
      rw [hb]
      rfl
  | error stop =>
      refine Or.inr ⟨stop, bind_eq_error_iff.mpr (Or.inl hplan), ?_⟩
      rintro name rfl
      obtain ⟨_, _, _, _, _, _, -, -, ⟨-, he⟩ | ⟨_, _, -, -, he⟩⟩ := Plan.refused_of_failed hplan
      · exact nomatch he
      · exact nomatch he

/-- So are the blocks of several vertices. -/
theorem blocksOf_of_named {vs : List Vertex} (h : ∀ v ∈ vs, v.Named) (shader : String)
    (types : TypeTable) (options : WriteOptions) :
    (∃ bs, blocksOf shader types options vs = .ok bs ∧ List.Forall₂ Vertex.WrittenBy vs bs) ∨
      ∃ stop, blocksOf shader types options vs = .error stop ∧ stop.NotOfName := by
  induction vs with
  | nil => exact Or.inl ⟨[], rfl, .nil⟩
  | cons v vs ih =>
      obtain ⟨hv, hvs⟩ := List.forall_mem_cons.mp h
      rcases hv.blockOf shader types options with ⟨b, hb, hwritten⟩ | ⟨stop, hstop, hname⟩
      · rcases ih hvs with ⟨bs, hbs, hall⟩ | ⟨stop, hstop, hname⟩
        · refine Or.inl ⟨b :: bs, ?_, .cons hwritten hall⟩
          exact bind_eq_ok_iff.mpr ⟨b, hb, bind_eq_ok_iff.mpr ⟨bs, hbs, rfl⟩⟩
        · refine Or.inr ⟨stop, ?_, hname⟩
          exact bind_eq_error_iff.mpr
            (Or.inr ⟨b, hb, bind_eq_error_iff.mpr (Or.inl hstop)⟩)
      · exact Or.inr ⟨stop, bind_eq_error_iff.mpr (Or.inl hstop), hname⟩

/-- All vertices have plans where a run succeeds. -/
theorem exists_plan_of_blocksOf {vs : List Vertex} {bs : List ImplBlock}
    (h : blocksOf shader types options vs = .ok bs) :
    ∀ v ∈ vs, ∃ plan, Plan.ofVertex shader v types = .ok plan := by
  induction vs generalizing bs with
  | nil => exact nofun
  | cons v vs ih =>
      obtain ⟨b, hb, h⟩ := bind_eq_ok_iff.mp h
      obtain ⟨bs', hbs', -⟩ := bind_eq_ok_iff.mp h
      obtain ⟨plan, hplan, -⟩ := bind_eq_ok_iff.mp hb
      exact List.forall_mem_cons.mpr ⟨⟨plan, hplan⟩, ih hbs'⟩

/-! ## The written text -/

/-- The names of vertices with those of their fields, in order. -/
def fieldNames (vertices : List Vertex) : List (String × String) :=
  vertices.flatMap (fun v => v.fields.map (fun f => (v.name, f.name)))

/-- **THE SAME CALLS** stand in both forms of the code, one for each field. -/
theorem exists_calls {vs : List Vertex} {bs : List ImplBlock}
    (h : List.Forall₂ Vertex.WrittenBy vs bs) :
    ∃ calls, Calls (dropBlanks (tokenText bs).toList) calls ∧
      Calls (dropBlanks (String.join (bs.map ImplBlock.text)).toList) calls ∧
      calls.map (fun c => (c.vertex, unraw c.field)) = fieldNames vs := by
  have htokens : ∀ bs, dropBlanks (tokenText bs).toList = shown (bs.flatMap ImplBlock.tokens) :=
    fun bs => dropBlanks_render _
  rw [htokens]
  induction h with
  | nil =>
      refine ⟨[], .none List.not_mem_nil, ?_, rfl⟩
      exact .none (by decide)
  | @cons v b vs bs hwritten _ ih =>
      obtain ⟨calls, hbare, hset, hcalls⟩ := ih
      refine ⟨b.calls v.name ++ calls, ?_, ?_, ?_⟩
      · rw [List.flatMap_cons]
        exact calls_shown_append hwritten.names.calls_tokens hbare
      · rw [List.map_cons, String.join_cons, String.toList_append, dropBlanks_append]
        refine Calls.append ?_ hset
        rw [ImplBlock.text, setDocument, String.toList_ofList]
        exact hwritten.names.showsCalls_pieces _ (shows_setFrom _ _)
      · have hblock : (b.calls v.name).map (fun c => (c.vertex, unraw c.field))
            = v.fields.map (fun f => (v.name, f.name)) := by
          have hpairs := congrArg (List.map (v.name, ·)) hwritten.fields
          rw [List.map_map, List.map_map] at hpairs
          rw [ImplBlock.calls, List.map_map]
          exact hpairs
        rw [List.map_append, hcalls, hblock]
        rfl

/-- The text is the code as it stands, or what the formatter from outside makes of it. -/
def WriteOptions.Delivers (options : WriteOptions) (code text : String) : Prop :=
  text = code ∨ ∃ format formatted, options.formatter? = some format ∧
    format code = some formatted ∧ text = withoutReturns formatted

theorem writeBlocks_delivers {vs : List Vertex} {bs : List ImplBlock}
    (h : List.Forall₂ Vertex.WrittenBy vs bs) :
    ∃ code calls, options.Delivers code (writeBlocks options bs) ∧
      Calls (dropBlanks code.toList) calls ∧
      calls.map (fun c => (c.vertex, unraw c.field)) = fieldNames vs := by
  obtain ⟨calls, hbare, hset, hcalls⟩ := exists_calls h
  rw [writeBlocks]
  split
  · next text hformatted =>
      obtain ⟨format, hformat, htext⟩ := Option.bind_eq_some_iff.mp hformatted
      exact ⟨tokenText bs, calls, Or.inr ⟨format, text, hformat, htext, rfl⟩, hbare, hcalls⟩
  · refine ⟨setBlocks bs, calls, Or.inl rfl, ?_, hcalls⟩
    rw [setBlocks]
    split
    · exact hset
    · exact hbare

/-- **NAMES CAN BE WRITTEN**: for vertices that are read from sources no run stops at a
    name.  A vertex with a field called by an underscore has no plan, so the run stops
    before anything is written.  Where a run succeeds, its code calls the compiler for
    each field in order, with the name of the vertex and the identifier of the field,
    which is the field's name up to the mark of a raw one. -/
theorem layouts_of_sources {vertices : List Vertex}
    (h : ∀ v ∈ vertices, ∃ source, v.ReadFrom source) :
    (∀ name, vertexLayouts shader vertices types options
      ≠ .error (.failed (.invalidIdentifier name))) ∧
    (∀ v ∈ vertices, (∃ f ∈ v.fields, f.name = "_") →
      (∀ plan, Plan.ofVertex shader v types ≠ .ok plan) ∧
      ∃ stop, vertexLayouts shader vertices types options = .error stop) ∧
    (∀ text, vertexLayouts shader vertices types options = .ok text →
      ∃ code calls, options.Delivers code text ∧ Calls (dropBlanks code.toList) calls ∧
        calls.map (fun c => (c.vertex, unraw c.field)) = fieldNames vertices) := by
  have hnamed : ∀ v ∈ vertices, v.Named := by
    intro v hv
    obtain ⟨source, hread⟩ := h v hv
    exact Vertex.named_of_readFrom hread
  have hplan : ∀ v ∈ vertices, (∃ f ∈ v.fields, f.name = "_") →
      ∀ plan, Plan.ofVertex shader v types ≠ .ok plan := by
    rintro v - ⟨f, hf, hunderscore⟩ plan hplan
    obtain ⟨ts, cs, rest, hserved, -⟩ := Plan.served_of_plan hplan
    exact Plan.ne_underscore_of_served hserved f hf hunderscore
  rw [vertexLayouts]
  rcases blocksOf_of_named hnamed shader types options with ⟨bs, hbs, hall⟩ | ⟨stop, hbs, hname⟩
  · rw [hbs]
    refine ⟨fun name => nofun, ?_, ?_⟩
    · intro v hv hunderscore
      obtain ⟨plan, hok⟩ := exists_plan_of_blocksOf hbs v hv
      exact absurd hok (hplan v hv hunderscore plan)
    · intro text htext
      obtain rfl := Except.ok.inj htext
      exact writeBlocks_delivers hall
  · rw [hbs]
    refine ⟨fun name hstop => hname name (Except.error.inj hstop), ?_, fun text => nofun⟩
    intro v hv hunderscore
    exact ⟨hplan v hv hunderscore, stop, rfl⟩

/-- A struct and a field called by keywords, and a raw field that need not be. -/
theorem layouts_of_sources_raw :
    Vertex.ReadFrom "struct r#type \x7b r#match: f32, r#pos: f32 \x7d"
        ⟨"r#type", [⟨"match", "f32"⟩, ⟨"pos", "f32"⟩], 1⟩ ∧
      ∃ text calls, vertexLayouts "attribute float a_Pos; attribute float match;"
          [⟨"r#type", [⟨"match", "f32"⟩, ⟨"pos", "f32"⟩], 1⟩] TypeTable.standard {} = .ok text ∧
        Calls (dropBlanks text.toList) calls ∧
        calls.map (fun c => (c.vertex, unraw c.field))
          = [("r#type", "match"), ("r#type", "pos")] := by
  have hitem : StructItem.ofSource? "struct r#type \x7b r#match: f32, r#pos: f32 \x7d"
      = some ⟨[], "r#type", .named [⟨"match", "f32"⟩, ⟨"pos", "f32"⟩]⟩ := by
    decide +kernel
  have hread : Vertex.ReadFrom "struct r#type \x7b r#match: f32, r#pos: f32 \x7d"
      ⟨"r#type", [⟨"match", "f32"⟩, ⟨"pos", "f32"⟩], 1⟩ := by
    refine Or.inl ?_
    rw [Vertex.ofSource, hitem]
    rfl
  have hok : (vertexLayouts "attribute float a_Pos; attribute float match;"
      [⟨"r#type", [⟨"match", "f32"⟩, ⟨"pos", "f32"⟩], 1⟩] TypeTable.standard {}).isOk = true := by
    decide +kernel
  refine ⟨hread, ?_⟩
  cases htext : vertexLayouts "attribute float a_Pos; attribute float match;"
      [⟨"r#type", [⟨"match", "f32"⟩, ⟨"pos", "f32"⟩], 1⟩] TypeTable.standard {} with
  | error stop =>
      rw [htext] at hok
      exact nomatch hok
  | ok text =>
      obtain ⟨-, -, hwritten⟩ := layouts_of_sources (List.forall_mem_singleton.mpr ⟨_, hread⟩)
      obtain ⟨code, calls, hcode, hcalls, hnames⟩ := hwritten text htext
      -- there is no formatter from outside, so the code is the text
      rcases hcode with rfl | ⟨format, formatted, hformat, -⟩
      · exact ⟨text, calls, rfl, hcalls, hnames⟩
      · exact nomatch hformat

end VertexBinding
