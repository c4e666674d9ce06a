import VertexBinding.Proofs.Layout.Files
import VertexBinding.Proofs.Source.FieldTypes
import VertexBinding.Proofs.Text.Respacing

/-! # Registration — what a type table answers after any number of insertions

    A type is known by its text without white space.  After types were inserted one by one,
    a table answers with the last of them that is the queried type, and if there is none, as
    it did before (`get?_insertAll_eq_some_iff`).  Neither where white space stands in the
    texts nor any other type has a say in it.

    The type of a field that was read from a source has the text of its tokens with spaces
    between them, so it finds what was inserted for these tokens, whatever white space they
    were written with. -/

namespace VertexBinding

open Source Text

namespace TypeTable

/-- The texts are the same without their white space. -/
def SameType (t u : String) : Prop :=
  dropBlanks t.toList = dropBlanks u.toList

instance (t u : String) : Decidable (SameType t u) :=
  inferInstanceAs (Decidable (_ = _))

/-- The last of the types that is the queried one has the layout. -/
def LastFor (types : List (String × FieldType)) (query : String) (layout : FieldType) : Prop :=
  ∃ before type after, types = before ++ (type, layout) :: after ∧ SameType type query ∧
    ∀ entry ∈ after, ¬ SameType entry.1 query

/-- None of the types is the queried one. -/
def NoneFor (types : List (String × FieldType)) (query : String) : Prop :=
  ∀ entry ∈ types, ¬ SameType entry.1 query

/-- The types of the standard table. -/
def standardTypes : List (String × FieldType) :=
  scalarsAndArrays ++ glamVectors
    ++ glamVectors.map (fun (type, layout) => ("glam::" ++ type, layout))

variable {types types' : List (String × FieldType)} {query query' type : String}
variable {layout layout' : FieldType}

/-! ## Insertions -/

theorem lastFor_cons_iff : LastFor ((type, layout') :: types) query layout ↔
    LastFor types query layout ∨
      NoneFor types query ∧ SameType type query ∧ layout' = layout := by
  constructor
  · rintro ⟨before, t, after, hsplit, ht, hafter⟩
    cases before with
    | nil =>
        obtain ⟨hentry, rfl⟩ := List.cons.inj hsplit
        obtain ⟨rfl, rfl⟩ := Prod.mk.inj hentry
        exact Or.inr ⟨hafter, ht, rfl⟩
    | cons entry before =>
        obtain ⟨-, rfl⟩ := List.cons.inj hsplit
        exact Or.inl ⟨before, t, after, rfl, ht, hafter⟩
  · rintro (⟨before, t, after, rfl, ht, hafter⟩ | ⟨hnone, ht, rfl⟩)
    · exact ⟨(type, layout') :: before, t, after, rfl, ht, hafter⟩
    · exact ⟨[], type, types, rfl, ht, hnone⟩

theorem noneFor_cons_iff {entry : String × FieldType} :
    NoneFor (entry :: types) query ↔ ¬ SameType entry.1 query ∧ NoneFor types query :=
  List.forall_mem_cons

/-- **LAST WRITE WINS**, and behind all writes the table answers as it did before. -/
theorem get?_insertAll_eq_some_iff (start : TypeTable) :
    (start.insertAll types).get? query = some layout ↔
      LastFor types query layout ∨ NoneFor types query ∧ start.get? query = some layout := by
  induction types generalizing start with
  | nil =>
      constructor
      · exact fun h => Or.inr ⟨nofun, h⟩
      · rintro (⟨before, type, after, hsplit, -⟩ | ⟨-, h⟩)
        · exact absurd hsplit (by simp)
        · exact h
  | cons entry types ih =>
      obtain ⟨type, layout'⟩ := entry
      have hstep : start.insertAll ((type, layout') :: types)
          = (start.insert type layout').insertAll types := rfl
      have hinsert : (start.insert type layout').get? query
          = if SameType type query then some layout' else start.get? query :=
        get?_insert start type layout' query
      rw [hstep, ih, lastFor_cons_iff, noneFor_cons_iff, hinsert]
      by_cases hsame : SameType type query
      · simp [hsame]
      · simp [hsame]

/-- Whatever white space the texts are written with, the tables are the same. -/
theorem insertAll_respaced (start : TypeTable)
    (h : List.Forall₂ (fun entry entry' => SameType entry.1 entry'.1 ∧ entry.2 = entry'.2)
      types types') : start.insertAll types = start.insertAll types' := by
  induction h generalizing start with
  | nil => rfl
  | @cons entry entry' types types' hentry _ ih =>
      obtain ⟨type, layout⟩ := entry
      obtain ⟨type', layout'⟩ := entry'
      obtain ⟨htype, rfl⟩ := hentry
      have hinsert : start.insert type layout = start.insert type' layout :=
        congrArg (fun key => TypeTable.mk ((key, layout) :: start.entries)) htype
      have hrest := ih (start.insert type layout)
      rw [hinsert] at hrest
      exact (congrArg (insertAll · types) hinsert).trans hrest

/-- A query is normalised like the types of the table, so its spacing does not matter. -/
theorem get?_respaced (table : TypeTable) (h : SameType query query') :
    table.get? query = table.get? query' := by
  have hkey : typeKey query = typeKey query' := h
  rw [get?, get?, hkey]

/-! ## The standard table -/

theorem standard_eq : standard = empty.insertAll standardTypes := by
  rw [standardTypes, insertAll, List.foldl_append, List.foldl_append]
  rfl

/-- No two types of the standard table are one type. -/
theorem standard_distinct :
    standardTypes.Pairwise (fun entry entry' => ¬ SameType entry.1 entry'.1) := by
  decide +kernel

/-- Of types of which no two are the same, the last for a query is the only one. -/
theorem lastFor_iff_mem
    (hdistinct : types.Pairwise (fun entry entry' => ¬ SameType entry.1 entry'.1)) :
    LastFor types query layout ↔ ∃ type, (type, layout) ∈ types ∧ SameType type query := by
  constructor
  · rintro ⟨before, type, after, rfl, htype, -⟩
    exact ⟨type, by simp, htype⟩
  · rintro ⟨type, hmem, htype⟩
    obtain ⟨before, after, rfl⟩ := List.append_of_mem hmem
    refine ⟨before, type, after, rfl, htype, ?_⟩
    intro entry hentry hsame
    have hbehind := (List.pairwise_append.mp hdistinct).2.1
    exact List.rel_of_pairwise_cons hbehind hentry (htype.trans hsame.symm)

/-- The standard table answers with its rows and nothing else. -/
theorem get?_standard_eq_some_iff :
    standard.get? query = some layout ↔
      ∃ type, (type, layout) ∈ standardTypes ∧ SameType type query := by
  rw [standard_eq, get?_insertAll_eq_some_iff, lastFor_iff_mem standard_distinct]
  simp

/-! ## Types read from a source -/

/-- **FOUND BY TOKENS**: the type of a field finds what a text finds in which its tokens stand
    with other white space. -/
theorem get?_of_typeTokens {source ts : List Token} {f : Declaration} {text : String}
    (table : TypeTable) (h : TypeTokens source f ts) (htext : Spaced ts text.toList) :
    table.get? f.type = table.get? text :=
  get?_respaced table (h.dropBlanks_type.trans htext.dropBlanks.symm)

/-- The type of a field is its tokens with some spacing. -/
theorem exists_typeTokens_of_ofSource {source : String} {v : Vertex}
    (h : (Vertex.ofSource source).1 = .ok v) :
    ∃ tokens, tokens? source.toList = some tokens ∧
      ∀ f ∈ v.fields, ∃ ts, TypeTokens tokens f ts ∧ Spaced ts f.type.toList := by
  obtain ⟨item, hitem, hok⟩ := Vertex.ofSource_eq_ok_iff.mp h
  obtain ⟨tokens, htokens, hread⟩ := Option.bind_eq_some_iff.mp hitem
  obtain ⟨-, hshape, -⟩ := Vertex.ofItem_eq_ok_iff.mp hok
  refine ⟨tokens, htokens, ?_⟩
  intro f hf
  exact (fieldIn_of_ofTokens? hread (congrArg StructItem.fields hshape) f hf).exists_typeTokens

/-! ## The table as a map -/

/-- **A MAP OF TEXTS WITHOUT WHITE SPACE**: after any insertions a table answers with the last
    of the inserted types that is the queried one, else as it did before; the empty table
    answers nothing, the standard one its types.  One more insertion changes the answer for
    no other type, and white space put into the texts or taken out changes nothing.  The
    type of a field that was read from a source finds what is found under its tokens, written
    with any white space. -/
theorem table_is_map (start : TypeTable) (types : List (String × FieldType)) (query : String) :
    (∀ layout, (start.insertAll types).get? query = some layout ↔
      LastFor types query layout ∨ NoneFor types query ∧ start.get? query = some layout) ∧
    (empty.get? query = none ∧ ∀ layout, standard.get? query = some layout ↔
      ∃ type, (type, layout) ∈ standardTypes ∧ SameType type query) ∧
    (∀ type layout, ¬ SameType type query →
      ((start.insertAll types).insert type layout).get? query
        = (start.insertAll types).get? query) ∧
    (∀ types' query', List.Forall₂ (fun entry entry' =>
        Respaced entry.1.toList entry'.1.toList ∧ entry.2 = entry'.2) types types' →
      Respaced query.toList query'.toList →
      (start.insertAll types').get? query' = (start.insertAll types).get? query) ∧
    ∀ source v, (Vertex.ofSource source).1 = .ok v → ∃ tokens,
      tokens? source.toList = some tokens ∧ ∀ f ∈ v.fields,
        (∃ ts, TypeTokens tokens f ts ∧ Spaced ts f.type.toList) ∧
        ∀ ts text, TypeTokens tokens f ts → Spaced ts text.toList →
          (start.insertAll types).get? f.type = (start.insertAll types).get? text := by
  refine ⟨fun layout => get?_insertAll_eq_some_iff start,
    ⟨get?_empty query, fun layout => get?_standard_eq_some_iff⟩, ?_, ?_, ?_⟩
  · intro type layout hother
    exact (get?_insert _ type layout query).trans (if_neg hother)
  · intro types' query' htypes hquery
    have hsame := htypes.imp (fun _ _ h => And.imp_left respaced_iff.mp h)
    rw [insertAll_respaced start hsame]
    exact (get?_respaced _ (respaced_iff.mp hquery)).symm
  · intro source v hv
    obtain ⟨tokens, htokens, hfields⟩ := exists_typeTokens_of_ofSource hv
    refine ⟨tokens, htokens, fun f hf => ⟨hfields f hf, ?_⟩⟩
    exact fun ts text hts htext => get?_of_typeTokens _ hts htext

/-- A vector of the standard table made wider under another spacing, for a field that writes
    its type with a third one. -/
theorem table_is_map_wider :
    (standard.insertAll [("glam ::Vec3\u3000", .ofFormat .float32x4 4 16)]).get? "glam::Vec3"
      = some (.ofFormat .float32x4 4 16) ∧
    (¬ SameType "Vec3" "glam::Vec3" ∧
      ((standard.insertAll [("glam ::Vec3\u3000", .ofFormat .float32x4 4 16)]).insert
        "Vec3" (.ofFormat .float32x2 2 8)).get? "glam::Vec3"
          = some (.ofFormat .float32x4 4 16)) ∧
    (Respaced "glam ::Vec3\u3000".toList "glam::Vec3".toList ∧
      Respaced "glam::Vec3".toList "glam:: Vec3".toList ∧
      (standard.insertAll [("glam::Vec3", .ofFormat .float32x4 4 16)]).get? "glam:: Vec3"
        = some (.ofFormat .float32x4 4 16)) ∧
    (Vertex.ofSource "struct Vertex \x7b color: glam:: Vec3 \x7d").1
      = .ok ⟨"Vertex", [⟨"color", "glam :: Vec3"⟩], 1⟩ ∧
    (standard.insertAll [("glam ::Vec3\u3000", .ofFormat .float32x4 4 16)]).get? "glam :: Vec3"
      = (standard.insertAll [("glam ::Vec3\u3000", .ofFormat .float32x4 4 16)]).get?
          "glam\u2003::Vec3\n" := by
  obtain ⟨hanswer, -, hother, hspaces, hsource⟩ :=
    table_is_map standard [("glam ::Vec3\u3000", .ofFormat .float32x4 4 16)] "glam::Vec3"
  have hlast : LastFor [("glam ::Vec3\u3000", .ofFormat .float32x4 4 16)] "glam::Vec3"
      (.ofFormat .float32x4 4 16) := ⟨[], _, [], rfl, by decide +kernel, nofun⟩
  have hwide := (hanswer _).mpr (Or.inl hlast)
  have hdiffers : ¬ SameType "Vec3" "glam::Vec3" := by decide +kernel
  have hinserted : Respaced "glam ::Vec3\u3000".toList "glam::Vec3".toList :=
    respaced_iff.mpr (by decide +kernel)
  have hqueried : Respaced "glam::Vec3".toList "glam:: Vec3".toList :=
    respaced_iff.mpr (by decide +kernel)
  have hread : (Vertex.ofSource "struct Vertex \x7b color: glam:: Vec3 \x7d").1
      = .ok ⟨"Vertex", [⟨"color", "glam :: Vec3"⟩], 1⟩ := by decide +kernel
  obtain ⟨tokens, htokens, hfields⟩ := hsource _ _ hread
  -- the type in the source, behind the name of the field
  have hplace : .word "color" :: .sign ':' false ::
      ([.word "glam", .sign ':' true, .sign ':' false, .word "Vec3"] ++ [.closing .brace])
        <:+ tokens :=
    ⟨[.word "struct", .word "Vertex", .opening .brace],
      Option.some.inj (Eq.trans (by decide +kernel) htokens)⟩
  have hpath : TypeTokens tokens ⟨"color", "glam :: Vec3"⟩
      [.word "glam", .sign ':' true, .sign ':' false, .word "Vec3"] :=
    .printed (.behindName hplace (by decide +kernel)
      (.type (by decide +kernel) (by decide +kernel)) (by decide +kernel))
  -- white space in front of the first colon and behind the last token
  have hnone : ∀ c ∈ ([] : List Char), isBlank c = true := nofun
  have hgap : ∀ c ∈ ['\u2003'], isBlank c = true := List.forall_mem_singleton.mpr (by decide)
  have hend : ∀ c ∈ ['\n'], isBlank c = true := List.forall_mem_singleton.mpr (by decide)
  have htext : Spaced [.word "glam", .sign ':' true, .sign ':' false, .word "Vec3"]
      "glam\u2003::Vec3\n".toList :=
    .token hnone (.token hgap (.token hnone (.token hnone (.done hend))))
  have hrespaced := hspaces [("glam::Vec3", .ofFormat .float32x4 4 16)] "glam:: Vec3"
    (.cons ⟨hinserted, rfl⟩ .nil) hqueried
  exact ⟨hwide, ⟨hdiffers, (hother "Vec3" _ hdiffers).trans hwide⟩,
    ⟨hinserted, hqueried, hrespaced.trans hwide⟩,
    hread, (hfields _ (List.mem_singleton_self _)).2 _ _ hpath htext⟩

end TypeTable

end VertexBinding
