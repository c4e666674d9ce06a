import VertexBinding.Layout.Definition
import VertexBinding.Proofs.Outcome

/-! # Files — a file read against its structs read one by one

    A file is cut into its items, and those that are structs are read like sources of their
    own, in order and up to the first that is no vertex.  What else stands in the file does
    not count, whatever is defined inside it.  That an item alone is what it is in the file is
    assumed here: the texts of the structs are any texts that are read as these structs. -/

namespace VertexBinding.Vertex

open Source

/-- The struct is neither packed nor laid out as in C, so its layout is a guess. -/
def isUnordered (item : StructItem) : Bool :=
  !(Representation.ofAttributes item.attributes).packed
    && !(Representation.ofAttributes item.attributes).c

/-- The structs up to and including the first that is no vertex, or all of them if there is
    none such. -/
inductive UpToRejected : (items reached : List StructItem) → Prop where
  | all {items : List StructItem} (haccepted : ∀ item ∈ items, ∃ v, ofItem item = .ok v) :
      UpToRejected items items
  | rejected {before after : List StructItem} {item : StructItem} {e : StructError}
      (haccepted : ∀ i ∈ before, ∃ v, ofItem i = .ok v) (h : ofItem item = .error e) :
      UpToRejected (before ++ item :: after) (before ++ [item])

/-! ## One struct -/

theorem ofSource_of_item {text : String} {item : StructItem}
    (h : StructItem.ofSource? text = some item) :
    ofSource text = (ofItem item, itemWarnings item) := by
  rw [ofSource, h]

/-- A source has a vertex if it is one struct that makes one. -/
theorem ofSource_eq_ok_iff {text : String} {v : Vertex} :
    (ofSource text).1 = .ok v ↔
      ∃ item, StructItem.ofSource? text = some item ∧ ofItem item = .ok v := by
  cases h : StructItem.ofSource? text with
  | none =>
      rw [ofSource, h]
      constructor
      · exact nofun
      · rintro ⟨item, hitem, -⟩
        exact nomatch hitem
  | some item =>
      rw [ofSource_of_item h]
      constructor
      · exact fun hok => ⟨item, rfl, hok⟩
      · rintro ⟨_, hitem, hok⟩
        obtain rfl := Option.some.inj hitem
        exact hok

theorem itemWarnings_eq (item : StructItem) :
    itemWarnings item = if isUnordered item then [layoutWarning item.name] else [] := by
  unfold itemWarnings isUnordered
  generalize Representation.ofAttributes item.attributes = r
  obtain ⟨c, packed, align⟩ := r
  cases packed <;> cases c <;> rfl

/-- A struct that is not packed and has named fields is a vertex. -/
theorem ofItem_eq_ok_iff {item : StructItem} {v : Vertex} :
    ofItem item = .ok v ↔ (Representation.ofAttributes item.attributes).packed = false ∧
      item = ⟨item.attributes, v.name, .named v.fields⟩ ∧
      v.align = (Representation.ofAttributes item.attributes).align.getD 1 := by
  obtain ⟨attributes, name, fields⟩ := item
  obtain ⟨vname, vfields, valign⟩ := v
  unfold ofItem
  dsimp only
  generalize Representation.ofAttributes attributes = r
  obtain ⟨c, packed, align⟩ := r
  cases packed with
  | true => simp
  | false => cases fields <;> simp [@eq_comm _ _ valign, and_assoc]

/-- **THREE REJECTIONS**: a packed struct is rejected without a warning; a struct whose fields
    have no names is rejected behind the warning that it may need. -/
theorem ofItem_eq_error_iff {item : StructItem} {e : StructError} :
    ofItem item = .error e ↔
      ((Representation.ofAttributes item.attributes).packed = true ∧ e = .packed item.name) ∨
        (Representation.ofAttributes item.attributes).packed = false ∧
          (item.fields = .tuple ∧ e = .tuple item.name ∨
            item.fields = .unit ∧ e = .unit item.name) := by
  unfold ofItem
  generalize Representation.ofAttributes item.attributes = r
  obtain ⟨c, packed, align⟩ := r
  cases packed with
  | true => simp [@eq_comm _ e]
  | false => cases item.fields <;> simp [@eq_comm _ e]

/-! ## All structs -/

theorem ofItems_eq_mapM (items : List StructItem) : ofItems items = items.mapM ofItem := by
  induction items with
  | nil => rfl
  | cons item items ih => rw [ofItems, List.mapM_cons, ih]

/-- A file that can be read has the vertices and the warnings of its structs. -/
theorem ofFile_of_items {source : String} {items : List StructItem}
    (h : structItems? source = some items) :
    ofFile source = (ofItems items, itemsWarnings items) := by
  rw [ofFile, h]

/-- Structs that are vertices give their warnings and let the reading go on. -/
theorem itemsWarnings_append {before : List StructItem}
    (haccepted : ∀ item ∈ before, ∃ v, ofItem item = .ok v) (rest : List StructItem) :
    itemsWarnings (before ++ rest) = before.flatMap itemWarnings ++ itemsWarnings rest := by
  induction before with
  | nil => rfl
  | cons item before ih =>
      obtain ⟨⟨v, hv⟩, hothers⟩ := List.forall_mem_cons.mp haccepted
      rw [List.cons_append, itemsWarnings, hv, List.flatMap_cons, List.append_assoc, ← ih hothers]

/-- The warnings of a file are those of the structs it got to. -/
theorem itemsWarnings_of_upToRejected {items reached : List StructItem}
    (h : UpToRejected items reached) : itemsWarnings items = reached.flatMap itemWarnings := by
  cases h with
  | all haccepted =>
      have hall := itemsWarnings_append haccepted []
      rw [List.append_nil] at hall
      rw [hall, itemsWarnings, List.append_nil]
  | rejected haccepted h =>
      rw [itemsWarnings_append haccepted, itemsWarnings, h, List.flatMap_append,
        List.flatMap_singleton, List.append_nil]

/-- Every list of structs has a front up to the first that is rejected. -/
theorem exists_upToRejected (items : List StructItem) : ∃ reached, UpToRejected items reached := by
  induction items with
  | nil => exact ⟨[], .all nofun⟩
  | cons item items ih =>
      cases h : ofItem item with
      | error e => exact ⟨[item], @UpToRejected.rejected [] items item e nofun h⟩
      | ok v =>
          obtain ⟨reached, hreached⟩ := ih
          cases hreached with
          | all haccepted => exact ⟨_, .all (List.forall_mem_cons.mpr ⟨⟨v, h⟩, haccepted⟩)⟩
          | rejected haccepted hrejected =>
              exact ⟨_, .rejected (List.forall_mem_cons.mpr ⟨⟨v, h⟩, haccepted⟩) hrejected⟩

theorem flatMap_itemWarnings (items : List StructItem) :
    items.flatMap itemWarnings
      = (items.filter isUnordered).map (fun item => layoutWarning item.name) := by
  induction items with
  | nil => rfl
  | cons item items ih =>
      rw [List.flatMap_cons, ih, itemWarnings_eq, List.filter_cons]
      by_cases h : isUnordered item = true
      · rw [if_pos h, if_pos h]
        rfl
      · rw [if_neg h, if_neg h]
        rfl

/-! ## Texts in place of structs -/

/-- Reading structs one by one reads texts that are these structs. -/
theorem ofItems_of_texts {texts : List String} {items : List StructItem}
    (h : List.Forall₂ (fun text item => StructItem.ofSource? text = some item) texts items) :
    ofItems items = texts.mapM (fun text => (ofSource text).1) := by
  rw [ofItems_eq_mapM]
  induction h with
  | nil => rfl
  | cons hitem _ ih => rw [List.mapM_cons, List.mapM_cons, ih, ofSource_of_item hitem]

/-- A file has the structs that are among its items, read as structs. -/
theorem structItems?_eq_some_iff {source : String} {items : List StructItem} :
    structItems? source = some items ↔ ∃ cuts, items? source = some cuts ∧
      List.Forall₂ (fun cut item => StructItem.ofTokens? cut = some item)
        (cuts.filter isStruct) items := by
  rw [structItems?]
  constructor
  · intro h
    obtain ⟨cuts, hcuts, h⟩ := Option.bind_eq_some_iff.mp h
    exact ⟨cuts, hcuts, mapM_eq_some_iff.mp h⟩
  · rintro ⟨cuts, hcuts, h⟩
    exact Option.bind_eq_some_iff.mpr ⟨cuts, hcuts, mapM_eq_some_iff.mpr h⟩

-- Other items are passed over, as this function that gives back a sum of bounds.
example : structItems? ("fn all() -> impl Iterator<Item = u8> + 'static \x7b items() \x7d "
      ++ "struct Vertex \x7b pos: f32 \x7d")
    = some [⟨[], "Vertex", .named [⟨"pos", "f32"⟩]⟩] := by
  decide +kernel

/-- **ONE BY ONE**: a file whose structs alone are what they are in the file gives the vertices
    that they give alone, in their order, or the error of the first that is rejected.  It
    warns, in order, of the structs that are neither packed nor laid out as in C, up to and
    including the first rejected one: not of that one if it is packed, and of one without
    names for its fields unless it is laid out as in C. -/
theorem ofFile_one_by_one {source : String} {cuts : List (List Token)}
    {items : List StructItem} {texts : List String} (hfile : items? source = some cuts)
    (hitems : List.Forall₂ (fun cut item => StructItem.ofTokens? cut = some item)
      (cuts.filter isStruct) items)
    (halone : List.Forall₂ (fun text item => StructItem.ofSource? text = some item)
      texts items) :
    (∀ vs, (ofFile source).1 = .ok vs ↔
      List.Forall₂ (fun text v => (ofSource text).1 = .ok v) texts vs) ∧
    (∀ e, (ofFile source).1 = .error e ↔
      ∃ before text after, texts = before ++ text :: after ∧
        (∀ t ∈ before, ∃ v, (ofSource t).1 = .ok v) ∧ (ofSource text).1 = .error e) ∧
    (∃ reached, UpToRejected items reached ∧
      (ofFile source).2
        = (reached.filter isUnordered).map (fun item => layoutWarning item.name)) ∧
    ∀ item ∈ items, ∀ e, ofItem item = .error e →
      (e = .packed item.name ∧ isUnordered item = false) ∨
        (e = .tuple item.name ∨ e = .unit item.name) ∧
          isUnordered item = !(Representation.ofAttributes item.attributes).c := by
  rw [ofFile_of_items (structItems?_eq_some_iff.mpr ⟨cuts, hfile, hitems⟩)]
  refine ⟨fun vs => ?_, fun e => ?_, ?_, ?_⟩
  · rw [ofItems_of_texts halone]
    exact mapM_eq_ok_iff
  · rw [ofItems_of_texts halone]
    exact mapM_eq_error_iff
  · obtain ⟨reached, hreached⟩ := exists_upToRejected items
    refine ⟨reached, hreached, ?_⟩
    rw [itemsWarnings_of_upToRejected hreached, flatMap_itemWarnings]
  · rintro item - e h
    rw [isUnordered]
    rcases ofItem_eq_error_iff.mp h with ⟨hpacked, rfl⟩ | ⟨hpacked, hfields⟩
    · rw [hpacked]
      exact Or.inl ⟨rfl, rfl⟩
    · rw [hpacked]
      exact Or.inr ⟨hfields.imp And.right And.right, rfl⟩

/-- A struct inside a module, one that needs a warning, and one without fields in front of a
    third. -/
theorem ofFile_one_by_one_unit :
    (ofFile "mod m \x7b struct Inner; \x7d struct A \x7b a: f32 \x7d struct T; struct U \x7b u: f32 \x7d").1
        = .error (.unit "T") ∧
      ∃ items reached,
        List.Forall₂ (fun text item => StructItem.ofSource? text = some item)
          ["struct A \x7b a: f32 \x7d", "struct T;", "struct U \x7b u: f32 \x7d"] items ∧
        UpToRejected items reached ∧
        (ofFile "mod m \x7b struct Inner; \x7d struct A \x7b a: f32 \x7d struct T; struct U \x7b u: f32 \x7d").2
          = (reached.filter isUnordered).map (fun item => layoutWarning item.name) := by
  have hfile : structItems? "mod m \x7b struct Inner; \x7d struct A \x7b a: f32 \x7d struct T; struct U \x7b u: f32 \x7d"
      = some [⟨[], "A", .named [⟨"a", "f32"⟩]⟩, ⟨[], "T", .unit⟩,
          ⟨[], "U", .named [⟨"u", "f32"⟩]⟩] := by
    decide +kernel
  have hfirst : StructItem.ofSource? "struct A \x7b a: f32 \x7d"
      = some ⟨[], "A", .named [⟨"a", "f32"⟩]⟩ := by
    decide +kernel
  have hunit : StructItem.ofSource? "struct T;" = some ⟨[], "T", .unit⟩ := by
    decide +kernel
  have hlast : StructItem.ofSource? "struct U \x7b u: f32 \x7d"
      = some ⟨[], "U", .named [⟨"u", "f32"⟩]⟩ := by
    decide +kernel
  obtain ⟨cuts, hcuts, hitems⟩ := structItems?_eq_some_iff.mp hfile
  have halone : List.Forall₂ (fun text item => StructItem.ofSource? text = some item)
      ["struct A \x7b a: f32 \x7d", "struct T;", "struct U \x7b u: f32 \x7d"]
      [⟨[], "A", .named [⟨"a", "f32"⟩]⟩, ⟨[], "T", .unit⟩, ⟨[], "U", .named [⟨"u", "f32"⟩]⟩] :=
    .cons hfirst (.cons hunit (.cons hlast .nil))
  obtain ⟨-, herror, ⟨reached, hreached, hwarnings⟩, -⟩ :=
    ofFile_one_by_one hcuts hitems halone
  refine ⟨(herror _).mpr ⟨["struct A \x7b a: f32 \x7d"], "struct T;",
    ["struct U \x7b u: f32 \x7d"], rfl, ?_, ?_⟩, _, reached, halone, hreached, hwarnings⟩
  · refine List.forall_mem_singleton.mpr ⟨⟨"A", [⟨"a", "f32"⟩], 1⟩, ?_⟩
    rw [ofSource_of_item hfirst]
    rfl
  · rw [ofSource_of_item hunit]
    rfl

end VertexBinding.Vertex
