import VertexBinding.Proofs.Outcome
import VertexBinding.Proofs.Source.Printing
import VertexBinding.Source.SourceFile

/-! # Remainders — what a reader leaves is the end of what it got

    A phrase takes tokens from the front and leaves the others as they are, since what it
    prints is that front (`Phrase.printsTaken`).  So whatever the grammar finds in a source,
    its words are words of the source: those of struct items
    (`StructItem.namedIn_of_ofTokens?`), and those of the items a file is cut into. -/

namespace VertexBinding.Source

/-! ## Phrases -/

/-- **PHRASES LEAVE A SUFFIX** of what they are given. -/
theorem Phrase.read_suffix {p : Phrase} {ts printed behind : List Token}
    (h : p.read ts = some (printed, behind)) : behind <:+ ts := by
  obtain ⟨front, rfl, -⟩ := p.printsTaken ts printed behind h
  exact List.suffix_append front behind

/-- What is passed over is a front of the tokens. -/
theorem skip?_suffix {p : Phrase} {ts behind : List Token} (h : skip? p ts = some behind) :
    behind <:+ ts := by
  obtain ⟨⟨printed, rest⟩, hread, rfl⟩ := Option.map_eq_some_iff.mp h
  exact Phrase.read_suffix hread

/-! ## Struct items -/

/-- The word is one of the tokens. -/
def WordOf (ts : List Token) (w : String) : Prop :=
  Token.word w ∈ ts

/-- The name of a field is one of the given words without the mark of a raw one; the word
    is an identifier, or an underscore. -/
def FieldNamed (words : String → Prop) (f : Declaration) : Prop :=
  ∃ w, words w ∧ (isName w = true ∨ w = "_") ∧ f.name = unraw w

/-- The names of a struct and of its fields are words of the tokens. -/
structure StructItem.NamedIn (ts : List Token) (item : StructItem) : Prop where
  word : WordOf ts item.name
  isName : Source.isName item.name = true
  fields : ∀ fields, item.fields = .named fields → ∀ f ∈ fields, FieldNamed (WordOf ts) f

/-- A field named by a word stays so among more words. -/
theorem FieldNamed.mono {words words' : String → Prop} {f : Declaration}
    (h : FieldNamed words f) (hsub : ∀ w, words w → words' w) : FieldNamed words' f := by
  obtain ⟨w, hw, hname⟩ := h
  exact ⟨w, hsub w hw, hname⟩

theorem FieldNamed.subset {ts us : List Token} {f : Declaration} (h : FieldNamed (WordOf ts) f)
    (hsub : ts ⊆ us) : FieldNamed (WordOf us) f :=
  h.mono (fun _ hw => hsub hw)

theorem StructItem.NamedIn.subset {ts us : List Token} {item : StructItem} (h : item.NamedIn ts)
    (hsub : ts ⊆ us) : item.NamedIn us :=
  ⟨hsub h.word, h.isName, fun fields hfields f hf => (h.fields fields hfields f hf).subset hsub⟩

/-- The name of a field stands in front of a colon and is an identifier or an underscore. -/
theorem exists_of_fieldName? {ts behind : List Token} {name : String}
    (h : fieldName? ts = some (name, behind)) :
    ∃ w joint, ts = .word w :: .sign ':' joint :: behind ∧ (isName w = true ∨ w = "_") ∧
      name = unraw w := by
  unfold fieldName? at h
  split at h
  · next w joint rest =>
      split at h
      · next hw =>
          obtain ⟨rfl, rfl⟩ := Prod.mk.inj (Option.some.inj h)
          rw [Bool.or_eq_true, beq_iff_eq] at hw
          exact ⟨w, joint, rfl, hw, rfl⟩
      · exact nomatch h
  · exact nomatch h

/-- Whether it is a type or nested fields, a front of the tokens is read. -/
theorem fieldType?_suffix {name type : String} {ts behind : List Token}
    (h : fieldType? name ts = some (type, behind)) : behind <:+ ts := by
  unfold fieldType? at h
  split at h
  · obtain ⟨rest, hrest, h⟩ := Option.map_eq_some_iff.mp h
    obtain ⟨-, rfl⟩ := Prod.mk.inj h
    exact (skip?_suffix hrest).trans (List.drop_suffix 1 ts)
  · obtain ⟨⟨printed, rest⟩, hread, h⟩ := Option.map_eq_some_iff.mp h
    obtain ⟨-, rfl⟩ := Prod.mk.inj h
    exact Phrase.read_suffix hread

/-- What a field is read from: the word of its name, and its type behind a colon. -/
theorem exists_of_field? {ts behind : List Token} {f : Declaration}
    (h : field? ts = some (f, behind)) :
    ∃ w joint rest, .word w :: .sign ':' joint :: rest <:+ ts ∧ (isName w = true ∨ w = "_") ∧
      f.name = unraw w ∧ fieldType? f.name rest = some (f.type, behind) := by
  obtain ⟨ts₁, hattributes, h⟩ := Option.bind_eq_some_iff.mp h
  obtain ⟨ts₂, hvisibility, h⟩ := Option.bind_eq_some_iff.mp h
  obtain ⟨⟨name, rest⟩, hname, h⟩ := Option.bind_eq_some_iff.mp h
  obtain ⟨⟨type, last⟩, htype, h⟩ := Option.bind_eq_some_iff.mp h
  obtain ⟨rfl, rfl⟩ := Prod.mk.inj (Option.some.inj h)
  obtain ⟨w, joint, rfl, hw, hraw⟩ := exists_of_fieldName? hname
  exact ⟨w, joint, rest, (skip?_suffix hvisibility).trans (skip?_suffix hattributes), hw, hraw,
    htype⟩

/-- The word that names a field stands behind its attributes and its visibility. -/
theorem fieldNamed_of_field? {ts behind : List Token} {f : Declaration}
    (h : field? ts = some (f, behind)) : FieldNamed (WordOf ts) f := by
  obtain ⟨w, joint, rest, hplace, hw, hraw, -⟩ := exists_of_field? h
  exact ⟨w, hplace.subset (List.mem_cons_self ..), hw, hraw⟩

theorem field?_suffix {ts behind : List Token} {f : Declaration}
    (h : field? ts = some (f, behind)) : behind <:+ ts := by
  obtain ⟨w, joint, rest, hplace, -, -, htype⟩ := exists_of_field? h
  have hrest : rest <:+ .word w :: .sign ':' joint :: rest :=
    (List.suffix_cons _ rest).trans (List.suffix_cons _ _)
  exact ((fieldType?_suffix htype).trans hrest).trans hplace

/-- The field is read somewhere in the tokens. -/
def FieldIn (ts : List Token) (f : Declaration) : Prop :=
  ∃ us behind, us <:+ ts ∧ field? us = some (f, behind)

/-- A place in what is left is a place in the whole. -/
theorem FieldIn.of_suffix {ts us : List Token} {f : Declaration} (h : FieldIn us f)
    (hsuffix : us <:+ ts) : FieldIn ts f := by
  obtain ⟨vs, behind, hvs, hread⟩ := h
  exact ⟨vs, behind, hvs.trans hsuffix, hread⟩

theorem FieldIn.fieldNamed {ts : List Token} {f : Declaration} (h : FieldIn ts f) :
    FieldNamed (WordOf ts) f := by
  obtain ⟨us, behind, hsuffix, hread⟩ := h
  exact (fieldNamed_of_field? hread).subset hsuffix.subset

/-- By induction on the fields: each one is read where the one before it ended. -/
theorem fieldIn_of_fields? {size : Nat} {ts behind : List Token} {fs : List Declaration}
    (h : fields? size ts = some (fs, behind)) : ∀ f ∈ fs, FieldIn ts f := by
  induction size generalizing ts behind fs with
  | zero => exact nomatch h
  | succ size ih =>
      unfold fields? at h
      split at h
      · next heq => exact nomatch heq
      · obtain ⟨rfl, -⟩ := Prod.mk.inj (Option.some.inj h)
        exact nofun
      · next ts size' hsize _ =>
          obtain rfl := Nat.succ.inj hsize
          split at h
          · next f rest hfield =>
              obtain ⟨rfl, -⟩ := Prod.mk.inj (Option.some.inj h)
              intro g hg
              obtain rfl := List.mem_singleton.mp hg
              exact ⟨_, _, List.suffix_refl _, hfield⟩
          · next f joint rest hfield =>
              obtain ⟨⟨gs, last⟩, hothers, h⟩ := Option.map_eq_some_iff.mp h
              obtain ⟨rfl, -⟩ := Prod.mk.inj h
              intro g hg
              rcases List.mem_cons.mp hg with rfl | hg
              · exact ⟨_, _, List.suffix_refl _, hfield⟩
              · refine (ih hothers g hg).of_suffix ?_
                exact (List.suffix_cons _ _).trans (field?_suffix hfield)
          · exact nomatch h

/-- The fields of a struct stand in the braces behind its conditions. -/
theorem fieldIn_of_structFields? {ts : List Token} {fs : List Declaration}
    (h : structFields? ts = some (.named fs)) : ∀ f ∈ fs, FieldIn ts f := by
  unfold structFields? at h
  split at h
  · obtain ⟨ts₁, -, h⟩ := Option.bind_eq_some_iff.mp h
    obtain ⟨ts₂, -, h⟩ := Option.bind_eq_some_iff.mp h
    obtain ⟨_, -, h⟩ := Option.bind_eq_some_iff.mp h
    exact nomatch Option.some.inj h
  · obtain ⟨ts₁, hclause, h⟩ := Option.bind_eq_some_iff.mp h
    split at h
    · next rest =>
        obtain ⟨⟨fields, behind⟩, hfields, h⟩ := Option.bind_eq_some_iff.mp h
        split at h
        · next heq =>
            obtain ⟨rfl, rfl⟩ := Prod.mk.inj heq
            obtain rfl := StructFields.named.inj (Option.some.inj h)
            intro f hf
            refine (fieldIn_of_fields? hfields f hf).of_suffix ?_
            exact (List.suffix_cons _ _).trans (skip?_suffix hclause)
        · exact nomatch h
    · obtain ⟨_, -, h⟩ := Option.bind_eq_some_iff.mp h
      exact nomatch Option.some.inj h

/-- What a struct is read from: its name, and what stands behind it. -/
theorem exists_of_ofTokens? {ts : List Token} {item : StructItem}
    (h : StructItem.ofTokens? ts = some item) :
    ∃ rest, .word item.name :: rest <:+ ts ∧ isName item.name = true ∧
      ∃ us, us <:+ rest ∧ structFields? us = some item.fields := by
  unfold StructItem.ofTokens? at h
  obtain ⟨ts₁, hattributes, h⟩ := Option.bind_eq_some_iff.mp h
  obtain ⟨ts₂, hvisibility, h⟩ := Option.bind_eq_some_iff.mp h
  have hfront : ts₂ <:+ ts := (skip?_suffix hvisibility).trans (skip?_suffix hattributes)
  split at h
  · next name rest =>
      split at h
      · next hname =>
          obtain ⟨ts₃, hgenerics, h⟩ := Option.bind_eq_some_iff.mp h
          obtain ⟨fields, hfields, h⟩ := Option.bind_eq_some_iff.mp h
          obtain rfl := Option.some.inj h
          exact ⟨rest, (List.suffix_cons _ _).trans hfront, hname, ts₃, skip?_suffix hgenerics,
            hfields⟩
      · exact nomatch h
  · exact nomatch h

/-- **FIELDS ARE READ** from the tokens of their struct. -/
theorem fieldIn_of_ofTokens? {ts : List Token} {item : StructItem} {fs : List Declaration}
    (h : StructItem.ofTokens? ts = some item) (hfields : item.fields = .named fs) :
    ∀ f ∈ fs, FieldIn ts f := by
  obtain ⟨rest, hrest, -, us, hus, hread⟩ := exists_of_ofTokens? h
  rw [hfields] at hread
  intro f hf
  exact (fieldIn_of_structFields? hread f hf).of_suffix
    (hus.trans ((List.suffix_cons _ _).trans hrest))

/-- **NAMES ARE WORDS** of the tokens a struct is read from. -/
theorem StructItem.namedIn_of_ofTokens? {ts : List Token} {item : StructItem}
    (h : StructItem.ofTokens? ts = some item) : item.NamedIn ts := by
  obtain ⟨rest, hrest, hname, -⟩ := exists_of_ofTokens? h
  refine ⟨hrest.subset (List.mem_cons_self ..), hname, ?_⟩
  intro fs hfs f hf
  exact (fieldIn_of_ofTokens? h hfs f hf).fieldNamed

/-! ## Files -/

/-- An item of a file consists of tokens of the file. -/
theorem subset_of_mem_itemsFrom? {size : Nat} {ts item : List Token} {items : List (List Token)}
    (h : itemsFrom? size ts = some items) (hitem : item ∈ items) : item ⊆ ts := by
  induction size generalizing ts items with
  | zero =>
      cases ts with
      | nil =>
          obtain rfl := Option.some.inj h
          exact nomatch hitem
      | cons t rest => exact nomatch h
  | succ size ih =>
      cases ts with
      | nil =>
          obtain rfl := Option.some.inj h
          exact nomatch hitem
      | cons t rest =>
          simp only [itemsFrom?] at h
          split at h
          · next behind hskip =>
              obtain ⟨others, hothers, rfl⟩ := Option.map_eq_some_iff.mp h
              rcases List.mem_cons.mp hitem with rfl | hitem
              · exact fun u hu => List.mem_of_mem_take hu
              · exact fun u hu => (skip?_suffix hskip).subset (ih hothers hitem hu)
          · exact nomatch h

/-- The structs of a file have their names from the tokens of the file. -/
theorem namedIn_of_structItems? {source : String} {items : List StructItem}
    (h : structItems? source = some items) :
    ∃ ts, fileTokens? source = some ts ∧ ∀ item ∈ items, item.NamedIn ts := by
  obtain ⟨pieces, hpieces, h⟩ := Option.bind_eq_some_iff.mp h
  obtain ⟨ts, hts, hpieces⟩ := Option.bind_eq_some_iff.mp hpieces
  obtain ⟨ts₁, hinner, hpieces⟩ := Option.bind_eq_some_iff.mp hpieces
  refine ⟨ts, hts, ?_⟩
  intro item hitem
  obtain ⟨piece, hpiece, hread⟩ := exists_of_mem_right (mapM_eq_some_iff.mp h) hitem
  have hsub : piece ⊆ ts₁ := subset_of_mem_itemsFrom? hpieces (List.mem_filter.mp hpiece).1
  exact (StructItem.namedIn_of_ofTokens? hread).subset
    (fun t ht => (skip?_suffix hinner).subset (hsub ht))

end VertexBinding.Source
