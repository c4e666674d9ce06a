import VertexBinding.Proofs.Shader.Appending

/-! # Rendering — declarations written with any gaps are read back

    Between the parts of a declaration, and around declarations, stand gaps: white space
    and closed comments in any order.  `Renders` says which texts write down a list of
    declarations in this way; it fixes neither the gaps nor what their comments hold.
    Reading such a text gives the list back.

    Without its comments a gap is white space (`IsFiller.exists_blanks`), so what is left
    of a declaration is one in the sense of the grammar. -/

namespace VertexBinding.Shader

open Text

/-- White space, line comments with their line breaks, and closed block comments. -/
inductive IsFiller : List Char → Prop where
  | nil : IsFiller []
  | blank {c : Char} {s : List Char} (hc : isBlank c = true) (rest : IsFiller s) :
      IsFiller (c :: s)
  | lineComment {body s : List Char} (hbody : '\n' ∉ body) (rest : IsFiller s) :
      IsFiller ('/' :: '/' :: (body ++ '\n' :: s))
  | blockComment {body s : List Char} (hbody : Unclosed body) (rest : IsFiller s) :
      IsFiller ('/' :: '*' :: (body ++ '*' :: '/' :: s))

/-- Some white space is left of a text when its comments are gone. -/
def Separates (gap : List Char) : Prop :=
  ∃ c ∈ codeOf gap, isBlank c = true

/-- A declaration, its parts in order and gaps between them. -/
inductive Writes (d : Declaration) : List Char → Prop where
  | parts {gap₁ gap₂ gap₃ : List Char} (hfiller₁ : IsFiller gap₁) (hgap₁ : Separates gap₁)
      (hfiller₂ : IsFiller gap₂) (hgap₂ : Separates gap₂) (hfiller₃ : IsFiller gap₃) :
      Writes d (keyword ++ (gap₁ ++ (d.type.toList
        ++ (gap₂ ++ (d.name.toList ++ (gap₃ ++ [';']))))))

/-- Declarations in order, a gap in front of each and one behind the last. -/
inductive Renders : List Declaration → List Char → Prop where
  | last {gap : List Char} (hgap : IsFiller gap) : Renders [] gap
  | next {d : Declaration} {ds : List Declaration} {gap text rest : List Char}
      (hgap : IsFiller gap) (htext : Writes d text) (hrest : Renders ds rest) :
      Renders (d :: ds) (gap ++ (text ++ rest))

/-- A text that can stand for a name or a type: not empty, and word characters only. -/
def IsWordText (s : String) : Prop :=
  s.toList ≠ [] ∧ ∀ c ∈ s.toList, isWordChar c = true

instance (s : String) : Decidable (IsWordText s) :=
  decidable_of_iff (s.toList ≠ [] ∧ s.toList.all isWordChar = true)
    (by rw [IsWordText, List.all_eq_true])

/-! ## The code of a rendering -/

/-- What holds no slash is copied. -/
theorem codeFrom_append_of_not_mem {w : List Char} (hw : '/' ∉ w) (rest : List Char) :
    codeFrom .code (w ++ rest) = w ++ codeFrom .code rest := by
  induction w with
  | nil => rfl
  | cons c w ih =>
      have hc : c ≠ '/' := fun h => hw (h ▸ List.mem_cons_self ..)
      rw [List.cons_append, codeFrom_cons_of_ne hc, ih (fun h => hw (List.mem_cons_of_mem c h))]
      rfl

/-- **A GAP IS WHITE SPACE** without its comments, whatever follows it. -/
theorem IsFiller.exists_blanks {gap : List Char} (h : IsFiller gap) :
    ∃ blanks, IsGap blanks ∧ codeOf gap = blanks ∧
      ∀ rest, codeFrom .code (gap ++ rest) = blanks ++ codeFrom .code rest := by
  suffices hcode : ∃ blanks, IsGap blanks ∧
      ∀ rest, codeFrom .code (gap ++ rest) = blanks ++ codeFrom .code rest by
    obtain ⟨blanks, hblanks, hrest⟩ := hcode
    refine ⟨blanks, hblanks, ?_, hrest⟩
    have hend := hrest []
    rw [List.append_nil] at hend
    rw [codeOf, hend]
    exact List.append_nil blanks
  induction h with
  | nil => exact ⟨[], List.forall_mem_nil _, fun _ => rfl⟩
  | @blank c s hc _ ih =>
      obtain ⟨blanks, hblanks, hcode⟩ := ih
      have hslash : c ≠ '/' := by
        rintro rfl
        exact absurd hc (by decide)
      refine ⟨c :: blanks, List.forall_mem_cons.mpr ⟨hc, hblanks⟩, ?_⟩
      intro rest
      rw [List.cons_append, codeFrom_cons_of_ne hslash, hcode]
      rfl
  | @lineComment body s hbody _ ih =>
      obtain ⟨blanks, hblanks, hcode⟩ := ih
      refine ⟨'\n' :: blanks, List.forall_mem_cons.mpr ⟨by decide, hblanks⟩, ?_⟩
      intro rest
      show codeFrom .code ('/' :: '/' :: (body ++ '\n' :: s ++ rest)) = _
      rw [codeFrom_lineOpen, List.append_assoc, codeFrom_lineBody hbody, List.cons_append,
        codeFrom_lineClose, hcode]
      rfl
  | @blockComment body s hbody _ ih =>
      obtain ⟨blanks, hblanks, hcode⟩ := ih
      refine ⟨blanks, hblanks, ?_⟩
      intro rest
      show codeFrom .code ('/' :: '*' :: (body ++ '*' :: '/' :: s ++ rest)) = _
      rw [codeFrom_blockOpen, List.append_assoc, List.cons_append, List.cons_append,
        codeFrom_blockBody hbody, hcode]

/-- A gap that separates leaves white space. -/
theorem ne_nil_of_separates {gap blanks : List Char} (h : Separates gap)
    (hcode : codeOf gap = blanks) : blanks ≠ [] := by
  obtain ⟨c, hc, -⟩ := h
  rw [hcode] at hc
  exact List.ne_nil_of_mem hc

theorem slash_not_mem_of_word {w : List Char} (hw : ∀ c ∈ w, isWordChar c = true) : '/' ∉ w := by
  intro hmem
  have hslash := hw '/' hmem
  rw [show isWordChar '/' = false by decide] at hslash
  exact nomatch hslash

/-- **A WRITTEN DECLARATION IS A DECLARATION** when the comments are gone. -/
theorem Writes.declares {d : Declaration} {text : List Char} (h : Writes d text)
    (hname : IsWordText d.name) (htype : IsWordText d.type) (rest : List Char) :
    Declares (codeFrom .code (text ++ rest)) d (codeFrom .code rest) := by
  obtain ⟨name, type⟩ := d
  cases h with
  | @parts gap₁ gap₂ gap₃ hfiller₁ hgap₁ hfiller₂ hgap₂ hfiller₃ =>
      obtain ⟨blanks₁, hblanks₁, hcode₁, hrest₁⟩ := hfiller₁.exists_blanks
      obtain ⟨blanks₂, hblanks₂, hcode₂, hrest₂⟩ := hfiller₂.exists_blanks
      obtain ⟨blanks₃, hblanks₃, -, hrest₃⟩ := hfiller₃.exists_blanks
      have hne₁ := ne_nil_of_separates hgap₁ hcode₁
      have hne₂ := ne_nil_of_separates hgap₂ hcode₂
      -- the parts are copied, and of each gap its white space is left
      refine ⟨blanks₁ ++ (type.toList ++ (blanks₂ ++ (name.toList
        ++ (blanks₃ ++ ';' :: codeFrom .code rest)))), ?_, ?_⟩
      · simp only [List.append_assoc, List.singleton_append]
        rw [codeFrom_append_of_not_mem (slash_not_mem_of_word isWordChar_keyword), hrest₁,
          codeFrom_append_of_not_mem (slash_not_mem_of_word htype.2), hrest₂,
          codeFrom_append_of_not_mem (slash_not_mem_of_word hname.2), hrest₃,
          codeFrom_cons_of_ne (by decide)]
      · have hwordType : IsWord type.toList
            (blanks₂ ++ (name.toList ++ (blanks₃ ++ ';' :: codeFrom .code rest))) :=
          isWord_of_gap htype.1 htype.2 hne₂ hblanks₂
        have hwordName : IsWord name.toList (blanks₃ ++ ';' :: codeFrom .code rest) :=
          isWord_before_semicolon hname.1 hname.2 hblanks₃ (codeFrom .code rest)
        have hbehind := DeclaresBehind.parts hne₁ hblanks₁ hwordType hne₂ hblanks₂ hwordName
          hblanks₃
        rw [String.ofList_toList, String.ofList_toList] at hbehind
        exact hbehind

/-! ## Reading back -/

/-- White space in front of a text is passed. -/
theorem declarationsFrom_gap {gap : List Char} (hgap : IsGap gap) (s : List Char) :
    declarationsFrom 0 false (gap ++ s) = declarationsFrom 0 false s := by
  induction gap with
  | nil => rfl
  | cons c gap ih =>
      have hc := not_isWordChar_of_isBlank (hgap c (List.mem_cons_self ..))
      rw [List.cons_append, declarationsFrom_pass]
      · rw [hc]
        exact ih (fun x hx => hgap x (List.mem_cons_of_mem c hx))
      · intro _ d rest hdeclares
        rw [hdeclares.head_isWordChar] at hc
        exact nomatch hc

/-- **READING A RENDERING**: a text that writes down declarations, with whatever gaps,
    declares these and nothing else, in their order. -/
theorem attributes_of_renders {ds : List Declaration} {shader : String}
    (hwords : ∀ d ∈ ds, IsWordText d.name ∧ IsWordText d.type)
    (h : Renders ds shader.toList) : attributes shader = ds := by
  rw [attributes, codeOf]
  generalize shader.toList = s at h
  induction h with
  | @last gap hgap =>
      obtain ⟨blanks, hblanks, hcode, -⟩ := hgap.exists_blanks
      rw [← codeOf, hcode]
      exact declarationsFrom_quiet (quiet_gap hblanks false [])
  | @next d ds gap text rest hgap htext _ ih =>
      obtain ⟨⟨hname, htype⟩, hothers⟩ := List.forall_mem_cons.mp hwords
      obtain ⟨blanks, hblanks, -, hcode⟩ := hgap.exists_blanks
      rw [hcode, declarationsFrom_gap hblanks,
        declarationsFrom_declared (htext.declares hname htype rest), ih hothers]

/-- A declaration of the keyword by the keyword, with comments that hold declarations and
    the openers of other comments. -/
theorem attributes_of_renders_keyword :
    attributes "/*attribute a b;*/attribute/**/ attribute //a;\n attribute//*\n;attribute u v;"
      = [⟨"attribute", "attribute"⟩, ⟨"v", "u"⟩] := by
  refine attributes_of_renders (by decide +kernel) ?_
  have hcomment : IsFiller ('/' :: '*' :: ("attribute a b;".toList ++ '*' :: '/' :: [])) :=
    .blockComment (by decide +kernel) .nil
  have hgap₁ : IsFiller ('/' :: '*' :: ([] ++ '*' :: '/' :: [' '])) :=
    .blockComment (by decide +kernel) (.blank (by decide +kernel) .nil)
  have hgap₂ : IsFiller (' ' :: '/' :: '/' :: ("a;".toList ++ '\n' :: [' '])) :=
    .blank (by decide +kernel) (.lineComment (by decide +kernel)
      (.blank (by decide +kernel) .nil))
  have hgap₃ : IsFiller ('/' :: '/' :: (['*'] ++ '\n' :: [])) :=
    .lineComment (by decide +kernel) .nil
  have hspace : IsFiller [' '] := .blank (by decide +kernel) .nil
  have hfirst := Writes.parts (d := ⟨"attribute", "attribute"⟩)
    hgap₁ ⟨' ', by decide +kernel, by decide +kernel⟩
    hgap₂ ⟨' ', by decide +kernel, by decide +kernel⟩ hgap₃
  have hsecond := Writes.parts (d := ⟨"v", "u"⟩)
    hspace ⟨' ', by decide +kernel, by decide +kernel⟩
    hspace ⟨' ', by decide +kernel, by decide +kernel⟩ .nil
  exact .next hcomment hfirst (.next .nil hsecond (.last .nil))

end VertexBinding.Shader
