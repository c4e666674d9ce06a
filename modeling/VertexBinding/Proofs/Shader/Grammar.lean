import VertexBinding.Proofs.Text.Classes
import VertexBinding.Proofs.Text.Runs
import VertexBinding.Shader.Attributes

/-! # Grammar — what a declaration is, without a reader

    A declaration is the keyword, a gap, a type, a gap, a name, a gap that may be
    empty, and a semicolon.  Gaps are white space; type and name are words, taken as
    long as they go.  White space is no word character, so a text can be cut into
    these parts in one way only: the greedy reader reads nothing else, and it misses
    nothing. -/

namespace VertexBinding.Shader

open Text

/-- White space and nothing else. -/
def IsGap (gap : List Char) : Prop :=
  ∀ c ∈ gap, isBlank c = true

/-- A word in front of a text: not empty, and all the word characters there are. -/
structure IsWord (w rest : List Char) : Prop where
  ne_nil : w ≠ []
  run : IsRun isWordChar w rest

/-- What stands behind a keyword that declares `d`; `rest` is behind the semicolon. -/
inductive DeclaresBehind : List Char → Declaration → List Char → Prop
  | parts {gap₁ type gap₂ name gap₃ rest : List Char}
      (hne₁ : gap₁ ≠ []) (hgap₁ : IsGap gap₁)
      (htype : IsWord type (gap₂ ++ (name ++ (gap₃ ++ ';' :: rest))))
      (hne₂ : gap₂ ≠ []) (hgap₂ : IsGap gap₂)
      (hname : IsWord name (gap₃ ++ ';' :: rest)) (hgap₃ : IsGap gap₃) :
      DeclaresBehind (gap₁ ++ (type ++ (gap₂ ++ (name ++ (gap₃ ++ ';' :: rest)))))
        ⟨String.ofList name, String.ofList type⟩ rest

/-- A text begins with a declaration of `d`; `rest` is behind the semicolon. -/
def Declares (s : List Char) (d : Declaration) (rest : List Char) : Prop :=
  ∃ t, s = keyword ++ t ∧ DeclaresBehind t d rest

/-! ## Where gaps and words end -/

/-- A gap ends where a word begins. -/
theorem isRun_gap_word {gap w rest : List Char} (hgap : IsGap gap) (hw : IsWord w rest) :
    IsRun isBlank gap (w ++ rest) := by
  refine ⟨hgap, ?_⟩
  cases w with
  | nil => exact absurd rfl hw.ne_nil
  | cons c w =>
      intro c' hc'
      obtain rfl := Option.some.inj hc'
      exact not_isBlank_of_isWordChar (hw.run.all c (List.mem_cons_self ..))

/-- A gap ends at a semicolon. -/
theorem isRun_gap_semicolon {gap : List Char} (hgap : IsGap gap) (rest : List Char) :
    IsRun isBlank gap (';' :: rest) := by
  refine ⟨hgap, ?_⟩
  intro c hc
  obtain rfl := Option.some.inj hc
  decide

/-- A word ends where a gap begins. -/
theorem isWord_of_gap {w gap rest : List Char} (hne : w ≠ [])
    (hw : ∀ c ∈ w, isWordChar c = true) (hgap : gap ≠ []) (hblank : IsGap gap) :
    IsWord w (gap ++ rest) := by
  refine ⟨hne, hw, ?_⟩
  cases gap with
  | nil => exact absurd rfl hgap
  | cons b gap =>
      intro c hc
      obtain rfl := Option.some.inj hc
      exact not_isWordChar_of_isBlank (hblank b (List.mem_cons_self ..))

theorem isWordChar_keyword : ∀ c ∈ keyword, isWordChar c = true :=
  List.all_eq_true.mp (by decide +kernel)

theorem not_isWordChar_semicolon : isWordChar ';' = false := by
  decide +kernel

/-- The keyword of a declaration is a word. -/
theorem DeclaresBehind.isWord_keyword {t rest : List Char} {d : Declaration}
    (h : DeclaresBehind t d rest) : IsWord keyword t := by
  cases h with
  | parts hne₁ hgap₁ _ _ _ _ _ =>
      exact isWord_of_gap (by decide) isWordChar_keyword hne₁ hgap₁

/-- White space in front of a semicolon is not white space in front of a word. -/
theorem semicolon_ne_word {gap gap' w t rest : List Char} (hgap : IsGap gap)
    (hgap' : IsGap gap') (hw : IsWord w t) : gap ++ ';' :: rest ≠ gap' ++ (w ++ t) := by
  intro heq
  obtain ⟨-, htail⟩ :=
    (isRun_gap_semicolon hgap rest).unique (isRun_gap_word hgap' hw) heq
  cases w with
  | nil => exact hw.ne_nil rfl
  | cons c w =>
      obtain ⟨rfl, -⟩ := List.cons.inj htail
      have hsemicolon := hw.run.all ';' (List.mem_cons_self ..)
      rw [not_isWordChar_semicolon] at hsemicolon
      exact nomatch hsemicolon

/-! ## The reader reads the grammar -/

/-- White space is passed over as long as it goes, and there has to be some. -/
theorem afterBlanks?_eq_some_iff {s t : List Char} :
    afterBlanks? s = some t ↔ ∃ gap, s = gap ++ t ∧ gap ≠ [] ∧ IsRun isBlank gap t := by
  constructor
  · intro h
    cases s with
    | nil => exact nomatch h
    | cons c rest =>
        rw [afterBlanks?] at h
        by_cases hc : isBlank c = true
        · rw [if_pos hc] at h
          obtain rfl := Option.some.inj h
          have hrun := isRun_takeWhile isBlank rest
          refine ⟨c :: rest.takeWhile isBlank, ?_, List.cons_ne_nil _ _, ?_, hrun.stops⟩
          · rw [List.cons_append, List.takeWhile_append_dropWhile]
          · intro b hb
            rcases List.mem_cons.mp hb with rfl | hmem
            · exact hc
            · exact hrun.all b hmem
        · rw [if_neg hc] at h
          exact nomatch h
  · rintro ⟨gap, rfl, hne, hrun⟩
    cases gap with
    | nil => exact absurd rfl hne
    | cons c gap =>
        have hc := hrun.all c (List.mem_cons_self ..)
        have hgap : IsRun isBlank gap t :=
          ⟨fun b hb => hrun.all b (List.mem_cons_of_mem c hb), hrun.stops⟩
        rw [List.cons_append, afterBlanks?, if_pos hc, hgap.dropWhile]

/-- A word is read as long as it goes, and it is not empty. -/
theorem word?_eq_some_iff {s w t : List Char} :
    word? s = some (w, t) ↔ s = w ++ t ∧ IsWord w t := by
  constructor
  · intro h
    rw [word?] at h
    have hrun := isRun_takeWhile isWordChar s
    have hsplit : s.takeWhile isWordChar ++ s.dropWhile isWordChar = s :=
      List.takeWhile_append_dropWhile
    cases hw : s.takeWhile isWordChar with
    | nil =>
        rw [hw] at h
        exact nomatch h
    | cons c w' =>
        rw [hw] at h hrun hsplit
        obtain ⟨rfl, rfl⟩ := Prod.mk.inj (Option.some.inj h)
        exact ⟨hsplit.symm, List.cons_ne_nil c w', hrun⟩
  · rintro ⟨rfl, hw⟩
    rw [word?, hw.run.takeWhile, hw.run.dropWhile]
    cases w with
    | nil => exact absurd rfl hw.ne_nil
    | cons c w => rfl

/-- **THE READER IS EXACT**: behind a keyword it reads what the grammar says. -/
theorem declaration?_eq_some_iff {s rest : List Char} {d : Declaration} :
    declaration? s = some (d, rest) ↔ DeclaresBehind s d rest := by
  rw [declaration?]
  constructor
  · intro h
    obtain ⟨s₁, h₁, htail₁⟩ := Option.bind_eq_some_iff.mp h
    obtain ⟨⟨type, s₂⟩, h₂, htail₂⟩ := Option.bind_eq_some_iff.mp htail₁
    obtain ⟨s₃, h₃, htail₃⟩ := Option.bind_eq_some_iff.mp htail₂
    obtain ⟨⟨name, s₄⟩, h₄, hend⟩ := Option.bind_eq_some_iff.mp htail₃
    clear h htail₁ htail₂ htail₃
    obtain ⟨gap₁, rfl, hne₁, hgap₁⟩ := afterBlanks?_eq_some_iff.mp h₁
    obtain ⟨rfl, htype⟩ := word?_eq_some_iff.mp h₂
    obtain ⟨gap₂, rfl, hne₂, hgap₂⟩ := afterBlanks?_eq_some_iff.mp h₃
    obtain ⟨rfl, hname⟩ := word?_eq_some_iff.mp h₄
    have hgap₃ := isRun_takeWhile isBlank s₄
    have hsplit : s₄.takeWhile isBlank ++ s₄.dropWhile isBlank = s₄ :=
      List.takeWhile_append_dropWhile
    dsimp only at hend
    split at hend
    · next rest' hrest =>
        obtain ⟨rfl, rfl⟩ := Prod.mk.inj (Option.some.inj hend)
        rw [hrest] at hsplit
        rw [← hsplit] at htype hname ⊢
        exact .parts hne₁ hgap₁.all htype hne₂ hgap₂.all hname hgap₃.all
    · exact nomatch hend
  · intro h
    cases h with
    | @parts gap₁ type gap₂ name gap₃ _ hne₁ hgap₁ htype hne₂ hgap₂ hname hgap₃ =>
        have h₁ := afterBlanks?_eq_some_iff.mpr
          ⟨gap₁, rfl, hne₁, isRun_gap_word hgap₁ htype⟩
        have h₂ := word?_eq_some_iff.mpr ⟨rfl, htype⟩
        have h₃ := afterBlanks?_eq_some_iff.mpr
          ⟨gap₂, rfl, hne₂, isRun_gap_word hgap₂ hname⟩
        have h₄ := word?_eq_some_iff.mpr ⟨rfl, hname⟩
        simp only [h₁, h₂, h₃, h₄, Option.bind_eq_bind, Option.bind_some,
          (isRun_gap_semicolon hgap₃ rest).dropWhile]

theorem Declares.length_lt {s rest : List Char} {d : Declaration} (h : Declares s d rest) :
    rest.length < s.length := by
  obtain ⟨t, rfl, hbehind⟩ := h
  cases hbehind with
  | parts =>
      simp only [List.length_append, List.length_cons]
      omega

/-- **OCCURRENCES ARE DECLARATIONS**: the scanner stops at a text that begins with a
    declaration, and nowhere else, and it knows how long the declaration is. -/
theorem occurrence?_eq_some_iff {s : List Char} {d : Declaration} {n : Nat} :
    occurrence? s = some (d, n) ↔ ∃ rest, Declares s d rest ∧ n + rest.length = s.length := by
  rw [occurrence?]
  constructor
  · intro h
    by_cases hkey : keyword.isPrefixOf s = true
    · rw [if_pos hkey] at h
      obtain ⟨t, rfl⟩ := List.isPrefixOf_iff_prefix.mp hkey
      rw [List.drop_left] at h
      cases hread : declaration? t with
      | none =>
          rw [hread] at h
          exact nomatch h
      | some r =>
          obtain ⟨d', rest⟩ := r
          rw [hread] at h
          obtain ⟨rfl, rfl⟩ := Prod.mk.inj (Option.some.inj h)
          have hdeclares : Declares (keyword ++ t) d' rest :=
            ⟨t, rfl, declaration?_eq_some_iff.mp hread⟩
          exact ⟨rest, hdeclares, Nat.sub_add_cancel (Nat.le_of_lt hdeclares.length_lt)⟩
    · rw [if_neg hkey] at h
      exact nomatch h
  · rintro ⟨rest, ⟨t, rfl, hbehind⟩, hlength⟩
    rw [if_pos (List.isPrefixOf_iff_prefix.mpr (List.prefix_append keyword t)), List.drop_left,
      declaration?_eq_some_iff.mpr hbehind, ← hlength]
    show some (d, n + rest.length - rest.length) = some (d, n)
    rw [Nat.add_sub_cancel]

/-- The scanner stops nowhere else. -/
theorem occurrence?_eq_none_iff {s : List Char} :
    occurrence? s = none ↔ ∀ d rest, ¬ Declares s d rest := by
  rw [Option.eq_none_iff_forall_ne_some]
  constructor
  · intro h d rest hdeclares
    have hn := Nat.sub_add_cancel (Nat.le_of_lt hdeclares.length_lt)
    exact h (d, s.length - rest.length) (occurrence?_eq_some_iff.mpr ⟨rest, hdeclares, hn⟩)
  · intro h r hocc
    obtain ⟨rest, hdeclares, -⟩ := occurrence?_eq_some_iff.mp hocc
    exact h r.1 rest hdeclares

/-- A text begins with one declaration at most. -/
theorem Declares.unique {s rest rest' : List Char} {d d' : Declaration}
    (h : Declares s d rest) (h' : Declares s d' rest') : d = d' ∧ rest = rest' := by
  obtain ⟨t, rfl, hbehind⟩ := h
  obtain ⟨t', heq, hbehind'⟩ := h'
  obtain rfl := List.append_cancel_left heq
  have hread := declaration?_eq_some_iff.mpr hbehind
  rw [declaration?_eq_some_iff.mpr hbehind'] at hread
  obtain ⟨rfl, rfl⟩ := Prod.mk.inj (Option.some.inj hread)
  exact ⟨rfl, rfl⟩

end VertexBinding.Shader
