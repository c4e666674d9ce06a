import VertexBinding.Matching
import VertexBinding.Proofs.Shader.Occurrences
import VertexBinding.Proofs.Shader.Pieces

/-! # Appending — text behind a shader moves none of its attributes

    Whatever is appended to a shader, a declaration that is complete stays what it is,
    because it depends on nothing behind its semicolon (`Declares.own_text`).  Nor can a
    new one come before it: a declaration that ends in the appended text covers all that
    is in between, and nothing begins inside a declaration.

    Comments are no obstacle.  The code of the shader is the front of the longer code, but
    for one slash at its end that may turn out to open a comment, and a slash at the end
    declares nothing. -/

namespace VertexBinding.Shader

open Text

/-! ## Code -/

/-- Two characters begin a text of two and more or do not, whatever is behind. -/
theorem pair_prefix_iff {a b c d : Char} {s : List Char} :
    [a, b] <+: c :: d :: s ↔ a = c ∧ b = d := by
  simp only [List.cons_prefix_cons, List.nil_prefix, and_true]

/-- A code is the front of a longer one, but for a slash at its end. -/
def FrontOf (code long : List Char) : Prop :=
  ∃ front back, long = front ++ back ∧ (code = front ∨ code = front ++ ['/'])

theorem FrontOf.cons {code long : List Char} (h : FrontOf code long) (c : Char) :
    FrontOf (c :: code) (c :: long) := by
  obtain ⟨front, back, rfl, hfront⟩ := h
  exact ⟨c :: front, back, rfl, hfront.imp (congrArg (c :: ·)) (congrArg (c :: ·))⟩

/-- The code of a text is the front of the code of a longer one. -/
theorem codeFrom_append (region : Region) (s t : List Char) :
    FrontOf (codeFrom region s) (codeFrom region (s ++ t)) := by
  fun_induction codeFrom region s with
  | case1 region => exact ⟨[], codeFrom region t, rfl, Or.inl rfl⟩
  | case2 rest ih =>
      rw [List.cons_append, List.cons_append, codeFrom_lineOpen]
      exact ih
  | case3 rest ih =>
      rw [List.cons_append, List.cons_append, codeFrom_blockOpen]
      exact ih
  | case4 c rest hline hblock ih =>
      cases rest with
      | nil =>
          -- nothing is known about what follows, which matters behind a slash only
          by_cases hc : c = '/'
          · subst hc
            exact ⟨[], _, rfl, Or.inr rfl⟩
          · exact ⟨[c], codeFrom .code t, codeFrom_cons_of_ne hc t, Or.inl rfl⟩
      | cons d rest =>
          have hcode : codeFrom .code (c :: d :: rest ++ t)
              = c :: codeFrom .code (d :: rest ++ t) := by
            refine codeFrom_code_cons ?_ ?_
            · intro h
              obtain ⟨rfl, rfl⟩ := pair_prefix_iff.mp h
              exact hline rest rfl rfl
            · intro h
              obtain ⟨rfl, rfl⟩ := pair_prefix_iff.mp h
              exact hblock rest rfl rfl
          rw [hcode]
          exact ih.cons c
  | case5 rest ih =>
      rw [List.cons_append, codeFrom_lineClose]
      exact ih.cons '\n'
  | case6 c rest hc ih =>
      have hcode : codeFrom .lineComment (c :: rest ++ t) = codeFrom .lineComment (rest ++ t) := by
        rw [List.cons_append, codeFrom]
        exact hc
      rw [hcode]
      exact ih
  | case7 rest ih =>
      rw [List.cons_append, List.cons_append, codeFrom_blockClose]
      exact ih
  | case8 c rest hc ih =>
      cases rest with
      | nil => exact ⟨[], _, rfl, Or.inl rfl⟩
      | cons d rest =>
          have hcode : codeFrom .blockComment (c :: d :: rest ++ t)
              = codeFrom .blockComment (d :: rest ++ t) := by
            refine codeFrom_block_cons ?_
            intro h
            obtain ⟨rfl, rfl⟩ := pair_prefix_iff.mp h
            exact hc rest rfl rfl
          rw [hcode]
          exact ih

/-! ## Declarations -/

/-- A word ends in front of a semicolon, with or without a gap between them. -/
theorem isWord_before_semicolon {w gap : List Char} (hne : w ≠ [])
    (hw : ∀ c ∈ w, isWordChar c = true) (hgap : IsGap gap) (rest : List Char) :
    IsWord w (gap ++ ';' :: rest) := by
  cases gap with
  | nil =>
      refine ⟨hne, hw, ?_⟩
      intro c hc
      obtain rfl := Option.some.inj hc
      exact not_isWordChar_semicolon
  | cons b gap => exact isWord_of_gap hne hw (List.cons_ne_nil b gap) hgap

/-- **A DECLARATION ENDS AT ITS SEMICOLON**: what is behind it does not count. -/
theorem Declares.own_text {s rest : List Char} {d : Declaration} (h : Declares s d rest) :
    ∃ own, s = own ++ ';' :: rest ∧ ∀ t, Declares (own ++ ';' :: t) d t := by
  obtain ⟨t, rfl, hbehind⟩ := h
  cases hbehind with
  | @parts gap₁ type gap₂ name gap₃ _ hne₁ hgap₁ htype hne₂ hgap₂ hname hgap₃ =>
      refine ⟨keyword ++ (gap₁ ++ (type ++ (gap₂ ++ (name ++ gap₃)))), ?_, ?_⟩
      · simp only [List.append_assoc]
      · intro t
        refine ⟨gap₁ ++ (type ++ (gap₂ ++ (name ++ (gap₃ ++ ';' :: t)))), ?_, ?_⟩
        · simp only [List.append_assoc]
        · exact .parts hne₁ hgap₁ (isWord_of_gap htype.ne_nil htype.run.all hne₂ hgap₂) hne₂ hgap₂
            (isWord_before_semicolon hname.ne_nil hname.run.all hgap₃ t) hgap₃

theorem Declares.append {s rest : List Char} {d : Declaration} (h : Declares s d rest)
    (t : List Char) : Declares (s ++ t) d (rest ++ t) := by
  obtain ⟨own, rfl, hown⟩ := h.own_text
  rw [List.append_assoc]
  exact hown (rest ++ t)

/-- A declaration of a longer text ends in its front or behind it. -/
theorem Declares.of_append {s t rest : List Char} {d : Declaration}
    (h : Declares (s ++ t) d rest) :
    (∃ rest', rest = rest' ++ t ∧ Declares s d rest') ∨ ∃ own, t = own ++ ';' :: rest := by
  obtain ⟨own, hown, hdeclares⟩ := h.own_text
  rcases List.append_eq_append_iff.mp hown with ⟨mid, -, ht⟩ | ⟨mid, hs, ht⟩
  · exact Or.inr ⟨mid, ht⟩
  · cases mid with
    | nil => exact Or.inr ⟨[], ht.symm⟩
    | cons c mid =>
        obtain ⟨rfl, rfl⟩ := List.cons.inj ht
        rw [hs]
        exact Or.inl ⟨mid, rfl, hdeclares mid⟩

/-- Nothing is found in a quiet text. -/
theorem declarationsFrom_quiet {inWord : Bool} {s t : List Char} (h : Quiet inWord s t) :
    declarationsFrom 0 inWord s = [] := by
  induction s generalizing inWord with
  | nil => cases inWord <;> rfl
  | cons c s ih =>
      obtain ⟨hc, hs⟩ := h
      rw [declarationsFrom_pass]
      · exact ih hs
      · intro hout d rest hdeclares
        exact hc hout d (rest ++ t) (hdeclares.append t)

theorem Quiet.left {inWord : Bool} {u v t : List Char} (h : Quiet inWord (u ++ v) t) :
    Quiet inWord u (v ++ t) := by
  induction u generalizing inWord with
  | nil => exact trivial
  | cons c u ih =>
      obtain ⟨hc, hu⟩ := h
      refine ⟨?_, ih hu⟩
      rw [← List.append_assoc]
      exact hc

/-- Behind a character at which a declaration begins that ends in the appended text, the
    front of the text declares nothing. -/
theorem declarationsFrom_covered {c : Char} {s own rest : List Char} {d : Declaration}
    (h : Declares (c :: (s ++ (own ++ ';' :: rest))) d rest) :
    declarationsFrom 0 (isWordChar c) s = [] := by
  obtain ⟨c', u, hsplit, hc', hquiet, -⟩ := h.quiet
  obtain ⟨rfl, htail⟩ := List.cons.inj hsplit
  have hown : u ++ rest = s ++ (own ++ [';']) ++ rest := by
    rw [← htail]
    simp only [List.append_assoc, List.singleton_append]
  obtain rfl := List.append_cancel_right hown
  rw [hc']
  exact declarationsFrom_quiet hquiet.left

/-- **SCANNING ON**: what is found in a text is found first in a longer one. -/
theorem declarationsFrom_append (inWord : Bool) (s t : List Char) :
    declarationsFrom 0 inWord s <+: declarationsFrom 0 inWord (s ++ t) := by
  induction inWord, s using scan_induction with
  | nil inWord =>
      have hnone : declarationsFrom 0 inWord [] = [] := by
        cases inWord <;> rfl
      rw [hnone]
      exact List.nil_prefix
  | pass inWord c s hpass ih =>
      rw [declarationsFrom_pass hpass]
      by_cases hlonger : inWord = false ∧ ∃ d rest, Declares (c :: s ++ t) d rest
      · -- the new declaration ends behind the text, so the text declares nothing further
        obtain ⟨hout, d, rest, hdeclares⟩ := hlonger
        rcases hdeclares.of_append with ⟨rest', -, hshort⟩ | ⟨own, rfl⟩
        · exact absurd hshort (hpass hout d rest')
        · rw [declarationsFrom_covered hdeclares]
          exact List.nil_prefix
      · rw [List.cons_append, declarationsFrom_pass]
        · exact ih
        · exact fun hout d rest hdeclares => hlonger ⟨hout, d, rest, hdeclares⟩
  | declared s d rest hdeclares ih =>
      rw [declarationsFrom_declared hdeclares, declarationsFrom_declared (hdeclares.append t)]
      exact List.prefix_cons_inj d |>.mpr ih

/-- A slash at the end of a text declares nothing. -/
theorem declarationsFrom_slash (inWord : Bool) (s : List Char) :
    declarationsFrom 0 inWord (s ++ ['/']) = declarationsFrom 0 inWord s := by
  induction inWord, s using scan_induction with
  | nil inWord => cases inWord <;> rfl
  | pass inWord c s hpass ih =>
      rw [declarationsFrom_pass hpass, List.cons_append, declarationsFrom_pass]
      · exact ih
      · intro hout d rest hdeclares
        rcases Declares.of_append (s := c :: s) hdeclares with ⟨rest', -, hshort⟩ | ⟨own, hown⟩
        · exact hpass hout d rest' hshort
        · -- a declaration that ends behind the text would end in a slash
          have hmem : ';' ∈ ['/'] := by
            rw [hown]
            simp
          exact absurd hmem (by decide)
  | declared s d rest hdeclares ih =>
      rw [declarationsFrom_declared hdeclares, declarationsFrom_declared (hdeclares.append ['/']),
        ih]

/-- **APPENDING MOVES NOTHING**: the attributes of a shader are the first attributes of
    the shader with any text appended, and they keep their locations. -/
theorem attributes_of_append (shader text : String) :
    attributes shader <+: attributes (shader ++ text) ∧
      (Pool.ofShader shader).candidates <+: (Pool.ofShader (shader ++ text)).candidates := by
  have hshorter : attributes shader <+: attributes (shader ++ text) := by
    rw [attributes, attributes, codeOf, codeOf, String.toList_append]
    obtain ⟨front, back, hlonger, hcode⟩ := codeFrom_append .code shader.toList text.toList
    have hfront : declarationsFrom 0 false (codeFrom .code shader.toList)
        = declarationsFrom 0 false front := by
      rcases hcode with h | h
      · rw [h]
      · rw [h, declarationsFrom_slash]
    rw [hfront, hlonger]
    exact declarationsFrom_append false front back
  refine ⟨hshorter, ?_⟩
  obtain ⟨more, hmore⟩ := hshorter
  rw [Pool.ofShader, Pool.ofShader, ← hmore, Pool.ofDeclarations, Pool.ofDeclarations,
    List.zipIdx_append, List.map_append]
  exact List.prefix_append _ _

/-- A slash at the end of the shader that opens a comment, and a declaration that the
    appended text finishes. -/
example : attributes "attribute vec3 a; attribute vec3 b/"
      = [⟨"a", "vec3"⟩] ∧
    attributes ("attribute vec3 a; attribute vec3 b/" ++ "* c */; attribute vec2 d;")
      = [⟨"a", "vec3"⟩, ⟨"b", "vec3"⟩, ⟨"d", "vec2"⟩] := by
  decide +kernel

end VertexBinding.Shader
