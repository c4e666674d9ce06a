import VertexBinding.Proofs.Shader.Pieces

/-! # Stripping — no comment is left, and none comes into being

    Taking a comment out joins the code on its two sides.  The join opens no comment: a
    slash in front of a comment would have opened a line comment with the comment's own
    first slash, so the last character of code before a comment is no slash
    (`opener_of_copied`).

    A text in which no comment opens is its own code (`codeOf_eq_self_iff`), so what is
    stripped once is stripped for good. -/

namespace VertexBinding.Shader

/-- No comment opens anywhere in the text. -/
def Uncommented (s : List Char) : Prop :=
  ¬ ['/', '/'] <:+: s ∧ ¬ ['/', '*'] <:+: s

theorem uncommented_nil : Uncommented [] := by
  simp [Uncommented]

/-- A text is free of comments if none begins at its first character and none behind. -/
theorem uncommented_cons {c : Char} {s : List Char} :
    Uncommented (c :: s) ↔
      (¬ ['/', '/'] <+: c :: s ∧ ¬ ['/', '*'] <+: c :: s) ∧ Uncommented s := by
  simp only [Uncommented, List.infix_cons_iff, not_or]
  exact and_and_and_comm

/-- Whatever a character opens with the code behind it, it opens where it stands. -/
theorem opener_of_copied {c x : Char} {rest : List Char} (hline : ¬ ['/', '/'] <+: c :: rest)
    (h : ['/', x] <+: c :: codeFrom .code rest) : ['/', x] <+: c :: rest := by
  obtain ⟨rfl, hx⟩ := List.cons_prefix_cons.mp h
  cases rest with
  | nil => exact h
  | cons d rest =>
      -- what follows a copied slash is no slash, so it is copied too
      have hd : d ≠ '/' := by
        rintro rfl
        exact hline (List.prefix_append ['/', '/'] rest)
      rw [codeFrom_cons_of_ne hd] at hx
      obtain ⟨rfl, -⟩ := List.cons_prefix_cons.mp hx
      exact List.prefix_append ['/', x] rest

/-- **NO COMMENT IS LEFT** in the code of a text. -/
theorem uncommented_codeOf (s : List Char) : Uncommented (codeOf s) := by
  obtain ⟨ps, hps⟩ := exists_splitsInto s
  -- piece by piece: code is copied, comments leave nothing
  induction hps with
  | nil => exact uncommented_nil
  | cons hbegins _ ih =>
      cases hbegins with
      | code hline hblock =>
          rw [codeOf, codeFrom_code_cons hline hblock]
          refine uncommented_cons.mpr ⟨⟨?_, ?_⟩, ih⟩
          · exact fun h => hline (opener_of_copied hline h)
          · exact fun h => hblock (opener_of_copied hline h)
      | lineComment hbody hrest =>
          rw [codeOf, codeFrom_lineOpen, codeFrom_lineBody hbody, codeFrom_lineEnd hrest]
          exact ih
      | blockComment hbody =>
          rw [codeOf, codeFrom_blockOpen, codeFrom_blockBody hbody]
          exact ih
      | openComment hbody =>
          rw [codeOf, codeFrom_blockOpen, codeFrom_openBody hbody]
          exact ih

/-- A text is its own code exactly if no comment opens in it. -/
theorem codeOf_eq_self_iff {s : List Char} : codeOf s = s ↔ Uncommented s := by
  constructor
  · intro h
    rw [← h]
    exact uncommented_codeOf s
  · intro h
    induction s with
    | nil => rfl
    | cons c s ih =>
        obtain ⟨⟨hline, hblock⟩, hs⟩ := uncommented_cons.mp h
        rw [codeOf, codeFrom_code_cons hline hblock]
        exact congrArg (c :: ·) (ih hs)

theorem codeOf_codeOf (s : List Char) : codeOf (codeOf s) = codeOf s :=
  codeOf_eq_self_iff.mpr (uncommented_codeOf s)

/-- **NOTHING IS LEFT TO STRIP**: in a stripped shader no comment opens, not even where
    the code before a comment meets the code behind it.  So stripping it again changes
    nothing, and it declares what the shader declares. -/
theorem stripComments_leaves_none (shader : String) :
    ¬ "//".toList <:+: (stripComments shader).toList ∧
      ¬ "/*".toList <:+: (stripComments shader).toList ∧
      stripComments (stripComments shader) = stripComments shader ∧
      attributes (stripComments shader) = attributes shader := by
  have hcode : (stripComments shader).toList = codeOf shader.toList := String.toList_ofList
  obtain ⟨hline, hblock⟩ := uncommented_codeOf shader.toList
  refine ⟨?_, ?_, ?_, ?_⟩
  · rw [hcode]
    exact hline
  · rw [hcode]
    exact hblock
  · rw [stripComments, hcode, codeOf_codeOf, stripComments]
  · rw [attributes, hcode, codeOf_codeOf, attributes]

/-- Comments of both kinds that touch each other and the code around them. -/
example : stripComments "a/*/ *//**/b///*\n/" = "ab\n/" := by decide

end VertexBinding.Shader
