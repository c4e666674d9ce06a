import VertexBinding.Proofs.Text.Runs
import VertexBinding.Shader.Attributes
import Mathlib.Data.List.Forall2

/-! # Pieces — what a shader is made of, and what of it is code

    A shader is read from left to right as characters of code, line comments and
    block comments.  `Begins` says what the next piece may be, without a scanner;
    `Begins.unique` and `exists_begins` say that there is always exactly one.

    The code of a shader is its code pieces.  The bodies of comments take no part in
    it, so they take no part in what the shader declares. -/

namespace VertexBinding.Shader

open Text

/-- A piece of a shader. -/
inductive Piece where
  | code (c : Char)
  | lineComment (body : List Char)
  | blockComment (body : List Char)
  /-- A block comment that is never closed. -/
  | openComment (body : List Char)
  deriving DecidableEq, Repr

namespace Piece

/-- The code of a piece; comments have none. -/
def code? : Piece → Option Char
  | code c => some c
  | _ => none

/-- The same piece up to the body of a comment. -/
inductive SameKind : Piece → Piece → Prop
  | code (c : Char) : SameKind (code c) (code c)
  | lineComment (body body' : List Char) : SameKind (lineComment body) (lineComment body')
  | blockComment (body body' : List Char) : SameKind (blockComment body) (blockComment body')
  | openComment (body body' : List Char) : SameKind (openComment body) (openComment body')

theorem SameKind.code?_eq {p p' : Piece} (h : SameKind p p') : p.code? = p'.code? := by
  cases h <;> rfl

end Piece

/-- `*/` is nowhere in the body of a comment. -/
def Unclosed (body : List Char) : Prop :=
  ¬ ['*', '/'] <:+: body

instance (body : List Char) : Decidable (Unclosed body) :=
  inferInstanceAs (Decidable (¬ _))

/-- A text begins with a piece, and the rest is behind it. -/
inductive Begins : List Char → Piece → List Char → Prop
  /-- A character that opens no comment. -/
  | code {c : Char} {rest : List Char} (hline : ¬ ['/', '/'] <+: c :: rest)
      (hblock : ¬ ['/', '*'] <+: c :: rest) : Begins (c :: rest) (.code c) rest
  /-- Two slashes, and everything up to the next line break or the end. -/
  | lineComment {body rest : List Char} (hbody : '\n' ∉ body)
      (hrest : ∀ c ∈ rest.head?, c = '\n') :
      Begins ('/' :: '/' :: (body ++ rest)) (.lineComment body) rest
  /-- A slash and a star, and everything up to the first `*/` behind them. -/
  | blockComment {body rest : List Char} (hbody : Unclosed body) :
      Begins ('/' :: '*' :: (body ++ '*' :: '/' :: rest)) (.blockComment body) rest
  /-- A slash and a star, and everything, where no `*/` is behind them. -/
  | openComment {body : List Char} (hbody : Unclosed body) :
      Begins ('/' :: '*' :: body) (.openComment body) []

/-- A text splits, from left to right, into pieces. -/
inductive SplitsInto : List Char → List Piece → Prop
  | nil : SplitsInto [] []
  | cons {s rest : List Char} {p : Piece} {ps : List Piece} (hbegins : Begins s p rest)
      (hrest : SplitsInto rest ps) : SplitsInto s (p :: ps)

/-! ## Bodies of comments -/

/-- A body without `*/` has none at its front and none behind its first character. -/
theorem unclosed_cons {c : Char} {body : List Char} :
    Unclosed (c :: body) ↔ ¬ ['*', '/'] <+: c :: body ∧ Unclosed body := by
  rw [Unclosed, List.infix_cons_iff, not_or, Unclosed]

/-- The first `*/` of a text that has one. -/
theorem exists_first_close {s : List Char} (h : ¬ Unclosed s) :
    ∃ body rest, s = body ++ '*' :: '/' :: rest ∧ Unclosed body := by
  induction s with
  | nil =>
      refine absurd ?_ h
      rw [Unclosed, List.infix_nil]
      exact fun h => nomatch h
  | cons c s ih =>
      by_cases hcloses : ['*', '/'] <+: c :: s
      · obtain ⟨rest, hrest⟩ := hcloses
        refine ⟨[], rest, hrest.symm, ?_⟩
        rw [Unclosed, List.infix_nil]
        exact fun h => nomatch h
      · obtain ⟨body, rest, rfl, hbody⟩ := ih (fun hs => h (unclosed_cons.mpr ⟨hcloses, hs⟩))
        refine ⟨c :: body, rest, rfl, unclosed_cons.mpr ⟨?_, hbody⟩⟩
        intro hc
        exact hcloses (hc.trans (List.prefix_append (c :: body) _))

/-- A closer at the front of a body and its closer lies in the body: the closer behind
    it begins with no slash. -/
theorem close_prefix_body {c : Char} {body rest : List Char}
    (h : ['*', '/'] <+: c :: (body ++ '*' :: '/' :: rest)) : ['*', '/'] <+: c :: body := by
  obtain ⟨t, ht⟩ := h
  obtain ⟨rfl, htail⟩ := List.cons.inj ht
  cases body with
  | nil => exact nomatch htail
  | cons d body =>
      obtain ⟨rfl, -⟩ := List.cons.inj htail
      exact List.prefix_append ['*', '/'] body

/-- The first `*/` of a text is in one place. -/
theorem first_close_unique {body body' rest rest' : List Char} (h : Unclosed body)
    (h' : Unclosed body') (heq : body ++ '*' :: '/' :: rest = body' ++ '*' :: '/' :: rest') :
    body = body' ∧ rest = rest' := by
  induction body generalizing body' with
  | nil =>
      cases body' with
      | nil => exact ⟨rfl, (List.cons.inj (List.cons.inj heq).2).2⟩
      | cons c' body' =>
          have hcloses : ['*', '/'] <+: c' :: (body' ++ '*' :: '/' :: rest') := ⟨rest, heq⟩
          exact absurd (close_prefix_body hcloses) (unclosed_cons.mp h').1
  | cons c body ih =>
      cases body' with
      | nil =>
          have hcloses : ['*', '/'] <+: c :: (body ++ '*' :: '/' :: rest) := ⟨rest', heq.symm⟩
          exact absurd (close_prefix_body hcloses) (unclosed_cons.mp h).1
      | cons c' body' =>
          obtain ⟨rfl, htail⟩ := List.cons.inj heq
          obtain ⟨rfl, rfl⟩ := ih (unclosed_cons.mp h).2 (unclosed_cons.mp h').2 htail
          exact ⟨rfl, rfl⟩

theorem not_unclosed_append (body rest : List Char) :
    ¬ Unclosed (body ++ '*' :: '/' :: rest) :=
  fun h => h ⟨body, rest, by simp⟩

/-- The body of a line comment is a run of what is no line break. -/
theorem isRun_lineBody {body rest : List Char} (hbody : '\n' ∉ body)
    (hrest : ∀ c ∈ rest.head?, c = '\n') : IsRun (fun c => c != '\n') body rest := by
  constructor
  · intro c hc
    exact bne_iff_ne.mpr (fun h => hbody (h ▸ hc))
  · intro c hc
    rw [hrest c hc]
    rfl

/-! ## One way to split a text -/

/-- **ONE PIECE**: a text begins with one piece. -/
theorem Begins.unique {s rest rest' : List Char} {p p' : Piece} (h : Begins s p rest)
    (h' : Begins s p' rest') : p = p' ∧ rest = rest' := by
  cases h with
  | code hline hblock =>
      cases h' with
      | code _ _ => exact ⟨rfl, rfl⟩
      | lineComment _ _ => exact absurd (List.prefix_append ['/', '/'] _) hline
      | blockComment _ => exact absurd (List.prefix_append ['/', '*'] _) hblock
      | openComment _ => exact absurd (List.prefix_append ['/', '*'] _) hblock
  | @lineComment body rest hbody hrest =>
      -- the second derivation is of a text, so the pieces of the first are kept in `hs`
      generalize hs : '/' :: '/' :: (body ++ rest) = s at h'
      cases h' with
      | code hline _ =>
          rw [← hs] at hline
          exact absurd (List.prefix_append ['/', '/'] _) hline
      | lineComment hbody' hrest' =>
          have heq := (List.cons.inj (List.cons.inj hs).2).2
          obtain ⟨rfl, rfl⟩ :=
            (isRun_lineBody hbody hrest).unique (isRun_lineBody hbody' hrest') heq
          exact ⟨rfl, rfl⟩
      | blockComment _ => exact nomatch hs
      | openComment _ => exact nomatch hs
  | @blockComment body rest hbody =>
      generalize hs : '/' :: '*' :: (body ++ '*' :: '/' :: rest) = s at h'
      cases h' with
      | code _ hblock =>
          rw [← hs] at hblock
          exact absurd (List.prefix_append ['/', '*'] _) hblock
      | lineComment _ _ => exact nomatch hs
      | blockComment hbody' =>
          obtain ⟨rfl, rfl⟩ :=
            first_close_unique hbody hbody' (List.cons.inj (List.cons.inj hs).2).2
          exact ⟨rfl, rfl⟩
      | openComment hopen =>
          rw [← (List.cons.inj (List.cons.inj hs).2).2] at hopen
          exact absurd hopen (not_unclosed_append body rest)
  | @openComment body hbody =>
      generalize hs : '/' :: '*' :: body = s at h'
      cases h' with
      | code _ hblock =>
          rw [← hs] at hblock
          exact absurd (List.prefix_append ['/', '*'] _) hblock
      | lineComment _ _ => exact nomatch hs
      | @blockComment body' rest' _ =>
          rw [(List.cons.inj (List.cons.inj hs).2).2] at hbody
          exact absurd hbody (not_unclosed_append body' rest')
      | openComment _ =>
          obtain rfl := (List.cons.inj (List.cons.inj hs).2).2
          exact ⟨rfl, rfl⟩

theorem Begins.length_lt {s rest : List Char} {p : Piece} (h : Begins s p rest) :
    rest.length < s.length := by
  cases h with
  | code _ _ => exact Nat.lt_succ_self _
  | lineComment _ _ =>
      simp only [List.length_cons, List.length_append]
      omega
  | blockComment _ =>
      simp only [List.length_cons, List.length_append]
      omega
  | openComment _ => exact Nat.succ_pos _

/-- A text that is not empty begins with a piece. -/
theorem exists_begins (c : Char) (t : List Char) : ∃ p rest, Begins (c :: t) p rest := by
  by_cases hline : ['/', '/'] <+: c :: t
  · obtain ⟨r, hr⟩ := hline
    obtain ⟨rfl, rfl⟩ := List.cons.inj hr
    have hrun := isRun_takeWhile (fun c => c != '\n') r
    have hsplit : r.takeWhile (fun c => c != '\n') ++ r.dropWhile (fun c => c != '\n') = r :=
      List.takeWhile_append_dropWhile
    refine ⟨.lineComment (r.takeWhile (fun c => c != '\n')),
      r.dropWhile (fun c => c != '\n'), ?_⟩
    show Begins ('/' :: '/' :: r) _ _
    nth_rewrite 1 [← hsplit]
    refine .lineComment ?_ ?_
    · intro h
      exact Bool.noConfusion (hrun.all '\n' h)
    · intro c hc
      exact bne_eq_false_iff_eq.mp (hrun.stops c hc)
  · by_cases hblock : ['/', '*'] <+: c :: t
    · obtain ⟨r, hr⟩ := hblock
      obtain ⟨rfl, rfl⟩ := List.cons.inj hr
      by_cases hopen : Unclosed r
      · exact ⟨.openComment r, [], .openComment hopen⟩
      · obtain ⟨body, rest, rfl, hbody⟩ := exists_first_close hopen
        exact ⟨.blockComment body, rest, .blockComment hbody⟩
    · exact ⟨.code c, t, .code hline hblock⟩

theorem exists_splitsInto : ∀ s : List Char, ∃ ps, SplitsInto s ps
  | [] => ⟨[], .nil⟩
  | c :: t => by
      obtain ⟨p, rest, hbegins⟩ := exists_begins c t
      have hlt := hbegins.length_lt
      obtain ⟨ps, hps⟩ := exists_splitsInto rest
      exact ⟨p :: ps, .cons hbegins hps⟩
termination_by s => s.length
decreasing_by exact hlt

/-- **ONE SPLIT**: a text splits into pieces in one way. -/
theorem SplitsInto.unique {s : List Char} {ps ps' : List Piece} (h : SplitsInto s ps)
    (h' : SplitsInto s ps') : ps = ps' := by
  induction h generalizing ps' with
  | nil =>
      cases h' with
      | nil => rfl
      | cons hbegins _ => exact absurd hbegins.length_lt (Nat.not_lt_zero _)
  | cons hbegins _ ih =>
      cases h' with
      | nil => exact absurd hbegins.length_lt (Nat.not_lt_zero _)
      | cons hbegins' hrest' =>
          obtain ⟨rfl, rfl⟩ := hbegins.unique hbegins'
          rw [ih hrest']

/-! ## The code of a text -/

/-- A character that opens no comment is copied. -/
theorem codeFrom_code_cons {c : Char} {rest : List Char} (hline : ¬ ['/', '/'] <+: c :: rest)
    (hblock : ¬ ['/', '*'] <+: c :: rest) :
    codeFrom .code (c :: rest) = c :: codeFrom .code rest := by
  by_cases hc : c = '/'
  · subst hc
    cases rest with
    | nil => rfl
    | cons d rest =>
        have hd : d ≠ '/' := by
          rintro rfl
          exact hline (List.prefix_append ['/', '/'] rest)
        have hd' : d ≠ '*' := by
          rintro rfl
          exact hblock (List.prefix_append ['/', '*'] rest)
        simp [codeFrom, hd, hd']
  · exact codeFrom_cons_of_ne hc rest

/-- The body of a line comment is passed over. -/
theorem codeFrom_lineBody {body : List Char} (hbody : '\n' ∉ body) (rest : List Char) :
    codeFrom .lineComment (body ++ rest) = codeFrom .lineComment rest := by
  induction body with
  | nil => rfl
  | cons c body ih =>
      have hc : c ≠ '\n' := fun h => hbody (h ▸ List.mem_cons_self ..)
      rw [List.cons_append, codeFrom]
      · exact ih (fun h => hbody (List.mem_cons_of_mem c h))
      · exact hc

/-- A line comment ends in front of a line break, which is code. -/
theorem codeFrom_lineEnd {rest : List Char} (hrest : ∀ c ∈ rest.head?, c = '\n') :
    codeFrom .lineComment rest = codeFrom .code rest := by
  cases rest with
  | nil => rfl
  | cons c rest =>
      obtain rfl := hrest c rfl
      rw [codeFrom_lineClose, codeFrom_cons_of_ne (by decide)]

/-- A character of a block comment that is no closer is passed over. -/
theorem codeFrom_block_cons {c : Char} {rest : List Char} (h : ¬ ['*', '/'] <+: c :: rest) :
    codeFrom .blockComment (c :: rest) = codeFrom .blockComment rest := by
  by_cases hc : c = '*'
  · subst hc
    cases rest with
    | nil => rfl
    | cons d rest =>
        have hd : d ≠ '/' := by
          rintro rfl
          exact h (List.prefix_append ['*', '/'] rest)
        simp [codeFrom, hd]
  · simp [codeFrom, hc]

/-- The body of a block comment and its closer are passed over. -/
theorem codeFrom_blockBody {body : List Char} (hbody : Unclosed body) (rest : List Char) :
    codeFrom .blockComment (body ++ '*' :: '/' :: rest) = codeFrom .code rest := by
  induction body with
  | nil => exact codeFrom_blockClose rest
  | cons c body ih =>
      obtain ⟨hc, hbody⟩ := unclosed_cons.mp hbody
      rw [List.cons_append, codeFrom_block_cons (fun h => hc (close_prefix_body h))]
      exact ih hbody

/-- A comment that is never closed leaves nothing. -/
theorem codeFrom_openBody {body : List Char} (hbody : Unclosed body) :
    codeFrom .blockComment body = [] := by
  induction body with
  | nil => rfl
  | cons c body ih =>
      obtain ⟨hc, hbody⟩ := unclosed_cons.mp hbody
      rw [codeFrom_block_cons hc]
      exact ih hbody

/-- **THE CODE IS THE CODE PIECES**. -/
theorem codeOf_of_splitsInto {s : List Char} {ps : List Piece} (h : SplitsInto s ps) :
    codeOf s = ps.filterMap Piece.code? := by
  rw [codeOf]
  induction h with
  | nil => rfl
  | cons hbegins _ ih =>
      cases hbegins with
      | code hline hblock => rw [codeFrom_code_cons hline hblock, ih]; rfl
      | lineComment hbody hrest =>
          rw [codeFrom_lineOpen, codeFrom_lineBody hbody, codeFrom_lineEnd hrest, ih]
          rfl
      | blockComment hbody => rw [codeFrom_blockOpen, codeFrom_blockBody hbody, ih]; rfl
      | openComment hbody =>
          rw [codeFrom_blockOpen, codeFrom_openBody hbody]
          exact ih

/-- Texts whose pieces differ in the bodies of comments only have the same code. -/
theorem codeOf_eq_of_sameKind {s s' : List Char} {ps ps' : List Piece} (h : SplitsInto s ps)
    (h' : SplitsInto s' ps') (hsame : List.Forall₂ Piece.SameKind ps ps') :
    codeOf s = codeOf s' := by
  rw [codeOf_of_splitsInto h, codeOf_of_splitsInto h']
  clear h h'
  induction hsame with
  | nil => rfl
  | cons hp _ ih => rw [List.filterMap_cons, List.filterMap_cons, hp.code?_eq, ih]

/-- **COMMENTS DO NOT MATTER**: a shader splits into pieces in one way, its code is the
    code pieces in their order, and a shader that differs from it in the bodies of
    comments only has the same code and declares the same attributes. -/
theorem stripComments_pieces (shader : String) :
    (∃! ps, SplitsInto shader.toList ps) ∧
    (∀ ps, SplitsInto shader.toList ps →
      (stripComments shader).toList = ps.filterMap Piece.code?) ∧
    ∀ (other : String) (ps ps' : List Piece), SplitsInto shader.toList ps →
      SplitsInto other.toList ps' → List.Forall₂ Piece.SameKind ps ps' →
      stripComments shader = stripComments other ∧ attributes shader = attributes other := by
  refine ⟨?_, ?_, ?_⟩
  · obtain ⟨ps, hps⟩ := exists_splitsInto shader.toList
    exact ⟨ps, hps, fun ps' hps' => hps'.unique hps⟩
  · intro ps hps
    rw [stripComments, String.toList_ofList]
    exact codeOf_of_splitsInto hps
  · intro other ps ps' hps hps' hsame
    have hcode := codeOf_eq_of_sameKind hps hps' hsame
    exact ⟨by rw [stripComments, hcode, stripComments], by rw [attributes, hcode, attributes]⟩

/-- Openers inside comments, and a closer that begins where the opener ends. -/
theorem stripComments_pieces_overlapping :
    stripComments "/*//*/;//*" = stripComments "/***/;//" ∧
      attributes "/*//*/;//*" = attributes "/***/;//" := by
  have h : SplitsInto "/*//*/;//*".toList
      [.blockComment ['/', '/'], .code ';', .lineComment ['*']] := by
    rw [show "/*//*/;//*".toList
      = '/' :: '*' :: (['/', '/'] ++ '*' :: '/' :: ';' :: '/' :: '/' :: (['*'] ++ [])) from rfl]
    refine .cons (.blockComment (by decide)) (.cons (.code (by decide) (by decide)) ?_)
    exact .cons (.lineComment (by decide) (by simp)) .nil
  have h' : SplitsInto "/***/;//".toList [.blockComment ['*'], .code ';', .lineComment []] := by
    rw [show "/***/;//".toList
      = '/' :: '*' :: (['*'] ++ '*' :: '/' :: ';' :: '/' :: '/' :: ([] ++ [])) from rfl]
    refine .cons (.blockComment (by decide)) (.cons (.code (by decide) (by decide)) ?_)
    exact .cons (.lineComment (by decide) (by simp)) .nil
  exact (stripComments_pieces _).2.2 _ _ _ h h'
    (.cons (.blockComment _ _) (.cons (.code _) (.cons (.lineComment _ _) .nil)))

end VertexBinding.Shader
