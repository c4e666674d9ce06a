/-! # Comments — what is left of a shader when they are gone

    A shader is code, line comments and block comments.  A line comment runs to
    the end of its line and leaves the line break; a block comment runs to the
    first `*/` behind its opener and does not nest.  A comment that is never
    closed runs to the end of the text. -/

namespace VertexBinding.Shader

/-- Where in a shader a character stands. -/
inductive Region where
  | code
  | lineComment
  | blockComment
  deriving DecidableEq, Repr

/-- The code of a text that begins inside the given region. -/
def codeFrom : Region → List Char → List Char
  | _, [] => []
  | .code, '/' :: '/' :: rest => codeFrom .lineComment rest
  | .code, '/' :: '*' :: rest => codeFrom .blockComment rest
  | .code, c :: rest => c :: codeFrom .code rest
  | .lineComment, '\n' :: rest => '\n' :: codeFrom .code rest
  | .lineComment, _ :: rest => codeFrom .lineComment rest
  | .blockComment, '*' :: '/' :: rest => codeFrom .code rest
  | .blockComment, _ :: rest => codeFrom .blockComment rest

/-- The code of a shader. -/
def codeOf (shader : List Char) : List Char :=
  codeFrom .code shader

/-- A shader without its comments. -/
def stripComments (shader : String) : String :=
  String.ofList (codeOf shader.toList)

/-- Two slashes open a line comment. -/
theorem codeFrom_lineOpen (rest : List Char) :
    codeFrom .code ('/' :: '/' :: rest) = codeFrom .lineComment rest := by
  simp [codeFrom]

/-- A slash and a star open a block comment. -/
theorem codeFrom_blockOpen (rest : List Char) :
    codeFrom .code ('/' :: '*' :: rest) = codeFrom .blockComment rest := by
  simp [codeFrom]

/-- A star and a slash close a block comment. -/
theorem codeFrom_blockClose (rest : List Char) :
    codeFrom .blockComment ('*' :: '/' :: rest) = codeFrom .code rest := by
  simp [codeFrom]

/-- A line break closes a line comment and stays. -/
theorem codeFrom_lineClose (rest : List Char) :
    codeFrom .lineComment ('\n' :: rest) = '\n' :: codeFrom .code rest := by
  simp [codeFrom]

/-- What is no slash is copied. -/
theorem codeFrom_cons_of_ne {c : Char} (h : c ≠ '/') (rest : List Char) :
    codeFrom .code (c :: rest) = c :: codeFrom .code rest := by
  simp [codeFrom, h]

end VertexBinding.Shader
