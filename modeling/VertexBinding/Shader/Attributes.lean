import VertexBinding.Declaration
import VertexBinding.Shader.Comments
import VertexBinding.Text.Blank
import VertexBinding.Text.WordChar

/-! # Attributes — the declarations a shader makes with its keyword

    The code of a shader declares an attribute wherever the keyword `attribute`
    stands on its own left edge and is followed by white space, a type, white
    space, a name and a semicolon.  Anything else is passed over, so the shader
    need not be well formed. -/

namespace VertexBinding.Shader

open Text

/-- The keyword that begins a declaration. -/
def keyword : List Char := "attribute".toList

/-- The text behind a non-empty run of white space. -/
def afterBlanks? : List Char → Option (List Char)
  | [] => none
  | c :: rest => if isBlank c then some (rest.dropWhile isBlank) else none

/-- The word at the front of a text, as long as it goes, and the text behind it. -/
def word? (s : List Char) : Option (List Char × List Char) :=
  match s.takeWhile isWordChar with
  | [] => none
  | w => some (w, s.dropWhile isWordChar)

/-- The type and the name declared right behind a keyword, and the text behind
    the semicolon. -/
def declaration? (s : List Char) : Option (Declaration × List Char) := do
  let s ← afterBlanks? s
  let (type, s) ← word? s
  let s ← afterBlanks? s
  let (name, s) ← word? s
  match s.dropWhile isBlank with
  | ';' :: rest => some (⟨String.ofList name, String.ofList type⟩, rest)
  | _ => none

/-- The declaration whose keyword begins the text, and how many characters it
    takes from the keyword to the semicolon. -/
def occurrence? (s : List Char) : Option (Declaration × Nat) :=
  if keyword.isPrefixOf s then
    match declaration? (s.drop keyword.length) with
    | some (d, rest) => some (d, s.length - rest.length)
    | none => none
  else none

/-- The declarations of a piece of code.  The first `skip` characters belong to a
    declaration already found; `inWord` says that the character before the text
    is a word character, so that no keyword can begin here. -/
def declarationsFrom : (skip : Nat) → (inWord : Bool) → List Char → List Declaration
  | _, _, [] => []
  | skip + 1, _, c :: rest => declarationsFrom skip (isWordChar c) rest
  | 0, true, c :: rest => declarationsFrom 0 (isWordChar c) rest
  | 0, false, c :: rest =>
      match occurrence? (c :: rest) with
      | some (d, length) => d :: declarationsFrom (length - 1) (isWordChar c) rest
      | none => declarationsFrom 0 (isWordChar c) rest

/-- The attributes a shader declares, in order. -/
def attributes (shader : String) : List Declaration :=
  declarationsFrom 0 false (codeOf shader.toList)

end VertexBinding.Shader
