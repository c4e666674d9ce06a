import VertexBinding.Source.StructItem

/-! # Source files — the structs at the top of a file

    A file may begin with a line for the system's loader.  Behind it come inner
    attributes and items; the file is cut into its items, and those that are structs
    are read one by one.  What stands inside other items does not count. -/

namespace VertexBinding.Source

/-- The text behind white space and plain comments, at most `size` of them. -/
def dropSpace : (size : Nat) → List Char → List Char
  | 0, s => s
  | size + 1, s =>
      match lexeme? s with
      | some ([], behind) => dropSpace size behind
      | _ => s

/-- A file without the line for the system's loader.  A first line that begins with
    `#!` is such a line unless the next token is a bracket, which makes it an inner
    attribute. -/
def dropLoaderLine : List Char → List Char
  | '#' :: '!' :: rest =>
      match dropSpace rest.length rest with
      | '[' :: _ => '#' :: '!' :: rest
      | _ => rest.dropWhile (· != '\n')
  | s => s

/-- The tokens of a whole file. -/
def fileTokens? (source : String) : Option (List Token) :=
  tokens? (dropLoaderLine (dropMark source.toList))

/-- The items of a file, each as the tokens it takes, at most `size` of them. -/
def itemsFrom? : (size : Nat) → List Token → Option (List (List Token))
  | _, [] => some []
  | 0, _ :: _ => none
  | size + 1, ts =>
      match skip? .item ts with
      | some behind => (itemsFrom? size behind).map (taken ts behind :: ·)
      | none => none

/-- The items of a file, each as the tokens it takes. -/
def items? (source : String) : Option (List (List Token)) := do
  let ts ← fileTokens? source
  let ts ← skip? .innerAttributes ts
  itemsFrom? ts.length ts

/-- Is the item the definition of a struct? -/
def isStruct (item : List Token) : Bool :=
  match (skip? .attributes item).bind (skip? .visibility) with
  | some ts => Ahead.word "struct" ts
  | none => false

/-- The definitions of the structs at the top of a file, in order. -/
def structItems? (source : String) : Option (List StructItem) := do
  (← items? source).filter isStruct |>.mapM StructItem.ofTokens?

end VertexBinding.Source
