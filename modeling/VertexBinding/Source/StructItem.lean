import VertexBinding.Declaration
import VertexBinding.Source.Grammar
import VertexBinding.Source.Lexeme

/-! # Struct items — the definition of a struct, read from its tokens

    The definition is read piece by piece with the rules of the grammar.  Of a field
    the name and the printed tokens of its type are kept, of the attributes what
    stands in their brackets. -/

namespace VertexBinding.Source

/-- What a struct consists of. -/
inductive StructFields where
  | named (fields : List Declaration)
  | tuple
  | unit
  deriving DecidableEq, Repr

/-- The definition of a struct. -/
structure StructItem where
  /-- What stands in the brackets of each attribute. -/
  attributes : List (List Token)
  /-- The name as it is written, with its `r#` if it is raw. -/
  name : String
  fields : StructFields
  deriving DecidableEq, Repr

/-- A word without the mark of a raw identifier. -/
def unraw (w : String) : String :=
  match w.toList with
  | 'r' :: '#' :: rest => String.ofList rest
  | _ => w

/-- Passes over a phrase. -/
def skip? (p : Phrase) (ts : List Token) : Option (List Token) :=
  (p.read ts).map (·.2)

/-- What stands in the brackets of each attribute of a list, at most `size` of
    them. -/
def attributeBodies : (size : Nat) → List Token → List (List Token)
  | 0, _ => []
  | size + 1, .sign '#' _ :: .opening _ :: rest =>
      let (inside, behind) := splitClosing 0 rest
      inside :: attributeBodies size behind
  | _, _ => []

/-- The name of a field; an underscore stands for a field without one. -/
def fieldName? : List Token → Option (String × List Token)
  | .word w :: .sign ':' _ :: rest => if isName w || w == "_" then some (unraw w, rest) else none
  | _ => none

/-- Is a struct or a union next in place of the type of a field without a name? -/
def startsNestedFields (name : String) : Ahead := fun ts =>
  name == "_" && (Ahead.word "struct" ts
    || (Ahead.word "union" ts && Ahead.second (Ahead.opens .brace) ts))

/-- The type of a field as it is printed, and what stands behind it. -/
def fieldType? (name : String) (ts : List Token) : Option (String × List Token) :=
  if startsNestedFields name ts then
    (skip? .namedFields (ts.drop 1)).map (fun behind => (Token.render (taken ts behind), behind))
  else
    (Phrase.read (.type true) ts).map (fun (printed, behind) => (Token.render printed, behind))

/-- One named field and what stands behind it. -/
def field? (ts : List Token) : Option (Declaration × List Token) := do
  let ts ← skip? .attributes ts
  let ts ← skip? .visibility ts
  let (name, ts) ← fieldName? ts
  let (type, ts) ← fieldType? name ts
  return (⟨name, type⟩, ts)

/-- Named fields up to the closing brace, at most `size` of them, and what stands
    behind the brace. -/
def fields? : (size : Nat) → List Token → Option (List Declaration × List Token)
  | 0, _ => none
  | _, .closing .brace :: rest => some ([], rest)
  | size + 1, ts =>
      match field? ts with
      | some (f, .closing .brace :: rest) => some ([f], rest)
      | some (f, .sign ',' _ :: rest) => (fields? size rest).map (fun (fs, ts) => (f :: fs, ts))
      | _ => none

/-- Passes over a semicolon that ends the tokens. -/
def endWithSemicolon? : List Token → Option Unit
  | [.sign ';' _] => some ()
  | _ => none

/-- What a struct consists of, behind its generic parameters and up to the end of
    the tokens. -/
def structFields? (ts : List Token) : Option StructFields :=
  match ts with
  | .opening .parenthesis :: _ => do
      let ts ← skip? .tupleFields ts
      let ts ← skip? .whereClause ts
      endWithSemicolon? ts
      return .tuple
  | _ => do
      let ts ← skip? .whereClause ts
      match ts with
      | .opening .brace :: rest =>
          match ← fields? (rest.length + 1) rest with
          | (fields, []) => return .named fields
          | _ => none
      | _ => do
          endWithSemicolon? ts
          return .unit

/-- The definition of a struct that takes all the tokens. -/
def StructItem.ofTokens? (ts : List Token) : Option StructItem := do
  let behind ← skip? .attributes ts
  let attributes := attributeBodies ts.length (taken ts behind)
  match ← skip? .visibility behind with
  | .word "struct" :: .word name :: rest =>
      if isName name then
        let ts ← skip? .generics rest
        let fields ← structFields? ts
        return ⟨attributes, name, fields⟩
      else none
  | _ => none

/-- The definition of a struct that is the whole of a source. -/
def StructItem.ofSource? (source : String) : Option StructItem :=
  (tokens? source.toList).bind StructItem.ofTokens?

end VertexBinding.Source
