import VertexBinding.Source.Rule

/-! # Phrases — the names of the grammar's rules

    A name stands for what it reads.  Some rules come in variants: a type may or may
    not go on with `+`, an expression may or may not hold a struct expression at its
    top, so that a condition can be followed by a block, and a block may or may not
    begin with inner attributes. -/

namespace VertexBinding.Source

/-- How tightly an operator binds; the numbers only order the levels. -/
abbrev Level := Nat

/-- Where a bound stands. -/
inductive BoundPlace where
  /-- In an object type: it names a trait and nothing else. -/
  | object
  /-- Behind `impl`: it may be constant and may name what is captured. -/
  | anonymous
  /-- In a condition on something that has a name: it may be constant. -/
  | condition
  deriving DecidableEq, Repr

/-- What the grammar can read. -/
inductive Phrase where
  -- attributes and paths
  | attributes
  | innerAttributes
  | attributeBody
  | plainPath
  | typePath (inType : Bool)
  | qualifiedPath
  | namePath
  | valuePath
  | angleArguments
  | angleArgument
  -- types
  | type (plus : Bool)
  | bound (place : BoundPlace)
  | moreBounds (place : BoundPlace)
  | traitBounds (place : BoundPlace) (plus : Bool)
  | bounds
  | lifetimeBounds
  | returnType (plus : Bool)
  | traitOutput
  | functionType
  | forLifetimes
  -- generics
  | generics
  | whereClause
  -- patterns
  | pattern (element : Bool)
  | patternChoice
  -- expressions
  | expression (structs : Bool)
  | operators (structs : Bool) (level : Level) (compared : Bool)
  | operand (structs : Bool)
  | trailers
  | blockLike
  | block (inner : Bool)
  | conditional
  | matchArm
  -- statements and items
  | statement
  | visibility
  | item
  | itemBody
  | useTree (rooted : Bool)
  | namedFields
  | tupleFields
  | foreignItem
  | memberItem (inTrait : Bool)
  deriving DecidableEq, Repr

/-- A rule of the grammar. -/
abbrev PhraseRule := Rule Phrase

end VertexBinding.Source
