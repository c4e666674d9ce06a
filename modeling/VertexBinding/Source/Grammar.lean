import VertexBinding.Source.Grammar.Items

/-! # The grammar — every phrase with its rule -/

namespace VertexBinding.Source

/-- The rule of a phrase. -/
def Phrase.rule : Phrase → PhraseRule
  | attributes => Grammar.attributes
  | innerAttributes => Grammar.innerAttributes
  | attributeBody => Grammar.attributeBody
  | plainPath => Grammar.plainPath
  | typePath inType => Grammar.typePath inType
  | qualifiedPath => Grammar.qualifiedPath
  | namePath => Grammar.namePath
  | valuePath => Grammar.valuePath
  | angleArguments => Grammar.angleArguments
  | angleArgument => Grammar.angleArgument
  | type plus => Grammar.type plus
  | bound place => Grammar.bound place
  | moreBounds place => Grammar.moreBounds place
  | traitBounds place plus => Grammar.traitBounds place plus
  | bounds => Grammar.bounds
  | lifetimeBounds => Grammar.lifetimeBounds
  | returnType plus => Grammar.returnType plus
  | traitOutput => Grammar.traitOutput
  | functionType => Grammar.functionType
  | forLifetimes => Grammar.forLifetimes
  | generics => Grammar.generics
  | whereClause => Grammar.whereClause
  | pattern element => Grammar.pattern element
  | patternChoice => Grammar.patternChoice
  | expression structs => Grammar.expression structs
  | operators structs level compared => Grammar.operators structs level compared
  | operand structs => Grammar.operand structs
  | trailers => Grammar.trailers
  | blockLike => Grammar.blockLike
  | block inner => Grammar.block inner
  | conditional => Grammar.conditional
  | matchArm => Grammar.matchArm
  | statement => Grammar.statement
  | visibility => Grammar.visibility
  | item => Grammar.item
  | itemBody => Grammar.itemBody
  | useTree rooted => Grammar.useTree rooted
  | namedFields => Grammar.namedFields
  | tupleFields => Grammar.tupleFields
  | foreignItem => Grammar.foreignItem
  | memberItem inTrait => Grammar.memberItem inTrait

/-- How deep the rules of the grammar can follow each other without reading a
    token. -/
def Phrase.chain : Nat := 64

/-- Reads a phrase at the front of the tokens. -/
def Phrase.read (p : Phrase) (ts : List Token) : Reading :=
  Rule.readTo Phrase.rule (Phrase.chain * (ts.length + 1)) p ts

/-- The tokens that reading took from the front, when `behind` are left. -/
def taken (ts behind : List Token) : List Token :=
  ts.take (ts.length - behind.length)

end VertexBinding.Source
