import VertexBinding.Source.Ahead

/-! # Representation — what the `repr` attributes of a struct ask for

    The arguments of one attribute are read from left to right up to the first that
    is malformed; what was read before it counts, what follows it in the same
    attribute does not, and other attributes are not touched.  Of several
    alignments the last one counts. -/

namespace VertexBinding.Source

/-- One argument of a `repr` attribute. -/
inductive ReprArgument where
  | c
  | packed
  | align (bytes : Nat)
  /-- An argument that says nothing about the layout in memory. -/
  | other
  deriving DecidableEq, Repr

/-- What a struct's attributes say about its layout in memory. -/
structure Representation where
  c : Bool := false
  packed : Bool := false
  align : Option Nat := none
  deriving DecidableEq, Repr

namespace ReprArgument

/-- Alignments are below this number. -/
def alignLimit : Nat := Nat.pow 2 64

/-- A name whose first segment was read, and what stands behind it.  Further segments
    make a path of it, which is no name. -/
def behindName (name : Option String) : List Token → Option (Option String × List Token)
  | .sign ':' true :: .sign ':' _ :: .word _ :: rest => behindName none rest
  | .sign ':' true :: .sign ':' _ :: _ => none
  | ts => some (name, ts)

/-- The name of an argument, unless it is a path, and what stands behind it. -/
def name? : List Token → Option (Option String × List Token)
  | .word w :: rest => behindName (some w) rest
  | .sign ':' true :: .sign ':' _ :: .word _ :: rest => behindName none rest
  | _ => none

/-- The number of bytes in the parentheses of an alignment, and what stands behind
    them.  Only the first token inside counts. -/
def bytes? : List Token → Option (Nat × List Token)
  | .opening .parenthesis :: .literal text :: rest =>
      match integerValue? text.toList with
      | some n => if n < alignLimit then some (n, (splitClosing 0 rest).2) else none
      | none => none
  | _ => none

/-- What stands behind the parentheses, if there are any. -/
def behindParentheses : List Token → List Token
  | .opening .parenthesis :: rest => (splitClosing 0 rest).2
  | ts => ts

/-- The argument at the front and what stands behind it. -/
def read? (ts : List Token) : Option (ReprArgument × List Token) :=
  match name? ts with
  | none => none
  | some (some "align", rest) => (bytes? rest).map (fun (n, behind) => (.align n, behind))
  | some (some "C", rest) => some (.c, behindParentheses rest)
  | some (some "packed", rest) => some (.packed, behindParentheses rest)
  | some (_, rest) => some (.other, behindParentheses rest)

/-- The arguments in front of the first malformed one, at most `size` of them. -/
def readUpTo : (size : Nat) → List Token → List ReprArgument
  | 0, _ => []
  | size + 1, ts =>
      match read? ts with
      | none => []
      | some (a, .sign ',' _ :: rest) => a :: readUpTo size rest
      | some (a, _) => [a]

/-- The arguments in front of the first malformed one. -/
def readAll (ts : List Token) : List ReprArgument :=
  readUpTo ts.length ts

/-- The arguments of an attribute: none unless it is `repr` with a group. -/
def ofAttribute : List Token → List ReprArgument
  | .word "repr" :: .opening _ :: rest => readAll (splitClosing 0 rest).1
  | _ => []

end ReprArgument

namespace Representation

/-- A representation with one more argument. -/
def add (r : Representation) : ReprArgument → Representation
  | .c => { r with c := true }
  | .packed => { r with packed := true }
  | .align n => { r with align := some n }
  | .other => r

/-- What a list of arguments asks for. -/
def ofArguments (arguments : List ReprArgument) : Representation :=
  arguments.foldl add {}

/-- What a struct's attributes ask for. -/
def ofAttributes (attributes : List (List Token)) : Representation :=
  ofArguments (attributes.flatMap ReprArgument.ofAttribute)

end Representation

end VertexBinding.Source
