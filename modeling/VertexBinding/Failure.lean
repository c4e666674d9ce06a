import VertexBinding.Layout.Alignment
import VertexBinding.Matching

/-! # Failures — why there is no layout, and how it is said

    Every failure names its cause; the wording is in one place for each.  A fault
    of the arithmetic is no failure of the input and has no wording: it stops
    the run. -/

namespace VertexBinding

/-- Why a text is not the definition of a vertex. -/
inductive StructError where
  /-- The text is not the definition of a struct. -/
  | unreadable
  | packed (name : String)
  | tuple (name : String)
  | unit (name : String)
  deriving DecidableEq, Repr

/-- Why there is no layout. -/
inductive LayoutError where
  /-- A field fits no free attribute. -/
  | noMatch (vertex : String) (cause : NoMatch)
  /-- The type of a field is not in the table. -/
  | unsupportedType (vertex field type : String)
  /-- The definition of the vertex cannot be used. -/
  | invalidStruct (cause : StructError)
  /-- A name cannot be written in generated code. -/
  | invalidIdentifier (name : String)
  deriving DecidableEq, Repr

/-- Why a computation ended without a result. -/
inductive Stop where
  | failed (error : LayoutError)
  | faulted (fault : Fault)
  deriving DecidableEq, Repr

/-- The names that were free, or the word for no names. -/
def NoMatch.remaining (e : NoMatch) : String :=
  if e.candidates.isEmpty then "none" else ", ".intercalate e.candidates

/-- A failure to match, in words. -/
def NoMatch.message (e : NoMatch) : String :=
  "no shader attribute matches vertex field `" ++ e.field
    ++ "` (remaining attributes: " ++ e.remaining ++ ")"

/-- What is wrong with a definition, in words.  A text that is no definition at all
    has no words of its own. -/
def StructError.reason? : StructError → Option String
  | unreadable => none
  | packed name => some ("packed struct `" ++ name ++ "` has unaligned fields")
  | tuple name => some ("tuple struct `" ++ name ++ "` has no field names to match")
  | unit name => some ("unit struct `" ++ name ++ "` has no fields")

/-- A failure in words. -/
def LayoutError.message? : LayoutError → Option String
  | noMatch vertex cause => some ("failed to match fields of `" ++ vertex ++ "`: " ++ cause.message)
  | unsupportedType vertex field type =>
      some ("unsupported type `" ++ type ++ "` for field `" ++ field ++ "` in `" ++ vertex ++ "`")
  | invalidStruct cause => cause.reason?.map ("invalid vertex struct: " ++ ·)
  | invalidIdentifier name => some ("`" ++ name ++ "` is not a valid Rust identifier or path")

/-- A failure in words, with the path of the shader it concerns. -/
def LayoutError.diagnostic? (e : LayoutError) (path : String) : Option String :=
  e.message?.map (fun message => path ++ ": " ++ message)

end VertexBinding
