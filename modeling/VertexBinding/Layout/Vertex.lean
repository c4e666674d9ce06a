import VertexBinding.Declaration

/-! # Vertices — structs whose fields are bound to attributes -/

namespace VertexBinding

/-- A vertex struct with named fields in the order of their declarations. -/
structure Vertex where
  /-- The name or path by which generated code refers to the struct. -/
  name : String
  fields : List Declaration
  /-- The least alignment of the struct in bytes. -/
  align : Nat := 1
  deriving DecidableEq, Repr

end VertexBinding
