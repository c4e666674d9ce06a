/-! # Vertex formats — what one attribute looks like in a vertex buffer

    A format is a scalar type and how many of them there are, or one of the two
    packed colours.  Its size follows from both. -/

namespace VertexBinding

/-- The format of an attribute in a vertex buffer. -/
inductive VertexFormat where
  | uint8 | uint8x2 | uint8x4
  | sint8 | sint8x2 | sint8x4
  | unorm8 | unorm8x2 | unorm8x4
  | snorm8 | snorm8x2 | snorm8x4
  | uint16 | uint16x2 | uint16x4
  | sint16 | sint16x2 | sint16x4
  | unorm16 | unorm16x2 | unorm16x4
  | snorm16 | snorm16x2 | snorm16x4
  | float16 | float16x2 | float16x4
  | float32 | float32x2 | float32x3 | float32x4
  | uint32 | uint32x2 | uint32x3 | uint32x4
  | sint32 | sint32x2 | sint32x3 | sint32x4
  | float64 | float64x2 | float64x3 | float64x4
  | unorm10_10_10_2
  | unorm8x4Bgra
  deriving DecidableEq, Repr

namespace VertexFormat

/-- The name a format is written by, and its size in bytes. -/
def described : VertexFormat → String × Nat
  | uint8 => ("Uint8", 1)
  | uint8x2 => ("Uint8x2", 2)
  | uint8x4 => ("Uint8x4", 4)
  | sint8 => ("Sint8", 1)
  | sint8x2 => ("Sint8x2", 2)
  | sint8x4 => ("Sint8x4", 4)
  | unorm8 => ("Unorm8", 1)
  | unorm8x2 => ("Unorm8x2", 2)
  | unorm8x4 => ("Unorm8x4", 4)
  | snorm8 => ("Snorm8", 1)
  | snorm8x2 => ("Snorm8x2", 2)
  | snorm8x4 => ("Snorm8x4", 4)
  | uint16 => ("Uint16", 2)
  | uint16x2 => ("Uint16x2", 4)
  | uint16x4 => ("Uint16x4", 8)
  | sint16 => ("Sint16", 2)
  | sint16x2 => ("Sint16x2", 4)
  | sint16x4 => ("Sint16x4", 8)
  | unorm16 => ("Unorm16", 2)
  | unorm16x2 => ("Unorm16x2", 4)
  | unorm16x4 => ("Unorm16x4", 8)
  | snorm16 => ("Snorm16", 2)
  | snorm16x2 => ("Snorm16x2", 4)
  | snorm16x4 => ("Snorm16x4", 8)
  | float16 => ("Float16", 2)
  | float16x2 => ("Float16x2", 4)
  | float16x4 => ("Float16x4", 8)
  | float32 => ("Float32", 4)
  | float32x2 => ("Float32x2", 8)
  | float32x3 => ("Float32x3", 12)
  | float32x4 => ("Float32x4", 16)
  | uint32 => ("Uint32", 4)
  | uint32x2 => ("Uint32x2", 8)
  | uint32x3 => ("Uint32x3", 12)
  | uint32x4 => ("Uint32x4", 16)
  | sint32 => ("Sint32", 4)
  | sint32x2 => ("Sint32x2", 8)
  | sint32x3 => ("Sint32x3", 12)
  | sint32x4 => ("Sint32x4", 16)
  | float64 => ("Float64", 8)
  | float64x2 => ("Float64x2", 16)
  | float64x3 => ("Float64x3", 24)
  | float64x4 => ("Float64x4", 32)
  | unorm10_10_10_2 => ("Unorm10_10_10_2", 4)
  | unorm8x4Bgra => ("Unorm8x4Bgra", 4)

/-- The name a format is written by. -/
def name (f : VertexFormat) : String :=
  f.described.1

/-- The size of a format in bytes. -/
def size (f : VertexFormat) : Nat :=
  f.described.2

/-- All formats. -/
def all : List VertexFormat :=
  [uint8, uint8x2, uint8x4, sint8, sint8x2, sint8x4,
   unorm8, unorm8x2, unorm8x4, snorm8, snorm8x2, snorm8x4,
   uint16, uint16x2, uint16x4, sint16, sint16x2, sint16x4,
   unorm16, unorm16x2, unorm16x4, snorm16, snorm16x2, snorm16x4,
   float16, float16x2, float16x4,
   float32, float32x2, float32x3, float32x4,
   uint32, uint32x2, uint32x3, uint32x4,
   sint32, sint32x2, sint32x3, sint32x4,
   float64, float64x2, float64x3, float64x4,
   unorm10_10_10_2, unorm8x4Bgra]

/-- The format with the given name. -/
def ofName? (name : String) : Option VertexFormat :=
  all.find? (fun f => f.name == name)

/-- The list of formats is complete. -/
theorem mem_all (f : VertexFormat) : f ∈ all := by
  cases f <;> decide

/-- Every format is found by its name. -/
theorem ofName?_name (f : VertexFormat) : ofName? f.name = some f := by
  cases f <;> decide

end VertexFormat

end VertexBinding
