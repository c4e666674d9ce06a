import VertexBinding.Layout.Format
import VertexBinding.Text.Blank

/-! # Type table — which types a field may have, and how they lie in memory

    A type is known by its text without white space, so `[f32; 3]` and `[f32;3]`
    are one type.  Each entry gives the vertex format, the number of scalars, and
    the size and alignment of the type; a later entry replaces an earlier one. -/

namespace VertexBinding

open Text

/-- The vertex format and the memory layout of a field's type. -/
structure FieldType where
  format : VertexFormat
  /-- The number of scalars, such as 3 for `[f32; 3]`. -/
  components : Nat
  /-- The size of the type in bytes. -/
  size : Nat
  /-- The alignment of the type in bytes. -/
  align : Nat
  deriving DecidableEq, Repr

/-- A type as large as its format. -/
def FieldType.ofFormat (format : VertexFormat) (components align : Nat) : FieldType :=
  ⟨format, components, format.size, align⟩

/-- What a type is known by: its text without white space. -/
def typeKey (type : String) : List Char :=
  dropBlanks type.toList

/-- The types that fields may have, the latest entry first. -/
structure TypeTable where
  entries : List (List Char × FieldType)
  deriving DecidableEq, Repr

namespace TypeTable

/-- The table that knows no type. -/
def empty : TypeTable := ⟨[]⟩

/-- Adds a type or replaces its entry. -/
def insert (table : TypeTable) (type : String) (layout : FieldType) : TypeTable :=
  ⟨(typeKey type, layout) :: table.entries⟩

/-- The layout of a type, if the table knows it. -/
def get? (table : TypeTable) (type : String) : Option FieldType :=
  (table.entries.find? (fun entry => entry.1 == typeKey type)).map (·.2)

/-- Adds several types in order. -/
def insertAll (table : TypeTable) (types : List (String × FieldType)) : TypeTable :=
  types.foldl (fun t (type, layout) => t.insert type layout) table

/-- Scalars and arrays of scalars. -/
def scalarsAndArrays : List (String × FieldType) :=
  [("f32", .ofFormat .float32 1 4),
   ("[f32;2]", .ofFormat .float32x2 2 4),
   ("[f32;3]", .ofFormat .float32x3 3 4),
   ("[f32;4]", .ofFormat .float32x4 4 4),
   ("f64", .ofFormat .float64 1 8),
   ("[f64;2]", .ofFormat .float64x2 2 8),
   ("[f64;3]", .ofFormat .float64x3 3 8),
   ("[f64;4]", .ofFormat .float64x4 4 8),
   ("i32", .ofFormat .sint32 1 4),
   ("[i32;2]", .ofFormat .sint32x2 2 4),
   ("[i32;3]", .ofFormat .sint32x3 3 4),
   ("[i32;4]", .ofFormat .sint32x4 4 4),
   ("u32", .ofFormat .uint32 1 4),
   ("[u32;2]", .ofFormat .uint32x2 2 4),
   ("[u32;3]", .ofFormat .uint32x3 3 4),
   ("[u32;4]", .ofFormat .uint32x4 4 4),
   ("[u8;2]", .ofFormat .uint8x2 2 1),
   ("[u8;4]", .ofFormat .uint8x4 4 1),
   ("[i8;2]", .ofFormat .sint8x2 2 1),
   ("[i8;4]", .ofFormat .sint8x4 4 1),
   ("[u16;2]", .ofFormat .uint16x2 2 2),
   ("[u16;4]", .ofFormat .uint16x4 4 2),
   ("[i16;2]", .ofFormat .sint16x2 2 2),
   ("[i16;4]", .ofFormat .sint16x4 4 2)]

/-- The vectors of `glam`.  `Vec4` is aligned to 16 bytes, the other vectors only
    to their scalars. -/
def glamVectors : List (String × FieldType) :=
  [("Vec2", .ofFormat .float32x2 2 4),
   ("Vec3", .ofFormat .float32x3 3 4),
   ("Vec4", .ofFormat .float32x4 4 16),
   ("DVec2", .ofFormat .float64x2 2 8),
   ("DVec3", .ofFormat .float64x3 3 8),
   ("DVec4", .ofFormat .float64x4 4 8),
   ("IVec2", .ofFormat .sint32x2 2 4),
   ("IVec3", .ofFormat .sint32x3 3 4),
   ("IVec4", .ofFormat .sint32x4 4 4),
   ("UVec2", .ofFormat .uint32x2 2 4),
   ("UVec3", .ofFormat .uint32x3 3 4),
   ("UVec4", .ofFormat .uint32x4 4 4)]

/-- The table of scalars, arrays and vectors, the vectors with and without their
    path. -/
def standard : TypeTable :=
  ((empty.insertAll scalarsAndArrays).insertAll glamVectors).insertAll
    (glamVectors.map (fun (type, layout) => ("glam::" ++ type, layout)))

/-- The empty table knows nothing. -/
@[simp] theorem get?_empty (type : String) : empty.get? type = none := rfl

/-- **LAST WRITE WINS**: a new entry answers for its own type and for no other. -/
theorem get?_insert (table : TypeTable) (type : String) (layout : FieldType) (query : String) :
    (table.insert type layout).get? query
      = if typeKey type = typeKey query then some layout else table.get? query := by
  by_cases h : typeKey type = typeKey query
  · simp [insert, get?, h]
  · simp [insert, get?, h]

end TypeTable

end VertexBinding
