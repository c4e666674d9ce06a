import VertexBinding.Emission.Names
import VertexBinding.Layout.Plan

/-! # Impl blocks — the code that a plan turns into

    The block gives a vertex two constants and a function: the names of its
    attributes, their formats and locations, and the layout of its buffer.  Offsets
    and the stride are left to the compiler, which knows how the struct really lies
    in memory.  The block can be written as bare tokens or set as a document. -/

namespace VertexBinding.Emission

open Source

/-- One attribute of a block. -/
structure Entry where
  /-- The identifier of the field. -/
  field : String
  attributeName : String
  format : VertexFormat
  location : Nat
  deriving DecidableEq, Repr

/-- The code for one vertex. -/
structure ImplBlock where
  /-- The path of the vertex, as it is printed. -/
  path : List Token
  /-- Are the names of the attributes among the constants? -/
  names : Bool
  entries : List Entry
  deriving DecidableEq, Repr

/-- The entry of a binding, if its field can be written. -/
def entryOf (b : Binding) : Except LayoutError Entry :=
  match fieldIdentifier? b.field with
  | some field => .ok ⟨field, b.attributeName, b.format, b.location⟩
  | none => .error (.invalidIdentifier b.field)

/-- The entries of bindings, up to the first whose field cannot be written. -/
def entriesOf : List Binding → Except LayoutError (List Entry)
  | [] => .ok []
  | b :: bs => do
      let e ← entryOf b
      let es ← entriesOf bs
      return e :: es

/-- The block of a plan, if its names can be written: the vertex first, then the
    fields in order. -/
def ImplBlock.ofPlan (names : Bool) (plan : Plan) : Except LayoutError ImplBlock :=
  match path? plan.vertex with
  | some path => do
      let entries ← entriesOf plan.bindings
      return ⟨path, names, entries⟩
  | none => .error (.invalidIdentifier plan.vertex)

/-! ## Tokens -/

/-- The tokens of an operator. -/
def op (text : String) : List Token :=
  Token.signs text.toList

/-- Words joined by two colons. -/
def pathOf : List String → List Token
  | [] => []
  | [w] => [.word w]
  | w :: v :: rest => .word w :: op "::" ++ pathOf (v :: rest)

/-- Tokens in brackets. -/
def inside (d : Delimiter) (body : List Token) : List Token :=
  [.opening d] ++ body ++ [.closing d]

/-- Lists of tokens with commas between them. -/
def separated : List (List Token) → List Token
  | [] => []
  | [ts] => ts
  | ts :: us :: rest => ts ++ op "," ++ separated (us :: rest)

/-- A number written in decimal. -/
def number (n : Nat) : List Token :=
  [.literal (toString n)]

/-- A constant that is an array: its name, the type of its elements, and these. -/
def constantTokens (name : String) (element : List Token) (values : List (List Token)) :
    List Token :=
  [.word "pub", .word "const", .word name] ++ op ":"
    ++ inside .bracket (element ++ op ";" ++ number values.length) ++ op "="
    ++ inside .bracket (separated values) ++ op ";"

/-- A field of a struct expression. -/
def fieldTokens (name : String) (value : List Token) : List Token :=
  [.word name] ++ op ":" ++ value ++ op ","

/-- The tokens of one attribute. -/
def Entry.tokens (path : List Token) (e : Entry) : List Token :=
  pathOf ["wgpu", "VertexAttribute"] ++ inside .brace
    (fieldTokens "format" (pathOf ["wgpu", "VertexFormat", e.format.name])
      ++ fieldTokens "offset"
          (pathOf ["std", "mem", "offset_of"] ++ op "!"
            ++ inside .parenthesis (path ++ op "," ++ [.word e.field])
            ++ [.word "as", .word "u64"])
      ++ fieldTokens "shader_location" (number e.location))

/-- The tokens of the function that gives the layout of the buffer. -/
def functionTokens (path : List Token) : List Token :=
  [.word "pub", .word "const", .word "fn", .word "vertex_buffer_layout"]
    ++ inside .parenthesis ([.word "step_mode"] ++ op ":" ++ pathOf ["wgpu", "VertexStepMode"])
    ++ op "->" ++ pathOf ["wgpu", "VertexBufferLayout"] ++ op "<" ++ [.lifetime "static"] ++ op ">"
    ++ inside .brace
        (pathOf ["wgpu", "VertexBufferLayout"] ++ inside .brace
          (fieldTokens "array_stride"
              (pathOf ["std", "mem", "size_of"] ++ op "::" ++ op "<" ++ path ++ op ">"
                ++ inside .parenthesis [] ++ [.word "as", .word "u64"])
            ++ [.word "step_mode"] ++ op ","
            ++ fieldTokens "attributes" (op "&" ++ pathOf ["Self", "VERTEX_ATTRIBUTES"])))

/-- The tokens of a block. -/
def ImplBlock.tokens (b : ImplBlock) : List Token :=
  [.word "impl"] ++ b.path ++ inside .brace
    ((if b.names then
        constantTokens "ATTRIBUTE_NAMES" (op "&" ++ [.lifetime "static", .word "str"])
          (b.entries.map (fun e => [.literal (textLiteral e.attributeName)]))
      else [])
      ++ constantTokens "VERTEX_ATTRIBUTES" (pathOf ["wgpu", "VertexAttribute"])
          (b.entries.map (Entry.tokens b.path))
      ++ functionTokens b.path)

/-! ## The set text -/

/-- The elements of a list, each with its comma; on one line the last has none and
    the given number of spaces stands behind it. -/
def elementPieces (atEnd : Nat) : List (List Piece) → List Piece
  | [] => []
  | [e] => e ++ [.lastPlace atEnd]
  | e :: f :: rest => e ++ [.text ",", .space] ++ elementPieces atEnd (f :: rest)

/-- An array: on one line if it fits, else an element a line. -/
def arrayPieces (elements : List (List Piece)) : List Piece :=
  if elements.isEmpty then [.text "[]"]
  else [.text "["] ++ Piece.consistent 4 ([.gap] ++ elementPieces 0 elements) ++ [.text "]"]

/-- A constant that is an array, on lines of its own. -/
def constantPieces (name element : String) (values : List (List Piece)) : List Piece :=
  Piece.consistent 0
      ([.text ("pub const " ++ name ++ ": [" ++ element ++ "; " ++ toString values.length
          ++ "] = ")]
        ++ arrayPieces values ++ [.text ";"])
    ++ [.newline 0]

/-- A field of a struct expression with a number of bytes, which is made 64 bits
    wide. -/
def bytesField (name : String) (value : List Piece) : List Piece :=
  [.text (name ++ ": ")]
    ++ Piece.inconsistent 0 (Piece.inconsistent 4
        (Piece.inconsistent (-4) value ++ [.space, .text "as u64"]))

/-- A struct expression, a field a line. -/
def structPieces (path : String) (fields : List (List Piece)) : List Piece :=
  Piece.consistent 4
      ([.text path, .text " \x7b", .space] ++ elementPieces 1 fields ++ [.strut])
    ++ [.text "\x7d"]

/-- One attribute of a block, set. -/
def Entry.pieces (path : List Token) (e : Entry) : List Piece :=
  structPieces "wgpu::VertexAttribute"
    [[.text ("format: wgpu::VertexFormat::" ++ e.format.name)],
     bytesField "offset"
      ([.text "std::mem::offset_of!("]
        ++ Piece.consistent 4
            ([.gap]
              ++ Piece.inconsistent 0
                  (inputPieces .start true (path ++ op "," ++ [.word e.field]))
              ++ [.place ⟨0, -4, ""⟩])
        ++ [.text ")"]),
     [.text ("shader_location: " ++ toString e.location)]]

/-- The function that gives the layout of the buffer, set. -/
def functionPieces (path : List Token) : List Piece :=
  Piece.consistent 4
    ([.text "pub const fn vertex_buffer_layout(", .newline 0,
      .text "step_mode: wgpu::VertexStepMode,", .newline (-4),
      .text ") -> wgpu::VertexBufferLayout<'static> \x7b", .newline 0]
      ++ structPieces "wgpu::VertexBufferLayout"
          [bytesField "array_stride"
            ([.text "std::mem::size_of::<"]
              ++ Piece.consistent 4 ([.gap] ++ pathPieces path ++ [.lastPlace 0])
              ++ [.text ">()"]),
           [.text "step_mode"],
           [.text "attributes: &Self::VERTEX_ATTRIBUTES"]]
      ++ [.newline (-4), .text "\x7d"])

/-- A block, set. -/
def ImplBlock.pieces (b : ImplBlock) : List Piece :=
  Piece.consistent 4
      (Piece.inconsistent (-4) ([.text "impl "] ++ pathPieces b.path ++ [.text " "])
        ++ [.text "\x7b", .newline 0]
        ++ (if b.names then
              constantPieces "ATTRIBUTE_NAMES" "&'static str"
                (b.entries.map (fun e => [.text (textLiteral e.attributeName)]))
            else [])
        ++ constantPieces "VERTEX_ATTRIBUTES" "wgpu::VertexAttribute"
            (b.entries.map (Entry.pieces b.path))
        ++ functionPieces b.path
        ++ [.newline (-4)])
    ++ [.text "\x7d", .newline 0]

/-- The text of a block. -/
def ImplBlock.text (b : ImplBlock) : String :=
  setDocument b.pieces

end VertexBinding.Emission
