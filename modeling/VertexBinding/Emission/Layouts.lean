import VertexBinding.Emission.ImplBlock

/-! # Layouts — from a shader and its vertices to generated code

    Every vertex is planned against all attributes of the shader and turned into a
    block of its own.  The blocks are set one behind the other.  If one of them
    cannot be set, because its path is no type, all are written as bare tokens; an
    outside formatter gets the bare tokens too, and where it fails the blocks are set
    as if it were not there. -/

namespace VertexBinding

open Emission

/-- How generated code is written. -/
structure WriteOptions where
  /-- Are the names of the attributes written? -/
  attributeNames : Bool := true
  /-- A formatter from outside; it gives nothing when it fails. -/
  formatter? : Option (String → Option String) := none

/-- A failure ends the run. -/
def failing {α : Type} : Except LayoutError α → Except Stop α
  | .ok a => .ok a
  | .error e => .error (.failed e)

/-- The block of one vertex. -/
def blockOf (shader : String) (types : TypeTable) (options : WriteOptions) (vertex : Vertex) :
    Except Stop ImplBlock := do
  let plan ← Plan.ofVertex shader vertex types
  failing (ImplBlock.ofPlan options.attributeNames plan)

/-- The blocks of vertices in order, up to the first that has none. -/
def blocksOf (shader : String) (types : TypeTable) (options : WriteOptions) :
    List Vertex → Except Stop (List ImplBlock)
  | [] => .ok []
  | v :: vs => do
      let b ← blockOf shader types options v
      let bs ← blocksOf shader types options vs
      return b :: bs

/-- Blocks as bare tokens on one line. -/
def tokenText (blocks : List ImplBlock) : String :=
  Source.Token.render (blocks.flatMap ImplBlock.tokens)

/-- Blocks, set if all of them can be. -/
def setBlocks (blocks : List ImplBlock) : String :=
  if blocks.all (fun b => isTypePath b.path) then String.join (blocks.map ImplBlock.text)
  else tokenText blocks

/-- A text without carriage returns. -/
def withoutReturns (s : String) : String :=
  String.ofList (s.toList.filter (· != '\r'))

/-- Blocks as the options want them. -/
def writeBlocks (options : WriteOptions) (blocks : List ImplBlock) : String :=
  match options.formatter?.bind (· (tokenText blocks)) with
  | some text => withoutReturns text
  | none => setBlocks blocks

/-- The code for the vertices of a shader. -/
def vertexLayouts (shader : String) (vertices : List Vertex) (types : TypeTable)
    (options : WriteOptions) : Except Stop String :=
  (blocksOf shader types options vertices).map (writeBlocks options)

/-- The code for one vertex of a shader. -/
def vertexLayout (shader : String) (vertex : Vertex) (types : TypeTable)
    (options : WriteOptions) : Except Stop String :=
  vertexLayouts shader [vertex] types options

end VertexBinding
