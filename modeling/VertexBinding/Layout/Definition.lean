import VertexBinding.Failure
import VertexBinding.Layout.Vertex
import VertexBinding.Source.Representation
import VertexBinding.Source.SourceFile

/-! # Definitions — vertices read from the source that defines them

    A vertex is a struct with named fields that is not packed.  A struct without the
    representation of C is accepted with a warning: the plan assumes that
    representation.  Packing is refused before the warning, a missing name of the
    fields behind it. -/

namespace VertexBinding

open Source

/-- The warning for a struct whose layout the language may choose. -/
def layoutWarning (name : String) : String :=
  "Vertex struct " ++ name ++ " is not #[repr(C)]"

namespace Vertex

/-- The vertex that a struct defines. -/
def ofItem (item : StructItem) : Except StructError Vertex :=
  let r := Representation.ofAttributes item.attributes
  if r.packed then .error (.packed item.name)
  else match item.fields with
    | .named fields => .ok ⟨item.name, fields, r.align.getD 1⟩
    | .tuple => .error (.tuple item.name)
    | .unit => .error (.unit item.name)

/-- The warnings that reading a struct gives. -/
def itemWarnings (item : StructItem) : List String :=
  let r := Representation.ofAttributes item.attributes
  if r.packed || r.c then [] else [layoutWarning item.name]

/-- The vertices that structs define, up to the first that is none. -/
def ofItems : List StructItem → Except StructError (List Vertex)
  | [] => .ok []
  | item :: items => do
      let v ← ofItem item
      let vs ← ofItems items
      return v :: vs

/-- The warnings that reading structs gives, up to the first that is no vertex. -/
def itemsWarnings : List StructItem → List String
  | [] => []
  | item :: items =>
      itemWarnings item ++
        match ofItem item with
        | .ok _ => itemsWarnings items
        | .error _ => []

/-- The vertex defined by a source that is one struct, and the warnings. -/
def ofSource (source : String) : Except StructError Vertex × List String :=
  match StructItem.ofSource? source with
  | some item => (ofItem item, itemWarnings item)
  | none => (.error .unreadable, [])

/-- The vertices defined at the top of a file, and the warnings. -/
def ofFile (source : String) : Except StructError (List Vertex) × List String :=
  match structItems? source with
  | some items => (ofItems items, itemsWarnings items)
  | none => (.error .unreadable, [])

end Vertex

end VertexBinding
