import VertexBinding.Failure
import VertexBinding.Layout.TypeTable
import VertexBinding.Layout.Vertex
import VertexBinding.Trace

/-! # Plans — every field bound to an attribute, a format and an offset

    The fields of a vertex are bound in order against a fresh pool.  For each, the
    type is looked up first, then the attribute is taken, then the offset is
    computed: the next multiple of the type's alignment.  The stride is the end of
    the last field, rounded up to the largest alignment of the struct. -/

namespace VertexBinding

/-- A field bound to an attribute. -/
structure Binding where
  field : String
  attributeName : String
  location : Nat
  format : VertexFormat
  components : Nat
  /-- Where the field lies in the struct, in bytes. -/
  offset : Nat
  deriving DecidableEq, Repr

/-- The layout of one vertex. -/
structure Plan where
  vertex : String
  /-- The size of the struct with its trailing padding, in bytes. -/
  stride : Nat
  /-- The bindings in the order of the fields. -/
  bindings : List Binding
  deriving DecidableEq, Repr

namespace Plan

/-- What a partial plan leaves to the fields that follow. -/
structure Cursor where
  /-- The attributes that are still free. -/
  pool : Pool
  /-- The end of the last field in bytes. -/
  finish : Nat
  /-- The largest alignment so far. -/
  align : Nat
  deriving DecidableEq, Repr

/-- A fault ends the run. -/
def faulting {α : Type} : Except Fault α → Except Stop α
  | .ok a => .ok a
  | .error f => .error (.faulted f)

/-- The layout of a field's type. -/
def fieldType (types : TypeTable) (vertex : String) (field : Declaration) :
    Except Stop FieldType :=
  match types.get? field.type with
  | some t => .ok t
  | none => .error (.failed (.unsupportedType vertex field.name field.type))

/-- The attribute of a field. -/
def fieldAttribute (pool : Pool) (vertex : String) (field : Declaration) :
    Except Stop (Candidate × Pool) :=
  match pool.takeBest field with
  | .ok r => .ok r
  | .error e => .error (.failed (.noMatch vertex e))

/-- Binds one field. -/
def bindField (types : TypeTable) (vertex : String) (field : Declaration) (s : Cursor) :
    Except Stop (Binding × Cursor) := do
  let t ← fieldType types vertex field
  let (c, pool) ← fieldAttribute s.pool vertex field
  let offset ← faulting (align? s.finish t.align)
  let finish ← faulting (fit (offset + t.size))
  return (⟨field.name, c.name, c.location, t.format, t.components, offset⟩,
    ⟨pool, finish, max s.align t.align⟩)

/-- Binds fields in order. -/
def bindFields (types : TypeTable) (vertex : String) :
    List Declaration → Cursor → Except Stop (List Binding × Cursor)
  | [], s => .ok ([], s)
  | field :: fields, s => do
      let (b, s) ← bindField types vertex field s
      let (bs, s) ← bindFields types vertex fields s
      return (b :: bs, s)

/-- Where the plan of a vertex begins. -/
def start (shader : String) (vertex : Vertex) : Cursor :=
  ⟨Pool.ofShader shader, 0, max vertex.align 1⟩

/-- The plan of a vertex for a shader. -/
def ofVertex (shader : String) (vertex : Vertex) (types : TypeTable) : Except Stop Plan := do
  let (bindings, s) ← bindFields types vertex.name vertex.fields (start shader vertex)
  let stride ← faulting (align? s.finish s.align)
  return ⟨vertex.name, stride, bindings⟩

/-- What binding one field reports. -/
def fieldRecords (types : TypeTable) (vertex : String) (field : Declaration) (s : Cursor) :
    List Record :=
  match types.get? field.type with
  | none => []
  | some _ =>
      s.pool.takeRecords field ++
        match s.pool.takeBest field with
        | .ok (c, _) => [.bound vertex field.name c.name c.location]
        | .error _ => []

/-- What binding fields in order reports: nothing more after the first that stops. -/
def fieldsRecords (types : TypeTable) (vertex : String) :
    List Declaration → Cursor → List Record
  | [], _ => []
  | field :: fields, s =>
      fieldRecords types vertex field s ++
        match bindField types vertex field s with
        | .ok (_, s) => fieldsRecords types vertex fields s
        | .error _ => []

/-- What planning a vertex reports. -/
def records (shader : String) (vertex : Vertex) (types : TypeTable) : List Record :=
  Pool.shaderRecords shader
    ++ fieldsRecords types vertex.name vertex.fields (start shader vertex)
    ++ match bindFields types vertex.name vertex.fields (start shader vertex),
          ofVertex shader vertex types with
        | .ok (_, s), .ok _ =>
            if s.pool.isEmpty then [] else [.unused vertex.name s.pool.names]
        | _, _ => []

end Plan

end VertexBinding
