/-! # Declarations — a name and the type it is declared with

    Shader attributes and the fields of a vertex are both written as a name with
    a type; only the name takes part in matching. -/

namespace VertexBinding

/-- A named and typed variable: a shader attribute such as `vec3 a_Position`, or
    a field such as `position` of type `[f32; 3]`. -/
structure Declaration where
  name : String
  type : String
  deriving DecidableEq, Repr

end VertexBinding
