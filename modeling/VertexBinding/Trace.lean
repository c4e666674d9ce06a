import VertexBinding.Matching

/-! # Trace — what a run reports beside its result

    The records are a function of the same values as the result, so a trace can
    be computed without running anything twice in a different order. -/

namespace VertexBinding

/-- One reported step. -/
inductive Record where
  /-- A shader was read. -/
  | found (count : Nat)
  /-- A field was compared with an attribute. -/
  | compared (field attributeName : String) (score : Nat)
  /-- A field took an attribute by name. -/
  | resolved (field attributeName : String)
  /-- A field of a vertex took an attribute. -/
  | bound (vertex field attributeName : String) (location : Nat)
  /-- Attributes that no field of a vertex took. -/
  | unused (vertex : String) (names : List String)
  deriving DecidableEq, Repr

/-- A name in double quotes. -/
def quoted (name : String) : String :=
  "\"" ++ name ++ "\""

/-- A record as a line of text, with its level. -/
def Record.line : Record → String
  | found count => "DEBUG Found " ++ toString count ++ " attribute declarations"
  | compared field name score =>
      "TRACE Field " ++ quoted field ++ " and attribute " ++ quoted name
        ++ " have score " ++ toString score
  | resolved field name => "DEBUG Matched field " ++ quoted field ++ " to attribute " ++ quoted name
  | bound vertex field name location =>
      "DEBUG Matched " ++ vertex ++ "." ++ field ++ " to attribute " ++ name
        ++ " at location " ++ toString location
  | unused vertex names =>
      "DEBUG Attributes not used by " ++ vertex ++ ": " ++ ", ".intercalate names

namespace Pool

/-- What making the pool of a shader reports. -/
def shaderRecords (shader : String) : List Record :=
  [.found (Shader.attributes shader).length]

/-- What choosing for a field reports: every free attribute with its score. -/
def takeRecords (pool : Pool) (field : Declaration) : List Record :=
  pool.candidates.map (fun c => .compared field.name c.name (score field c))

/-- What resolving a field reports. -/
def resolveRecords (pool : Pool) (field : Declaration) : List Record :=
  pool.takeRecords field ++
    match pool.resolve field with
    | .ok (name, _) => [.resolved field.name name]
    | .error _ => []

end Pool

end VertexBinding
