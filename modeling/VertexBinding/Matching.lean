import VertexBinding.Naming.Affinity
import VertexBinding.Shader.Attributes

/-! # Matching — a pool of attributes, each given to at most one field

    The attributes of a shader wait in a pool, in the order of their
    declarations.  A field takes the attribute its name fits best; of several
    that fit equally well, the one declared first.  What is taken leaves the
    pool, and a field that fits nothing leaves the pool as it was. -/

namespace VertexBinding

open Naming

/-- Shader locations are counted in words of 32 bits. -/
def locationLimit : Nat := Nat.pow 2 32

/-- An attribute that no field has taken yet. -/
structure Candidate where
  /-- The position of the declaration in its shader. -/
  location : Nat
  declaration : Declaration
  deriving DecidableEq, Repr

/-- The name a candidate is declared with. -/
def Candidate.name (c : Candidate) : String :=
  c.declaration.name

/-- The attributes that are still free, in the order of their declarations. -/
structure Pool where
  candidates : List Candidate
  deriving DecidableEq, Repr

/-- A field that fits no free attribute. -/
structure NoMatch where
  field : String
  /-- The names of the attributes that were free. -/
  candidates : List String
  deriving DecidableEq, Repr

namespace Pool

/-- The pool without attributes. -/
def empty : Pool := ⟨[]⟩

/-- A pool of attributes in the order of their declarations. -/
def ofDeclarations (ds : List Declaration) : Pool :=
  ⟨ds.zipIdx.map (fun (d, i) => ⟨i % locationLimit, d⟩)⟩

/-- The pool of a shader's attributes. -/
def ofShader (shader : String) : Pool :=
  ofDeclarations (Shader.attributes shader)

/-- The names of the free attributes. -/
def names (pool : Pool) : List String :=
  pool.candidates.map Candidate.name

/-- How many attributes are free. -/
def size (pool : Pool) : Nat :=
  pool.candidates.length

/-- Is no attribute free? -/
def isEmpty (pool : Pool) : Bool :=
  pool.candidates.isEmpty

/-- The first of the candidates with the highest score, and the others in their
    order; nothing if every score is zero. -/
def pick? (score : Candidate → Nat) : List Candidate → Option (Candidate × List Candidate)
  | [] => none
  | c :: rest =>
      match pick? score rest with
      | none => if 0 < score c then some (c, rest) else none
      | some (best, others) =>
          if score best ≤ score c then some (c, rest) else some (best, c :: others)

/-- How well a field fits a candidate. -/
def score (field : Declaration) (c : Candidate) : Nat :=
  affinity field.name c.name

/-- The attribute that fits the field best, and the pool without it. -/
def takeBest (pool : Pool) (field : Declaration) : Except NoMatch (Candidate × Pool) :=
  match pick? (score field) pool.candidates with
  | some (best, others) => .ok (best, ⟨others⟩)
  | none => .error ⟨field.name, pool.names⟩

/-- The name of the attribute that fits the field best, and the pool without it. -/
def resolve (pool : Pool) (field : Declaration) : Except NoMatch (String × Pool) :=
  (pool.takeBest field).map (fun (c, rest) => (c.name, rest))

end Pool

end VertexBinding
