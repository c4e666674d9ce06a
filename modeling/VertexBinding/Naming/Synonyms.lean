import VertexBinding.Naming.Words
import VertexBinding.Text.Lowercase

/-! # Synonyms — one canonical word for each meaning

    Shaders and vertices abbreviate differently.  Each word is put into lower case
    and replaced by its canonical form; a word the table does not know stands for
    itself.  Every canonical form is its own synonym, so a second replacement
    changes nothing. -/

namespace VertexBinding.Naming

open Text

/-- Words common in attribute names, each with its canonical form. -/
def synonyms : List (String × String) :=
  [("pos", "position"), ("position", "position"),
   ("nrm", "normal"), ("normal", "normal"),
   ("uv", "texcoord"), ("tex", "texcoord"), ("coord", "texcoord"), ("texcoord", "texcoord"),
   ("col", "color"), ("colour", "color"), ("color", "color"),
   ("vert", "vertex"), ("vertex", "vertex"),
   ("tangent", "tangent"),
   ("bi", "binormal"), ("binormal", "binormal"),
   ("bone", "boneweights"), ("weights", "boneweights"), ("boneweights", "boneweights"),
   ("indices", "boneindices"), ("boneindices", "boneindices")]

/-- The form a lower case word is compared by. -/
def synonymOf (w : List Char) : List Char :=
  match synonyms.find? (fun entry => entry.1.toList == w) with
  | some entry => entry.2.toList
  | none => w

/-- The canonical form of a word. -/
def canonical (w : List Char) : List Char :=
  synonymOf (lower w)

/-- The canonical form of a word as a text. -/
def normalizeWord (word : String) : String :=
  String.ofList (canonical word.toList)

/-- The canonical words of a name, in order and possibly repeated. -/
def canonicalWords (name : List Char) : List (List Char) :=
  (wordsOf name).map canonical

/-- Every canonical form in the table is its own synonym. -/
theorem synonymOf_target : ∀ entry ∈ synonyms, synonymOf entry.2.toList = entry.2.toList := by
  decide

end VertexBinding.Naming
