/-! # Documents — text with places where a line may break

    A document is a list of pieces: text, places for a break, and groups.  A group
    that fits on the rest of its line is set on one line; of a group that does not
    fit, a consistent one breaks at all its places, an inconsistent one only where
    the text up to the next place would not fit.  Widths are counted in bytes. -/

namespace VertexBinding.Emission

/-- Lines have at most this many bytes where the text allows it. -/
def lineWidth : Int := 89

/-- However deep a line is indented, this many bytes count as its room. -/
def leastRoom : Int := 60

/-- Wider than any line: what is this wide never fits. -/
def unbounded : Nat := 65535

/-- A place where a line may break. -/
structure Break where
  /-- The spaces that stand there when the line does not break. -/
  blanks : Nat := 0
  /-- How the indentation of the next line differs from the group's. -/
  offset : Int := 0
  /-- What ends the line when it breaks. -/
  ending : String := ""
  deriving DecidableEq, Repr

/-- One piece of a document. -/
inductive Piece where
  | text (s : String)
  | place (b : Break)
  /-- Nothing to see, but too wide for any line. -/
  | strut
  /-- Begins a group that indents the lines inside it. -/
  | opening (consistent : Bool) (indent : Int)
  | closing
  deriving DecidableEq, Repr

namespace Piece

/-- A place with a space. -/
def space : Piece := place ⟨1, 0, ""⟩

/-- A place without a space. -/
def gap : Piece := place ⟨0, 0, ""⟩

/-- A break that is always taken. -/
def newline (offset : Int) : Piece := place ⟨unbounded, offset, ""⟩

/-- The place behind the last element of a list: a broken line ends with a comma,
    and the indentation of the list ends. -/
def lastPlace (blanks : Nat) : Piece := place ⟨blanks, -4, ","⟩

/-- A group that breaks at all its places or at none. -/
def consistent (indent : Int) (body : List Piece) : List Piece :=
  [opening true indent] ++ body ++ [closing]

/-- A group that breaks only where it has to. -/
def inconsistent (indent : Int) (body : List Piece) : List Piece :=
  [opening false indent] ++ body ++ [closing]

end Piece

/-- The width up to the next place of the group `depth` groups further out, or of
    one around it. -/
def reach : (depth : Nat) → List Piece → Nat
  | _, [] => 0
  | 0, .place _ :: _ => 0
  | depth + 1, .place b :: rest => b.blanks + reach (depth + 1) rest
  | depth, .text s :: rest => s.utf8ByteSize + reach depth rest
  | depth, .strut :: rest => unbounded + reach depth rest
  | depth, .opening _ _ :: rest => reach (depth + 1) rest
  | depth, .closing :: rest => reach (depth - 1) rest

/-- A group that is open: set on one line, or broken, with the indentation to go
    back to. -/
inductive Frame where
  | fitting
  | broken (consistent : Bool) (before : Int)
  deriving DecidableEq, Repr

/-- What setting a document knows of the text so far. -/
structure Setting where
  /-- The groups that are open, the innermost first. -/
  frames : List Frame := []
  /-- The indentation of the next line. -/
  indent : Int := 0
  /-- The bytes left on the line. -/
  room : Int := lineWidth
  /-- Spaces that stand before the next text. -/
  pending : Nat := 0

/-- Does the line stay whole at a place? -/
def Setting.staysWhole (s : Setting) (b : Break) (rest : List Piece) : Bool :=
  match s.frames with
  | .fitting :: _ => true
  | .broken true _ :: _ => false
  | _ => ((b.blanks + reach 0 rest : Nat) : Int) ≤ s.room

/-- Spaces. -/
def blanks (n : Nat) : List Char :=
  List.replicate n ' '

/-- The text of a document. -/
def setFrom : Setting → List Piece → List Char
  | _, [] => []
  | s, .text t :: rest =>
      blanks s.pending ++ t.toList
        ++ setFrom { s with pending := 0, room := s.room - t.utf8ByteSize } rest
  | s, .place b :: rest =>
      if s.staysWhole b rest then
        setFrom { s with pending := s.pending + b.blanks, room := s.room - b.blanks } rest
      else
        let indent := s.indent + b.offset
        (if b.ending.isEmpty then [] else blanks s.pending ++ b.ending.toList) ++ ['\n']
          ++ setFrom { s with pending := indent.toNat,
                              room := max (lineWidth - indent) leastRoom } rest
  | s, .strut :: rest => setFrom s rest
  | s, .opening consistent indent :: rest =>
      if ((reach 1 rest : Nat) : Int) ≤ s.room then
        setFrom { s with frames := .fitting :: s.frames } rest
      else
        setFrom { s with frames := .broken consistent s.indent :: s.frames,
                         indent := s.indent + indent } rest
  | s, .closing :: rest =>
      match s.frames with
      | .broken _ before :: frames => setFrom { s with frames := frames, indent := before } rest
      | .fitting :: frames => setFrom { s with frames := frames } rest
      | [] => setFrom s rest

/-- The text of a document from the left margin. -/
def setDocument (pieces : List Piece) : String :=
  String.ofList (setFrom {} pieces)

end VertexBinding.Emission
