import VertexBinding.Text.CodePoints

/-! # White space — the Unicode property White_Space

    The characters that separate words of a text.  Zero-width spaces and the byte
    order mark are not among them. -/

namespace VertexBinding.Text

/-- Where the property White_Space begins and ends. -/
def blankBounds : List Nat :=
  [0x9, 0xE, 0x20, 0x21, 0x85, 0x86, 0xA0, 0xA1, 0x1680, 0x1681, 0x2000, 0x200B, 0x2028, 0x202A,
   0x202F, 0x2030, 0x205F, 0x2060, 0x3000, 0x3001]

/-- Is the character white space? -/
def isBlank (c : Char) : Bool :=
  inBounds blankBounds c.toNat

/-- The text without its white space. -/
def dropBlanks (s : List Char) : List Char :=
  s.filter (fun c => !isBlank c)

/-- White space drops out of a concatenation piece by piece. -/
theorem dropBlanks_append (s t : List Char) :
    dropBlanks (s ++ t) = dropBlanks s ++ dropBlanks t :=
  List.filter_append ..

end VertexBinding.Text
