import VertexBinding.Text.Alphabetic
import VertexBinding.Text.Numeric

/-! # Word characters — letters, numbers and the underscore

    A shader's keywords, types and names are runs of word characters. -/

namespace VertexBinding.Text

/-- Is the character a letter or a number? -/
def isAlphanumeric (c : Char) : Bool :=
  isAlphabetic c || isNumeric c

/-- Is the character a letter, a number or an underscore? -/
def isWordChar (c : Char) : Bool :=
  isAlphanumeric c || c == '_'

end VertexBinding.Text
