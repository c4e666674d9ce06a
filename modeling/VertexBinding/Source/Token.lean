/-! # Tokens — what source code is made of

    A token is a word, a lifetime, a punctuation sign, a literal or a bracket.
    Brackets stand in the list like any other token; that they are balanced is a
    property of the list.  A sign knows whether it is joined to the sign behind
    it, so an operator of two characters is two signs, the first of them joined. -/

namespace VertexBinding.Source

/-- The three kinds of brackets. -/
inductive Delimiter where
  | parenthesis
  | bracket
  | brace
  deriving DecidableEq, Repr

/-- One token of source code. -/
inductive Token where
  /-- An identifier or a keyword, with its `r#` if it is raw. -/
  | word (text : String)
  /-- A lifetime, without its apostrophe. -/
  | lifetime (name : String)
  | sign (char : Char) (joint : Bool)
  /-- A literal as it is written. -/
  | literal (text : String)
  | opening (delimiter : Delimiter)
  | closing (delimiter : Delimiter)
  deriving DecidableEq, Repr

/-- The character that opens a bracket. -/
def Delimiter.openChar : Delimiter → Char
  | parenthesis => '('
  | bracket => '['
  | brace => '{'

/-- The character that closes a bracket. -/
def Delimiter.closeChar : Delimiter → Char
  | parenthesis => ')'
  | bracket => ']'
  | brace => '}'

namespace Token

/-- A token as it is written. -/
def text : Token → String
  | word s => s
  | lifetime s => "'" ++ s
  | sign c _ => c.toString
  | literal s => s
  | opening d => d.openChar.toString
  | closing d => d.closeChar.toString

/-- The same token, not joined to what follows. -/
def alone : Token → Token
  | sign c _ => sign c false
  | t => t

/-- Does a space stand between two neighbours?  Not behind a joined sign, and not
    on the inside of round and square brackets. -/
def spaced : Token → Token → Bool
  | sign _ true, _ => false
  | opening .parenthesis, _ => false
  | opening .bracket, _ => false
  | _, closing .parenthesis => false
  | _, closing .bracket => false
  | _, _ => true

/-- Tokens written one behind the other. -/
def render : List Token → String
  | [] => ""
  | [t] => t.text
  | t :: u :: rest => t.text ++ (if t.spaced u then " " else "") ++ render (u :: rest)

/-- The signs of an operator, all but the last joined. -/
def signs : List Char → List Token
  | [] => []
  | [c] => [sign c false]
  | c :: d :: rest => sign c true :: signs (d :: rest)

end Token

/-- Do the brackets of the list match, when those in `open` are still to be closed? -/
def balancedFrom : (openings : List Delimiter) → List Token → Bool
  | openings, [] => openings.isEmpty
  | openings, .opening d :: rest => balancedFrom (d :: openings) rest
  | [], .closing _ :: _ => false
  | e :: openings, .closing d :: rest => d == e && balancedFrom openings rest
  | openings, _ :: rest => balancedFrom openings rest

/-- Does every bracket have its partner? -/
def balanced (ts : List Token) : Bool :=
  balancedFrom [] ts

/-- The tokens up to the bracket that closes the `depth`-th one around them, and
    the tokens behind that bracket. -/
def splitClosing : (depth : Nat) → List Token → List Token × List Token
  | _, [] => ([], [])
  | 0, .closing _ :: rest => ([], rest)
  | depth + 1, .closing d :: rest =>
      let (inside, behind) := splitClosing depth rest
      (.closing d :: inside, behind)
  | depth, .opening d :: rest =>
      let (inside, behind) := splitClosing (depth + 1) rest
      (.opening d :: inside, behind)
  | depth, t :: rest =>
      let (inside, behind) := splitClosing depth rest
      (t :: inside, behind)

/-- The list without its first token or, if that opens a bracket, without the whole
    group. -/
def dropTree : List Token → List Token
  | [] => []
  | .opening _ :: rest => (splitClosing 0 rest).2
  | _ :: rest => rest

end VertexBinding.Source
