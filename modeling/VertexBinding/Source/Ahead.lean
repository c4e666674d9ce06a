import VertexBinding.Source.Literal
import VertexBinding.Source.Token

/-! # Looking ahead — which tokens come next

    A rule of the grammar decides by the next few tokens what it reads.  Every
    test here looks at the front of a list and takes nothing from it. -/

namespace VertexBinding.Source

/-- A test of the tokens that come next. -/
abbrev Ahead := List Token → Bool

/-- Words that are no identifiers unless they are written raw. -/
def keywords : List String :=
  ["_", "abstract", "as", "async", "await", "become", "box", "break", "const", "continue",
   "crate", "do", "dyn", "else", "enum", "extern", "false", "final", "fn", "for", "if", "impl",
   "in", "let", "loop", "macro", "match", "mod", "move", "mut", "override", "priv", "pub", "ref",
   "return", "Self", "self", "static", "struct", "super", "trait", "true", "try", "type",
   "typeof", "unsafe", "unsized", "use", "virtual", "where", "while", "yield"]

/-- Is the word an identifier? -/
def isName (word : String) : Bool :=
  !keywords.contains word

namespace Token

/-- Is the token the given word? -/
def isWord (w : String) (t : Token) : Bool :=
  t == word w

/-- Is the token one of the given words? -/
def isWordOf (ws : List String) : Token → Bool
  | word w => ws.contains w
  | _ => false

/-- Is the token a word? -/
def isAnyWord : Token → Bool
  | word _ => true
  | _ => false

/-- Is the token an identifier? -/
def isIdentifier : Token → Bool
  | word w => isName w
  | _ => false

/-- Is the token a segment of a plain path? -/
def isPlainSegment (t : Token) : Bool :=
  t.isIdentifier || t.isWordOf ["self", "Self", "super", "crate"]

/-- Is the token a segment of a path that may have generic arguments? -/
def isSegment (t : Token) : Bool :=
  t.isPlainSegment || t.isWord "try"

/-- Is the token a lifetime? -/
def isLifetime : Token → Bool
  | lifetime _ => true
  | _ => false

/-- Is the token a literal? -/
def isLiteral : Token → Bool
  | literal _ => true
  | _ => false

/-- Is the token a literal or a truth value? -/
def isValue (t : Token) : Bool :=
  t.isLiteral || t.isWordOf ["true", "false"]

/-- Is the token a number? -/
def isNumber : Token → Bool
  | literal s => s.toList.head?.any isDigit
  | _ => false

/-- Is the token a text literal without a letter in front of it, or a raw one? -/
def isText : Token → Bool
  | literal s => s.toList.head? == some '"' || s.toList.head? == some 'r'
  | _ => false

/-- Is the token a whole number without a suffix, as it numbers a field? -/
def isFieldNumber : Token → Bool
  | literal s => !s.isEmpty && s.toList.all isDigit
  | _ => false

/-- Is the token a field number with a point, and behind the point a rest that
    passes the test? -/
def isFieldNumberThen (rest : List Char → Bool) : Token → Bool
  | literal s =>
      let front := s.toList.takeWhile isDigit
      match s.toList.drop front.length with
      | '.' :: back => !front.isEmpty && rest back
      | _ => false
  | _ => false

/-- Is the token two field numbers with a point between them? -/
def isFieldNumberPair : Token → Bool :=
  isFieldNumberThen (fun back => !back.isEmpty && back.all isDigit)

/-- Is the token a field number with a point behind it? -/
def isFieldNumberPoint : Token → Bool :=
  isFieldNumberThen List.isEmpty

/-- The field numbers of such a token, and the point. -/
def fieldNumbers : Token → List Token
  | literal s =>
      let front := s.toList.takeWhile isDigit
      let back := s.toList.drop (front.length + 1)
      [literal (String.ofList front), sign '.' false]
        ++ (if back.isEmpty then [] else [literal (String.ofList back)])
  | t => [t]

end Token

namespace Ahead

/-- Does the next token pass the test? -/
def next (p : Token → Bool) : Ahead
  | [] => false
  | t :: _ => p t

/-- Is the next token the given word? -/
def word (w : String) : Ahead :=
  next (Token.isWord w)

/-- Is the next token one of the given words? -/
def wordOf (ws : List String) : Ahead :=
  next (Token.isWordOf ws)

/-- Is the next token an identifier? -/
def name : Ahead :=
  next Token.isIdentifier

/-- Is the next token a lifetime? -/
def lifetime : Ahead :=
  next Token.isLifetime

/-- Does the next token open the given bracket? -/
def opens (d : Delimiter) : Ahead :=
  next (· == .opening d)

/-- Does the next token open a bracket? -/
def opensAny : Ahead
  | .opening _ :: _ => true
  | _ => false

/-- Does a group end here? -/
def atEnd : Ahead
  | [] => true
  | .closing _ :: _ => true
  | _ => false

/-- Do the given characters come next as joined signs?  The last of them may be
    joined to more. -/
def signs : List Char → Ahead
  | [], _ => true
  | [c], .sign d _ :: _ => c == d
  | c :: e :: cs, .sign d true :: rest => c == d && signs (e :: cs) rest
  | _, _ => false

/-- Does the operator come next? -/
def op (text : String) : Ahead :=
  signs text.toList

/-- Do both tests pass? -/
def both (p q : Ahead) : Ahead :=
  fun ts => p ts && q ts

/-- Does one of the tests pass? -/
def either (ps : List Ahead) : Ahead :=
  fun ts => ps.any (· ts)

/-- Does the test fail? -/
def fails (p : Ahead) : Ahead :=
  fun ts => !p ts

/-- Does the test pass behind the next token, a group counting as one? -/
def second (p : Ahead) : Ahead :=
  fun ts => p (dropTree ts)

/-- Does the test pass behind the next two tokens, a group counting as one? -/
def third (p : Ahead) : Ahead :=
  fun ts => p (dropTree (dropTree ts))

/-- Does the operator come next, but none of the longer ones? -/
def opButNot (text : String) (longer : List String) : Ahead :=
  fun ts => op text ts && !longer.any (fun l => op l ts)

/-- Is a literal next?  A minus sign may stand before a number. -/
def value : Ahead :=
  either [next Token.isValue, both (op "-") (second (next Token.isNumber))]

/-- Is the next token a segment of a plain path? -/
def segment : Ahead :=
  next Token.isPlainSegment

/-- What stands behind further segments of which each passes the test. -/
def behindSegments (p : Token → Bool) : List Token → Option (List Token)
  | .sign ':' true :: .sign ':' _ :: t :: rest => if p t then behindSegments p rest else none
  | .sign ':' true :: .sign ':' _ :: [] => none
  | ts => some ts

/-- What stands behind a path without generic arguments, of segments that pass the
    test. -/
def behindPath (p : Token → Bool) (ts : List Token) : Option (List Token) :=
  match (if op "::" ts then ts.drop 2 else ts) with
  | t :: rest => if p t then behindSegments p rest else none
  | [] => none

/-- Is a path with an exclamation mark next, of segments that pass the test, and does
    `mark` pass at the mark? -/
def called (p : Token → Bool) (mark : Ahead) : Ahead :=
  fun ts => match behindPath p ts with
    | some rest => opButNot "!" ["!="] rest && mark rest
    | none => false

end Ahead

end VertexBinding.Source
