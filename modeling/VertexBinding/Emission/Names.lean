import VertexBinding.Emission.Document
import VertexBinding.Source.Grammar
import VertexBinding.Source.Lexeme

/-! # Names in generated code — identifiers and paths

    A field is written by its identifier, a vertex by its path.  Both are read as
    source code, so comments and white space around them do not count; a field whose
    name is a keyword is written raw. -/

namespace VertexBinding.Emission

open Source

/-- The identifier that a text is. -/
def identifier? (s : String) : Option String :=
  match tokens? s.toList with
  | some [.word w] => if isName w then some w else none
  | _ => none

/-- The identifier by which a field is written. -/
def fieldIdentifier? (name : String) : Option String :=
  match identifier? name with
  | some w => some w
  | none => identifier? ("r#" ++ name)

/-- The path that a text is, as the tokens it is printed with. -/
def path? (s : String) : Option (List Token) := do
  let ts ← tokens? s.toList
  let lead := if Ahead.op "::" ts then Token.signs "::".toList else []
  match ← Phrase.namePath.read (if Ahead.op "::" ts then ts.drop 2 else ts) with
  | (printed, []) => return lead ++ printed
  | _ => none

/-- Can the path be the type of an implementation?  A path that begins with the word
    `try` cannot. -/
def isTypePath : List Token → Bool
  | .word "try" :: _ => false
  | _ => true

/-! ## Paths as types -/

/-- The text of joined signs is one operator; every other token is its own. -/
def lexemes : List Token → List String
  | [] => []
  | .sign c true :: rest =>
      match lexemes rest with
      | w :: ws => (c.toString ++ w) :: ws
      | [] => [c.toString]
  | t :: rest => t.text :: lexemes rest

/-- Is the lexeme a word, a lifetime or a literal? -/
def isWordLike (w : String) : Bool :=
  match w.toList with
  | c :: rest => isDigit c || Text.isIdentifierStart c || c == '"' || (c == '\'' && !rest.isEmpty)
  | [] => false

/-- Does a space stand between two lexemes of a type? -/
def typeSpaced (a b : String) : Bool :=
  if [",", ";", ":", "::", "<", ">", ")", "]", ".", "?"].contains b then false
  else if a == "\x7b" && b == "\x7d" then false
  else if ["::", "<", "(", "[", "&", "*", "!", "?", "-", "~"].contains a then false
  else if b == "(" then !(isWordLike a || a == ">")
  else if b == "!" then !isWordLike a
  else true

/-- Lexemes without the `::` that may stand in front of a generic list. -/
def plainLists : List String → List String
  | [] => []
  | w :: rest =>
      if w == "::" && rest.head? == some "<" then plainLists rest else w :: plainLists rest

/-- Lexemes without empty generic lists and without the comma that may end one. -/
def trimmedLists : List String → List String
  | [] => []
  | w :: rest =>
      match trimmedLists rest with
      | ">" :: ws => if w == "<" then ws else if w == "," then ">" :: ws else w :: ">" :: ws
      | ws => w :: ws

/-- A type's lexemes as pieces.  `angles` counts the generic lists around each open
    bracket, the innermost first; commas that separate generic arguments are places
    for a break. -/
def typePieces : (angles : List Nat) → (before : Option String) → List String → List Piece
  | _, _, [] => []
  | angles, before, w :: rest =>
      let lead : List Piece := if before.any (typeSpaced · w) then [.text " "] else []
      match w, angles with
      | "<", n :: angles =>
          lead ++ [.text "<", .opening true 4, .gap]
            ++ typePieces ((n + 1) :: angles) (some "<") rest
      | ">", (n + 1) :: angles =>
          [.lastPlace 0, .closing, .text ">"] ++ typePieces (n :: angles) (some ">") rest
      | ",", (n + 1) :: angles =>
          [.text ",", .space] ++ typePieces ((n + 1) :: angles) none rest
      | w, angles =>
          let angles :=
            if w == "(" || w == "[" || w == "\x7b" then 0 :: angles
            else if w == ")" || w == "]" || w == "\x7d" then angles.drop 1
            else angles
          lead ++ [.text w] ++ typePieces angles (some w) rest

/-- A path as it is printed where a type stands: generic lists without spaces around
    them, an empty one not at all. -/
def pathPieces (path : List Token) : List Piece :=
  typePieces [0] none (trimmedLists (plainLists (lexemes path)))

/-! ## Paths as inputs of a call -/

/-- Words that a name may not be joined to, as the printer of token lists sees them. -/
def reservedWords : List String :=
  ["as", "async", "await", "box", "break", "const", "continue", "crate", "dyn", "else", "enum",
   "extern", "fn", "for", "if", "impl", "in", "let", "loop", "macro", "match", "mod", "move",
   "mut", "pub", "ref", "return", "static", "struct", "trait", "type", "unsafe", "use", "where",
   "while", "yield"]

/-- What stood before a token of a list. -/
inductive Preceding where
  | start
  | name
  | colon
  | colons
  | point
  | mark
  | group
  | brace
  | other
  deriving DecidableEq, Repr

/-- What a word is to the token behind it. -/
def precedingWord (w : String) : Preceding :=
  if reservedWords.contains w then .other else .name

/-- Does a token stand apart from what precedes it, and what is it to the next? -/
def setApart : Preceding → Token → Bool × Preceding
  | .name, .opening .parenthesis => (false, .group)
  | .name, .opening .bracket => (false, .group)
  | .name, .sign '!' false => (false, .mark)
  | .mark, .opening .parenthesis => (false, .other)
  | .mark, .opening .bracket => (false, .other)
  | .colon, .sign ':' _ => (false, .colons)
  | _, .opening .brace => (true, .brace)
  | _, .opening _ => (true, .group)
  | p, .word w =>
      if reservedWords.contains w then (true, .other) else (p != .point && p != .colons, .name)
  | _, .lifetime w => (true, precedingWord w)
  | p, .literal _ => (p != .point, .name)
  | _, .sign ',' _ => (false, .other)
  | _, .sign ';' _ => (false, .other)
  | p, .sign '.' _ => (p != .name && p != .group, .point)
  | p, .sign ':' true => (p != .name, .colon)
  | _, .sign _ _ => (true, .other)
  | p, .closing .brace => (p != .brace, .other)
  | _, .closing _ => (false, .group)

/-- Tokens as the inputs of a call by exclamation mark.  `joined` says that the token
    before is joined to the next. -/
def inputPieces : (preceding : Preceding) → (joined : Bool) → List Token → List Piece
  | _, _, [] => []
  | p, joined, t :: rest =>
      let (apart, next) := setApart p t
      let joinedNext := match t with
        | .sign _ j => j
        | .opening .parenthesis => true
        | .opening .bracket => true
        | _ => false
      (if apart && !joined then [.space, .text t.text] else [.text t.text])
        ++ inputPieces next joinedNext rest

end VertexBinding.Emission
