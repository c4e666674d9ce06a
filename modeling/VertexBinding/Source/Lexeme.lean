import VertexBinding.Source.Literal
import VertexBinding.Source.Token
import VertexBinding.Text.Blank

/-! # Lexemes — from characters to tokens

    Source code is cut into lexemes from left to right.  White space and plain
    comments give no token; a documentation comment gives the attribute it stands
    for; everything else gives one token.  Text that is none of these, and
    brackets that do not match, make the whole source unreadable. -/

namespace VertexBinding.Source

open Text

/-- Is the character white space in source code?  The two direction marks count. -/
def isSpace (c : Char) : Bool :=
  isBlank c || c == '\u200e' || c == '\u200f'

/-- The rest of a line, without its line break. -/
def lineText : List Char → List Char
  | [] => []
  | '\n' :: _ => []
  | '\r' :: '\n' :: _ => []
  | c :: rest => c :: lineText rest

/-- A block comment whose first opener was passed: its text without the closing
    mark, and what stands behind it.  Comments nest; `depth` counts those that are
    open inside the first. -/
def blockText? : (depth : Nat) → List Char → Option (List Char × List Char)
  | _, [] => none
  | depth, '/' :: '*' :: rest =>
      (blockText? (depth + 1) rest).map (fun (t, s) => ('/' :: '*' :: t, s))
  | 0, '*' :: '/' :: rest => some ([], rest)
  | depth + 1, '*' :: '/' :: rest =>
      (blockText? depth rest).map (fun (t, s) => ('*' :: '/' :: t, s))
  | depth, c :: rest => (blockText? depth rest).map (fun (t, s) => (c :: t, s))

/-- A line comment is documentation if it begins with three slashes, but not with
    four, or with two slashes and an exclamation mark. -/
def isDocLine : List Char → Bool
  | '/' :: '/' :: _ => false
  | '/' :: _ => true
  | '!' :: _ => true
  | _ => false

/-- A block comment is documentation if it begins with two stars, but not with
    three, or with a star and an exclamation mark.  The empty comment is none. -/
def isDocBlock : List Char → Bool
  | '*' :: '*' :: _ => false
  | '*' :: '/' :: _ => false
  | '*' :: _ => true
  | '!' :: _ => true
  | _ => false

/-- Does a carriage return stand without a line feed behind it? -/
def hasBareReturn : List Char → Bool
  | [] => false
  | '\r' :: '\n' :: rest => hasBareReturn rest
  | '\r' :: _ => true
  | _ :: rest => hasBareReturn rest

/-- The attribute a documentation comment stands for; `text` is the comment behind
    its first two characters. -/
def docTokens? (text : List Char) : Option (List Token) :=
  if hasBareReturn text then none
  else some <|
    [.sign '#' false]
      ++ (if text.head? = some '!' then [.sign '!' false] else [])
      ++ [.opening .bracket, .word "doc", .sign '=' false,
          .literal (textLiteral (String.ofList (text.drop 1))), .closing .bracket]

/-- The signs of punctuation. -/
def isSignChar (c : Char) : Bool :=
  "~!@#$%^&*-=+|;:,<.>/?'".toList.contains c

/-- Does a sign begin the text?  A slash that begins a comment is none. -/
def startsSign : List Char → Bool
  | '/' :: '/' :: _ => false
  | '/' :: '*' :: _ => false
  | c :: _ => isSignChar c
  | [] => false

/-- Words that have no raw form. -/
def neverRaw : List String := ["_", "super", "self", "Self", "crate"]

/-- A word, raw or not, and what stands behind it. -/
def word? : List Char → Option (String × List Char)
  | 'r' :: '#' :: rest =>
      match identifier? rest with
      | some (name, behind) =>
          if neverRaw.contains (String.ofList name) then none
          else some (String.ofList ('r' :: '#' :: name), behind)
      | none => none
  | s => (identifier? s).map (fun (name, behind) => (String.ofList name, behind))

/-- The beginnings of literals that a word cannot have. -/
def literalOpenings : List String :=
  ["r\"", "r#\"", "r##", "b\"", "b'", "br\"", "br#", "c\"", "cr\"", "cr#"]

/-- A word, a lifetime or a sign, and what stands behind it. -/
def leaf? (s : List Char) : Option (Token × List Char) :=
  if startsSign s then
    match s with
    | '\'' :: rest =>
        match word? rest with
        | some (name, behind) =>
            if behind.head? = some '\'' || (behind.head? = some '#' && !("r#".toList.isPrefixOf rest))
            then none
            else some (.lifetime name, behind)
        | none => none
    | c :: rest => some (.sign c (startsSign rest), rest)
    | [] => none
  else if literalOpenings.any (fun p => p.toList.isPrefixOf s) then none
  else (word? s).map (fun (name, behind) => (.word name, behind))

/-- The bracket a character is. -/
def bracket? : Char → Option Token
  | '(' => some (.opening .parenthesis)
  | '[' => some (.opening .bracket)
  | '\x7b' => some (.opening .brace)
  | ')' => some (.closing .parenthesis)
  | ']' => some (.closing .bracket)
  | '\x7d' => some (.closing .brace)
  | _ => none

/-- The first lexeme of a text that is not empty: its tokens and what stands behind
    it. -/
def lexeme? : List Char → Option (List Token × List Char)
  | [] => none
  | '/' :: '/' :: rest =>
      let comment := lineText rest
      let behind := rest.drop comment.length
      if isDocLine rest then (docTokens? comment).map (·, behind) else some ([], behind)
  | '/' :: '*' :: rest =>
      match blockText? 0 rest with
      | some (comment, behind) =>
          if isDocBlock rest then (docTokens? comment).map (·, behind) else some ([], behind)
      | none => none
  | c :: rest =>
      if isSpace c then some ([], rest.dropWhile isSpace)
      else match bracket? c with
        | some t => some ([t], rest)
        | none =>
            match literal? (c :: rest) with
            | some behind =>
                let text := (c :: rest).take ((c :: rest).length - behind.length)
                some ([.literal (String.ofList text)], behind)
            | none => (leaf? (c :: rest)).map (fun (t, behind) => ([t], behind))

/-- The tokens of a text of at most `size` lexemes. -/
def lexemes? : (size : Nat) → List Char → Option (List Token)
  | _, [] => some []
  | 0, _ :: _ => none
  | size + 1, c :: rest =>
      match lexeme? (c :: rest) with
      | some (ts, behind) => (lexemes? size behind).map (ts ++ ·)
      | none => none

/-- A text without the byte order mark that may begin it. -/
def dropMark : List Char → List Char
  | '\uFEFF' :: rest => rest
  | s => s

/-- The tokens of a source, if it can be read and its brackets match.  Every lexeme
    takes at least one character, so there are no more lexemes than characters. -/
def tokens? (source : List Char) : Option (List Token) :=
  match lexemes? source.length (dropMark source) with
  | some ts => if balanced ts then some ts else none
  | none => none

end VertexBinding.Source
