import VertexBinding.Text.Combining
import VertexBinding.Text.Identifier
import VertexBinding.Text.Unprintable

/-! # Literals — where texts, characters and numbers end

    Each function takes the text at a possible literal and gives what stands
    behind it, or nothing if there is no such literal.  Texts and characters check
    their escapes; a number may be followed by a suffix, and no letter may follow
    it otherwise. -/

namespace VertexBinding.Source

open Text

/-- The kinds of texts in quotes: plain texts, byte strings and texts that end with
    a zero byte. -/
inductive Quoted where
  | plain
  | bytes
  | zeroEnded
  deriving DecidableEq, Repr

/-- The value of a hexadecimal digit. -/
def hexDigit? (c : Char) : Option Nat :=
  if '0' ≤ c && c ≤ '9' then some (c.toNat - '0'.toNat)
  else if 'a' ≤ c && c ≤ 'f' then some (c.toNat - 'a'.toNat + 10)
  else if 'A' ≤ c && c ≤ 'F' then some (c.toNat - 'A'.toNat + 10)
  else none

/-- The text behind an identifier that is not raw. -/
def identifier? : List Char → Option (List Char × List Char)
  | [] => none
  | c :: rest =>
      if isIdentifierStart c then
        some (c :: rest.takeWhile isIdentifierContinue, rest.dropWhile isIdentifierContinue)
      else none

/-- The text behind the suffix of a literal, if there is one. -/
def dropSuffix (s : List Char) : List Char :=
  match identifier? s with
  | some (_, rest) => rest
  | none => s

/-- May the character stand in a text of this kind? -/
def Quoted.admits : Quoted → Char → Bool
  | plain, _ => true
  | bytes, c => c.toNat < 128
  | zeroEnded, c => c != '\x00'

/-- Is `\xab` an escape of this kind? -/
def Quoted.admitsHex (k : Quoted) (a b : Char) : Bool :=
  match k, hexDigit? a, hexDigit? b with
  | plain, some x, some _ => x < 8
  | bytes, some _, some _ => true
  | zeroEnded, some x, some y => 0 < x + y
  | _, _, _ => false

/-- Is `\c` an escape of this kind, for a character that stands for itself or for a
    control character? -/
def Quoted.admitsSimple (k : Quoted) (c : Char) : Bool :=
  match c with
  | 'n' | 'r' | 't' | '\\' | '\'' | '"' => true
  | '0' => k != zeroEnded
  | '\n' => true
  | _ => false

/-- Is the number a character of this kind of text? -/
def Quoted.admitsPoint (k : Quoted) (n : Nat) : Bool :=
  (n < 0xD800 || (0xDFFF < n && n < 0x110000)) && (k != zeroEnded || 0 < n)

/-- How far a text in quotes has been read: plainly, or inside the braces of an
    escape with the digits read so far. -/
inductive QuotedState where
  | plain
  | point (value digits : Nat)

/-- Behind the closing quote of a text whose opening quote was passed. -/
def quotedEnd? (k : Quoted) : QuotedState → List Char → Option (List Char)
  | _, [] => none
  | .point value digits, c :: rest =>
      match hexDigit? c with
      | some d =>
          if digits = 6 then none else quotedEnd? k (.point (value * 16 + d) (digits + 1)) rest
      | none =>
          if c = '_' && 0 < digits then quotedEnd? k (.point value digits) rest
          else if c = '\x7d' && 0 < digits && k.admitsPoint value then quotedEnd? k .plain rest
          else none
  | .plain, '"' :: rest => some rest
  | .plain, '\r' :: '\n' :: rest => quotedEnd? k .plain rest
  | .plain, '\r' :: _ => none
  | .plain, '\\' :: 'x' :: a :: b :: rest =>
      if k.admitsHex a b then quotedEnd? k .plain rest else none
  | .plain, '\\' :: 'u' :: '\x7b' :: rest =>
      if k = .bytes then none else quotedEnd? k (.point 0 0) rest
  | .plain, '\\' :: '\r' :: '\n' :: rest => quotedEnd? k .plain rest
  | .plain, '\\' :: c :: rest => if k.admitsSimple c then quotedEnd? k .plain rest else none
  | .plain, c :: rest => if k.admits c then quotedEnd? k .plain rest else none

/-- Behind the end of a raw text: a quote followed by as many hashes as began it. -/
def rawEnd? (k : Quoted) (hashes : Nat) : List Char → Option (List Char)
  | [] => none
  | '"' :: rest =>
      if (List.replicate hashes '#').isPrefixOf rest then some (rest.drop hashes)
      else rawEnd? k hashes rest
  | '\r' :: '\n' :: rest => rawEnd? k hashes rest
  | '\r' :: _ => none
  | c :: rest => if k.admits c then rawEnd? k hashes rest else none

/-- Behind a raw text whose leading letters were passed. -/
def rawText? (k : Quoted) (s : List Char) : Option (List Char) :=
  let hashes := (s.takeWhile (· == '#')).length
  match s.drop hashes with
  | '"' :: rest => if hashes ≤ 255 then (rawEnd? k hashes rest).map dropSuffix else none
  | _ => none

/-- Behind a text in quotes of any kind. -/
def textLiteral? : List Char → Option (List Char)
  | '"' :: rest => (quotedEnd? .plain .plain rest).map dropSuffix
  | 'r' :: rest => rawText? .plain rest
  | 'b' :: '"' :: rest => (quotedEnd? .bytes .plain rest).map dropSuffix
  | 'b' :: 'r' :: rest => rawText? .bytes rest
  | 'c' :: '"' :: rest => (quotedEnd? .zeroEnded .plain rest).map dropSuffix
  | 'c' :: 'r' :: rest => rawText? .zeroEnded rest
  | _ => none

/-- Behind the digits and the closing brace of an escape. -/
def pointEnd? : (value digits : Nat) → List Char → Option (List Char)
  | _, _, [] => none
  | value, digits, c :: rest =>
      match hexDigit? c with
      | some d => if digits = 6 then none else pointEnd? (value * 16 + d) (digits + 1) rest
      | none =>
          if c = '_' && 0 < digits then pointEnd? value digits rest
          else if c = '\x7d' && 0 < digits && Quoted.plain.admitsPoint value then some rest
          else none

/-- Behind one character or escape of a character literal. -/
def charBody? (k : Quoted) : List Char → Option (List Char)
  | '\\' :: 'x' :: a :: b :: rest => if k.admitsHex a b then some rest else none
  | '\\' :: 'u' :: '\x7b' :: rest => if k = .bytes then none else pointEnd? 0 0 rest
  | '\\' :: c :: rest => if c ≠ '\n' && k.admitsSimple c then some rest else none
  | '\\' :: [] => none
  | c :: rest => if k.admits c then some rest else none
  | [] => none

/-- Behind a character in single quotes. -/
def charLiteral? : List Char → Option (List Char)
  | '\'' :: rest =>
      match charBody? .plain rest with
      | some ('\'' :: rest) => some (dropSuffix rest)
      | _ => none
  | 'b' :: '\'' :: rest =>
      match charBody? .bytes rest with
      | some ('\'' :: rest) => some (dropSuffix rest)
      | _ => none
  | _ => none

/-- Is the character a decimal digit? -/
def isDigit (c : Char) : Bool :=
  '0' ≤ c && c ≤ '9'

/-- Is the character a decimal digit or an underscore? -/
def isDigitOrUnderscore (c : Char) : Bool :=
  isDigit c || c == '_'

/-- Behind an exponent whose letter was passed. -/
def exponent? (s : List Char) : Option (List Char) :=
  let s := s.dropWhile (· == '_')
  let s := match s with
    | '+' :: rest => rest
    | '-' :: rest => rest
    | _ => s
  if (s.takeWhile isDigitOrUnderscore).any isDigit then some (s.dropWhile isDigitOrUnderscore)
  else none

/-- Does the text go on with an exponent's letter? -/
def startsExponent : List Char → Bool
  | 'e' :: _ => true
  | 'E' :: _ => true
  | _ => false

/-- Behind the digits of a number with a point or an exponent.  A point belongs to
    the number unless another point or a name follows it. -/
def floatDigits? (s : List Char) : Option (List Char) :=
  match s.dropWhile isDigitOrUnderscore with
  | '.' :: rest =>
      if (rest.head?.any fun c => c == '.' || isIdentifierStart c) then none
      else
        let rest := rest.dropWhile isDigitOrUnderscore
        if startsExponent rest then
          match exponent? (rest.drop 1) with
          | some behind => some behind
          | none => some rest
        else some rest
  | rest => if startsExponent rest then exponent? (rest.drop 1) else none

/-- Behind the digits of a whole number in the given base; underscores may stand
    anywhere, but in a decimal number not first. -/
def digitsEnd? (base : Nat) (seen : Bool) : List Char → Option (List Char)
  | [] => if seen then some [] else none
  | c :: rest =>
      if c = '_' then
        if !seen && base = 10 then none else digitsEnd? base seen rest
      else match hexDigit? c with
        | some d =>
            if d < base then digitsEnd? base true rest
            else if d < 10 then none
            else if seen then some (c :: rest) else none
        | none => if seen then some (c :: rest) else none

/-- The base of a whole number and its digits. -/
def splitBase : List Char → Nat × List Char
  | '0' :: 'x' :: rest => (16, rest)
  | '0' :: 'o' :: rest => (8, rest)
  | '0' :: 'b' :: rest => (2, rest)
  | s => (10, s)

/-- The text behind a number's suffix, where no letter may follow. -/
def numberEnd? (s : List Char) : Option (List Char) :=
  let rest := dropSuffix s
  if rest.head?.any isIdentifierContinue then none else some rest

/-- Behind a number. -/
def numberLiteral? (s : List Char) : Option (List Char) :=
  if s.head?.any isDigit then
    match (floatDigits? s).bind numberEnd? with
    | some rest => some rest
    | none =>
        let (base, digits) := splitBase s
        (digitsEnd? base false digits).bind numberEnd?
  else none

/-- Behind a literal of any kind. -/
def literal? (s : List Char) : Option (List Char) :=
  match textLiteral? s with
  | some rest => some rest
  | none =>
      match charLiteral? s with
      | some rest => some rest
      | none => numberLiteral? s

/-- The value of a run of digits, read on from `value`; it ends before the first
    character that is no digit of the base. -/
def digitsValue (base : Nat) : (value : Nat) → List Char → Nat
  | value, [] => value
  | value, c :: rest =>
      if c = '_' then digitsValue base value rest
      else match hexDigit? c with
        | some d => if d < base then digitsValue base (value * base + d) rest else value
        | none => value

/-- Does an exponent stand behind its letter, one that a sign or a digit shows?  A
    suffix that is no identifier shows none. -/
def isExponent (s : List Char) : Bool :=
  let digits := s.takeWhile isDigitOrUnderscore
  match s.drop digits.length with
  | [] => digits.any isDigit
  | c :: _ => c == '+' || c == '-' || (isIdentifierStart c && digits.any isDigit)

/-- Do a point or an exponent stand behind decimal digits? -/
def isFraction (s : List Char) : Bool :=
  match s.dropWhile isDigitOrUnderscore with
  | [] => false
  | c :: rest => c == '.' || (startsExponent [c] && isExponent rest)

/-- The value of a literal that is a whole number, whatever its suffix. -/
def integerValue? (s : List Char) : Option Nat :=
  let (base, digits) := splitBase s
  if s.head?.any isDigit && !(base = 10 && isFraction digits) then some (digitsValue base 0 digits)
  else none

/-- The digits of a number in base 16, without leading zeros. -/
def hexText (n : Nat) : List Char :=
  Nat.toDigits 16 n

/-- A character as it is written in a text literal in front of `next`.  The short escape
    of the zero character would look like one in base eight in front of a digit. -/
def escapeChar (next : Option Char) (c : Char) : List Char :=
  match c with
  | '"' => ['\\', '"']
  | '\\' => ['\\', '\\']
  | '\n' => ['\\', 'n']
  | '\r' => ['\\', 'r']
  | '\t' => ['\\', 't']
  | '\x00' => if next.any (fun d => '0' ≤ d && d ≤ '7') then ['\\', 'x', '0', '0'] else ['\\', '0']
  | c =>
      if isUnprintable c || isCombining c then ['\\', 'u', '\x7b'] ++ hexText c.toNat ++ ['\x7d']
      else [c]

/-- Characters as they are written in a text literal. -/
def escapeText : List Char → List Char
  | [] => []
  | c :: rest => escapeChar rest.head? c ++ escapeText rest

/-- A text written as a literal. -/
def textLiteral (s : String) : String :=
  String.ofList (['"'] ++ escapeText s.toList ++ ['"'])

end VertexBinding.Source
