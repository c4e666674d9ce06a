import VertexBinding.Text.Uppercase
import VertexBinding.Text.WordChar

/-! # Words — where a name is cut

    A name is read as words in snake case, camel case or Pascal case.  Separators
    end words; inside a run without separators a cut falls before a capital that
    follows a small letter or a digit, between letters and digits, and before the
    last capital of a run of capitals when a small letter follows it. -/

namespace VertexBinding.Naming

open Text

/-- What a character is to a name. -/
inductive CharClass where
  | upper
  | lower
  | digit
  | separator
  deriving DecidableEq, Repr

/-- The class of a character.  Letters without case count as small letters. -/
def CharClass.of (c : Char) : CharClass :=
  if isNumeric c then .digit
  else if isUppercase c then .upper
  else if isAlphanumeric c then .lower
  else .separator

/-- Is there a cut between two neighbours of the given classes, where `next` is
    the class of the character behind them? -/
def isCut : CharClass → CharClass → Option CharClass → Bool
  | .lower, .upper, _ => true
  | .digit, .upper, _ => true
  | .upper, .digit, _ => true
  | .lower, .digit, _ => true
  | .digit, .lower, _ => true
  | .upper, .upper, next => next == some .lower
  | _, _, _ => false

/-- Does the character `c`, no separator, belong to the word that begins the rest
    of the name? -/
def joins (c : Char) : List Char → Bool
  | [] => false
  | d :: rest =>
      CharClass.of d != .separator
        && !isCut (CharClass.of c) (CharClass.of d) (rest.head?.map CharClass.of)

/-- A character put in front of the first word. -/
def consFirst (c : Char) : List (List Char) → List (List Char)
  | [] => [[c]]
  | w :: ws => (c :: w) :: ws

/-- The words of a name, in order. -/
def wordsOf : List Char → List (List Char)
  | [] => []
  | c :: rest =>
      if CharClass.of c = .separator then wordsOf rest
      else if joins c rest then consFirst c (wordsOf rest)
      else [c] :: wordsOf rest

/-- The words of a name as texts. -/
def splitWords (name : String) : List String :=
  (wordsOf name.toList).map String.ofList

/-- A separator only ends words. -/
theorem wordsOf_cons_separator {c : Char} (h : CharClass.of c = .separator)
    (rest : List Char) : wordsOf (c :: rest) = wordsOf rest := by
  simp [wordsOf, h]

/-- A character that joins lengthens the first word. -/
theorem wordsOf_cons_joins {c : Char} {rest : List Char} (hc : CharClass.of c ≠ .separator)
    (h : joins c rest = true) : wordsOf (c :: rest) = consFirst c (wordsOf rest) := by
  simp [wordsOf, hc, h]

/-- A character that does not join is a word of its own. -/
theorem wordsOf_cons_alone {c : Char} {rest : List Char} (hc : CharClass.of c ≠ .separator)
    (h : joins c rest = false) : wordsOf (c :: rest) = [c] :: wordsOf rest := by
  simp [wordsOf, hc, h]

end VertexBinding.Naming
