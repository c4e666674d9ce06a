import VertexBinding.Source.Grammar.Types

/-! # Patterns -/

namespace VertexBinding.Source.Grammar

open Rule

/-- Can a path begin here, where an identifier alone would be a variable? -/
def startsPatternPath : Ahead :=
  Ahead.either
    [Ahead.both Ahead.name
        (Ahead.second (Ahead.either
          [Ahead.op "::", Ahead.op "!", Ahead.opens .brace, Ahead.opens .parenthesis,
           Ahead.op ".."])),
     Ahead.both (Ahead.word "self") (Ahead.second (Ahead.op "::")),
     Ahead.op "::", Ahead.op "<", Ahead.wordOf ["Self", "super", "crate"]]

/-- Where a range without an end is over. -/
def endsRange : Ahead :=
  Ahead.either
    [Ahead.atEnd, Ahead.op "|", Ahead.op "=", Ahead.opButNot ":" ["::"], Ahead.op ",",
     Ahead.op ";", Ahead.word "if"]

/-- An end of a range. -/
def rangeEnd : PhraseRule :=
  cases
    [(Ahead.value, value),
     (Ahead.word "const", seq (word "const") (ref (.block true)))]
    qualifiedValuePath

/-- Is a bar between two patterns next? -/
def startsAlternative : Ahead :=
  Ahead.opButNot "|" ["||", "|="]

/-- A range that lacks an end is no `element` of a slice, unless other patterns stand
    beside it. -/
def lacksEnd (element : Bool) : PhraseRule :=
  if element then opt (Ahead.fails startsAlternative) never else done

/-- The dots of a range behind its beginning and, if it has one, its end; a closed range
    has one. -/
def rangeRest (element : Bool) : PhraseRule :=
  cases
    [(Ahead.op "..=", seq (operator "..=") rangeEnd),
     (Ahead.op "...", seq (operator "...") rangeEnd)]
    (seq (operator "..") (choose endsRange (lacksEnd element) rangeEnd))

/-- A range without a beginning; the dots alone stand for the rest of a list. -/
def rangeTo (element : Bool) : PhraseRule :=
  let bounded : PhraseRule := seq rangeEnd (lacksEnd element)
  choose (Ahead.op "..=") (seq (operator "..=") bounded)
    (seq (operator "..") (choose endsRange done bounded))

/-- One field of a struct pattern. -/
def fieldPattern : PhraseRule :=
  let colon := seq (operator ":") (ref .patternChoice)
  cases
    [(Ahead.wordOf ["box", "ref", "mut"], all [optWord "box", optWord "ref", optWord "mut", name]),
     (Ahead.next Token.isFieldNumber, seq (one Token.isFieldNumber) colon)]
    (seq name (opt (Ahead.op ":") colon))

/-- The fields of a struct pattern; two dots stand for the rest. -/
def fieldPatterns : PhraseRule :=
  within .brace
    (many Ahead.atEnd
      (seq (ref .attributes)
        (choose (Ahead.op "..") (seq (operator "..") (choose Ahead.atEnd done never))
          (seq fieldPattern commaOrEnd))))

/-- A pattern that begins with a path. -/
def pathPattern (element : Bool) : PhraseRule :=
  choose startsCall call
    (seq qualifiedValuePath
      (cases
        [(Ahead.opens .brace, fieldPatterns),
         (Ahead.opens .parenthesis, within .parenthesis (commaList (ref .patternChoice))),
         (Ahead.op "..", rangeRest element)]
        done))

/-- A pattern and alternatives to it; the first may be an `element` of a slice. -/
def alternatives (element : Bool) : PhraseRule :=
  seq (ref (.pattern element))
    (many (Ahead.fails startsAlternative) (seq (operator "|") (ref (.pattern false))))

/-- A pattern with alternatives, of which the first may have a bar in front. -/
def patternChoice : PhraseRule :=
  seq (optOp "|") (alternatives false)

/-- A pattern in a slice. -/
def elementPattern : PhraseRule :=
  choose (Ahead.op "|") (ref .patternChoice) (alternatives true)

/-- A pattern without alternatives. -/
def pattern (element : Bool) : PhraseRule :=
  cases
    [(startsPatternPath, pathPattern element),
     (Ahead.word "_", anyWord),
     (Ahead.word "box", seq (word "box") (ref (.pattern false))),
     (Ahead.either [Ahead.op "-", Ahead.value, Ahead.word "const"],
        seq rangeEnd (opt (Ahead.op "..") (rangeRest element))),
     (Ahead.either [Ahead.wordOf ["ref", "mut", "self"], Ahead.name],
        all [optWord "ref", optWord "mut", one (fun t => t.isIdentifier || t.isWord "self"),
          opt (Ahead.op "@") (seq (operator "@") (ref (.pattern false)))]),
     (Ahead.op "&", all [operator "&", optWord "mut", ref (.pattern false)]),
     (Ahead.opens .parenthesis, within .parenthesis (commaList (ref .patternChoice))),
     (Ahead.opens .bracket, within .bracket (commaList elementPattern)),
     (Ahead.opButNot ".." ["..."], rangeTo element)]
    never

end VertexBinding.Source.Grammar
