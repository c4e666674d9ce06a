import VertexBinding.Source.Phrase

/-! # Paths and attributes

    A path is segments joined by `::`.  In a type a segment takes generic arguments
    as they are; in an expression they need a `::` in front, so that `<` can compare.
    An attribute holds a plain path with a group, a value or nothing behind it. -/

namespace VertexBinding.Source.Grammar

open Rule

/-- Words that are segments without being identifiers, and never have arguments. -/
def bareSegments : List String := ["super", "self", "crate", "try"]

/-- Do two colons come next, with no parenthesis behind them? -/
def goesOn : Ahead :=
  Ahead.both (Ahead.op "::") (Ahead.fails (Ahead.third (Ahead.opens .parenthesis)))

/-- Do generic arguments with two colons in front come next? -/
def turbofish : Ahead :=
  Ahead.both (Ahead.op "::") (Ahead.third (Ahead.op "<"))

/-- Do generic arguments come next in a type? -/
def typeAngle : Ahead :=
  Ahead.either [Ahead.opButNot "<" ["<=", "<<="], turbofish]

/-- One segment: without generic arguments it goes on as `bare`, with them as
    `dressed`. -/
def segment (angle : Ahead) (bare dressed : PhraseRule) : PhraseRule :=
  choose (Ahead.wordOf bareSegments) (seq anyWord bare)
    (seq (one (fun t => t.isIdentifier || t.isWord "Self"))
      (choose angle (seq (ref .angleArguments) dressed) bare))

/-- A path without generic arguments, of segments that pass the test. -/
def pathOf (p : Token → Bool) : PhraseRule :=
  all [optOp "::", one p, many (Ahead.fails (Ahead.op "::")) (seq (operator "::") (one p))]

/-- A plain path. -/
def plainPath : PhraseRule :=
  pathOf Token.isPlainSegment

/-- Further segments of a path that takes no inputs. -/
def moreSegments : PhraseRule :=
  opt goesOn (seq (operator "::") (ref .namePath))

/-- The segments of a path that names a type and takes no inputs. -/
def namePath : PhraseRule :=
  segment typeAngle moreSegments moreSegments

/-- The inputs and the output of a function trait: `(A, B) -> C`.  In a type, though
    not in a bound, an associated name may follow. -/
def parenthesised (inType : Bool) : PhraseRule :=
  all [opt (Ahead.op "::") (hidden "::"),
    within .parenthesis (commaList (ref (.type true))),
    if inType then ref .traitOutput else ref (.returnType false)]

/-- What may follow a segment of a type's path that has generic arguments. -/
def dressedTail (inType : Bool) : PhraseRule :=
  opt goesOn (seq (operator "::") (ref (.typePath inType)))

/-- What may follow a segment of a type's path that has none. -/
def bareTail (inType : Bool) : PhraseRule :=
  choose goesOn (seq (operator "::") (ref (.typePath inType)))
    (opt (Ahead.either [Ahead.opens .parenthesis, Ahead.op "::"]) (parenthesised inType))

/-- The segments of a type's path, or of a bound's. -/
def typePath (inType : Bool) : PhraseRule :=
  segment typeAngle (bareTail inType) (dressedTail inType)

/-- The segments of a type's path behind the type in front of an associated name.  Two
    colons have a segment behind them there. -/
def qualifiedPath : PhraseRule :=
  let further : PhraseRule := seq (operator "::") (ref .qualifiedPath)
  segment typeAngle
    (choose (Ahead.op "::") further (opt (Ahead.opens .parenthesis) (parenthesised true)))
    (opt (Ahead.op "::") further)

/-- The segments of a value's path. -/
def valuePath : PhraseRule :=
  let tail := opt goesOn (seq (operator "::") (ref .valuePath))
  segment turbofish tail tail

/-- The type in front of an associated name: `<T as Trait>::`. -/
def qualifiedSelf : PhraseRule :=
  all [operator "<", ref (.type true),
    opt (Ahead.word "as") (all [word "as", optOp "::", ref .namePath]),
    operator ">", operator "::"]

/-- A value's path with all that may stand in front of its segments. -/
def qualifiedValuePath : PhraseRule :=
  choose (Ahead.op "<") (seq qualifiedSelf (ref .valuePath)) (seq (optOp "::") (ref .valuePath))

/-- A call by exclamation mark: a path without generic arguments, the mark, and a
    group. -/
def call : PhraseRule :=
  all [pathOf Token.isSegment, operator "!", group]

/-- Does a call by exclamation mark come next? -/
def startsCall : Ahead :=
  Ahead.called Token.isSegment (fun _ => true)

/-- Is a literal or a block next, as a constant argument may begin? -/
def startsConstant : Ahead :=
  Ahead.either [Ahead.value, Ahead.opens .brace]

/-- A constant given as an argument: a literal, a block or a name. -/
def constant : PhraseRule :=
  cases [(Ahead.value, value), (Ahead.opens .brace, ref (.block true))] name

/-- What may follow the name of an associated type or constant. -/
def associated (tail : PhraseRule) : PhraseRule :=
  cases
    [(Ahead.op "=", seq (operator "=") (choose startsConstant constant (ref (.type true)))),
     (Ahead.opButNot ":" ["::"], seq (operator ":") (ref .bounds))]
    (seq tail (ref (.moreBounds .object)))

/-- One generic argument: a lifetime, a constant, an associated name or a type. -/
def angleArgument : PhraseRule :=
  cases
    [(Ahead.both Ahead.lifetime (Ahead.fails (Ahead.second (Ahead.op "+"))), lifetime),
     (startsConstant, constant),
     (startsCall, ref (.type true)),
     (Ahead.segment,
        segment typeAngle (associated (bareTail true)) (associated (dressedTail true)))]
    (ref (.type true))

/-- Generic arguments in their brackets, lifetimes printed first. -/
def angleArguments : PhraseRule :=
  all [optOp "::", operator "<", list Ahead.lifetime (Ahead.op ">") (ref .angleArgument),
    operator ">"]

/-- Does an attribute come next? -/
def startsAttribute : Ahead :=
  Ahead.both (Ahead.op "#") (Ahead.second (Ahead.opens .bracket))

/-- What an attribute says.  The value it gives has no attributes of its own. -/
def attributeBody : PhraseRule :=
  seq (choose (Ahead.word "unsafe") (word "unsafe") (ref .plainPath))
    (cases
      [(Ahead.opensAny, group),
       (Ahead.opButNot "=" ["==", "=>"],
          seq (operator "=") (choose startsAttribute never (ref (.expression true))))]
      done)

/-- Attributes of what comes behind them. -/
def attributes : PhraseRule :=
  many (Ahead.fails (Ahead.op "#")) (seq (operator "#") (within .bracket (ref .attributeBody)))

/-- Attributes of what they stand in. -/
def innerAttributes : PhraseRule :=
  many (Ahead.fails (Ahead.both (Ahead.op "#") (Ahead.second (Ahead.op "!"))))
    (all [operator "#", operator "!", within .bracket (ref .attributeBody)])

end VertexBinding.Source.Grammar
