import VertexBinding.Source.Grammar.Paths

/-! # Types, bounds and generic parameters -/

namespace VertexBinding.Source.Grammar

open Rule

/-- Can a bound begin here? -/
def startsBound : Ahead :=
  Ahead.either
    [Ahead.next Token.isAnyWord, Ahead.op "::", Ahead.op "?", Ahead.lifetime,
     Ahead.opens .parenthesis, Ahead.opens .bracket]

/-- One generic parameter with a name, behind its attributes. -/
def parameter : PhraseRule :=
  cases
    [(Ahead.lifetime,
        seq lifetime (opt (Ahead.op ":") (seq (operator ":") (ref .lifetimeBounds)))),
     (Ahead.name,
        all [name, opt (Ahead.op ":") (seq (operator ":") (ref .bounds)),
          opt (Ahead.op "=") (seq (operator "=") (ref (.type true)))]),
     (Ahead.word "const",
        all [word "const", name, operator ":", ref (.type true),
          opt (Ahead.op "=") (seq (operator "=") constant)])]
    never

/-- The parameters a bound, a function type or a closure is for all of. -/
def forLifetimes : PhraseRule :=
  all [word "for", operator "<",
    list (fun _ => false) (Ahead.op ">") (seq (ref .attributes) parameter), operator ">"]

/-- The parameters, if there are any. -/
def optForLifetimes : PhraseRule :=
  opt (Ahead.word "for") (ref .forLifetimes)

/-- A bound by a trait.  One that is for all of some parameters has no question mark. -/
def traitBound (place : BoundPlace) : PhraseRule :=
  let constness : PhraseRule :=
    if place = .object then done
    else
      cases
        [(Ahead.opens .bracket, within .bracket (word "const")),
         (Ahead.word "const", word "const")]
        done
  let path : PhraseRule := seq (optOp "::") (ref (.typePath false))
  choose (Ahead.word "for") (all [ref .forLifetimes, constness, path])
    (all [constness, optOp "?", path])

/-- The names that an anonymous type captures. -/
def captures : PhraseRule :=
  all [word "use", operator "<",
    list Ahead.lifetime (Ahead.op ">") (one (fun t =>
      t.isLifetime || t.isIdentifier || t.isWord "Self")),
    operator ">"]

/-- One bound: a lifetime, the names that are captured, or a trait. -/
def bound (place : BoundPlace) : PhraseRule :=
  cases
    [(Ahead.lifetime, lifetime),
     (Ahead.word "use", if place = .anonymous then captures else never),
     (Ahead.opens .parenthesis, within .parenthesis (traitBound place))]
    (traitBound place)

/-- Further bounds, each behind a plus; the last plus may stand alone. -/
def moreBounds (place : BoundPlace) : PhraseRule :=
  opt (Ahead.op "+")
    (seq (operator "+")
      (opt startsBound (seq (ref (.bound place)) (ref (.moreBounds place)))))

/-- Bounds joined by plus signs, or none; conditions may follow them. -/
def bounds : PhraseRule :=
  opt (Ahead.both startsBound (Ahead.fails (Ahead.word "where")))
    (seq (ref (.bound .condition)) (opt (Ahead.op "+") (seq (operator "+") (ref .bounds))))

/-- Lifetimes joined by plus signs, or none. -/
def lifetimeBounds : PhraseRule :=
  opt Ahead.lifetime
    (seq lifetime (opt (Ahead.op "+") (seq (operator "+") (ref .lifetimeBounds))))

/-- The bounds of an object or an anonymous type, of which one at least is a trait. -/
def traitBounds (place : BoundPlace) (plus : Bool) : PhraseRule :=
  choose (Ahead.either [Ahead.lifetime, Ahead.word "use"])
    (seq (ref (.bound place))
      (if plus then
        seq (operator "+") (choose startsBound (ref (.traitBounds place plus)) never)
      else never))
    (seq (ref (.bound place)) (if plus then ref (.moreBounds place) else done))

/-- The type a function gives back; `plus` allows a sum of bounds. -/
def returnType (plus : Bool) : PhraseRule :=
  opt (Ahead.op "->") (seq (operator "->") (ref (.type plus)))

/-- The calling convention of a function. -/
def convention : PhraseRule :=
  seq (word "extern") (opt (Ahead.next Token.isText) (one Token.isText))

/-- The calling convention, if there is one. -/
def optConvention : PhraseRule :=
  opt (Ahead.word "extern") convention

/-- Is a name with a colon behind it next? -/
def named (p : Token → Bool) : Ahead :=
  Ahead.both (Ahead.next p) (Ahead.second (Ahead.opButNot ":" ["::"]))

/-- The dots that stand for any further inputs, last in their group. -/
def furtherInputs : PhraseRule :=
  seq (operator "...")
    (opt (Ahead.fails (Ahead.either [Ahead.atEnd, Ahead.both (Ahead.op ",") (Ahead.second Ahead.atEnd)]))
      never)

/-- A comma-separated list up to the end of the group, whose first element has a rule
    of its own. -/
def firstList (first other : PhraseRule) : PhraseRule :=
  choose Ahead.atEnd done
    (seq first (choose Ahead.atEnd done (seq (operator ",") (commaList other))))

/-- One input of a function type, with or without a name.  The first may be the
    object itself. -/
def functionInput (first : Bool) : PhraseRule :=
  let called : Token → Bool := fun t => t.isIdentifier || t.isWord "_"
  let mutable : Ahead := fun ts =>
    first && Ahead.word "mut" ts && Ahead.second (Ahead.word "self") ts
  let typed : PhraseRule := seq (operator ":") (ref (.type true))
  seq (ref .attributes)
    (cases
      [(Ahead.op "...", furtherInputs),
       (Ahead.both (named called) (Ahead.third (Ahead.op "...")),
          all [anyWord, operator ":", furtherInputs]),
       (fun ts => first && named (Token.isWord "self") ts, seq anyWord typed),
       (mutable, all [word "mut", word "self", opt (Ahead.opButNot ":" ["::"]) typed])]
      (seq (opt (named called) (seq anyWord (operator ":")))
        (choose mutable (all [word "mut", word "self"]) (ref (.type true)))))

/-- The type of a function. -/
def functionType : PhraseRule :=
  all [optForLifetimes, optWord "unsafe", optConvention, word "fn",
    within .parenthesis (firstList (functionInput true) (functionInput false)),
    ref (.returnType false)]

/-- Does the type of a function begin here, its lifetimes aside? -/
def startsFunction : Ahead :=
  Ahead.wordOf ["fn", "unsafe", "extern"]

/-- A type in parentheses, followed by `behind`, or a tuple of types. -/
def parenthesisedType (plus : Bool) (behind : PhraseRule) : PhraseRule :=
  let close : PhraseRule := one (· == .closing .parenthesis)
  let further : PhraseRule :=
    many (Ahead.fails (Ahead.op "+")) (seq (operator "+") (ref (.bound .object)))
  seq (one (· == .opening .parenthesis))
    (cases
      [(Ahead.atEnd, close),
       (Ahead.lifetime, all [ref (.traitBounds .object true), close, behind]),
       (Ahead.op "?", all [traitBound .object, close, further]),
       (Ahead.either [Ahead.segment, Ahead.op "::", Ahead.word "for"],
          seq (ref (.type true))
            (choose (Ahead.op ",")
              (all [operator ",", commaList (ref (.type true)), close])
              (all [close, if plus then further else done, behind])))]
      (seq (ref (.type true))
        (choose (Ahead.op ",") (all [operator ",", commaList (ref (.type true)), close])
          (seq close behind))))

/-- The output of a function trait and an associated name behind it, which an output
    without parentheses would swallow. -/
def traitOutput : PhraseRule :=
  choose (Ahead.op "->")
    (seq (operator "->")
      (choose (Ahead.opens .parenthesis) (parenthesisedType false (dressedTail true))
        (ref (.type false))))
    (dressedTail true)

/-- A type that begins with a path, which may turn out to be a call or a sum of
    bounds. -/
def pathType (plus : Bool) : PhraseRule :=
  cases
    [(Ahead.op "<", seq qualifiedSelf (ref .qualifiedPath)),
     (startsCall, call)]
    (all [optOp "::", ref (.typePath true),
      if plus then ref (.moreBounds .object) else done])

/-- An array or a slice. -/
def arrayType : PhraseRule :=
  within .bracket
    (seq (ref (.type true)) (opt (Ahead.op ";") (seq (operator ";") (ref (.expression true)))))

/-- A type; `plus` allows a sum of bounds without parentheses. -/
def type (plus : Bool) : PhraseRule :=
  cases
    [(Ahead.word "for",
        seq (ref .forLifetimes)
          (cases
            [(startsFunction, ref .functionType),
             (Ahead.segment,
                all [ref (.typePath true), if plus then ref (.moreBounds .object) else done])]
            never)),
     (Ahead.opens .parenthesis, parenthesisedType plus done),
     (startsFunction, ref .functionType),
     (Ahead.either [Ahead.segment, Ahead.op "::", Ahead.op "<"], pathType plus),
     (Ahead.word "dyn", all [word "dyn", optOp "*", ref (.traitBounds .object plus)]),
     (Ahead.opens .bracket, arrayType),
     (Ahead.op "*",
        all [operator "*", one (Token.isWordOf ["const", "mut"]), ref (.type false)]),
     (Ahead.op "&",
        all [operator "&", opt Ahead.lifetime lifetime, optWord "mut", ref (.type false)]),
     (Ahead.opButNot "!" ["!="], operator "!"),
     (Ahead.word "impl", seq (word "impl") (ref (.traitBounds .anonymous plus))),
     (Ahead.word "_", anyWord),
     (Ahead.lifetime, ref (.traitBounds .object true))]
    never

/-- Do generic parameters come next, and not the type in front of an associated
    name? -/
def startsParameters : Ahead :=
  Ahead.both (Ahead.op "<")
    (Ahead.either
      [Ahead.second (Ahead.either [Ahead.op ">", Ahead.op "#", Ahead.word "const"]),
       Ahead.both (Ahead.second (Ahead.either [Ahead.lifetime, Ahead.name]))
         (Ahead.third (Ahead.either
           [Ahead.op ">", Ahead.op ",", Ahead.opButNot ":" ["::"], Ahead.op "="]))])

/-- Generic parameters in their brackets, or none.  An underscore is a parameter
    without a name. -/
def generics : PhraseRule :=
  opt (Ahead.op "<")
    (all [operator "<",
      list Ahead.lifetime (Ahead.op ">")
        (seq (ref .attributes) (choose (Ahead.word "_") anyWord parameter)),
      operator ">"])

/-- Where a list of conditions on generic parameters ends. -/
def endsConditions : Ahead :=
  Ahead.either
    [Ahead.atEnd, Ahead.opens .brace, Ahead.op ";", Ahead.opButNot ":" ["::"], Ahead.op "="]

/-- One condition on generic parameters. -/
def condition : PhraseRule :=
  choose (Ahead.both Ahead.lifetime (Ahead.second (Ahead.op ":")))
    (all [lifetime, operator ":", ref .lifetimeBounds])
    (all [optForLifetimes, ref (.type true), operator ":", ref .bounds])

/-- Conditions on generic parameters, or none; they have no parameters of their own. -/
def whereClause : PhraseRule :=
  opt (Ahead.word "where")
    (seq (word "where")
      (choose startsParameters never (list (fun _ => false) endsConditions condition)))

end VertexBinding.Source.Grammar
