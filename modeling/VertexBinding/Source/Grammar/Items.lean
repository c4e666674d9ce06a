import VertexBinding.Source.Grammar.Expressions

/-! # Items — what a source file consists of

    Structs, enumerations, functions, modules and the other definitions of a file.
    Inside a trait, an implementation or a foreign block only some of them may
    stand. -/

namespace VertexBinding.Source.Grammar

open Rule

/-- Who may see an item. -/
def visibility : PhraseRule :=
  let group (inner : Ahead) : Ahead := fun ts => Ahead.opens .parenthesis ts && inner (ts.drop 1)
  opt (Ahead.word "pub")
    (seq (word "pub")
      (cases
        [(group (Ahead.both (Ahead.wordOf ["crate", "self", "super"]) (Ahead.second Ahead.atEnd)),
            within .parenthesis anyWord),
         (group (Ahead.word "in"), within .parenthesis (seq (word "in") (ref .plainPath)))]
        done))

/-- A field of a tuple. -/
def tupleField : PhraseRule :=
  all [ref .attributes, ref .visibility, ref (.type true)]

/-- A field with a name.  A field without one is written with an underscore and may
    have a struct or a union in place of a type. -/
def namedField : PhraseRule :=
  all [ref .attributes, ref .visibility,
    choose (Ahead.word "_")
      (all [anyWord, operator ":",
        choose
          (Ahead.either
            [Ahead.word "struct",
             Ahead.both (Ahead.word "union") (Ahead.second (Ahead.opens .brace))])
          (seq anyWord (ref .namedFields)) (ref (.type true))])
      (all [name, operator ":", ref (.type true)])]

/-- Named fields in braces. -/
def namedFields : PhraseRule :=
  within .brace (commaList namedField)

/-- Tuple fields in parentheses. -/
def tupleFields : PhraseRule :=
  within .parenthesis (commaList tupleField)

/-- The definition of a struct behind its visibility. -/
def structBody : PhraseRule :=
  all [word "struct", name, ref .generics,
    choose (Ahead.opens .parenthesis)
      (all [ref .tupleFields, ref .whereClause, operator ";"])
      (seq (ref .whereClause)
        (choose (Ahead.opens .brace) (ref .namedFields) (operator ";")))]

/-- One variant of an enumeration. -/
def variant : PhraseRule :=
  all [ref .attributes, ref .visibility, name,
    cases [(Ahead.opens .brace, ref .namedFields), (Ahead.opens .parenthesis, ref .tupleFields)] done,
    opt (Ahead.op "=") (seq (operator "=") (ref (.expression true)))]

/-- Does the object itself come next, as a function takes it?  Without `&` a path may
    begin like it, or a name for any further inputs. -/
def startsReceiver : Ahead := fun ts =>
  let referred := Ahead.op "&" ts
  let ts := if referred then ts.drop 1 else ts
  let ts := if referred && Ahead.lifetime ts then ts.drop 1 else ts
  let ts := if Ahead.word "mut" ts then ts.drop 1 else ts
  let other :=
    Ahead.either [Ahead.op "::", Ahead.both (Ahead.op ":") (Ahead.second (Ahead.op "..."))]
  Ahead.word "self" ts && (referred || !other (ts.drop 1))

/-- The object itself, as a function takes it. -/
def receiver : PhraseRule :=
  choose (Ahead.op "&")
    (all [operator "&", opt Ahead.lifetime lifetime, optWord "mut", word "self"])
    (all [optWord "mut", word "self",
      opt (Ahead.op ":") (seq (operator ":") (ref (.type true)))])

/-- An input of a function: the object itself, which comes first, a pattern with a
    type, or the dots that stand for any further inputs. -/
def functionParameter (first : Bool) : PhraseRule :=
  seq (ref .attributes)
    (cases
      [(Ahead.op "...", furtherInputs),
       (startsReceiver, if first then receiver else never),
       (Ahead.both Ahead.name (Ahead.second (Ahead.op "<")), ref (.type true))]
      (all [ref (.pattern false), operator ":",
        choose (Ahead.op "...") furtherInputs (ref (.type true))]))

/-- Does the head of a function begin here, with any of the given words in front? -/
def startsFunctionAfter (words : List String) : Ahead := fun ts =>
  let ts := ts.dropWhile (Token.isWordOf words)
  let ts := if Ahead.word "extern" ts then
      if Ahead.next Token.isText (ts.drop 1) then ts.drop 2 else ts.drop 1
    else ts
  Ahead.word "fn" ts

/-- Does the head of a function begin here? -/
def startsFunctionItem : Ahead :=
  startsFunctionAfter ["const", "async", "unsafe"]

/-- The head of a function. -/
def functionHead : PhraseRule :=
  all [optWord "const", optWord "async", opt (Ahead.wordOf ["safe", "unsafe"]) anyWord,
    optConvention, word "fn", name, ref .generics,
    within .parenthesis (firstList (functionParameter true) (functionParameter false)),
    ref (.returnType true), ref .whereClause]

/-- A function with its body, or its head alone. -/
def functionItem : PhraseRule :=
  seq functionHead (choose (Ahead.op ";") (operator ";") (ref (.block true)))

/-- A constant, with or without a value. -/
def constantItem : PhraseRule :=
  all [word "const", choose (Ahead.word "_") anyWord name, ref .generics, operator ":",
    ref (.type true), opt (Ahead.op "=") (seq (operator "=") (ref (.expression true))),
    ref .whereClause, operator ";"]

/-- A static variable with a type, a value or both. -/
def staticItem : PhraseRule :=
  let definition := seq (operator "=") (ref (.expression true))
  all [word "static", optWord "mut", name,
    choose (Ahead.op "=") definition
      (all [operator ":", ref (.type true), opt (Ahead.op "=") definition]),
    operator ";"]

/-- What a name of a type stands for, if that is told. -/
def definition : PhraseRule :=
  opt (Ahead.op "=") (seq (operator "=") (ref (.type true)))

/-- The name of a type with `meaning` behind its bounds. -/
def typeItem (meaning : PhraseRule) : PhraseRule :=
  all [word "type", name, ref .generics,
    opt (Ahead.op ":") (seq (operator ":") (ref .bounds)), meaning, operator ";"]

/-- A call by exclamation mark among items, with `between` behind the mark; without
    braces it ends with a semicolon. -/
def callItem (between : PhraseRule) : PhraseRule :=
  all [ref .plainPath, operator "!", between,
    choose (Ahead.opens .brace) group (seq group (operator ";"))]

/-- Can a call begin here? -/
def startsCallItemPath : Ahead :=
  Ahead.either [Ahead.name, Ahead.wordOf ["self", "super", "crate"], Ahead.op "::"]

/-- Items of a block, with inner attributes in front. -/
def itemsOf (p : Phrase) : PhraseRule :=
  within .brace (seq (ref .innerAttributes) (many Ahead.atEnd (ref p)))

/-- What may stand behind the visibility of an item in a block of foreign functions. -/
def foreignCases : List (Ahead × PhraseRule) :=
  [(startsFunctionAfter ["const", "async", "unsafe", "safe"], functionItem),
   (Ahead.either
      [Ahead.word "static",
       Ahead.both (Ahead.wordOf ["safe", "unsafe"]) (Ahead.second (Ahead.word "static"))],
      all [opt (Ahead.fails (Ahead.word "static")) anyWord, word "static", optWord "mut", name,
        operator ":", ref (.type true),
        opt (Ahead.op "=") (seq (operator "=") (ref (.expression true))), operator ";"]),
   (Ahead.word "type",
      typeItem (choose (Ahead.word "where") (seq (ref .whereClause) definition)
        (seq definition (ref .whereClause))))]

/-- What may stand behind the visibility of an item in a trait or an implementation. -/
def memberCases : List (Ahead × PhraseRule) :=
  [(startsFunctionItem, functionItem),
   (Ahead.word "const", constantItem),
   (Ahead.word "type", typeItem (seq definition (ref .whereClause)))]

/-- An item by one of the cases, or a call if nothing stands in front of it. -/
def casesOrCall (options : List (Ahead × PhraseRule)) (bare : Bool) : PhraseRule :=
  cases options (if bare then choose startsCallItemPath (callItem done) never else never)

/-- An item in a block of foreign functions. -/
def foreignItem : PhraseRule :=
  seq (ref .attributes)
    (choose (Ahead.word "pub")
      (seq (ref .visibility) (casesOrCall foreignCases false))
      (casesOrCall foreignCases true))

/-- An item in a trait or in an implementation.  In a trait the word `default` is
    never the name of a call. -/
def memberItem (inTrait : Bool) : PhraseRule :=
  let startsDefault : Ahead := fun ts =>
    Ahead.word "default" ts && (inTrait || !Ahead.second (Ahead.op "!") ts)
  seq (ref .attributes)
    (choose (Ahead.either [Ahead.word "pub", startsDefault])
      (all [ref .visibility, opt startsDefault (word "default"), casesOrCall memberCases false])
      (casesOrCall memberCases true))

/-- What may be brought into scope, with two colons in front if `rooted` allows them. -/
def useRoot (rooted : Bool) : PhraseRule :=
  choose (fun ts => rooted && Ahead.op "::" ts)
    (seq (operator "::") (ref (.useTree false))) (ref (.useTree rooted))

/-- What may be brought into scope: a path with a name, a star or a group at its
    end.  Two colons stand in front of a whole path only; `rooted` tells that neither
    they nor a name lead here. -/
def useTree (rooted : Bool) : PhraseRule :=
  cases
    [(Ahead.either [Ahead.name, Ahead.wordOf ["self", "super", "crate", "try"]],
        seq anyWord
          (cases
            [(Ahead.op "::", seq (operator "::") (ref (.useTree false))),
             (Ahead.word "as", seq (word "as") (choose (Ahead.word "_") anyWord name))]
            done)),
     (Ahead.op "*", operator "*"),
     (Ahead.opens .brace, within .brace (commaList (useRoot rooted)))]
    never

/-- A trait behind its `unsafe` and `auto`, or another name for bounds if it has
    neither: `renames`. -/
def traitBody (renames : Bool) : PhraseRule :=
  all [word "trait", name, ref .generics,
    choose (fun ts => renames && Ahead.op "=" ts)
      (all [operator "=", ref .bounds, ref .whereClause, operator ";"])
      (all [opt (Ahead.op ":") (seq (operator ":") (ref .bounds)), ref .whereClause,
        itemsOf (.memberItem true)])]

/-- An implementation for a type, of a trait or on its own.  One that says a trait is
    not implemented names the trait. -/
def implBody : PhraseRule :=
  let target : PhraseRule := seq (word "for") (ref (.type true))
  all [optWord "default", optWord "unsafe", word "impl",
    opt startsParameters (ref .generics),
    opt (Ahead.either
        [Ahead.word "const", Ahead.both (Ahead.op "?") (Ahead.second (Ahead.word "const"))])
      (seq (optOp "?") (word "const")),
    choose (Ahead.both (Ahead.op "!") (Ahead.fails (Ahead.second (Ahead.opens .brace))))
      (all [operator "!", ref (.type true), target])
      (seq (ref (.type true)) (opt (Ahead.word "for") target)),
    ref .whereClause, itemsOf (.memberItem false)]

/-- A macro defined by patterns: its inputs, if any, and its body, or its body
    alone. -/
def macroItem : PhraseRule :=
  all [word "macro", name, opt (Ahead.opens .parenthesis) group,
    choose (Ahead.opens .brace) group never]

/-- Does a block of foreign functions begin here? -/
def startsForeignBlock : Ahead := fun ts =>
  let ts := if Ahead.word "unsafe" ts then ts.drop 1 else ts
  Ahead.word "extern" ts
    && (Ahead.second (Ahead.opens .brace) ts
      || (Ahead.second (Ahead.next Token.isText) ts && Ahead.third (Ahead.opens .brace) ts))

/-- A block of foreign functions. -/
def foreignBlock : PhraseRule :=
  all [optWord "unsafe", convention, itemsOf .foreignItem]

/-- Does an implementation begin here? -/
def startsImplementation : Ahead :=
  Ahead.either
    [Ahead.word "impl",
     Ahead.both (Ahead.word "default") (Ahead.fails (Ahead.second (Ahead.op "!")))]

/-- A module, here or in a file of its own. -/
def moduleBody : PhraseRule :=
  all [word "mod", choose (Ahead.word "try") anyWord name,
    choose (Ahead.op ";") (operator ";") (itemsOf .item)]

/-- An item that has no visibility in front, or one whose visibility was read. -/
def plainItem : PhraseRule :=
  cases
    [(startsFunctionItem, functionItem),
     (Ahead.both (Ahead.word "extern") (Ahead.second (Ahead.word "crate")),
        all [word "extern", word "crate", choose (Ahead.word "self") anyWord name,
          opt (Ahead.word "as") (seq (word "as") (choose (Ahead.word "_") anyWord name)),
          operator ";"]),
     (Ahead.word "use", all [word "use", useRoot true, operator ";"]),
     (Ahead.word "static", staticItem),
     (Ahead.word "const", constantItem),
     (Ahead.word "unsafe",
        cases
          [(Ahead.second (Ahead.either
              [Ahead.word "trait",
               Ahead.both (Ahead.word "auto") (Ahead.second (Ahead.word "trait"))]),
              all [word "unsafe", optWord "auto", traitBody false]),
           (Ahead.second (Ahead.word "impl"), implBody),
           (Ahead.second (Ahead.word "mod"), seq (word "unsafe") moduleBody)]
          never),
     (Ahead.word "mod", moduleBody),
     (Ahead.word "type", typeItem (seq (ref .whereClause) definition)),
     (Ahead.word "struct", structBody),
     (Ahead.word "enum",
        all [word "enum", name, ref .generics, ref .whereClause,
          within .brace (commaList variant)]),
     (Ahead.both (Ahead.word "union") (Ahead.second Ahead.name),
        all [word "union", name, ref .generics, ref .whereClause, ref .namedFields]),
     (Ahead.word "trait", traitBody true),
     (Ahead.both (Ahead.word "auto") (Ahead.second (Ahead.word "trait")),
        seq (word "auto") (traitBody false)),
     (startsImplementation, implBody),
     (Ahead.word "macro", macroItem)]
    never

/-- An item behind its attributes.  Calls and blocks of foreign functions have no
    visibility. -/
def itemBody : PhraseRule :=
  cases
    [(Ahead.both startsCallItemPath
        (Ahead.fails (Ahead.either
          [startsFunctionItem,
           Ahead.both (Ahead.word "union") (Ahead.second Ahead.name),
           Ahead.both (Ahead.word "auto") (Ahead.second (Ahead.word "trait")),
           startsImplementation])),
        callItem (opt (Ahead.either [Ahead.name, Ahead.word "try"]) anyWord)),
     (startsForeignBlock, foreignBlock)]
    (seq (ref .visibility) plainItem)

/-- An item with its attributes. -/
def item : PhraseRule :=
  seq (ref .attributes) (ref .itemBody)

end VertexBinding.Source.Grammar
