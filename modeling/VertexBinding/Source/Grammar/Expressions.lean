import VertexBinding.Source.Grammar.Patterns

/-! # Expressions and statements

    An expression is operands joined by operators.  The operators are read from
    left to right with the loosest level allowed; only comparisons need a memory,
    because two of them cannot stand side by side, and a range ends the chain. -/

namespace VertexBinding.Source.Grammar

open Rule

/-- The operators between two operands, those that begin like others behind them,
    each with its level. -/
def binaryOperators : List (String × Level) :=
  [("<<=", 1), (">>=", 1), ("+=", 1), ("-=", 1), ("*=", 1), ("/=", 1), ("%=", 1), ("^=", 1),
   ("&=", 1), ("|=", 1),
   ("&&", 4), ("||", 3), ("<<", 10), (">>", 10), ("==", 6), ("<=", 6), ("!=", 6), (">=", 6),
   ("+", 11), ("-", 11), ("*", 12), ("/", 12), ("%", 12), ("^", 8), ("&", 9), ("|", 7),
   ("<", 6), (">", 6)]

/-- The level of assignment. -/
def assignment : Level := 1

/-- The level of ranges. -/
def ranging : Level := 2

/-- The level of comparisons. -/
def comparing : Level := 6

/-- Can an expression begin here? -/
def startsExpression : Ahead :=
  Ahead.either
    [Ahead.next (fun t => t.isAnyWord && !t.isWord "as"), Ahead.opensAny, Ahead.value,
     Ahead.opButNot "!" ["!="], Ahead.opButNot "-" ["-=", "->"], Ahead.opButNot "*" ["*="],
     Ahead.opButNot "|" ["|="], Ahead.opButNot "&" ["&="], Ahead.op "..",
     Ahead.opButNot "<" ["<=", "<<="], Ahead.op "::", Ahead.lifetime, Ahead.op "#"]

/-- Is a field or a question mark next, which make an expression of a block? -/
def startsTrailer : Ahead :=
  Ahead.either [Ahead.opButNot "." [".."], Ahead.op "?"]

/-- Do the parameters of a closure come next? -/
def startsForLifetimes : Ahead :=
  Ahead.both (Ahead.word "for") (Ahead.second startsParameters)

/-- Does an expression begin here that ends with a block and needs no semicolon? -/
def startsBlockLike : Ahead :=
  Ahead.either
    [Ahead.wordOf ["if", "while", "loop", "match", "unsafe"],
     Ahead.both (Ahead.word "for") (Ahead.fails startsForLifetimes),
     Ahead.both (Ahead.wordOf ["try", "const"]) (Ahead.second (Ahead.opens .brace)),
     Ahead.opens .brace, Ahead.lifetime]

/-- A loop, or a block with a label. -/
def loops : PhraseRule :=
  cases
    [(Ahead.word "while", all [word "while", ref (.expression false), ref (.block true)]),
     (Ahead.word "for",
        all [word "for", ref .patternChoice, word "in", ref (.expression false),
          ref (.block true)]),
     (Ahead.word "loop", seq (word "loop") (ref (.block true)))]
    (ref (.block true))

/-- The arms of a match. -/
def matchArms : PhraseRule :=
  within .brace (seq (ref .innerAttributes) (many Ahead.atEnd (ref .matchArm)))

/-- An expression that ends with a block. -/
def blockLike : PhraseRule :=
  cases
    [(Ahead.word "if", ref .conditional),
     (Ahead.word "match", all [word "match", ref (.expression false), matchArms]),
     (Ahead.wordOf ["unsafe", "const"], seq anyWord (ref (.block true))),
     (Ahead.word "try", seq (word "try") (ref (.block false))),
     (Ahead.lifetime, all [lifetime, operator ":", loops])]
    loops

/-- A condition with its branches. -/
def conditional : PhraseRule :=
  all [word "if", ref (.expression false), ref (.block false),
    opt (Ahead.word "else")
      (seq (word "else") (choose (Ahead.word "if") (ref .conditional) (ref (.block false))))]

/-- An expression as a statement or an arm may begin with it: one that ends with a
    block is complete, unless it goes on with a field or a question mark.  Complete
    ones are followed by `complete`, others by `other`. -/
def bodied (complete other : PhraseRule) : PhraseRule :=
  seq (ref .attributes)
    (choose startsBlockLike
      (seq (ref .blockLike)
        (choose startsTrailer
          (all [ref .trailers, ref (.operators true 0 false), other]) complete))
      (seq (ref (.expression true)) other))

/-- One arm of a match. -/
def matchArm : PhraseRule :=
  all [ref .attributes, ref .patternChoice,
    opt (Ahead.word "if") (seq (word "if") (ref (.expression true))),
    operator "=>", bodied (optOp ",") commaOrEnd]

/-- Statements in braces; `inner` allows inner attributes in front of them. -/
def block (inner : Bool) : PhraseRule :=
  within .brace
    (seq (if inner then ref .innerAttributes else done) (many Ahead.atEnd (ref .statement)))

/-- Where a range without an end is over in an expression. -/
def endsOpenRange (structs : Bool) : Ahead :=
  Ahead.either
    [Ahead.atEnd, Ahead.op ",", Ahead.op ";", Ahead.opButNot "." [".."], Ahead.op "?",
     Ahead.op "=>", fun ts => !structs && Ahead.opens .brace ts,
     Ahead.op "=", Ahead.op "+", Ahead.op "/", Ahead.op "%", Ahead.op "^", Ahead.op ">",
     Ahead.op "<=", Ahead.op "!=", Ahead.op "-=", Ahead.op "*=", Ahead.op "&=", Ahead.op "|=",
     Ahead.op "<<=", Ahead.word "as"]

/-- The dots of a range and its end. -/
def rangeTail (structs : Bool) : PhraseRule :=
  let finish := seq (ref (.operand structs)) (ref (.operators structs (ranging + 1) false))
  cases
    [(Ahead.op "..=", seq (operator "..=") finish),
     (Ahead.op "...", never)]
    (seq (operator "..") (choose (endsOpenRange structs) done finish))

/-- What may not follow a cast. -/
def afterCast : Ahead :=
  Ahead.either [startsTrailer, Ahead.opens .bracket, Ahead.opens .parenthesis]

/-- The operators from the given level upwards, each with its operand. -/
def operators (structs : Bool) (level : Level) (compared : Bool) : PhraseRule :=
  let binary := fun (entry : String × Level) =>
    let rest :=
      if entry.2 < level then done
      else if entry.2 = comparing && compared then never
      else all [operator entry.1, ref (.operand structs),
        ref (.operators structs level
          (entry.2 = comparing || (compared && decide (comparing < entry.2))))]
    (Ahead.op entry.1, rest)
  cases
    (binaryOperators.map binary
      ++ [(Ahead.opButNot "=" ["=>"],
            if assignment < level then done
            else all [operator "=", ref (.operand structs),
              ref (.operators structs level false)]),
          (Ahead.op "..", if ranging < level then done else rangeTail structs),
          (Ahead.word "as",
            all [word "as", ref (.type false),
              choose afterCast never (ref (.operators structs level compared))])])
    done

/-- A whole expression. -/
def expression (structs : Bool) : PhraseRule :=
  choose (Ahead.op "..") (rangeTail structs)
    (seq (ref (.operand structs)) (ref (.operators structs 0 false)))

/-- The fields of a struct expression; two dots take the rest from another value. -/
def fieldValues : PhraseRule :=
  let colon := seq (operator ":") (ref (.expression true))
  within .brace
    (many Ahead.atEnd
      (choose (Ahead.op "..")
        (seq (operator "..") (choose Ahead.atEnd done
          (seq (ref (.expression true)) (choose Ahead.atEnd done never))))
        (all [ref .attributes,
          choose (Ahead.next Token.isFieldNumber) (seq (one Token.isFieldNumber) colon)
            (seq name (opt (Ahead.op ":") colon)),
          commaOrEnd])))

/-- A path, a call by exclamation mark, or a struct expression. -/
def pathExpression (structs : Bool) : PhraseRule :=
  choose startsCall call
    (seq qualifiedValuePath
      (choose (fun ts => structs && Ahead.opens .brace ts) fieldValues done))

/-- Does a closure begin here? -/
def startsClosure : Ahead :=
  Ahead.either
    [Ahead.op "|", Ahead.word "move", startsForLifetimes,
     Ahead.both (Ahead.word "const") (Ahead.fails (Ahead.second (Ahead.opens .brace))),
     Ahead.word "static",
     Ahead.both (Ahead.word "async")
       (Ahead.second (Ahead.either [Ahead.op "|", Ahead.word "move"]))]

/-- A closure. -/
def closure (structs : Bool) : PhraseRule :=
  let input : PhraseRule :=
    all [ref .attributes, ref (.pattern false),
      opt (Ahead.op ":") (seq (operator ":") (ref (.type true)))]
  all [optForLifetimes, optWord "const", optWord "static", optWord "async", optWord "move",
    operator "|", list (fun _ => false) (Ahead.op "|") input, operator "|",
    choose (Ahead.op "->") (all [operator "->", ref (.type true), ref (.block false)])
      (ref (.expression structs))]

/-- An array by its elements, or by one element and a count. -/
def arrayExpression : PhraseRule :=
  within .bracket
    (choose Ahead.atEnd done
      (seq (ref (.expression true))
        (cases
          [(Ahead.op ";", seq (operator ";") (ref (.expression true))),
           (Ahead.op ",", seq (operator ",") (commaList (ref (.expression true))))]
          done)))

/-- An operand without what may trail it. -/
def atom (structs : Bool) : PhraseRule :=
  let optional : PhraseRule := opt startsExpression (ref (.expression true))
  cases
    [(Ahead.next Token.isValue, one Token.isValue),
     (Ahead.both (Ahead.word "async")
        (Ahead.either
          [Ahead.second (Ahead.opens .brace),
           Ahead.both (Ahead.second (Ahead.word "move")) (Ahead.third (Ahead.opens .brace))]),
        all [word "async", optWord "move", ref (.block false)]),
     (Ahead.both (Ahead.word "try") (Ahead.second (Ahead.opens .brace)), ref .blockLike),
     (startsClosure, closure structs),
     (Ahead.both (Ahead.word "builtin") (Ahead.second (Ahead.op "#")),
        all [word "builtin", operator "#", name,
          choose (Ahead.opens .parenthesis) group never]),
     (Ahead.either
        [Ahead.segment, Ahead.op "::", Ahead.op "<",
         Ahead.both (Ahead.word "try")
           (Ahead.second (Ahead.either [Ahead.op "!", Ahead.op "::"]))],
        pathExpression structs),
     (Ahead.opens .parenthesis, within .parenthesis (commaList (ref (.expression true)))),
     (Ahead.word "break",
        seq (word "break")
          (choose (Ahead.both Ahead.lifetime (Ahead.second (Ahead.op ":"))) never
            (seq (opt Ahead.lifetime lifetime)
              (opt (fun ts => startsExpression ts && (structs || !Ahead.opens .brace ts))
                (ref (.expression true)))))),
     (Ahead.word "continue", seq (word "continue") (opt Ahead.lifetime lifetime)),
     (Ahead.wordOf ["return", "yield"], seq anyWord optional),
     (Ahead.word "become", seq anyWord (ref (.expression true))),
     (Ahead.opens .bracket, arrayExpression),
     (Ahead.word "let",
        all [word "let", ref .patternChoice, operator "=", ref (.operand structs),
          ref (.operators structs comparing false)]),
     (startsBlockLike, ref .blockLike),
     (Ahead.word "_", anyWord)]
    never

/-- An operand with its signs in front and what trails it.  Nothing trails a range,
    and a range without a beginning has no attributes. -/
def operand (structs : Bool) : PhraseRule :=
  seq (opt (Ahead.op "#") (seq (ref .attributes) (opt (Ahead.op "..") never)))
    (cases
      [(Ahead.op "&",
          all [operator "&",
            choose (Ahead.both (Ahead.word "raw")
                (Ahead.second (Ahead.wordOf ["mut", "const"])))
              (seq anyWord anyWord) (optWord "mut"),
            ref (.operand structs)]),
       (Ahead.either [Ahead.op "*", Ahead.op "!", Ahead.op "-"],
          seq (one (fun t => [Token.sign '*' false, .sign '!' false, .sign '-' false].contains t.alone))
            (ref (.operand structs))),
       (Ahead.op "..", rangeTail structs)]
      (seq (atom structs) (ref .trailers)))

/-- Inputs of a call in parentheses. -/
def inputs : PhraseRule :=
  within .parenthesis (commaList (ref (.expression true)))

/-- What may stand behind the point of a field: `await`, a number, or a name, which
    inputs make a method. -/
def member : PhraseRule :=
  cases
    [(Ahead.word "await", anyWord),
     (Ahead.next Token.isFieldNumber, one Token.isFieldNumber)]
    (seq name
      (choose (Ahead.op "::") (seq (ref .angleArguments) inputs)
        (opt (Ahead.opens .parenthesis) inputs)))

/-- Calls, fields, indexing and question marks behind an operand. -/
def trailers : PhraseRule :=
  cases
    [(Ahead.opens .parenthesis, seq inputs (ref .trailers)),
     (Ahead.opButNot "." [".."],
        seq (operator ".")
          (cases
            [(Ahead.next Token.isFieldNumberPair,
                seq (token Token.isFieldNumberPair Token.fieldNumbers) (ref .trailers)),
             (Ahead.next Token.isFieldNumberPoint,
                all [token Token.isFieldNumberPoint Token.fieldNumbers, member, ref .trailers])]
            (seq member (ref .trailers)))),
     (Ahead.opens .bracket, seq (within .bracket (ref (.expression true))) (ref .trailers)),
     (Ahead.op "?", seq (operator "?") (ref .trailers))]
    done

/-- Is a call in braces next that stands as a statement? -/
def startsCallStatement : Ahead :=
  Ahead.called Token.isPlainSegment
    (Ahead.both (Ahead.second (Ahead.opens .brace)) (Ahead.fails (Ahead.third startsTrailer)))

/-- Is a call next that defines something by name? -/
def startsCallItem : Ahead :=
  Ahead.called Token.isPlainSegment (Ahead.second (Ahead.either [Ahead.name, Ahead.word "try"]))

/-- Does an item begin here, its attributes aside? -/
def startsItem : Ahead :=
  Ahead.either
    [Ahead.wordOf ["pub", "extern", "use", "fn", "mod", "type", "struct", "enum", "trait",
       "impl", "macro"],
     Ahead.both (Ahead.word "crate") (Ahead.fails (Ahead.second (Ahead.op "::"))),
     Ahead.both (Ahead.word "static")
       (Ahead.second (Ahead.either [Ahead.word "mut", Ahead.name])),
     Ahead.both (Ahead.word "const")
       (Ahead.fails (Ahead.either
         [Ahead.second (Ahead.opens .brace), Ahead.second (Ahead.wordOf ["static", "move"]),
          Ahead.second (Ahead.op "|"),
          Ahead.both (Ahead.second (Ahead.word "async"))
            (Ahead.fails (Ahead.third (Ahead.wordOf ["unsafe", "extern", "fn"])))])),
     Ahead.both (Ahead.word "unsafe") (Ahead.fails (Ahead.second (Ahead.opens .brace))),
     Ahead.both (Ahead.word "async") (Ahead.second (Ahead.wordOf ["unsafe", "extern", "fn"])),
     Ahead.both (Ahead.word "union") (Ahead.second Ahead.name),
     Ahead.both (Ahead.word "auto") (Ahead.second (Ahead.word "trait")),
     Ahead.both (Ahead.word "default") (Ahead.second (Ahead.wordOf ["unsafe", "impl"])),
     startsCallItem]

/-- A variable with an optional type and value. -/
def binding : PhraseRule :=
  all [word "let", ref (.pattern false),
    opt (Ahead.op ":") (seq (operator ":") (ref (.type true))),
    opt (Ahead.op "=")
      (all [operator "=", ref (.expression true),
        opt (Ahead.word "else") (seq (word "else") (ref (.block false)))]),
    operator ";"]

/-- One statement with its semicolon, or a semicolon alone.  An expression without
    one is the last of its block. -/
def statement : PhraseRule :=
  choose (Ahead.op ";") (operator ";")
    (seq (ref .attributes)
      (cases
        [(startsCallStatement, seq call (optOp ";")),
         (Ahead.word "let", binding),
         (startsItem, ref .itemBody)]
        (bodied done
          (choose (Ahead.op ";") (operator ";") (choose Ahead.atEnd done never)))))

end VertexBinding.Source.Grammar
