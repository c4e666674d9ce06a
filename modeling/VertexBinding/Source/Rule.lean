import VertexBinding.Source.Ahead

/-! # Rules — a grammar as data, and one reader for all of them

    A rule says what to read and what to print for it.  Choices are made by
    looking ahead and are final.  A rule refers to another by its name, so a
    grammar is a plain function from names to rules; reading follows the names to
    a depth that the number of tokens bounds. -/

namespace VertexBinding.Source

/-- What reading gives: the tokens to print, and the tokens that are left. -/
abbrev Reading := Option (List Token × List Token)

/-- What reads the front of a list of tokens. -/
abbrev Reader := List Token → Reading

/-- A rule of a grammar whose rules have names in `N`. -/
inductive Rule (N : Type) where
  /-- Reads nothing. -/
  | done
  /-- Refuses. -/
  | never
  /-- Reads one token that passes the test, and prints what it stands for. -/
  | token (test : Token → Bool) (printed : Token → List Token)
  /-- Reads the signs of an operator. -/
  | operator (text : String)
  /-- Reads the signs of an operator and prints nothing. -/
  | hidden (text : String)
  /-- Reads a bracketed group, whatever stands in it, and prints it as it is. -/
  | group
  /-- Reads one behind the other. -/
  | seq (first second : Rule N)
  /-- Goes on by what comes next. -/
  | choose (test : Ahead) (yes no : Rule N)
  /-- Reads again and again until the test passes. -/
  | many (stop : Ahead) (body : Rule N)
  /-- Reads a comma-separated list until the test passes; elements at which `early`
      passes are printed before the others. -/
  | list (early stop : Ahead) (body : Rule N)
  /-- Reads by another rule. -/
  | ref (name : N)

/-- An element of a list: is it an early one, what it prints, and does a comma
    follow it? -/
structure Element where
  early : Bool
  printed : List Token
  comma : Bool

/-- The comma between two elements. -/
def comma : Token := .sign ',' false

/-- Elements in the order given; an element that no comma follows gets one when
    another comes behind it. -/
def printElements : List Element → List Token
  | [] => []
  | [e] => e.printed ++ (if e.comma then [comma] else [])
  | e :: f :: rest => e.printed ++ [comma] ++ printElements (f :: rest)

/-- A list with its early elements first. -/
def printList (elements : List Element) : List Token :=
  printElements (elements.filter (·.early) ++ elements.filter (!·.early))

/-- The signs of an operator taken from the front. -/
def takeSigns (text : String) (ts : List Token) : Reading :=
  if Ahead.op text ts then some (Token.signs text.toList, ts.drop text.toList.length) else none

/-- A bracketed group taken from the front. -/
def takeGroup : Reader
  | .opening d :: rest =>
      let (inside, behind) := splitClosing 0 rest
      match rest.drop inside.length with
      | t :: _ => some (.opening d :: inside ++ [t], behind)
      | [] => none
  | _ => none

/-- Reads at most `size` times. -/
def readMany (stop : Ahead) (body : Reader) : (size : Nat) → Reader
  | 0, ts => some ([], ts)
  | size + 1, ts =>
      if stop ts then some ([], ts)
      else match body ts with
        | none => none
        | some (p, ts) => (readMany stop body size ts).map (fun (q, ts) => (p ++ q, ts))

/-- Reads at most `size` elements of a list. -/
def readElements (early stop : Ahead) (body : Reader) :
    (size : Nat) → List Token → Option (List Element × List Token)
  | 0, ts => some ([], ts)
  | size + 1, ts =>
      if stop ts then some ([], ts)
      else match body ts with
        | none => none
        | some (p, behind) =>
            if stop behind then some ([⟨early ts, p, false⟩], behind)
            else if Ahead.op "," behind then
              (readElements early stop body size (behind.drop 1)).map
                (fun (es, ts') => (⟨early ts, p, true⟩ :: es, ts'))
            else none

namespace Rule

variable {N : Type}

/-- Reads by a rule, where `self` reads by the rules it refers to. -/
def read (self : N → Reader) : Rule N → Reader
  | done, ts => some ([], ts)
  | never, _ => none
  | token test printed, ts =>
      match ts with
      | t :: rest => if test t then some (printed t, rest) else none
      | [] => none
  | operator text, ts => takeSigns text ts
  | hidden text, ts => (takeSigns text ts).map (fun (_, rest) => ([], rest))
  | group, ts => takeGroup ts
  | seq first second, ts =>
      match first.read self ts with
      | none => none
      | some (p, ts) => (second.read self ts).map (fun (q, ts) => (p ++ q, ts))
  | choose test yes no, ts => if test ts then yes.read self ts else no.read self ts
  | many stop body, ts => readMany stop (body.read self) (ts.length + 1) ts
  | list early stop body, ts =>
      (readElements early stop (body.read self) (ts.length + 1) ts).map
        (fun (es, ts) => (printList es, ts))
  | ref name, ts => self name ts

/-- Reads by the rule of a name, following names to the given depth. -/
def readTo (grammar : N → Rule N) : (depth : Nat) → N → Reader
  | 0, _ => fun _ => none
  | depth + 1, name => (grammar name).read (readTo grammar depth)

/-- Rules one behind the other. -/
def all : List (Rule N) → Rule N
  | [] => done
  | [r] => r
  | r :: s :: rest => seq r (all (s :: rest))

/-- The rule of the first test that passes. -/
def cases (options : List (Ahead × Rule N)) (otherwise : Rule N) : Rule N :=
  options.foldr (fun (test, rule) rest => choose test rule rest) otherwise

/-- Reads by the rule if the test passes. -/
def opt (test : Ahead) (rule : Rule N) : Rule N :=
  choose test rule done

/-- Reads one token of a kind. -/
def one (test : Token → Bool) : Rule N :=
  token test (fun t => [t.alone])

/-- Reads the given word. -/
def word (w : String) : Rule N :=
  one (Token.isWord w)

/-- Reads the word if it is there. -/
def optWord (w : String) : Rule N :=
  opt (Ahead.word w) (word w)

/-- Reads the operator if it is there. -/
def optOp (text : String) : Rule N :=
  opt (Ahead.op text) (operator text)

/-- Reads any word. -/
def anyWord : Rule N :=
  one Token.isAnyWord

/-- Reads an identifier. -/
def name : Rule N :=
  one Token.isIdentifier

/-- Reads a lifetime. -/
def lifetime : Rule N :=
  one Token.isLifetime

/-- Reads a literal, a minus sign before it included. -/
def value : Rule N :=
  seq (optOp "-") (one Token.isValue)

/-- Reads a bracket, the rule, and the partner of the bracket. -/
def within (d : Delimiter) (body : Rule N) : Rule N :=
  seq (one (· == .opening d)) (seq body (one (· == .closing d)))

/-- Reads a comma-separated list up to the end of the group. -/
def commaList (body : Rule N) : Rule N :=
  list (fun _ => false) Ahead.atEnd body

/-- Reads the comma that another element needs, or nothing at the end of the group. -/
def commaOrEnd : Rule N :=
  choose Ahead.atEnd done (operator ",")

end Rule

end VertexBinding.Source
