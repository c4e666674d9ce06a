import VertexBinding.Emission.Names
import VertexBinding.Proofs.Text.Classes
import VertexBinding.Proofs.Text.Runs
import VertexBinding.Source.StructItem

/-! # Words of a source — what is read as a word is read so again

    A word of a source is an identifier, or an identifier with the mark of a raw one in
    front that may be raw (`IsSourceWord`).  Reading gives no other words
    (`isSourceWord_of_mem_tokens`), and such a word on its own is read as the one token
    it is (`IsSourceWord.tokens`).

    The second half goes through every kind of token that comes before words: the
    characters of identifiers are no white space, no brackets and no signs, and a literal
    that begins with letters has a quote or a number sign behind them. -/

namespace VertexBinding.Source

open Text

/-- A character that may stand somewhere in an identifier. -/
def isIdentifierChar (c : Char) : Bool :=
  isIdentifierStart c || isIdentifierContinue c

/-- One character that begins an identifier, and any number that go on with it. -/
def IsIdentifier (name : List Char) : Prop :=
  ∃ c rest, name = c :: rest ∧ isIdentifierStart c = true ∧
    ∀ d ∈ rest, isIdentifierContinue d = true

/-- A word that can stand in a source. -/
inductive IsSourceWord : String → Prop where
  | plain {name : List Char} (hname : IsIdentifier name) : IsSourceWord (String.ofList name)
  | raw {name : List Char} (hname : IsIdentifier name) (hraw : String.ofList name ∉ neverRaw) :
      IsSourceWord (String.ofList ('r' :: '#' :: name))

/-! ## Characters -/

theorem IsIdentifier.isIdentifierChar {name : List Char} (h : IsIdentifier name) {c : Char}
    (hc : c ∈ name) : isIdentifierChar c = true := by
  obtain ⟨first, rest, rfl, hfirst, hrest⟩ := h
  rw [Source.isIdentifierChar, Bool.or_eq_true]
  rcases List.mem_cons.mp hc with rfl | hc
  · exact Or.inl hfirst
  · exact Or.inr (hrest c hc)

/-- A character that no identifier has is not in this one. -/
theorem IsIdentifier.not_mem {name : List Char} (h : IsIdentifier name) {c : Char}
    (hc : Source.isIdentifierChar c = false) : c ∉ name := by
  intro hmem
  rw [h.isIdentifierChar hmem] at hc
  exact nomatch hc

/-- The code points that set tokens apart: those of white space, the two marks of direction
    and the mark of byte order. -/
def spaceMembers : List Nat :=
  members blankBounds ++ ['\u200e'.toNat, '\u200f'.toNat, '\uFEFF'.toNat]

/-- No code point that sets tokens apart is in the tables of identifiers.  They are few, so
    each one is looked up. -/
theorem space_members_not_identifier : ∀ n ∈ spaceMembers,
    (n == '_'.toNat || inBounds identifierStartBounds n
      || inBounds identifierContinueBounds n) = false := by
  decide +kernel

theorem not_isIdentifierChar_of_mem {c : Char} (h : c.toNat ∈ spaceMembers) :
    isIdentifierChar c = false := by
  have hclass := space_members_not_identifier c.toNat h
  rw [Bool.or_eq_false_iff, Bool.or_eq_false_iff] at hclass
  obtain ⟨⟨hscore, hstart⟩, hcontinue⟩ := hclass
  have hne : (c == '_') = false := by
    rw [beq_eq_false_iff_ne]
    rintro rfl
    exact nomatch hscore
  rw [isIdentifierChar, isIdentifierStart, isIdentifierContinue, hne, hstart, hcontinue]
  rfl

/-- White space does not stand in an identifier. -/
theorem not_isIdentifierChar_of_isBlank {c : Char} (h : isBlank c = true) :
    isIdentifierChar c = false :=
  not_isIdentifierChar_of_mem
    (List.mem_append_left _ (mem_members_of_inBounds (by decide) h))

/-- Neither does what sets tokens apart. -/
theorem not_isIdentifierChar_of_isSpace {c : Char} (h : isSpace c = true) :
    isIdentifierChar c = false := by
  rw [isSpace, Bool.or_eq_true, Bool.or_eq_true] at h
  rcases h with (h | h) | h
  · exact not_isIdentifierChar_of_isBlank h
  · rw [beq_iff_eq.mp h]
    exact not_isIdentifierChar_of_mem (List.mem_append_right _ (by decide))
  · rw [beq_iff_eq.mp h]
    exact not_isIdentifierChar_of_mem (List.mem_append_right _ (by decide))

/-! ## Reading gives words -/

/-- Reading an identifier gives one. -/
theorem isIdentifier_of_identifier? {s name behind : List Char}
    (h : identifier? s = some (name, behind)) : IsIdentifier name := by
  cases s with
  | nil => exact nomatch h
  | cons c rest =>
      rw [identifier?] at h
      by_cases hc : isIdentifierStart c = true
      · rw [if_pos hc] at h
        obtain ⟨rfl, -⟩ := Prod.mk.inj (Option.some.inj h)
        exact ⟨c, _, rfl, hc, List.all_eq_true.mp List.all_takeWhile⟩
      · rw [if_neg hc] at h
        exact nomatch h

/-- Reading a word gives a word of a source, raw or not. -/
theorem isSourceWord_of_word? {s behind : List Char} {w : String}
    (h : word? s = some (w, behind)) : IsSourceWord w := by
  unfold word? at h
  split at h
  · split at h
    · next hname =>
        split at h
        · exact nomatch h
        · next hraw =>
            obtain ⟨rfl, -⟩ := Prod.mk.inj (Option.some.inj h)
            refine .raw (isIdentifier_of_identifier? hname) ?_
            rwa [List.contains_iff_mem] at hraw
    · exact nomatch h
  · obtain ⟨⟨name, behind'⟩, hname, h⟩ := Option.map_eq_some_iff.mp h
    obtain ⟨rfl, -⟩ := Prod.mk.inj h
    exact .plain (isIdentifier_of_identifier? hname)

/-- A token that is a word was read as one: lifetimes and signs are tried before. -/
theorem isSourceWord_of_leaf? {s behind : List Char} {w : String}
    (h : leaf? s = some (.word w, behind)) : IsSourceWord w := by
  unfold leaf? at h
  split at h
  -- a lifetime or a sign is no word
  · split at h
    · split at h
      · split at h
        · exact nomatch h
        · exact nomatch h
      · exact nomatch h
    · exact nomatch h
    · exact nomatch h
  · split at h
    · exact nomatch h
    · obtain ⟨⟨name, behind'⟩, hname, h⟩ := Option.map_eq_some_iff.mp h
      obtain ⟨ht, -⟩ := Prod.mk.inj h
      obtain rfl := Token.word.inj ht
      exact isSourceWord_of_word? hname

/-- The one word of a documentation attribute is its name. -/
theorem isSourceWord_of_mem_docTokens {text : List Char} {ts : List Token} {w : String}
    (h : docTokens? text = some ts) (hw : Token.word w ∈ ts) : IsSourceWord w := by
  unfold docTokens? at h
  split at h
  · exact nomatch h
  · obtain rfl := Option.some.inj h
    have hdoc : w = "doc" := by
      split at hw <;> simpa using hw
    rw [hdoc]
    exact @IsSourceWord.plain ['d', 'o', 'c']
      ⟨'d', ['o', 'c'], rfl, by decide, List.all_eq_true.mp (by decide)⟩

/-- A comment gives the tokens of its documentation, or none. -/
theorem isSourceWord_of_mem_comment {isDoc : Bool} {comment rest behind : List Char}
    {ts : List Token} {w : String}
    (h : (if isDoc then (docTokens? comment).map (·, rest) else some ([], rest))
      = some (ts, behind)) (hw : Token.word w ∈ ts) : IsSourceWord w := by
  split at h
  · obtain ⟨doc, hdoc, h⟩ := Option.map_eq_some_iff.mp h
    obtain ⟨rfl, -⟩ := Prod.mk.inj h
    exact isSourceWord_of_mem_docTokens hdoc hw
  · obtain ⟨rfl, -⟩ := Prod.mk.inj (Option.some.inj h)
    exact nomatch hw

/-- The words of a lexeme, whichever of its kinds it is. -/
theorem isSourceWord_of_mem_lexeme {s behind : List Char} {ts : List Token} {w : String}
    (h : lexeme? s = some (ts, behind)) (hw : Token.word w ∈ ts) : IsSourceWord w := by
  unfold lexeme? at h
  split at h
  · exact nomatch h
  -- the two kinds of comments
  · exact isSourceWord_of_mem_comment h hw
  · split at h
    · exact isSourceWord_of_mem_comment h hw
    · exact nomatch h
  -- everything else
  · split at h
    · obtain ⟨rfl, -⟩ := Prod.mk.inj (Option.some.inj h)
      exact nomatch hw
    · split at h
      · next t hbracket =>
          obtain ⟨rfl, -⟩ := Prod.mk.inj (Option.some.inj h)
          obtain rfl := List.mem_singleton.mp hw
          unfold bracket? at hbracket
          split at hbracket <;> exact nomatch hbracket
      · split at h
        · obtain ⟨rfl, -⟩ := Prod.mk.inj (Option.some.inj h)
          exact nomatch List.mem_singleton.mp hw
        · obtain ⟨⟨t, behind'⟩, hleaf, h⟩ := Option.map_eq_some_iff.mp h
          obtain ⟨rfl, -⟩ := Prod.mk.inj h
          obtain rfl := List.mem_singleton.mp hw
          exact isSourceWord_of_leaf? hleaf

/-- The words of a text, lexeme by lexeme. -/
theorem isSourceWord_of_mem_lexemes {size : Nat} {s : List Char} {ts : List Token} {w : String}
    (h : lexemes? size s = some ts) (hw : Token.word w ∈ ts) : IsSourceWord w := by
  induction size generalizing s ts with
  | zero =>
      cases s with
      | nil =>
          obtain rfl := Option.some.inj h
          exact nomatch hw
      | cons c rest => exact nomatch h
  | succ size ih =>
      cases s with
      | nil =>
          obtain rfl := Option.some.inj h
          exact nomatch hw
      | cons c rest =>
          rw [lexemes?] at h
          split at h
          · next us behind hlexeme =>
              obtain ⟨vs, hvs, rfl⟩ := Option.map_eq_some_iff.mp h
              rcases List.mem_append.mp hw with hw | hw
              · exact isSourceWord_of_mem_lexeme hlexeme hw
              · exact ih hvs hw
          · exact nomatch h

/-- **ONLY WORDS**: what reading gives as a word is one. -/
theorem isSourceWord_of_mem_tokens {source : List Char} {ts : List Token} {w : String}
    (h : tokens? source = some ts) (hw : Token.word w ∈ ts) : IsSourceWord w := by
  unfold tokens? at h
  split at h
  · next us hus =>
      split at h
      · obtain rfl := Option.some.inj h
        exact isSourceWord_of_mem_lexemes hus hw
      · exact nomatch h
  · exact nomatch h

/-! ## A word on its own -/

theorem isSpace_eq_false {c : Char} (h : isIdentifierChar c = true) : isSpace c = false := by
  cases hspace : isSpace c with
  | false => rfl
  | true =>
      rw [not_isIdentifierChar_of_isSpace hspace] at h
      exact nomatch h

/-- No bracket begins an identifier. -/
theorem bracket?_eq_none {c : Char} (h : isIdentifierChar c = true) : bracket? c = none := by
  unfold bracket?
  split
  all_goals first
    | rfl
    | exact absurd h (by decide)

/-- No sign begins an identifier: the signs are tried one by one. -/
theorem startsSign_eq_false {c : Char} (h : isIdentifierChar c = true) (rest : List Char) :
    startsSign (c :: rest) = false := by
  unfold startsSign
  split
  · next heq =>
      obtain ⟨rfl, -⟩ := List.cons.inj heq
      exact absurd h (by decide)
  · next heq =>
      obtain ⟨rfl, -⟩ := List.cons.inj heq
      exact absurd h (by decide)
  · next c' _ _ _ heq =>
      obtain ⟨rfl, -⟩ := List.cons.inj heq
      rw [isSignChar, ← Bool.not_eq_true, List.contains_iff_mem]
      intro hmem
      have hsigns : "~!@#$%^&*-=+|;:,<.>/?'".toList.all (fun x => !isIdentifierChar x) = true := by
        decide
      have hsign := List.all_eq_true.mp hsigns c hmem
      rw [h] at hsign
      exact nomatch hsign
  · rfl

/-- No digit begins an identifier. -/
theorem isDigit_eq_false {c : Char} (h : isIdentifierStart c = true) : isDigit c = false := by
  rw [← Bool.not_eq_true, isDigit, Bool.and_eq_true, decide_eq_true_eq, decide_eq_true_eq]
  rintro ⟨-, hnine⟩
  have hlt : c.toNat < 0x41 := by
    have hle : c.toNat ≤ '9'.toNat := hnine
    exact Nat.lt_of_le_of_lt hle (by decide)
  rw [isIdentifierStart, Bool.or_eq_true, beq_iff_eq] at h
  rcases h with rfl | h
  · exact absurd hlt (by decide)
  · rw [identifierStartBounds, inBounds_cons, if_pos hlt] at h
    exact nomatch h

/-- A raw text has a quote behind its hashes. -/
theorem rawText?_eq_none {k : Quoted} {s : List Char} (h : '"' ∉ s) : rawText? k s = none := by
  rw [rawText?]
  split
  · next rest hquote =>
      exact absurd (List.mem_of_mem_drop (hquote ▸ List.mem_cons_self ..)) h
  · rfl

/-- Every kind of text has a quote. -/
theorem textLiteral?_eq_none {s : List Char} (h : '"' ∉ s) : textLiteral? s = none := by
  unfold textLiteral?
  split
  · exact absurd (List.mem_cons_self ..) h
  · exact rawText?_eq_none (fun hmem => h (List.mem_cons_of_mem _ hmem))
  · exact absurd (List.mem_cons_of_mem _ (List.mem_cons_self ..)) h
  · exact rawText?_eq_none (fun hmem => h (List.mem_cons_of_mem _ (List.mem_cons_of_mem _ hmem)))
  · exact absurd (List.mem_cons_of_mem _ (List.mem_cons_self ..)) h
  · exact rawText?_eq_none (fun hmem => h (List.mem_cons_of_mem _ (List.mem_cons_of_mem _ hmem)))
  · rfl

/-- A character has quotes of its own. -/
theorem charLiteral?_eq_none {s : List Char} (h : '\'' ∉ s) : charLiteral? s = none := by
  unfold charLiteral?
  split
  · exact absurd (List.mem_cons_self ..) h
  · exact absurd (List.mem_cons_of_mem _ (List.mem_cons_self ..)) h
  · rfl

/-- A literal has a quote or begins with a digit. -/
theorem literal?_eq_none {c : Char} {rest : List Char} (hdouble : '"' ∉ c :: rest)
    (hsingle : '\'' ∉ c :: rest) (hdigit : isDigit c = false) : literal? (c :: rest) = none := by
  have hnumber : numberLiteral? (c :: rest) = none := by
    rw [numberLiteral?, List.head?_cons, Option.any_some, hdigit]
    rfl
  rw [literal?, textLiteral?_eq_none hdouble]
  dsimp only
  rw [charLiteral?_eq_none hsingle]
  exact hnumber

/-- An identifier on its own is read as a whole. -/
theorem IsIdentifier.identifier? {name : List Char} (h : IsIdentifier name) :
    identifier? name = some (name, []) := by
  obtain ⟨c, rest, rfl, hc, hrest⟩ := h
  have hrun : IsRun isIdentifierContinue rest [] := ⟨hrest, nofun⟩
  have htake := hrun.takeWhile
  have hdrop := hrun.dropWhile
  rw [List.append_nil] at htake hdrop
  rw [Source.identifier?, if_pos hc, htake, hdrop]

/-- What a word of a source looks like to the reader. -/
theorem IsSourceWord.shape {w : String} (h : IsSourceWord w) :
    ∃ c rest, w.toList = c :: rest ∧ isIdentifierStart c = true ∧
      (∀ x, isIdentifierChar x = false → x ≠ '#' → x ∉ c :: rest) ∧
      literalOpenings.any (fun p => p.toList.isPrefixOf (c :: rest)) = false ∧
      word? (c :: rest) = some (w, []) := by
  cases h with
  | @plain name hname =>
      obtain ⟨c, rest, rfl, hc, hrest⟩ := id hname
      refine ⟨c, rest, String.toList_ofList, hc, fun x hx _ => hname.not_mem hx, ?_, ?_⟩
      · rw [List.any_eq_false]
        intro p hp hbegins
        have hforeign : literalOpenings.all
            (fun p => p.toList.any (fun x => !isIdentifierChar x)) = true := by
          decide
        obtain ⟨x, hx, hclass⟩ := List.any_eq_true.mp (List.all_eq_true.mp hforeign p hp)
        rw [Bool.not_eq_true'] at hclass
        exact hname.not_mem hclass ((List.isPrefixOf_iff_prefix.mp hbegins).subset hx)
      · unfold word?
        split
        · next heq =>
            have hmem : '#' ∈ c :: rest := by
              rw [heq]
              simp
            exact absurd hmem (hname.not_mem (by decide))
        · rw [hname.identifier?]
          rfl
  | @raw name hname hraw =>
      obtain ⟨c, rest, rfl, hc, hrest⟩ := id hname
      refine ⟨'r', '#' :: c :: rest, String.toList_ofList, by decide, ?_, ?_, ?_⟩
      · intro x hx hne hmem
        rcases List.mem_cons.mp hmem with rfl | hmem
        · exact absurd hx (by decide)
        · rcases List.mem_cons.mp hmem with rfl | hmem
          · exact hne rfl
          · exact hname.not_mem hx hmem
      · have hsharp : ('#' == c) = false := by
          rw [beq_eq_false_iff_ne]
          rintro rfl
          exact absurd hc (by decide)
        have hquote : ('"' == c) = false := by
          rw [beq_eq_false_iff_ne]
          rintro rfl
          exact absurd hc (by decide)
        simp [literalOpenings, List.isPrefixOf, hsharp, hquote]
      · rw [word?, hname.identifier?]
        dsimp only
        rw [if_neg]
        rw [List.contains_iff_mem]
        exact hraw

/-- No character stands in a word of a source but those of identifiers and the mark of a
    raw one. -/
theorem IsSourceWord.not_mem {w : String} (h : IsSourceWord w) {x : Char}
    (hx : isIdentifierChar x = false) (hne : x ≠ '#') : x ∉ w.toList := by
  obtain ⟨c, rest, hw, -, hforeign, -⟩ := h.shape
  rw [hw]
  exact hforeign x hx hne

/-- A word on its own is one lexeme: nothing else can begin as it does. -/
theorem IsSourceWord.lexeme? {w : String} (h : IsSourceWord w) :
    lexeme? w.toList = some ([.word w], []) := by
  obtain ⟨c, rest, hw, hstart, hforeign, hopenings, hword⟩ := h.shape
  have hc : isIdentifierChar c = true := by
    rw [isIdentifierChar, hstart]
    rfl
  have hliteral : literal? (c :: rest) = none :=
    literal?_eq_none (hforeign '"' (by decide) (by decide))
      (hforeign '\'' (by decide) (by decide)) (isDigit_eq_false hstart)
  have hleaf : leaf? (c :: rest) = some (.word w, []) := by
    unfold leaf?
    rw [startsSign_eq_false hc, hopenings, hword]
    rfl
  rw [hw]
  unfold Source.lexeme?
  split
  · next heq => exact nomatch heq
  · next heq =>
      obtain ⟨rfl, -⟩ := List.cons.inj heq
      exact absurd hstart (by decide)
  · next heq =>
      obtain ⟨rfl, -⟩ := List.cons.inj heq
      exact absurd hstart (by decide)
  · next heq =>
      obtain ⟨rfl, rfl⟩ := List.cons.inj heq
      rw [isSpace_eq_false hc, bracket?_eq_none hc, hliteral, hleaf]
      rfl

/-- **A WORD AGAIN**: a word of a source on its own is read as one token. -/
theorem IsSourceWord.tokens {w : String} (h : IsSourceWord w) :
    tokens? w.toList = some [.word w] := by
  have hlexeme := h.lexeme?
  obtain ⟨c, rest, hw, hstart, -⟩ := h.shape
  have hmark : dropMark (c :: rest) = c :: rest := by
    unfold dropMark
    split
    · next heq =>
        obtain ⟨rfl, -⟩ := List.cons.inj heq
        have hspace : isIdentifierChar '\uFEFF' = false :=
          not_isIdentifierChar_of_mem (List.mem_append_right _ (by decide))
        rw [isIdentifierChar, hstart] at hspace
        exact nomatch hspace
    · rfl
  rw [hw] at hlexeme
  have hlexemes : lexemes? (c :: rest).length (c :: rest) = some [.word w] := by
    rw [List.length_cons, lexemes?, hlexeme]
    cases rest <;> rfl
  rw [hw, tokens?, hmark, hlexemes]
  rfl

end VertexBinding.Source
