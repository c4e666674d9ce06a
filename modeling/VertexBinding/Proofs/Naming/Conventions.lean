import VertexBinding.Proofs.Matching.Choice
import VertexBinding.Proofs.Naming.Cuts
import VertexBinding.Proofs.Text.Ascii
import Mathlib.Data.List.Chain

/-! # Conventions — one name in four spellings

    Words of small letters and words of digits are put together to a name in snake case,
    in capitals, in Pascal case or in camel case.  Two words of digits side by side would
    run together without a separator, and so would two single letters once both are
    capitals; otherwise every spelling is cut into the words it was made of
    (`wordsOf_spell`), and lower case brings them back (`map_lower_parts`).

    So no spelling of a field's name is better than another: all take the same attribute
    from every pool. -/

namespace VertexBinding.Naming

open Text

/-- A word of small letters. -/
def IsLetterWord (w : List Char) : Prop :=
  w ≠ [] ∧ ∀ c ∈ w, c.isLower = true

/-- A word of digits. -/
def IsDigitWord (w : List Char) : Prop :=
  w ≠ [] ∧ ∀ c ∈ w, c.isDigit = true

instance : DecidablePred IsLetterWord :=
  fun w => decidable_of_iff (w ≠ [] ∧ w.all Char.isLower = true)
    (and_congr Iff.rfl List.all_eq_true)

instance : DecidablePred IsDigitWord :=
  fun w => decidable_of_iff (w ≠ [] ∧ w.all Char.isDigit = true)
    (and_congr Iff.rfl List.all_eq_true)

/-- A word of one letter. -/
def IsInitial (w : List Char) : Prop :=
  IsLetterWord w ∧ w.length = 1

instance : DecidablePred IsInitial :=
  fun _ => inferInstanceAs (Decidable (_ ∧ _))

/-- Words that no convention runs together. -/
structure Conventional (ws : List (List Char)) : Prop where
  words : ∀ w ∈ ws, IsLetterWord w ∨ IsDigitWord w
  numbers_apart : ws.IsChain (fun v w => ¬ (IsDigitWord v ∧ IsDigitWord w))
  initials_apart : ws.IsChain (fun v w => ¬ (IsInitial v ∧ IsInitial w))

/-- A word with a capital in front.  Digits have no capitals. -/
def capitalized : List Char → List Char
  | [] => []
  | c :: w => c.toUpper :: w

/-- How words are put together to a name. -/
inductive Convention where
  | snake
  | screamingSnake
  | pascal
  | camel
  deriving DecidableEq, Repr

namespace Convention

/-- The words as they stand in the name. -/
def parts : Convention → List (List Char) → List (List Char)
  | snake, ws => ws
  | screamingSnake, ws => ws.map (·.map Char.toUpper)
  | pascal, ws => ws.map capitalized
  | camel, [] => []
  | camel, w :: ws => w :: ws.map capitalized

/-- The characters of the name. -/
def spell : Convention → List (List Char) → List Char
  | snake, ws => ['_'].intercalate (snake.parts ws)
  | screamingSnake, ws => ['_'].intercalate (screamingSnake.parts ws)
  | pascal, ws => (pascal.parts ws).flatten
  | camel, ws => (camel.parts ws).flatten

/-- The name. -/
def name (k : Convention) (ws : List (List Char)) : String :=
  String.ofList (k.spell ws)

end Convention

/-! ## Letters and digits -/

theorem isLower_iff_toNat {c : Char} : c.isLower = true ↔ 97 ≤ c.toNat ∧ c.toNat ≤ 122 := by
  show (decide (c.val ≥ 97) && decide (c.val ≤ 122)) = true ↔ _
  simp [UInt32.le_iff_toNat_le, ← Char.toNat_val]

theorem isDigit_iff_toNat {c : Char} : c.isDigit = true ↔ 48 ≤ c.toNat ∧ c.toNat ≤ 57 := by
  simp [Char.isDigit, UInt32.le_iff_toNat_le, ← Char.toNat_val]

/-- What a small letter and its capital are. -/
structure LetterFacts (c : Char) : Prop where
  small : CharClass.of c = .lower
  capital : CharClass.of c.toUpper = .upper
  toLower_eq : c.toLower = c
  toLower_toUpper : c.toUpper.toLower = c
  ascii : c.toNat < 128
  ascii_toUpper : c.toUpper.toNat < 128

/-- The facts about small letters, checked for each of them. -/
theorem letterFacts {c : Char} (h : c.isLower = true) : LetterFacts c := by
  have hc : c.toNat < 128 := by
    have := (isLower_iff_toNat.mp h).2
    omega
  have hfacts := forall_ascii (p := fun c => c.isLower = true →
    CharClass.of c = .lower ∧ CharClass.of c.toUpper = .upper ∧ c.toLower = c ∧
      c.toUpper.toLower = c ∧ c.toUpper.toNat < 128) (by decide +kernel) hc h
  obtain ⟨hsmall, hcapital, hlower, hupper, hascii⟩ := hfacts
  exact ⟨hsmall, hcapital, hlower, hupper, hc, hascii⟩

/-- What a digit is, and that it has no capital. -/
structure DigitFacts (c : Char) : Prop where
  digit : CharClass.of c = .digit
  toLower_eq : c.toLower = c
  toUpper_eq : c.toUpper = c
  ascii : c.toNat < 128

/-- The facts about digits, checked for each of them. -/
theorem digitFacts {c : Char} (h : c.isDigit = true) : DigitFacts c := by
  have hc : c.toNat < 128 := by
    have := (isDigit_iff_toNat.mp h).2
    omega
  have hfacts := forall_ascii (p := fun c => c.isDigit = true →
    CharClass.of c = .digit ∧ c.toLower = c ∧ c.toUpper = c) (by decide +kernel) hc h
  obtain ⟨hdigit, hlower, hupper⟩ := hfacts
  exact ⟨hdigit, hlower, hupper, hc⟩

/-! ## One word in its spellings -/

/-- A word as it may stand in a name. -/
inductive Spelled (w : List Char) : List Char → Prop where
  | small : Spelled w w
  | capital : Spelled w (capitalized w)
  | capitals : Spelled w (w.map Char.toUpper)

variable {v w p rest : List Char} {ws : List (List Char)}

/-- A word is spelled with its characters and their capitals, in their order. -/
theorem Spelled.forall₂ (h : Spelled w p) :
    List.Forall₂ (fun c x => x = c ∨ x = c.toUpper) w p := by
  have hsmall : ∀ v : List Char, List.Forall₂ (fun c x => x = c ∨ x = c.toUpper) v v := by
    intro v
    exact List.forall₂_same.mpr (fun c _ => Or.inl rfl)
  cases h with
  | small => exact hsmall w
  | capital =>
      cases w with
      | nil => exact .nil
      | cons c w => exact .cons (Or.inr rfl) (hsmall w)
  | capitals =>
      rw [List.forall₂_map_right_iff]
      exact List.forall₂_same.mpr (fun c _ => Or.inr rfl)

/-- Lower case undoes every spelling. -/
theorem lower_spelled (hw : IsLetterWord w ∨ IsDigitWord w) (h : Spelled w p) : lower p = w := by
  have hchars : ∀ c ∈ w, c.toNat < 128 ∧ c.toUpper.toNat < 128 ∧ c.toLower = c ∧
      c.toUpper.toLower = c := by
    intro c hc
    rcases hw with hw | hw
    · have hf := letterFacts (hw.2 c hc)
      exact ⟨hf.ascii, hf.ascii_toUpper, hf.toLower_eq, hf.toLower_toUpper⟩
    · have hf := digitFacts (hw.2 c hc)
      rw [hf.toUpper_eq]
      exact ⟨hf.ascii, hf.ascii, hf.toLower_eq, hf.toLower_eq⟩
  have hall := (List.forall₂_and_left _ _).mpr ⟨hchars, h.forall₂⟩
  have hback : List.Forall₂ (fun c x => x.toNat < 128 ∧ x.toLower = c) w p := by
    refine hall.imp ?_
    rintro c x ⟨⟨hc, hupper, hlower, hback⟩, rfl | rfl⟩
    · exact ⟨hc, hlower⟩
    · exact ⟨hupper, hback⟩
  clear h hw hchars hall
  have hascii : ∀ x ∈ p, x.toNat < 128 := by
    induction hback with
    | nil => exact List.forall_mem_nil _
    | cons hx _ ih => exact List.forall_mem_cons.mpr ⟨hx.1, ih⟩
  rw [lower_of_ascii hascii]
  clear hascii
  induction hback with
  | nil => rfl
  | cons hx _ ih => rw [List.map_cons, hx.2, ih]

/-- A word of digits is spelled in one way. -/
theorem IsDigitWord.spelled_eq (hw : IsDigitWord w) (h : Spelled w p) : p = w := by
  have hupper : ∀ c ∈ w, c.toUpper = c := fun c hc => (digitFacts (hw.2 c hc)).toUpper_eq
  cases h with
  | small => rfl
  | capital =>
      cases w with
      | nil => rfl
      | cons c w => rw [capitalized, hupper c (List.mem_cons_self ..)]
  | capitals => exact (List.map_congr_left hupper).trans (List.map_id' w)

/-- **ONE WORD**: however a word is spelled, it is not cut. -/
theorem wordsOf_spelled (hw : IsLetterWord w ∨ IsDigitWord w) (h : Spelled w p) :
    wordsOf p = [p] := by
  rcases hw with ⟨hne, hletters⟩ | hdigits
  · have hsmall : ∀ c ∈ w, CharClass.of c = .lower :=
      fun c hc => (letterFacts (hletters c hc)).small
    cases h with
    | small => exact wordsOf_uniform (by decide) hne hsmall
    | capital =>
        cases w with
        | nil => exact absurd rfl hne
        | cons c w =>
            exact wordsOf_capital (letterFacts (hletters c (List.mem_cons_self ..))).capital
              (List.forall_mem_cons.mp hsmall).2
    | capitals =>
        have hne' : w.map Char.toUpper ≠ [] := fun h => hne (List.map_eq_nil_iff.mp h)
        refine wordsOf_uniform (k := .upper) (by decide) hne' ?_
        rw [List.forall_mem_map]
        exact fun c hc => (letterFacts (hletters c hc)).capital
  · rw [hdigits.spelled_eq h]
    refine wordsOf_uniform (k := .digit) (by decide) hdigits.1 ?_
    exact fun c hc => (digitFacts (hdigits.2 c hc)).digit

/-! ## Words one behind the other -/

/-- A word that stands in a run of capitalized words. -/
def Stands (w p : List Char) : Prop :=
  p = w ∨ p = capitalized w

theorem Stands.spelled (h : Stands w p) : Spelled w p := by
  rcases h with rfl | rfl
  · exact .small
  · exact .capital

/-- The last letter of a word is a capital only if the word has no other. -/
theorem IsLetterWord.last (hw : IsLetterWord w) (h : Stands w p) :
    ∀ c ∈ p.getLast?, CharClass.of c = .lower ∨ (IsInitial w ∧ CharClass.of c = .upper) := by
  intro c hc
  have hsmall : ∀ c ∈ w, CharClass.of c = .lower := fun c hc => (letterFacts (hw.2 c hc)).small
  rcases h with rfl | rfl
  · exact Or.inl (hsmall c (List.mem_of_getLast? hc))
  · cases w with
    | nil => exact nomatch hc
    | cons d w =>
        cases w with
        | nil =>
            obtain rfl := Option.some.inj hc
            exact Or.inr ⟨⟨hw, rfl⟩, (letterFacts (hw.2 d (List.mem_cons_self ..))).capital⟩
        | cons e w =>
            rw [capitalized, List.getLast?_cons_cons] at hc
            exact Or.inl (hsmall c (List.mem_cons_of_mem d (List.mem_of_getLast? hc)))

theorem IsDigitWord.last (hw : IsDigitWord w) (h : Stands w p) :
    ∀ c ∈ p.getLast?, CharClass.of c = .digit := by
  intro c hc
  rw [hw.spelled_eq h.spelled] at hc
  exact (digitFacts (hw.2 c (List.mem_of_getLast? hc))).digit

/-- **A CUT FALLS** in front of every capitalized word, but for two initials or two words
    of digits. -/
theorem cutBetween_capitalized (hv : IsLetterWord v ∨ IsDigitWord v)
    (hw : IsLetterWord w ∨ IsDigitWord w) (hnumbers : ¬ (IsDigitWord v ∧ IsDigitWord w))
    (hinitials : ¬ (IsInitial v ∧ IsInitial w)) (hp : Stands v p) :
    CutBetween p (capitalized w ++ rest) := by
  intro c hc
  refine Or.inr ?_
  rcases hw with hw | hw
  · obtain ⟨d, ds, rfl⟩ := List.exists_cons_of_ne_nil hw.1
    have hd := (letterFacts (hw.2 d (List.mem_cons_self ..))).capital
    rcases hv with hv | hv
    · rcases hv.last hp c hc with hclass | ⟨hinitial, hclass⟩
      · simp [capitalized, joins, hclass, hd, isCut]
      · -- a capital in front: the next word is longer, so a small letter comes behind its own
        cases ds with
        | nil => exact absurd ⟨hinitial, hw, rfl⟩ hinitials
        | cons e ds =>
            have he := (letterFacts (hw.2 e (by simp))).small
            simp [capitalized, joins, hclass, hd, he, isCut]
    · simp [capitalized, joins, hv.last hp c hc, hd, isCut]
  · rcases hv with hv | hv
    · obtain ⟨d, ds, rfl⟩ := List.exists_cons_of_ne_nil hw.1
      have hd := (digitFacts (hw.2 d (List.mem_cons_self ..)))
      rw [capitalized, hd.toUpper_eq]
      rcases hv.last hp c hc with hclass | ⟨-, hclass⟩
      · simp [joins, hclass, hd.digit, isCut]
      · simp [joins, hclass, hd.digit, isCut]
    · exact absurd ⟨hv, hw⟩ hnumbers

/-- What follows the first word of a conventional list is conventional too. -/
theorem Conventional.tail (h : Conventional (w :: ws)) : Conventional ws :=
  ⟨(List.forall_mem_cons.mp h.words).2, h.numbers_apart.tail, h.initials_apart.tail⟩

/-- Behind a first word, words that begin with a capital are told apart where they are joined. -/
theorem wordsOf_capitals (h : Conventional (w :: ws)) (hp : Stands w p) :
    wordsOf (p ++ (ws.map capitalized).flatten) = p :: ws.map capitalized := by
  induction ws generalizing w p with
  | nil =>
      rw [List.map_nil, List.flatten_nil, List.append_nil]
      exact wordsOf_spelled (h.words w (List.mem_cons_self ..)) hp.spelled
  | cons v ws ih =>
      have hw := h.words w (List.mem_cons_self ..)
      have hv := h.tail.words v (List.mem_cons_self ..)
      have hcut : CutBetween p (capitalized v ++ (ws.map capitalized).flatten) :=
        cutBetween_capitalized hw hv (List.isChain_cons_cons.mp h.numbers_apart).1
          (List.isChain_cons_cons.mp h.initials_apart).1 hp
      rw [List.map_cons, List.flatten_cons, wordsOf_append hcut, wordsOf_spelled hw hp.spelled,
        ih h.tail (Or.inr rfl)]
      rfl

/-! ## Names -/

/-- Each part that a convention writes is a spelling of its word. -/
theorem spelled_of_parts (k : Convention) (ws : List (List Char)) :
    List.Forall₂ Spelled ws (k.parts ws) := by
  have hcapitals : ∀ vs : List (List Char), List.Forall₂ Spelled vs (vs.map capitalized) := by
    intro vs
    rw [List.forall₂_map_right_iff]
    exact List.forall₂_same.mpr (fun w _ => .capital)
  cases k with
  | snake => exact List.forall₂_same.mpr (fun w _ => .small)
  | screamingSnake =>
      rw [Convention.parts, List.forall₂_map_right_iff]
      exact List.forall₂_same.mpr (fun w _ => .capitals)
  | pascal => exact hcapitals ws
  | camel =>
      cases ws with
      | nil => exact .nil
      | cons w ws => exact .cons .small (hcapitals ws)

/-- Lower case brings the words back. -/
theorem map_lower_parts (h : Conventional ws) (k : Convention) :
    (k.parts ws).map lower = ws := by
  have hall := (List.forall₂_and_left _ _).mpr ⟨h.words, spelled_of_parts k ws⟩
  have hlower : List.Forall₂ (fun w p => lower p = w) ws (k.parts ws) :=
    hall.imp (fun w p h => lower_spelled h.1 h.2)
  rw [← List.forall₂_eq_eq_eq, List.forall₂_map_left_iff]
  exact hlower.flip

/-- **NAMES ARE CUT** into the words they were made of. -/
theorem wordsOf_spell (h : Conventional ws) (k : Convention) :
    wordsOf (k.spell ws) = k.parts ws := by
  have hsingle : ∀ p ∈ k.parts ws, wordsOf p = [p] := by
    have hall := (List.forall₂_and_left _ _).mpr ⟨h.words, spelled_of_parts k ws⟩
    have hwords : List.Forall₂ (fun p w => wordsOf p = [p] ∧ True) (k.parts ws) ws :=
      hall.flip.imp (fun p w h => ⟨wordsOf_spelled h.1 h.2, trivial⟩)
    exact ((List.forall₂_and_left _ _).mp hwords).1
  have hscore : CharClass.of '_' = .separator := by decide
  cases k with
  | snake => exact wordsOf_intercalate hscore hsingle
  | screamingSnake => exact wordsOf_intercalate hscore hsingle
  | pascal =>
      cases ws with
      | nil => rfl
      | cons w ws => exact wordsOf_capitals h (Or.inr rfl)
  | camel =>
      cases ws with
      | nil => rfl
      | cons w ws => exact wordsOf_capitals h (Or.inl rfl)

/-- The canonical words of a name are those of its words. -/
theorem fieldWords_name (h : Conventional ws) (k : Convention) :
    fieldWords (k.name ws) = ws.map synonymOf := by
  rw [fieldWords, Convention.name, String.toList_ofList, canonicalWords, wordsOf_spell h k]
  have hparts := congrArg (List.map synonymOf) (map_lower_parts h k)
  rwa [List.map_map] at hparts

/-- **CONVENTIONS ARE INTERCHANGEABLE**: a name in any of the four conventions is split into
    its words, up to case, so its canonical words are the same in all.  A field of that name
    takes the same attribute from a pool and leaves the same pool, whatever the convention,
    or fits nothing in any. -/
theorem conventions_interchangeable (h : Conventional ws) :
    (∀ k : Convention, (splitWords (k.name ws)).map (fun w => lower w.toList) = ws) ∧
      (∀ k k' : Convention, SameWords (fieldWords (k.name ws)) (fieldWords (k'.name ws))) ∧
      ∀ (pool : Pool) (k k' : Convention) (type type' : String),
        (∃ c rest, pool.takeBest ⟨k.name ws, type⟩ = .ok (c, rest) ∧
          pool.takeBest ⟨k'.name ws, type'⟩ = .ok (c, rest)) ∨
        ∃ e e', pool.takeBest ⟨k.name ws, type⟩ = .error e ∧
          pool.takeBest ⟨k'.name ws, type'⟩ = .error e' := by
  have hsame : ∀ k k' : Convention,
      SameWords (fieldWords (k.name ws)) (fieldWords (k'.name ws)) := by
    intro k k'
    rw [fieldWords_name h k, fieldWords_name h k']
    exact sameWords_of_eq rfl
  refine ⟨?_, hsame, ?_⟩
  · intro k
    have hwords := map_toList_splitWords (k.name ws)
    rw [Convention.name, String.toList_ofList, wordsOf_spell h k] at hwords
    have hlower := congrArg (List.map lower) hwords
    rw [List.map_map, map_lower_parts h k] at hlower
    exact hlower
  · intro pool k k' type type'
    exact pool.takeBest_respelled (hsame k k')

/-- Initials next to digits and to longer words, and digits next to each kind. -/
theorem conventions_interchangeable_initials :
    Conventional [['u'], ['v', 's'], ['2'], ['x']] ∧
      Convention.pascal.name [['u'], ['v', 's'], ['2'], ['x']] = "UVs2X" ∧
      Convention.camel.name [['u'], ['v', 's'], ['2'], ['x']] = "uVs2X" ∧
      ∀ k : Convention, (splitWords (k.name [['u'], ['v', 's'], ['2'], ['x']])).map
        (fun w => lower w.toList) = [['u'], ['v', 's'], ['2'], ['x']] := by
  have h : Conventional [['u'], ['v', 's'], ['2'], ['x']] :=
    ⟨by decide, by decide, by decide⟩
  exact ⟨h, by decide, by decide, (conventions_interchangeable h).1⟩

end VertexBinding.Naming
