import VertexBinding.Naming.Words

/-! # Segmentation — which characters of a name share a word

    The words of a name are its characters without the separators, in order, so every
    character that is no separator stands in one word, and `holder?` numbers that word.
    Neighbours stand in one word unless their classes part them (`Parts`); a separator
    always parts what is on its two sides.

    Everything is read off one fact: a character in front of a name moves the numbers of
    all words behind it alike (`holder?_cons`), so neighbours may be looked at as if they
    began the name (`exists_shift`). -/

namespace VertexBinding.Naming

/-- The characters of a name that are no separators. -/
def dropSeparators (name : List Char) : List Char :=
  name.filter (fun c => CharClass.of c != .separator)

/-- Two neighbours of these classes stand in different words, where `next` is the class
    of the character behind them. -/
inductive Parts : CharClass → CharClass → Option CharClass → Prop
  | upperAfterLower (next : Option CharClass) : Parts .lower .upper next
  | upperAfterDigit (next : Option CharClass) : Parts .digit .upper next
  | digitAfterUpper (next : Option CharClass) : Parts .upper .digit next
  | digitAfterLower (next : Option CharClass) : Parts .lower .digit next
  | lowerAfterDigit (next : Option CharClass) : Parts .digit .lower next
  /-- The last of several capitals begins the word of the small letter behind it. -/
  | lastCapital : Parts .upper .upper (some .lower)

/-- The test and the relation agree, class by class. -/
theorem isCut_eq_true_iff {a b : CharClass} {next : Option CharClass} :
    isCut a b next = true ↔ Parts a b next := by
  constructor
  · intro h
    unfold isCut at h
    split at h
    · exact .upperAfterLower next
    · exact .upperAfterDigit next
    · exact .digitAfterUpper next
    · exact .digitAfterLower next
    · exact .lowerAfterDigit next
    · rw [beq_iff_eq] at h
      subst h
      exact .lastCapital
    · exact nomatch h
  · intro h
    cases h <;> rfl

instance (a b : CharClass) (next : Option CharClass) : Decidable (Parts a b next) :=
  decidable_of_iff _ isCut_eq_true_iff

/-- The numbers of the words in which the characters of a row of words stand. -/
def holders : List (List Char) → List Nat
  | [] => []
  | w :: ws => w.map (fun _ => 0) ++ (holders ws).map (· + 1)

/-- The number of the word in which a character of a name stands, from the words of the
    name and what is before the character. -/
def holder? (words : List (List Char)) (before : List Char) : Option Nat :=
  (holders words)[(dropSeparators before).length]?

/-! ## Words and their characters -/

theorem wordsOf_ne_nil {c : Char} (hc : CharClass.of c ≠ .separator) (rest : List Char) :
    wordsOf (c :: rest) ≠ [] := by
  by_cases hjoins : joins c rest = true
  · rw [wordsOf_cons_joins hc hjoins]
    cases wordsOf rest with
    | nil => exact List.cons_ne_nil _ _
    | cons w ws => exact List.cons_ne_nil _ _
  · rw [wordsOf_cons_alone hc (Bool.not_eq_true _ ▸ hjoins)]
    exact List.cons_ne_nil _ _

/-- Only a character that is no separator can be joined to. -/
theorem wordsOf_ne_nil_of_joins {c : Char} {rest : List Char} (h : joins c rest = true) :
    wordsOf rest ≠ [] := by
  cases rest with
  | nil => exact nomatch h
  | cons d rest =>
      rw [joins, Bool.and_eq_true, bne_iff_ne] at h
      exact wordsOf_ne_nil h.1 rest

theorem flatten_consFirst (c : Char) (ws : List (List Char)) :
    (consFirst c ws).flatten = c :: ws.flatten := by
  cases ws with
  | nil => rfl
  | cons w ws => rfl

/-- **NOTHING IS LOST**: the words of a name are its characters but for the separators. -/
theorem flatten_wordsOf (name : List Char) : (wordsOf name).flatten = dropSeparators name := by
  induction name with
  | nil => rfl
  | cons c rest ih =>
      by_cases hc : CharClass.of c = .separator
      · rw [wordsOf_cons_separator hc, ih]
        simp [dropSeparators, hc]
      · have hkept : dropSeparators (c :: rest) = c :: dropSeparators rest := by
          simp [dropSeparators, hc]
        rw [hkept, ← ih]
        by_cases hjoins : joins c rest = true
        · rw [wordsOf_cons_joins hc hjoins, flatten_consFirst]
        · rw [wordsOf_cons_alone hc (Bool.not_eq_true _ ▸ hjoins)]
          rfl

theorem ne_nil_of_mem_wordsOf {name w : List Char} (h : w ∈ wordsOf name) : w ≠ [] := by
  induction name generalizing w with
  | nil => exact nomatch h
  | cons c rest ih =>
      by_cases hc : CharClass.of c = .separator
      · rw [wordsOf_cons_separator hc] at h
        exact ih h
      · by_cases hjoins : joins c rest = true
        · rw [wordsOf_cons_joins hc hjoins] at h
          cases hwords : wordsOf rest with
          | nil => exact absurd hwords (wordsOf_ne_nil_of_joins hjoins)
          | cons v vs =>
              rw [hwords, consFirst] at h
              rcases List.mem_cons.mp h with rfl | hv
              · exact List.cons_ne_nil _ _
              · exact ih (hwords ▸ List.mem_cons_of_mem v hv)
        · rw [wordsOf_cons_alone hc (Bool.not_eq_true _ ▸ hjoins)] at h
          rcases List.mem_cons.mp h with rfl | hw
          · exact List.cons_ne_nil _ _
          · exact ih hw

/-- Separators stand in no word. -/
theorem not_separator_of_mem_wordsOf {name w : List Char} (h : w ∈ wordsOf name) :
    ∀ c ∈ w, CharClass.of c ≠ .separator := by
  intro c hc
  have hmem : c ∈ (wordsOf name).flatten := List.mem_flatten.mpr ⟨w, h, hc⟩
  rw [flatten_wordsOf] at hmem
  simpa [dropSeparators] using (List.mem_filter.mp hmem).2

/-! ## The numbers of the words -/

theorem holders_consFirst {ws : List (List Char)} (h : ws ≠ []) (c : Char) :
    holders (consFirst c ws) = 0 :: holders ws := by
  cases ws with
  | nil => exact absurd rfl h
  | cons w ws => rfl

/-- By how much a character moves the numbers of the words behind it. -/
def shift (c : Char) (rest : List Char) : Nat :=
  if CharClass.of c ≠ .separator ∧ joins c rest = false then 1 else 0

/-- One character more in front moves the words by one if it begins a word of its own. -/
theorem holder?_cons (c : Char) (name before : List Char) :
    holder? (wordsOf (c :: name)) (c :: before)
      = (holder? (wordsOf name) before).map (· + shift c name) := by
  by_cases hc : CharClass.of c = .separator
  · have hdrop : dropSeparators (c :: before) = dropSeparators before := by
      simp [dropSeparators, hc]
    have hshift : shift c name = 0 := if_neg (fun h => h.1 hc)
    rw [wordsOf_cons_separator hc, holder?, holder?, hdrop, hshift]
    exact Option.map_id_apply.symm
  · have hdrop : dropSeparators (c :: before) = c :: dropSeparators before := by
      simp [dropSeparators, hc]
    by_cases hjoins : joins c name = true
    · have hshift : shift c name = 0 := by simp [shift, hjoins]
      rw [wordsOf_cons_joins hc hjoins, holder?, holder?, hdrop, hshift,
        holders_consFirst (wordsOf_ne_nil_of_joins hjoins)]
      exact Option.map_id_apply.symm
    · rw [Bool.not_eq_true] at hjoins
      have hshift : shift c name = 1 := if_pos ⟨hc, hjoins⟩
      rw [wordsOf_cons_alone hc hjoins, holder?, holder?, hdrop, hshift]
      exact List.getElem?_map ..

/-- **NUMBERS MOVE TOGETHER**: what stands in front of a name moves the numbers of all its
    words alike. -/
theorem exists_shift (front name : List Char) :
    ∃ k, ∀ before, holder? (wordsOf (front ++ name)) (front ++ before)
      = (holder? (wordsOf name) before).map (· + k) := by
  induction front with
  | nil => exact ⟨0, fun before => Option.map_id_apply.symm⟩
  | cons c front ih =>
      obtain ⟨k, hk⟩ := ih
      refine ⟨k + shift c (front ++ name), ?_⟩
      intro before
      rw [List.cons_append, List.cons_append, holder?_cons, hk, Option.map_map]
      simp only [Function.comp_def, Nat.add_assoc]

theorem holder?_nil {c : Char} (hc : CharClass.of c ≠ .separator) (rest : List Char) :
    holder? (wordsOf (c :: rest)) [] = some 0 := by
  by_cases hjoins : joins c rest = true
  · rw [wordsOf_cons_joins hc hjoins, holder?,
      holders_consFirst (wordsOf_ne_nil_of_joins hjoins)]
    rfl
  · rw [wordsOf_cons_alone hc (Bool.not_eq_true _ ▸ hjoins)]
    rfl

/-- Every character that is no separator stands in a word. -/
theorem exists_holder? (before : List Char) {c : Char} (hc : CharClass.of c ≠ .separator)
    (after : List Char) : ∃ i, holder? (wordsOf (before ++ c :: after)) before = some i := by
  obtain ⟨k, hk⟩ := exists_shift before (c :: after)
  have hplace := hk []
  rw [List.append_nil, holder?_nil hc] at hplace
  exact ⟨0 + k, hplace⟩

/-- Two neighbours that are no separators join unless their classes part them. -/
theorem joins_eq_false_iff {c d : Char} {rest : List Char} (hd : CharClass.of d ≠ .separator) :
    joins c (d :: rest) = false ↔
      Parts (CharClass.of c) (CharClass.of d) (rest.head?.map CharClass.of) := by
  rw [← isCut_eq_true_iff, joins, bne_iff_ne.mpr hd, Bool.true_and, Bool.not_eq_false']

/-- **NEIGHBOURS**: two neighbours stand in one word, or in one and the next where their
    classes part them. -/
theorem holder?_neighbours {c d : Char} (hc : CharClass.of c ≠ .separator)
    (hd : CharClass.of d ≠ .separator) (before after : List Char) :
    ∃ i, holder? (wordsOf (before ++ c :: d :: after)) before = some i ∧
      holder? (wordsOf (before ++ c :: d :: after)) (before ++ [c])
        = some (i + shift c (d :: after)) := by
  obtain ⟨k, hk⟩ := exists_shift before (c :: d :: after)
  refine ⟨k, ?_, ?_⟩
  · have hplace := hk []
    rw [List.append_nil, holder?_nil hc] at hplace
    rw [hplace]
    exact congrArg some (Nat.zero_add k)
  · rw [hk [c], holder?_cons, holder?_nil hd]
    simp [Nat.add_comm]

/-- A separator behind a character moves on what is behind the separator. -/
theorem exists_holder?_behind_separator {c d : Char} {between : List Char}
    (hc : CharClass.of c ≠ .separator) (hd : CharClass.of d ≠ .separator)
    (hbetween : ∃ s ∈ between, CharClass.of s = .separator) (after : List Char) :
    ∃ j, holder? (wordsOf (c :: (between ++ d :: after))) (c :: between) = some (j + 1) := by
  induction between generalizing c with
  | nil =>
      obtain ⟨s, hs, -⟩ := hbetween
      exact nomatch hs
  | cons x between ih =>
      rw [holder?_cons]
      by_cases hx : CharClass.of x = .separator
      · -- the character ends its word here
        have hshift : shift c (x :: between ++ d :: after) = 1 := by
          simp [shift, hc, joins, hx]
        obtain ⟨j, hj⟩ := exists_holder? (x :: between) hd after
        rw [hshift, hj]
        exact ⟨j, rfl⟩
      · -- the separator is further back
        have hrest : ∃ s ∈ between, CharClass.of s = .separator := by
          obtain ⟨s, hs, hclass⟩ := hbetween
          rcases List.mem_cons.mp hs with rfl | hs
          · exact absurd hclass hx
          · exact ⟨s, hs, hclass⟩
        obtain ⟨j, hj⟩ := ih hx hrest
        refine ⟨j + shift c (x :: between ++ d :: after), ?_⟩
        rw [List.cons_append, hj]
        simp [Nat.add_right_comm]

theorem holder?_separated {c d : Char} {between : List Char}
    (hc : CharClass.of c ≠ .separator) (hd : CharClass.of d ≠ .separator)
    (hbetween : ∃ s ∈ between, CharClass.of s = .separator) (before after : List Char) :
    ∃ i j, i < j ∧
      holder? (wordsOf (before ++ c :: (between ++ d :: after))) before = some i ∧
      holder? (wordsOf (before ++ c :: (between ++ d :: after))) (before ++ c :: between)
        = some j := by
  obtain ⟨k, hk⟩ := exists_shift before (c :: (between ++ d :: after))
  obtain ⟨j, hj⟩ := exists_holder?_behind_separator hc hd hbetween after
  have hplace := hk []
  rw [List.append_nil, holder?_nil hc] at hplace
  refine ⟨0 + k, j + 1 + k, by omega, hplace, ?_⟩
  rw [hk, hj]
  rfl

/-! ## The segmentation -/

theorem map_toList_splitWords (name : String) :
    (splitWords name).map String.toList = wordsOf name.toList := by
  rw [splitWords, List.map_map]
  exact List.map_id'' (fun w => String.toList_ofList) _

/-- The words of a name in a row are the name without its separators. -/
theorem join_splitWords (name : String) :
    String.join (splitWords name) = String.ofList (dropSeparators name.toList) := by
  rw [← flatten_wordsOf, ← map_toList_splitWords, ← String.toList_inj, String.toList_ofList]
  induction splitWords name with
  | nil => rfl
  | cons w ws ih =>
      rw [String.join_cons, String.toList_append, ih]
      rfl

/-- **THE SEGMENTATION**: words are not empty and have no separators, and one behind the
    other they are the name without its separators.  Of two neighbours in the name the
    second stands in another word exactly if their classes part them, and characters with
    a separator between them always stand in different words. -/
theorem splitWords_segments (name : String) :
    (∀ w ∈ splitWords name, w ≠ "" ∧ ∀ c ∈ w.toList, CharClass.of c ≠ .separator) ∧
      String.join (splitWords name) = String.ofList (dropSeparators name.toList) ∧
      (∀ before c d after, name.toList = before ++ c :: d :: after →
        CharClass.of c ≠ .separator → CharClass.of d ≠ .separator →
        ∃ i j, holder? ((splitWords name).map String.toList) before = some i ∧
          holder? ((splitWords name).map String.toList) (before ++ [c]) = some j ∧
          (i ≠ j ↔ Parts (CharClass.of c) (CharClass.of d) (after.head?.map CharClass.of))) ∧
      ∀ before c between d after, name.toList = before ++ c :: (between ++ d :: after) →
        CharClass.of c ≠ .separator → CharClass.of d ≠ .separator →
        (∃ s ∈ between, CharClass.of s = .separator) →
        ∃ i j, holder? ((splitWords name).map String.toList) before = some i ∧
          holder? ((splitWords name).map String.toList) (before ++ c :: between) = some j ∧
          i ≠ j := by
  refine ⟨?_, join_splitWords name, ?_, ?_⟩
  · intro w hw
    obtain ⟨v, hv, rfl⟩ := List.mem_map.mp hw
    constructor
    · intro hempty
      exact ne_nil_of_mem_wordsOf hv (String.ofList_eq_empty_iff.mp hempty)
    · rw [String.toList_ofList]
      exact not_separator_of_mem_wordsOf hv
  · intro before c d after hname hc hd
    obtain ⟨i, hi, hj⟩ := holder?_neighbours hc hd before after
    rw [map_toList_splitWords, hname]
    refine ⟨i, _, hi, hj, ?_⟩
    rw [← joins_eq_false_iff hd, shift]
    by_cases hjoins : joins c (d :: after) = false
    · simp [hc, hjoins]
    · simp [hjoins]
  · intro before c between d after hname hc hd hbetween
    obtain ⟨i, j, hlt, hi, hj⟩ := holder?_separated hc hd hbetween before after
    rw [map_toList_splitWords, hname]
    exact ⟨i, j, hi, hj, Nat.ne_of_lt hlt⟩

/-- The last of three capitals goes with the small letter behind it, and separators stand
    between two digits. -/
theorem splitWords_segments_capitals :
    (∃ i j, holder? ((splitWords "XYÉa1_ 7").map String.toList) ['X'] = some i ∧
      holder? ((splitWords "XYÉa1_ 7").map String.toList) ['X', 'Y'] = some j ∧ i ≠ j) ∧
    ∃ i j, holder? ((splitWords "XYÉa1_ 7").map String.toList) ['X', 'Y', 'É', 'a'] = some i ∧
      holder? ((splitWords "XYÉa1_ 7").map String.toList) ['X', 'Y', 'É', 'a', '1', '_', ' ']
        = some j ∧ i ≠ j := by
  obtain ⟨-, -, hneighbours, hseparated⟩ := splitWords_segments "XYÉa1_ 7"
  constructor
  · obtain ⟨i, j, hi, hj, hiff⟩ := hneighbours ['X'] 'Y' 'É' ['a', '1', '_', ' ', '7'] rfl
      (by decide +kernel) (by decide +kernel)
    exact ⟨i, j, hi, hj, hiff.mpr (by decide +kernel)⟩
  · exact hseparated ['X', 'Y', 'É', 'a'] '1' ['_', ' '] '7' [] rfl (by decide +kernel)
      (by decide +kernel) ⟨'_', List.mem_cons_self .., by decide +kernel⟩

end VertexBinding.Naming
