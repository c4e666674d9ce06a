import VertexBinding.Proofs.Naming.Segmentation

/-! # Cuts — names put together from parts

    Whether a name is cut between two characters depends on the character behind them as
    well.  It still may be taken apart wherever a cut falls: the words of both parts are
    the words of the whole (`wordsOf_append`).  The one cut that looks further, between
    two capitals with a small letter behind them, never meets a cut in front of that
    letter, since a capital and a small letter are never parted.

    A name in which all neighbours are joined is one word (`wordsOf_uniform`,
    `wordsOf_capital`), and words with separators between them are read back
    (`wordsOf_intercalate`). -/

namespace VertexBinding.Naming

/-- The first part ends where a cut falls in front of the second. -/
def CutBetween (front back : List Char) : Prop :=
  ∀ c ∈ front.getLast?, CharClass.of c = .separator ∨ joins c back = false

theorem CutBetween.tail {c d : Char} {front back : List Char}
    (h : CutBetween (c :: d :: front) back) : CutBetween (d :: front) back := by
  intro x hx
  refine h x ?_
  rw [List.getLast?_cons_cons]
  exact hx

theorem cutBetween_separator {s : Char} (hs : CharClass.of s = .separator)
    (front rest : List Char) : CutBetween front (s :: rest) := by
  intro c _
  exact Or.inr (by simp [joins, hs])

theorem consFirst_append {ws : List (List Char)} (h : ws ≠ []) (c : Char)
    (vs : List (List Char)) : consFirst c (ws ++ vs) = consFirst c ws ++ vs := by
  cases ws with
  | nil => exact absurd rfl h
  | cons w ws => rfl

/-- What is behind a cut has no say in the joints in front of it. -/
theorem joins_append {c d : Char} {front back : List Char} (h : CutBetween (d :: front) back) :
    joins c (d :: front ++ back) = joins c (d :: front) := by
  cases front with
  | cons e front => rfl
  | nil =>
      cases back with
      | nil => rfl
      | cons e back =>
          rcases h d rfl with hd | hcut
          · simp [joins, hd]
          · -- a small letter behind `d` would be joined to it if `d` were a capital
            have hnext : CharClass.of d = .upper → CharClass.of e ≠ .lower := by
              intro hd he
              simp [joins, hd, he, isCut] at hcut
            show (_ && !isCut _ _ (some (CharClass.of e))) = (_ && !isCut _ _ none)
            cases hd : CharClass.of d with
            | upper =>
                cases he : CharClass.of e with
                | lower => exact absurd he (hnext hd)
                | upper => cases CharClass.of c <;> rfl
                | digit => cases CharClass.of c <;> rfl
                | separator => cases CharClass.of c <;> rfl
            | lower => cases CharClass.of c <;> rfl
            | digit => cases CharClass.of c <;> rfl
            | separator => cases CharClass.of c <;> rfl

/-- **CUTTING**: where a cut falls, the words of the parts are the words of the whole. -/
theorem wordsOf_append {front back : List Char} (h : CutBetween front back) :
    wordsOf (front ++ back) = wordsOf front ++ wordsOf back := by
  induction front with
  | nil => rfl
  | cons c front ih =>
      cases front with
      | nil =>
          rcases h c rfl with hc | hcut
          · rw [List.singleton_append, wordsOf_cons_separator hc, wordsOf_cons_separator hc]
            rfl
          · by_cases hc : CharClass.of c = .separator
            · rw [List.singleton_append, wordsOf_cons_separator hc, wordsOf_cons_separator hc]
              rfl
            · rw [List.singleton_append, wordsOf_cons_alone hc hcut, wordsOf_cons_alone hc rfl]
              rfl
      | cons d front =>
          have hrest := ih h.tail
          by_cases hc : CharClass.of c = .separator
          · rw [List.cons_append, wordsOf_cons_separator hc, wordsOf_cons_separator hc, hrest]
          · have hsame := joins_append (c := c) h.tail
            by_cases hjoins : joins c (d :: front) = true
            · rw [hjoins] at hsame
              rw [List.cons_append, wordsOf_cons_joins hc hsame, wordsOf_cons_joins hc hjoins,
                hrest, consFirst_append (wordsOf_ne_nil_of_joins hjoins)]
            · rw [Bool.not_eq_true] at hjoins
              rw [hjoins] at hsame
              rw [List.cons_append, wordsOf_cons_alone hc hsame, wordsOf_cons_alone hc hjoins,
                hrest]
              rfl

/-- At a separator a name falls into two. -/
theorem wordsOf_append_separator {s : Char} (hs : CharClass.of s = .separator)
    (front back : List Char) : wordsOf (front ++ s :: back) = wordsOf front ++ wordsOf back := by
  rw [wordsOf_append (cutBetween_separator hs front back), wordsOf_cons_separator hs]

/-- **READING BACK**: single words with separators between them are the words of the name. -/
theorem wordsOf_intercalate {s : Char} (hs : CharClass.of s = .separator)
    {ws : List (List Char)} (h : ∀ w ∈ ws, wordsOf w = [w]) :
    wordsOf ([s].intercalate ws) = ws := by
  induction ws with
  | nil => rfl
  | cons w ws ih =>
      obtain ⟨hw, hws⟩ := List.forall_mem_cons.mp h
      cases ws with
      | nil =>
          rw [List.intercalate_singleton]
          exact hw
      | cons v ws =>
          rw [List.intercalate_cons_cons, List.append_assoc, List.singleton_append,
            wordsOf_append_separator hs, hw, ih hws]
          rfl

/-! ## Single words -/

/-- Characters of one class are never parted. -/
theorem joins_uniform {k : CharClass} (hk : k ≠ .separator) {c d : Char} {rest : List Char}
    (hc : CharClass.of c = k) (hd : CharClass.of d = k) (hrest : ∀ x ∈ rest, CharClass.of x = k) :
    joins c (d :: rest) = true := by
  have hnext : rest.head?.map CharClass.of = none ∨ rest.head?.map CharClass.of = some k := by
    cases rest with
    | nil => exact Or.inl rfl
    | cons e rest => exact Or.inr (congrArg some (hrest e (List.mem_cons_self ..)))
  rw [joins, hc, hd, bne_iff_ne.mpr hk, Bool.true_and]
  rcases hnext with hnext | hnext
  · rw [hnext]
    cases k <;> rfl
  · rw [hnext]
    cases k <;> rfl

/-- Characters of one class are one word. -/
theorem wordsOf_uniform {k : CharClass} (hk : k ≠ .separator) {w : List Char} (hne : w ≠ [])
    (hw : ∀ c ∈ w, CharClass.of c = k) : wordsOf w = [w] := by
  induction w with
  | nil => exact absurd rfl hne
  | cons c w ih =>
      obtain ⟨hc, hrest⟩ := List.forall_mem_cons.mp hw
      have hkept : CharClass.of c ≠ .separator := hc ▸ hk
      cases w with
      | nil => exact wordsOf_cons_alone hkept rfl
      | cons d w =>
          obtain ⟨hd, hothers⟩ := List.forall_mem_cons.mp hrest
          rw [wordsOf_cons_joins hkept (joins_uniform hk hc hd hothers),
            ih (List.cons_ne_nil d w) hrest]
          rfl

/-- A capital and the small letters behind it are one word. -/
theorem wordsOf_capital {c : Char} {w : List Char} (hc : CharClass.of c = .upper)
    (hw : ∀ d ∈ w, CharClass.of d = .lower) : wordsOf (c :: w) = [c :: w] := by
  have hkept : CharClass.of c ≠ .separator := by simp [hc]
  cases w with
  | nil => exact wordsOf_cons_alone hkept rfl
  | cons d w =>
      have hd := hw d (List.mem_cons_self ..)
      have hjoins : joins c (d :: w) = true := by simp [joins, hc, hd, isCut]
      rw [wordsOf_cons_joins hkept hjoins,
        wordsOf_uniform (k := .lower) (by decide) (List.cons_ne_nil d w) hw]
      rfl

end VertexBinding.Naming
