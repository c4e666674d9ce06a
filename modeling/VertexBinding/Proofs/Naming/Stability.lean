import VertexBinding.Proofs.Naming.Cuts

/-! # Stability — a word is not cut again

    Whether two capitals are parted depends on the character behind them, and for the last
    two of a word that character is in the next word, or a separator.  So a word on its own
    is read in another context than inside its name.  A name still splits behind its first
    word, where a cut falls (`exists_behind_first`), and there the words of the parts are
    those of the whole: the first word on its own cannot have more than one.

    Names may then be taken apart and put together at separators: joining the words of a
    name and splitting the result changes nothing. -/

namespace VertexBinding.Naming

open Text

/-- A name that does not begin with a separator begins with its first word, and a cut falls
    behind it. -/
theorem exists_behind_first {c : Char} {rest w : List Char} {ws : List (List Char)}
    (hc : CharClass.of c ≠ .separator) (h : wordsOf (c :: rest) = w :: ws) :
    ∃ back, c :: rest = w ++ back ∧ CutBetween w back ∧ wordsOf back = ws := by
  induction rest generalizing c w with
  | nil =>
      rw [wordsOf_cons_alone hc rfl] at h
      obtain ⟨rfl, rfl⟩ := List.cons.inj h
      exact ⟨[], rfl, fun x hx => Or.inr (Option.some.inj hx ▸ rfl), rfl⟩
  | cons d rest ih =>
      by_cases hjoins : joins c (d :: rest) = true
      · have hd : CharClass.of d ≠ .separator := by
          rw [joins, Bool.and_eq_true, bne_iff_ne] at hjoins
          exact hjoins.1
        rw [wordsOf_cons_joins hc hjoins] at h
        cases hwords : wordsOf (d :: rest) with
        | nil => exact absurd hwords (wordsOf_ne_nil hd rest)
        | cons v vs =>
            rw [hwords] at h
            obtain ⟨rfl, rfl⟩ := List.cons.inj h
            obtain ⟨back, hsplit, hcut, hback⟩ := ih hd hwords
            refine ⟨back, by rw [hsplit]; rfl, ?_, hback⟩
            -- the word got one character longer in front, so it ends as before
            cases v with
            | nil => exact absurd rfl (ne_nil_of_mem_wordsOf (hwords ▸ List.mem_cons_self ..))
            | cons e v =>
                intro x hx
                rw [List.getLast?_cons_cons] at hx
                exact hcut x hx
      · rw [Bool.not_eq_true] at hjoins
        rw [wordsOf_cons_alone hc hjoins] at h
        obtain ⟨rfl, rfl⟩ := List.cons.inj h
        exact ⟨d :: rest, rfl, fun x hx => Or.inr (Option.some.inj hx ▸ hjoins), rfl⟩

/-- Behind the first character of a name no words are new but the first. -/
theorem mem_tail_of_wordsOf_cons {c : Char} {rest w : List Char} {ws : List (List Char)}
    (hc : CharClass.of c ≠ .separator) (h : wordsOf (c :: rest) = w :: ws) :
    ∀ v ∈ ws, v ∈ wordsOf rest := by
  intro v hv
  by_cases hjoins : joins c rest = true
  · rw [wordsOf_cons_joins hc hjoins] at h
    cases hwords : wordsOf rest with
    | nil => exact absurd hwords (wordsOf_ne_nil_of_joins hjoins)
    | cons u us =>
        rw [hwords] at h
        obtain ⟨-, rfl⟩ := List.cons.inj h
        exact List.mem_cons_of_mem u hv
  · rw [wordsOf_cons_alone hc (Bool.not_eq_true _ ▸ hjoins)] at h
    obtain ⟨-, rfl⟩ := List.cons.inj h
    exact hv

/-- **WORDS ARE STABLE**: a word of a name on its own is that one word. -/
theorem wordsOf_of_mem {name w : List Char} (h : w ∈ wordsOf name) : wordsOf w = [w] := by
  induction name with
  | nil => exact nomatch h
  | cons c rest ih =>
      by_cases hc : CharClass.of c = .separator
      · rw [wordsOf_cons_separator hc] at h
        exact ih h
      · cases hwords : wordsOf (c :: rest) with
        | nil => exact absurd hwords (wordsOf_ne_nil hc rest)
        | cons v vs =>
            rw [hwords] at h
            rcases List.mem_cons.mp h with rfl | hw
            · obtain ⟨back, hsplit, hcut, rfl⟩ := exists_behind_first hc hwords
              have happend : [w] ++ wordsOf back = wordsOf w ++ wordsOf back := by
                rw [← wordsOf_append hcut, ← hsplit, hwords]
                rfl
              exact (List.append_cancel_right happend).symm
            · exact ih (mem_tail_of_wordsOf_cons hc hwords w hw)

/-! ## Names as texts -/

theorem separator_of_classes {s : Char} (hnumeric : isNumeric s = false)
    (hupper : isUppercase s = false) (halnum : isAlphanumeric s = false) :
    CharClass.of s = .separator := by
  simp [CharClass.of, hnumeric, hupper, halnum]

/-- Words that are not cut are the words of the name they are joined to. -/
theorem wordsOf_join {ws : List String} (h : ∀ w ∈ ws, wordsOf w.toList = [w.toList]) :
    wordsOf ("_".intercalate ws).toList = ws.map String.toList := by
  have hwords : ∀ w ∈ ws.map String.toList, wordsOf w = [w] := List.forall_mem_map.mpr h
  rw [String.toList_intercalate]
  exact wordsOf_intercalate (s := '_') (by decide) hwords

/-- **SPLITTING IS STABLE AND ADDITIVE**: at a character that is no digit, no capital and no
    letter a name falls into two, whose words are its words; a word is split into itself
    only; so the words of a name joined by underscores are split into the same words. -/
theorem splitWords_stable :
    (∀ (front back : String) (s : Char), isNumeric s = false → isUppercase s = false →
      isAlphanumeric s = false →
      splitWords (front ++ String.singleton s ++ back) = splitWords front ++ splitWords back) ∧
    (∀ name : String, ∀ w ∈ splitWords name, splitWords w = [w]) ∧
    ∀ name : String, splitWords ("_".intercalate (splitWords name)) = splitWords name := by
  refine ⟨?_, ?_, ?_⟩
  · intro front back s hnumeric hupper halnum
    have hs := separator_of_classes hnumeric hupper halnum
    rw [splitWords, String.toList_append, String.toList_append, String.toList_singleton,
      List.append_assoc, List.singleton_append, wordsOf_append_separator hs, List.map_append]
    rfl
  · intro name w hw
    obtain ⟨v, hv, rfl⟩ := List.mem_map.mp hw
    rw [splitWords, String.toList_ofList, wordsOf_of_mem hv]
    rfl
  · intro name
    have hwhole : ∀ w ∈ splitWords name, wordsOf w.toList = [w.toList] := by
      intro w hw
      obtain ⟨v, hv, rfl⟩ := List.mem_map.mp hw
      rw [String.toList_ofList]
      exact wordsOf_of_mem hv
    rw [splitWords, wordsOf_join hwhole, map_toList_splitWords]
    rfl

/-- A capital in front of a separator, and a word whose last capitals would be parted by the
    small letter behind the word. -/
theorem splitWords_stable_capitals :
    splitWords ("uvXY" ++ String.singleton '\u2028' ++ "z2É") =
        splitWords "uvXY" ++ splitWords "z2É" ∧
      splitWords "XYÉtage7" = ["XY", "Étage", "7"] ∧ splitWords "XY" = ["XY"] := by
  refine ⟨splitWords_stable.1 _ _ _ (by decide +kernel) (by decide +kernel) (by decide +kernel),
    by decide +kernel, ?_⟩
  exact splitWords_stable.2.1 "XYÉtage7" "XY" (by decide +kernel)

end VertexBinding.Naming
