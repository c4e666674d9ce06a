import VertexBinding.Proofs.Text.Runs

/-! # Digits — a number is read back from how it is written

    Numbers are written in a base of up to sixteen, without leading zeros.  The digits
    tell the number (`toDigits_injective`), and no other character is among them
    (`not_mem_toDigits`), so whatever else comes behind a number ends it
    (`eq_of_number_append`). -/

namespace VertexBinding.Text

variable {base n m : Nat}

/-- The characters of a number are digits of its base. -/
theorem exists_digitChar_of_mem (hbase : 1 < base) {c : Char} (h : c ∈ Nat.toDigits base n) :
    ∃ d < base, Nat.digitChar d = c := by
  induction n using Nat.strongRecOn with
  | ind n ih =>
      rw [Nat.toDigits_eq_if hbase] at h
      by_cases hn : n < base
      · rw [if_pos hn, List.mem_singleton] at h
        exact ⟨n, hn, h.symm⟩
      · rw [if_neg hn, List.mem_append, List.mem_singleton] at h
        rcases h with h | h
        · exact ih (n / base) (Nat.div_lt_self (by omega) hbase) h
        · exact ⟨n % base, Nat.mod_lt n (by omega), h.symm⟩

/-- What is no digit of base sixteen does not stand in a number. -/
theorem not_mem_toDigits (hbase : 1 < base) (hle : base ≤ 16) {c : Char}
    (hc : ∀ d < 16, Nat.digitChar d ≠ c) (n : Nat) : c ∉ Nat.toDigits base n := by
  intro hmem
  obtain ⟨d, hd, heq⟩ := exists_digitChar_of_mem hbase hmem
  exact hc d (by omega) heq

theorem digitChar_injective : ∀ d < 16, ∀ e < 16, Nat.digitChar d = Nat.digitChar e → d = e := by
  decide

/-- **DIGITS TELL THE NUMBER**. -/
theorem toDigits_injective (hbase : 1 < base) (hle : base ≤ 16)
    (h : Nat.toDigits base n = Nat.toDigits base m) : n = m := by
  induction n using Nat.strongRecOn generalizing m with
  | ind n ih =>
      rw [Nat.toDigits_eq_if hbase, Nat.toDigits_eq_if (n := m) hbase] at h
      by_cases hn : n < base
      · by_cases hm : m < base
        · rw [if_pos hn, if_pos hm] at h
          exact digitChar_injective n (by omega) m (by omega) (List.cons.inj h).1
        · rw [if_pos hn, if_neg hm] at h
          exact absurd (List.append_eq_singleton_iff.mp h.symm) (by simp [Nat.toDigits_ne_nil])
      · by_cases hm : m < base
        · rw [if_neg hn, if_pos hm] at h
          exact absurd (List.append_eq_singleton_iff.mp h) (by simp [Nat.toDigits_ne_nil])
        · rw [if_neg hn, if_neg hm] at h
          obtain ⟨hfront, hlast⟩ := List.append_inj' h rfl
          have hdiv : n / base = m / base :=
            ih (n / base) (Nat.div_lt_self (by omega) hbase) hfront
          have hmod : n % base = m % base :=
            digitChar_injective _ (Nat.lt_of_lt_of_le (Nat.mod_lt n (by omega)) hle)
              _ (Nat.lt_of_lt_of_le (Nat.mod_lt m (by omega)) hle) (List.cons.inj hlast).1
          rw [← Nat.div_add_mod n base, ← Nat.div_add_mod m base, hdiv, hmod]

/-- A number is a run of digits that ends where no digit follows. -/
theorem isRun_number {rest : List Char} (hrest : ∀ c ∈ rest.head?, c.isDigit = false) (n : Nat) :
    IsRun Char.isDigit (toString n).toList rest := by
  refine ⟨?_, hrest⟩
  rw [Nat.toString_eq_ofList_toDigits, String.toList_ofList]
  exact fun c hc => Nat.isDigit_of_mem_toDigits (by decide) (by decide) hc

theorem ends_number {c : Char} (hc : c.isDigit = false) (rest : List Char) :
    ∀ d ∈ (c :: rest).head?, d.isDigit = false := by
  intro d hd
  obtain rfl := Option.some.inj hd
  exact hc

/-- A number ends where something else begins. -/
theorem eq_of_number_append {rest rest' : List Char} (hrest : ∀ c ∈ rest.head?, c.isDigit = false)
    (hrest' : ∀ c ∈ rest'.head?, c.isDigit = false)
    (h : (toString n).toList ++ rest = (toString m).toList ++ rest') : n = m ∧ rest = rest' := by
  obtain ⟨hnumbers, hrests⟩ := (isRun_number hrest n).unique (isRun_number hrest' m) h
  rw [Nat.toString_eq_ofList_toDigits, Nat.toString_eq_ofList_toDigits, String.toList_ofList,
    String.toList_ofList] at hnumbers
  exact ⟨toDigits_injective (by decide) (by decide) hnumbers, hrests⟩

end VertexBinding.Text
