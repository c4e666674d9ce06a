import VertexBinding.Text.Blank
import VertexBinding.Text.WordChar

/-! # Classes — which kinds of characters exclude each other

    A set of code points that is bounded to the right has finitely many members, and
    they can be listed.  A fact about all its characters is then a fact about a
    list, settled by evaluation. -/

namespace VertexBinding.Text

/-- The members of a set of code points whose boundaries come in pairs. -/
def members : List Nat → List Nat
  | a :: b :: rest => List.range' a (b - a) ++ members rest
  | _ => []

/-- Boundaries in pairs list every member. -/
theorem mem_members_of_inBounds : ∀ {bounds : List Nat} {n : Nat}, bounds.length % 2 = 0 →
    inBounds bounds n = true → n ∈ members bounds
  | [], _, _, h => nomatch h
  | [_], _, hpairs, _ => nomatch hpairs
  | a :: b :: rest, n, hpairs, h => by
      rw [inBounds_cons] at h
      by_cases ha : n < a
      · rw [if_pos ha] at h
        exact nomatch h
      · rw [if_neg ha, inBounds_cons] at h
        rw [members, List.mem_append]
        -- beyond both boundaries the rest decides, as it would on its own
        by_cases hb : n < b
        · exact Or.inl (List.mem_range'_1.mpr ⟨Nat.le_of_not_lt ha, by omega⟩)
        · rw [if_neg hb, Bool.not_not] at h
          refine Or.inr (mem_members_of_inBounds ?_ h)
          rw [List.length_cons, List.length_cons] at hpairs
          omega

/-- No letter, no number and no underscore is among the code points of white space. -/
theorem blank_members_not_word : ∀ n ∈ members blankBounds,
    (inBounds alphabeticBounds n || inBounds numericBounds n || n == '_'.toNat) = false := by
  decide +kernel

/-- White space is no word character. -/
theorem not_isWordChar_of_isBlank {c : Char} (h : isBlank c = true) : isWordChar c = false := by
  have hmem := mem_members_of_inBounds (by decide) h
  have hclass := blank_members_not_word c.toNat hmem
  rw [Bool.or_eq_false_iff] at hclass
  rw [isWordChar, Bool.or_eq_false_iff]
  refine ⟨hclass.1, ?_⟩
  rw [beq_eq_false_iff_ne]
  rintro rfl
  exact nomatch hclass.2

theorem not_isBlank_of_isWordChar {c : Char} (h : isWordChar c = true) : isBlank c = false := by
  cases hblank : isBlank c with
  | false => rfl
  | true =>
      rw [not_isWordChar_of_isBlank hblank] at h
      exact nomatch h

end VertexBinding.Text
