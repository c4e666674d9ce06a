import VertexBinding.Layout.Alignment
import VertexBinding.Layout.TypeTable
import Mathlib.Algebra.Order.Floor.Div

/-! # Placement — where fields lie when numbers have no limit

    A field begins at the first multiple of its alignment behind the field before
    it and ends its size later.  Over all natural numbers that is always a place.
    In 64 bits there is no place if a number on the way is too large, and there is
    never one behind an alignment of zero.

    `place_iff` says that the limited arithmetic has a result exactly if placing the
    field is no fault, and that the result is the place. -/

namespace VertexBinding

/-- Where a field of the type begins behind an end. -/
def FieldType.offsetAfter (t : FieldType) (finish : Nat) : Nat :=
  (finish ⌈/⌉ t.align) * t.align

/-- Where a field of the type ends behind an end. -/
def FieldType.finishAfter (t : FieldType) (finish : Nat) : Nat :=
  t.offsetAfter finish + t.size

/-- A field of the type has no place of 64 bits behind an end. -/
def FieldType.Faults (t : FieldType) (finish : Nat) : Prop :=
  t.align = 0 ∨ offsetLimit ≤ t.offsetAfter finish ∨ offsetLimit ≤ t.finishAfter finish

/-- Rounding up is a ceiling division and a product. -/
theorem alignUp_eq_ceilDiv (value align : Nat) :
    alignUp value align = (value ⌈/⌉ align) * align := by
  rw [alignUp, Nat.ceilDiv_eq_add_pred_div]

/-- Rounding within the limit: it succeeds exactly if the exact result is in range. -/
theorem align?_eq_ok_iff {value align m : Nat} :
    align? value align = .ok m ↔
      align ≠ 0 ∧ (value ⌈/⌉ align) * align < offsetLimit ∧ m = (value ⌈/⌉ align) * align := by
  rw [align?, ← alignUp_eq_ceilDiv]
  by_cases h : align = 0
  · rw [if_pos h]
    exact ⟨nofun, fun hok => absurd h hok.1⟩
  · rw [if_neg h, fit_eq_ok_iff]
    exact ⟨fun hok => ⟨h, hok⟩, fun hok => hok.2⟩

/-- **STEP**: the arithmetic for one field has a result exactly if the field has a
    place, and the result is the place. -/
theorem place_iff {t : FieldType} {finish offset : Nat} :
    (align? finish t.align = .ok offset ∧ offset + t.size < offsetLimit) ↔
      ¬ t.Faults finish ∧ offset = t.offsetAfter finish := by
  rw [align?_eq_ok_iff, FieldType.Faults, not_or, not_or, Nat.not_le, Nat.not_le]
  constructor
  · rintro ⟨⟨halign, hoffset, rfl⟩, hfinish⟩
    exact ⟨⟨halign, hoffset, hfinish⟩, rfl⟩
  · rintro ⟨⟨halign, hoffset, hfinish⟩, rfl⟩
    exact ⟨⟨halign, hoffset, rfl⟩, hfinish⟩

namespace Plan

/-- Where fields begin that follow one another behind an end. -/
def offsetsFrom : Nat → List FieldType → List Nat
  | _, [] => []
  | finish, t :: ts => t.offsetAfter finish :: offsetsFrom (t.finishAfter finish) ts

/-- Where fields end that follow one another behind an end. -/
def finishFrom : Nat → List FieldType → Nat
  | finish, [] => finish
  | finish, t :: ts => finishFrom (t.finishAfter finish) ts

/-- The largest of an alignment and the alignments of types. -/
def strictest : Nat → List FieldType → Nat
  | align, [] => align
  | align, t :: ts => strictest (max align t.align) ts

/-- The size of a struct of the given alignment, its padding included. -/
def strideOf (align : Nat) (ts : List FieldType) : Nat :=
  (finishFrom 0 ts ⌈/⌉ strictest (max align 1) ts) * strictest (max align 1) ts

/-- Every field that follows behind an end has a place. -/
def Placeable : Nat → List FieldType → Prop
  | _, [] => True
  | finish, t :: ts => ¬ t.Faults finish ∧ Placeable (t.finishAfter finish) ts

theorem le_strictest (align : Nat) (ts : List FieldType) : align ≤ strictest align ts := by
  induction ts generalizing align with
  | nil => exact Nat.le_refl align
  | cons t ts ih => exact Nat.le_trans (Nat.le_max_left align t.align) (ih _)

theorem align_le_strictest {t : FieldType} {ts : List FieldType} (ht : t ∈ ts) (align : Nat) :
    t.align ≤ strictest align ts := by
  induction ts generalizing align with
  | nil => exact nomatch ht
  | cons t' ts ih =>
      rcases List.mem_cons.mp ht with rfl | hmem
      · exact Nat.le_trans (Nat.le_max_right align t.align) (le_strictest _ ts)
      · exact ih hmem _

/-- The largest alignment is one of those it is the largest of. -/
theorem strictest_mem (align : Nat) (ts : List FieldType) :
    strictest align ts = align ∨ ∃ t ∈ ts, t.align = strictest align ts := by
  induction ts generalizing align with
  | nil => exact Or.inl rfl
  | cons t ts ih =>
      rw [strictest]
      rcases ih (max align t.align) with h | ⟨t', hmem, h⟩
      · rw [h]
        rcases Nat.le_total t.align align with hle | hle
        · exact Or.inl (Nat.max_eq_left hle)
        · exact Or.inr ⟨t, List.mem_cons_self .., (Nat.max_eq_right hle).symm⟩
      · exact Or.inr ⟨t', List.mem_cons_of_mem t hmem, h⟩

end Plan

end VertexBinding
