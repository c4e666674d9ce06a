/-! # Alignment — offsets in bytes, kept below 2^64

    Offsets and sizes are computed as natural numbers and must fit into 64 bits.
    A step that would not fit, or that aligns to zero, is a fault: the computation
    stops there and has no result. -/

namespace VertexBinding

/-- Offsets and sizes are below this number. -/
def offsetLimit : Nat := Nat.pow 2 64

/-- Why a computation of offsets has no result. -/
inductive Fault where
  /-- A type is aligned to zero bytes. -/
  | zeroAlignment
  /-- An offset or a size does not fit into 64 bits. -/
  | overflow
  deriving DecidableEq, Repr

/-- The least multiple of `align` that is not below `value`. -/
def alignUp (value align : Nat) : Nat :=
  (value + align - 1) / align * align

/-- A number that has to fit into 64 bits. -/
def fit (n : Nat) : Except Fault Nat :=
  if n < offsetLimit then .ok n else .error .overflow

/-- Rounds up to an alignment, or faults. -/
def align? (value align : Nat) : Except Fault Nat :=
  if align = 0 then .error .zeroAlignment else fit (alignUp value align)

/-- What fits is left as it is. -/
theorem fit_eq_ok_iff {n m : Nat} : fit n = .ok m ↔ n < offsetLimit ∧ m = n := by
  unfold fit
  by_cases h : n < offsetLimit
  · simp [h, eq_comm]
  · simp [h]

/-- Rounding up does not go below the value. -/
theorem le_alignUp {align : Nat} (h : 0 < align) (value : Nat) : value ≤ alignUp value align := by
  unfold alignUp
  have h1 := Nat.div_add_mod (value + align - 1) align
  have h2 := Nat.mod_lt (value + align - 1) h
  rw [Nat.mul_comm] at h1
  omega

/-- Rounding up gives a multiple of the alignment. -/
theorem dvd_alignUp (value align : Nat) : align ∣ alignUp value align :=
  Nat.dvd_mul_left ..

/-- Rounding up gives the least such multiple. -/
theorem alignUp_le {align value m : Nat} (h : 0 < align) (hm : align ∣ m) (hv : value ≤ m) :
    alignUp value align ≤ m := by
  obtain ⟨k, rfl⟩ := hm
  unfold alignUp
  rw [Nat.mul_comm align k]
  refine Nat.mul_le_mul_right align ?_
  have : (value + align - 1) / align < k + 1 := by
    rw [Nat.div_lt_iff_lt_mul h, Nat.add_mul, Nat.mul_comm k align]
    omega
  omega

end VertexBinding
