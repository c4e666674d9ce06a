/-! # Sets of code points — an ascending list of boundaries decides membership

    A character property is a set of code points.  The set is written as the
    ascending list of the points at which membership changes: the first number
    is the first member, the second the first point after that run, and so on.
    A list of odd length would leave its last run open to the right. -/

namespace VertexBinding.Text

/-- Is `n` in the set whose boundaries are given?  Crossing a boundary flips
    the answer, and a point below the first boundary is outside. -/
def inBounds : List Nat → Nat → Bool
  | [], _ => false
  | b :: rest, n => if n < b then false else !inBounds rest n

/-- Nothing lies in the empty set. -/
@[simp] theorem inBounds_nil (n : Nat) : inBounds [] n = false := rfl

/-- One boundary at a time. -/
theorem inBounds_cons (b : Nat) (rest : List Nat) (n : Nat) :
    inBounds (b :: rest) n = if n < b then false else !inBounds rest n := rfl

/-- A single run is a half-open interval. -/
theorem inBounds_pair (a b n : Nat) :
    inBounds [a, b] n = (decide (a ≤ n) && decide (n < b)) := by
  by_cases ha : n < a
  · simp [inBounds, ha, Nat.not_le.mpr ha]
  · by_cases hb : n < b
    · simp [inBounds, ha, hb, Nat.not_lt.mp ha]
    · simp [inBounds, ha, hb]

end VertexBinding.Text
