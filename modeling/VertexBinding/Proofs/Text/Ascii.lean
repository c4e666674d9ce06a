import VertexBinding.Text.Lowercase

/-! # ASCII — the first 128 characters

    A fact about all characters of ASCII is a fact about 128 numbers, settled by
    evaluation.  Lower case is one of them: neither the sigma rule nor a mapping to two
    characters concerns ASCII, so a text of ASCII goes into lower case character by
    character. -/

namespace VertexBinding.Text

/-- What holds of the first 128 characters, tried one by one, holds of all ASCII characters.
    -/
theorem forall_ascii {p : Char → Prop} (h : ∀ n < 128, p (Char.ofNat n)) {c : Char}
    (hc : c.toNat < 128) : p c := by
  have hp := h c.toNat hc
  rwa [Char.ofNat_toNat] at hp

theorem lowerChar_of_ascii {c : Char} (hc : c.toNat < 128) : lowerChar c = [c.toLower] := by
  refine forall_ascii (p := fun c => lowerChar c = [c.toLower]) ?_ hc
  decide +kernel

/-- Lower case goes character by character there: the rule of the final sigma never applies.
    -/
theorem lowerFrom_of_ascii {s : List Char} (hs : ∀ c ∈ s, c.toNat < 128) (before : List Char) :
    lowerFrom before s = s.map Char.toLower := by
  induction s generalizing before with
  | nil => rfl
  | cons c rest ih =>
      obtain ⟨hc, hrest⟩ := List.forall_mem_cons.mp hs
      have hsigma : c ≠ 'Σ' := by
        rintro rfl
        exact absurd hc (by decide)
      rw [lowerFrom, if_neg hsigma, lowerChar_of_ascii hc, ih hrest]
      rfl

/-- **LOWER CASE OF ASCII** is taken character by character. -/
theorem lower_of_ascii {s : List Char} (hs : ∀ c ∈ s, c.toNat < 128) :
    lower s = s.map Char.toLower :=
  lowerFrom_of_ascii hs []

end VertexBinding.Text
