import VertexBinding.Naming.Synonyms

/-! # Affinity — how well a field's name fits an attribute's

    Two names are compared by the sets of their canonical words.  The affinity is
    the number of words they share, but names that share numbers only have none:
    the 1 of `Color1` does not make it a `Normal1`. -/

namespace VertexBinding.Naming

open Text

/-- The members of a list, each once. -/
def distinct {α : Type} [DecidableEq α] : List α → List α
  | [] => []
  | x :: xs => if x ∈ xs then distinct xs else x :: distinct xs

/-- Taking each member once loses none. -/
@[simp] theorem mem_distinct {α : Type} [DecidableEq α] {x : α} {xs : List α} :
    x ∈ distinct xs ↔ x ∈ xs := by
  induction xs with
  | nil => simp [distinct]
  | cons y ys ih =>
      by_cases hy : y ∈ ys
      · simp only [distinct, hy, if_true, ih, List.mem_cons]
        refine ⟨Or.inr, ?_⟩
        rintro (rfl | h)
        · exact hy
        · exact h
      · simp [distinct, hy, ih]

/-- Taking each member once repeats none. -/
theorem nodup_distinct {α : Type} [DecidableEq α] (xs : List α) : (distinct xs).Nodup := by
  induction xs with
  | nil => simp [distinct]
  | cons y ys ih =>
      by_cases hy : y ∈ ys
      · simpa [distinct, hy] using ih
      · simp [distinct, hy, ih]

/-- Storage qualifiers that shaders put in front of a name. -/
def qualifiers : List String := ["a_", "v_", "u_"]

/-- A name without its storage qualifier; at most one is taken off. -/
def unqualified (name : List Char) : List Char :=
  match qualifiers.find? (fun q => q.toList.isPrefixOf name) with
  | some q => name.drop q.toList.length
  | none => name

/-- Is the word made of numbers only? -/
def isNumeral (w : List Char) : Bool :=
  w.all isNumeric

/-- The words that occur in both lists, each once. -/
def shared (xs ys : List (List Char)) : List (List Char) :=
  (distinct xs).filter (fun w => ys.contains w)

/-- How well two lists of canonical words fit. -/
def wordAffinity (xs ys : List (List Char)) : Nat :=
  if (shared xs ys).all isNumeral then 0 else (shared xs ys).length

/-- The canonical words of a field's name. -/
def fieldWords (field : String) : List (List Char) :=
  canonicalWords field.toList

/-- The canonical words of an attribute's name, its qualifier taken off. -/
def attributeWords (attributeName : String) : List (List Char) :=
  canonicalWords (unqualified attributeName.toList)

/-- How well the name of a field fits the name of an attribute. -/
def affinity (field attributeName : String) : Nat :=
  wordAffinity (fieldWords field) (attributeWords attributeName)

/-- A word is shared when it occurs on both sides. -/
theorem mem_shared {w : List Char} {xs ys : List (List Char)} :
    w ∈ shared xs ys ↔ w ∈ xs ∧ w ∈ ys := by
  simp [shared]

/-- **AFFINITY NEEDS A WORD**: two names fit exactly if they share a word that is
    not made of numbers only. -/
theorem wordAffinity_pos_iff {xs ys : List (List Char)} :
    0 < wordAffinity xs ys ↔ ∃ w, w ∈ xs ∧ w ∈ ys ∧ isNumeral w = false := by
  unfold wordAffinity
  by_cases h : (shared xs ys).all isNumeral = true
  · rw [if_pos h]
    refine ⟨fun h0 => absurd h0 (Nat.lt_irrefl 0), ?_⟩
    rintro ⟨w, hx, hy, hw⟩
    have := List.all_eq_true.mp h w (mem_shared.mpr ⟨hx, hy⟩)
    rw [hw] at this
    exact Bool.noConfusion this
  · rw [if_neg h]
    have hex : ∃ w ∈ shared xs ys, isNumeral w = false := by
      simpa using h
    obtain ⟨w, hmem, hw⟩ := hex
    refine ⟨fun _ => ?_, fun _ => List.length_pos_of_mem hmem⟩
    obtain ⟨hx, hy⟩ := mem_shared.mp hmem
    exact ⟨w, hx, hy, hw⟩

end VertexBinding.Naming
