import VertexBinding.Naming.Affinity
import Mathlib.Data.List.Perm.Lattice

/-! # Same words — the affinity of names is one of sets

    Names are compared by the words they share.  In which order a name has its words,
    and how often it repeats one, changes nothing; nor does a qualifier in front of an
    attribute's name, because it is taken off before the words are read. -/

namespace VertexBinding.Naming

/-- Two lists hold the same words, in whatever order and however often. -/
def SameWords (xs ys : List (List Char)) : Prop :=
  ∀ w, w ∈ xs ↔ w ∈ ys

instance (xs ys : List (List Char)) : Decidable (SameWords xs ys) :=
  decidable_of_iff (xs ⊆ ys ∧ ys ⊆ xs)
    ⟨fun h _ => ⟨fun hw => h.1 hw, fun hw => h.2 hw⟩,
      fun h => ⟨fun w hw => (h w).mp hw, fun w hw => (h w).mpr hw⟩⟩

variable {xs xs' ys ys' : List (List Char)}

theorem sameWords_of_eq (h : xs = ys) : SameWords xs ys := by
  subst h
  exact fun w => Iff.rfl

/-- The words that two lists share are the same, each once, for lists of the same words. -/
theorem shared_perm (hx : SameWords xs xs') (hy : SameWords ys ys') :
    (shared xs ys).Perm (shared xs' ys') := by
  have hnodup : ∀ us vs : List (List Char), (shared us vs).Nodup := by
    intro us vs
    exact (nodup_distinct us).filter _
  refine (List.perm_ext_iff_of_nodup (hnodup xs ys) (hnodup xs' ys')).mpr ?_
  intro w
  rw [mem_shared, mem_shared, hx w, hy w]

/-- **AFFINITY IS ONE OF SETS**. -/
theorem wordAffinity_congr (hx : SameWords xs xs') (hy : SameWords ys ys') :
    wordAffinity xs ys = wordAffinity xs' ys' := by
  have hperm := shared_perm hx hy
  have hnumerals : (shared xs ys).all isNumeral = (shared xs' ys').all isNumeral :=
    hperm.all_eq
  rw [wordAffinity, wordAffinity, hnumerals, hperm.length_eq]

/-! ## Qualifiers -/

/-- A qualifier in front of a name is taken off, whatever the name is. -/
theorem unqualified_append {q : String} (hq : q ∈ qualifiers) (name : List Char) :
    unqualified (q.toList ++ name) = name := by
  simp only [qualifiers, List.mem_cons, List.not_mem_nil, or_false] at hq
  rcases hq with rfl | rfl | rfl <;> rfl

/-- A name that begins with no qualifier stays as it is. -/
theorem unqualified_of_bare {name : List Char} (h : ∀ q ∈ qualifiers, ¬ q.toList <+: name) :
    unqualified name = name := by
  have hfind : qualifiers.find? (fun q => q.toList.isPrefixOf name) = none := by
    rw [List.find?_eq_none]
    intro q hq hprefix
    exact h q hq (List.isPrefixOf_iff_prefix.mp hprefix)
  rw [unqualified, hfind]

/-- The second name is the first, or the first had no qualifier and has got one. -/
def Qualified (name name' : String) : Prop :=
  name' = name ∨
    (∀ q ∈ qualifiers, ¬ q.toList <+: name.toList) ∧ ∃ q ∈ qualifiers, name' = q ++ name

/-- A qualifier adds no word. -/
theorem Qualified.attributeWords_eq {name name' : String} (h : Qualified name name') :
    attributeWords name = attributeWords name' := by
  rcases h with rfl | ⟨hbare, q, hq, rfl⟩
  · rfl
  · rw [attributeWords, attributeWords, unqualified_of_bare hbare, String.toList_append,
      unqualified_append hq]

end VertexBinding.Naming
