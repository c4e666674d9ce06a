import VertexBinding.Proofs.Layout.Exactness
import Mathlib.Order.Bounds.Basic

/-! # Arrangement — the layout that the representation of C prescribes

    Fields lie in their order, each at the least multiple of its alignment behind the
    one before it, and the struct is padded to the least multiple of its strictest
    alignment.  In an array of such structs every field of every element is aligned
    if the alignments are powers of two: then each of them divides the strictest, so
    padding to that one serves all.  For other alignments only the first element is
    sure to be aligned. -/

namespace VertexBinding.Plan

/-- Fields of the given types lie at the given offsets behind an end, the last of them
    up to another end. -/
inductive Arranged : Nat → List FieldType → List Nat → Nat → Prop where
  | nil (finish : Nat) : Arranged finish [] [] finish
  | cons {finish offset last : Nat} {t : FieldType} {ts : List FieldType} {offsets : List Nat}
      (least : IsLeast {m | t.align ∣ m ∧ finish ≤ m} offset)
      (rest : Arranged (offset + t.size) ts offsets last) :
      Arranged finish (t :: ts) (offset :: offsets) last

/-- Rounding up gives the least multiple that is not below the value. -/
theorem isLeast_ceilDiv_mul {align : Nat} (h : 0 < align) (value : Nat) :
    IsLeast {m | align ∣ m ∧ value ≤ m} ((value ⌈/⌉ align) * align) := by
  rw [← alignUp_eq_ceilDiv]
  refine ⟨⟨dvd_alignUp value align, le_alignUp h value⟩, ?_⟩
  rintro m ⟨hdvd, hle⟩
  exact alignUp_le h hdvd hle

/-- Fields that have places are arranged in them. -/
theorem arranged_of_placeable {finish : Nat} {ts : List FieldType} (h : Placeable finish ts) :
    Arranged finish ts (offsetsFrom finish ts) (finishFrom finish ts) := by
  induction ts generalizing finish with
  | nil => exact .nil finish
  | cons t ts ih =>
      obtain ⟨hplace, hplaces⟩ := h
      have halign : 0 < t.align := Nat.pos_of_ne_zero (fun h0 => hplace (Or.inl h0))
      exact .cons (isLeast_ceilDiv_mul halign finish) (ih hplaces)

namespace Arranged

variable {finish last : Nat} {ts : List FieldType} {offsets : List Nat}

/-- Fields that are arranged behind a place end at it or behind it. -/
theorem finish_le (h : Arranged finish ts offsets last) : finish ≤ last := by
  induction h with
  | nil => exact Nat.le_refl _
  | cons least _ ih => exact Nat.le_trans least.1.2 (Nat.le_trans (Nat.le_add_right ..) ih)

/-- Every field lies between the two ends. -/
theorem mem_bounds (h : Arranged finish ts offsets last) {p : FieldType × Nat}
    (hp : p ∈ ts.zip offsets) : finish ≤ p.2 ∧ p.2 + p.1.size ≤ last := by
  induction h with
  | nil => exact nomatch hp
  | cons least rest ih =>
      rw [List.zip_cons_cons] at hp
      rcases List.mem_cons.mp hp with rfl | hmem
      · exact ⟨least.1.2, rest.finish_le⟩
      · obtain ⟨hle, hlast⟩ := ih hmem
        exact ⟨Nat.le_trans least.1.2 (Nat.le_trans (Nat.le_add_right ..) hle), hlast⟩

/-- No field begins before all fields in front of it have ended. -/
theorem pairwise (h : Arranged finish ts offsets last) :
    (ts.zip offsets).Pairwise (fun p q => p.2 + p.1.size ≤ q.2) := by
  induction h with
  | nil => exact .nil
  | cons _ rest ih => exact .cons (fun q hq => (rest.mem_bounds hq).1) ih

/-- Each field stands at a multiple of its alignment. -/
theorem dvd_offset (h : Arranged finish ts offsets last) {p : FieldType × Nat}
    (hp : p ∈ ts.zip offsets) : p.1.align ∣ p.2 := by
  induction h with
  | nil => exact nomatch hp
  | cons least _ ih =>
      rw [List.zip_cons_cons] at hp
      rcases List.mem_cons.mp hp with rfl | hmem
      · exact least.1.1
      · exact ih hmem

end Arranged

/-! ## The strictest alignment -/

/-- The strictest alignment is the greatest of all that take part. -/
theorem strictest_isGreatest (align : Nat) (ts : List FieldType) :
    IsGreatest ({1, align} ∪ {a | ∃ t ∈ ts, t.align = a}) (strictest (max align 1) ts) := by
  constructor
  · rcases strictest_mem (max align 1) ts with h | h
    · rw [h]
      rcases Nat.le_total align 1 with hle | hle
      · exact Or.inl (Or.inl (Nat.max_eq_right hle))
      · exact Or.inl (Or.inr (Nat.max_eq_left hle))
    · exact Or.inr h
  · have hle := le_strictest (max align 1) ts
    rintro a ((rfl | rfl) | ⟨t, ht, rfl⟩)
    · exact Nat.le_trans (Nat.le_max_right ..) hle
    · exact Nat.le_trans (Nat.le_max_left ..) hle
    · exact align_le_strictest ht _

/-- Of two powers of two the smaller divides the larger. -/
theorem dvd_of_isPowerOfTwo {a b : Nat} (ha : a.isPowerOfTwo) (hb : b.isPowerOfTwo) (h : a ≤ b) :
    a ∣ b := by
  obtain ⟨j, rfl⟩ := ha
  obtain ⟨k, rfl⟩ := hb
  exact Nat.pow_dvd_pow 2 ((Nat.pow_le_pow_iff_right (by decide)).mp h)

/-- Among powers of two the strictest alignment is one. -/
theorem strictest_isPowerOfTwo {align : Nat} {ts : List FieldType} (halign : align.isPowerOfTwo)
    (hts : ∀ t ∈ ts, t.align.isPowerOfTwo) : (strictest align ts).isPowerOfTwo := by
  rcases strictest_mem align ts with h | ⟨t, ht, h⟩
  · rw [h]
    exact halign
  · rw [← h]
    exact hts t ht

/-- **THE REPRESENTATION OF C**: the fields of a plan are arranged from zero on, in their
    order and without overlap; the stride is the end of the last field, padded to the
    strictest alignment, and holds all fields.  Are the alignments powers of two, then
    every element of an array is aligned, and every field in it. -/
theorem ofVertex_arranged {shader : String} {vertex : Vertex} {types : TypeTable} {plan : Plan}
    (hplan : ofVertex shader vertex types = .ok plan) :
    ∃ ts finish largest,
      List.Forall₂ (fun field t => types.get? field.type = some t) vertex.fields ts ∧
      plan.bindings.map Binding.field = vertex.fields.map Declaration.name ∧
      Arranged 0 ts (plan.bindings.map Binding.offset) finish ∧
      (ts.zip (plan.bindings.map Binding.offset)).Pairwise (fun p q => p.2 + p.1.size ≤ q.2) ∧
      IsGreatest ({1, vertex.align} ∪ {a | ∃ t ∈ ts, t.align = a}) largest ∧
      IsLeast {m | largest ∣ m ∧ finish ≤ m} plan.stride ∧
      (∀ p ∈ ts.zip (plan.bindings.map Binding.offset), p.2 + p.1.size ≤ plan.stride) ∧
      ((max vertex.align 1).isPowerOfTwo → (∀ t ∈ ts, t.align.isPowerOfTwo) →
        ∀ i, max vertex.align 1 ∣ i * plan.stride ∧
          ∀ p ∈ ts.zip (plan.bindings.map Binding.offset), p.1.align ∣ i * plan.stride + p.2) := by
  obtain ⟨ts, cs, rest, hserved, hplaces, rfl⟩ := served_of_plan hplan
  have harranged := arranged_of_placeable hplaces
  have hgreatest := strictest_isGreatest vertex.align ts
  have hstride : IsLeast {m | strictest (max vertex.align 1) ts ∣ m ∧ finishFrom 0 ts ≤ m}
      (strideOf vertex.align ts) :=
    isLeast_ceilDiv_mul (hgreatest.2 (Or.inl (Or.inl rfl))) _
  refine ⟨ts, finishFrom 0 ts, strictest (max vertex.align 1) ts, hserved.typed,
    hserved.fieldNames 0, ?_⟩
  rw [hserved.offsets 0]
  refine ⟨harranged, harranged.pairwise, hgreatest, hstride, ?_, ?_⟩
  · intro p hp
    exact Nat.le_trans (harranged.mem_bounds hp).2 hstride.1.2
  · intro halign hts i
    have hlargest := strictest_isPowerOfTwo halign hts
    -- what divides the strictest alignment divides the address of every element
    have helement : ∀ a, a.isPowerOfTwo → a ≤ strictest (max vertex.align 1) ts →
        a ∣ i * strideOf vertex.align ts := fun a ha hle =>
      Nat.dvd_mul_left_of_dvd ((dvd_of_isPowerOfTwo ha hlargest hle).trans hstride.1.1) i
    refine ⟨helement _ halign (le_strictest _ ts), ?_⟩
    intro p hp
    have ht : p.1 ∈ ts := (List.of_mem_zip hp).1
    exact Nat.dvd_add (helement _ (hts p.1 ht) (align_le_strictest ht _))
      (harranged.dvd_offset hp)

/-- A size that is no multiple of its alignment, and a struct aligned beyond its fields. -/
theorem ofVertex_arranged_padded :
    ∃ ts finish largest, Arranged 0 ts [0, 12, 20] finish ∧
      IsGreatest ({1, 16} ∪ {a | ∃ t ∈ ts, t.align = a}) largest ∧
      IsLeast {m | largest ∣ m ∧ finish ≤ m} 32 ∧
      ∀ i, 16 ∣ i * 32 ∧ ∀ p ∈ ts.zip [0, 12, 20], p.1.align ∣ i * 32 + p.2 := by
  have hplan : ofVertex "attribute vec3 a_Position; attribute float a_Weights; attribute vec2 a_UV;"
      ⟨"Vertex", [⟨"pos", "[f32; 3]"⟩, ⟨"bone", "Weights"⟩, ⟨"uv", "[f32; 2]"⟩], 16⟩
      (TypeTable.standard.insert "Weights" ⟨.uint8x4, 4, 5, 2⟩)
      = .ok ⟨"Vertex", 32, [⟨"pos", "a_Position", 0, .float32x3, 3, 0⟩,
          ⟨"bone", "a_Weights", 1, .uint8x4, 4, 12⟩, ⟨"uv", "a_UV", 2, .float32x2, 2, 20⟩]⟩ := by
    decide +kernel
  obtain ⟨ts, finish, largest, htyped, -, harranged, -, hgreatest, hleast, -, haligned⟩ :=
    ofVertex_arranged hplan
  refine ⟨ts, finish, largest, harranged, hgreatest, hleast, haligned ⟨4, rfl⟩ ?_⟩
  have hts : ts = [⟨.float32x3, 3, 12, 4⟩, ⟨.uint8x4, 4, 5, 2⟩, ⟨.float32x2, 2, 8, 4⟩] :=
    (eq_filterMap_of_typed htyped).trans (by decide +kernel)
  rw [hts]
  rintro t (_ | ⟨_, _ | ⟨_, _ | ⟨_, ht⟩⟩⟩)
  · exact ⟨2, rfl⟩
  · exact ⟨1, rfl⟩
  · exact ⟨2, rfl⟩
  · exact nomatch ht

end VertexBinding.Plan
