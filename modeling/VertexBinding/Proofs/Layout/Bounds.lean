import VertexBinding.Proofs.Layout.Exactness

/-! # Bounds — how much arithmetic a table can cause

    Types whose sizes and alignments are bounded bound the end of every run: each field
    adds at most its padding and its size (`finishFrom_le`).  The stride needs an argument
    of its own, since the alignment of the struct is not bounded by the table: rounding up
    to it goes no further than the alignment itself, or than twice the end
    (`strideOf_lt`).  So a table with small types never faults for as many fields as its
    bounds allow. -/

namespace VertexBinding

/-- An alignment that is not zero and has a bound, and a size that has one. -/
structure FieldType.Within (t : FieldType) (align size : Nat) : Prop where
  align_pos : 0 < t.align
  align_le : t.align ≤ align
  size_le : t.size ≤ size

/-- Rounding up stays below one more step. -/
theorem alignUp_lt {align : Nat} (h : 0 < align) (value : Nat) :
    alignUp value align < value + align := by
  have hle : alignUp value align ≤ value + align - 1 := Nat.div_mul_le_self ..
  omega

namespace FieldType.Within

variable {t : FieldType} {align size : Nat}

/-- **STEP**: a field adds at most its padding and its size. -/
theorem finishAfter_le (h : t.Within align size) (finish : Nat) :
    t.finishAfter finish ≤ finish + (align + size) := by
  have hoffset := alignUp_lt h.align_pos finish
  have halign := h.align_le
  have hsize := h.size_le
  rw [FieldType.finishAfter, FieldType.offsetAfter, ← alignUp_eq_ceilDiv]
  omega

/-- A field has a place if one more of its kind would fit. -/
theorem not_faults (h : t.Within align size) {finish : Nat}
    (hfits : finish + (align + size) < offsetLimit) : ¬ t.Faults finish := by
  have hfinish := h.finishAfter_le finish
  have hoffset : t.offsetAfter finish ≤ t.finishAfter finish := Nat.le_add_right ..
  rintro (hzero | hlimit | hlimit)
  · exact absurd hzero (Nat.ne_of_gt h.align_pos)
  · omega
  · omega

end FieldType.Within

namespace Plan

variable {align size : Nat} {ts : List FieldType}

/-- **RUN**: fields add at most their padding and their sizes. -/
theorem finishFrom_le (h : ∀ t ∈ ts, t.Within align size) (finish : Nat) :
    finishFrom finish ts ≤ finish + ts.length * (align + size) := by
  induction ts generalizing finish with
  | nil => exact Nat.le_add_right ..
  | cons t ts ih =>
      obtain ⟨ht, hts⟩ := List.forall_mem_cons.mp h
      calc finishFrom finish (t :: ts)
          ≤ t.finishAfter finish + ts.length * (align + size) := ih hts _
        _ ≤ finish + (align + size) + ts.length * (align + size) :=
            Nat.add_le_add_right (ht.finishAfter_le finish) _
        _ = finish + (t :: ts).length * (align + size) := by
            rw [List.length_cons, Nat.succ_mul]
            omega

/-- The stride fits if the end of the fields and the alignments do, the end with a bit to
    spare. -/
theorem strideOf_lt {vertexAlign : Nat} (hfinish : 2 * finishFrom 0 ts ≤ offsetLimit)
    (hvertex : vertexAlign < offsetLimit) (hts : ∀ t ∈ ts, t.align < offsetLimit) :
    strideOf vertexAlign ts < offsetLimit := by
  have hpos : 0 < strictest (max vertexAlign 1) ts :=
    Nat.lt_of_lt_of_le (Nat.lt_of_lt_of_le Nat.zero_lt_one (Nat.le_max_right ..))
      (le_strictest ..)
  have hlimit : strictest (max vertexAlign 1) ts < offsetLimit := by
    rcases strictest_mem (max vertexAlign 1) ts with h | ⟨t, ht, h⟩
    · rw [h]
      exact Nat.max_lt.mpr ⟨hvertex, by decide⟩
    · rw [← h]
      exact hts t ht
  rw [strideOf, ← alignUp_eq_ceilDiv]
  rcases Nat.le_total (finishFrom 0 ts) (strictest (max vertexAlign 1) ts) with hle | hle
  · -- one step of the alignment holds all fields
    exact Nat.lt_of_le_of_lt (alignUp_le hpos (Nat.dvd_refl _) hle) hlimit
  · have hstep := alignUp_lt hpos (finishFrom 0 ts)
    omega

/-- Fields that are served have types of the table. -/
theorem Served.within {types : TypeTable} {pool rest : Pool} {fields : List Declaration}
    {cs : List Candidate} (h : Served types pool fields ts cs rest)
    (htypes : ∀ type t, types.get? type = some t → t.Within align size) :
    ∀ t ∈ ts, t.Within align size := by
  intro t ht
  rw [eq_filterMap_of_typed h.typed] at ht
  obtain ⟨field, -, hfield⟩ := List.mem_filterMap.mp ht
  exact htypes field.type t hfield

variable {shader : String} {vertex : Vertex} {types : TypeTable}

theorem not_fieldFaults {pool : Pool} {fields : List Declaration}
    (htypes : ∀ type t, types.get? type = some t → t.Within align size)
    (hfits : fields.length * (align + size) < offsetLimit) :
    ¬ FieldFaults types pool 0 fields := by
  rintro ⟨before, field, after, ts, cs, rest, rfl, hserved, -, t, _, _, ht, -, hfaults⟩
  refine (htypes field.type t ht).not_faults ?_ hfaults
  have hfinish := finishFrom_le (hserved.within htypes) 0
  rw [Nat.zero_add, ← hserved.typed.length_eq] at hfinish
  have hroom : (before.length + 1) * (align + size)
      ≤ (before ++ field :: after).length * (align + size) := by
    refine Nat.mul_le_mul_right _ ?_
    rw [List.length_append, List.length_cons]
    omega
  rw [Nat.succ_mul] at hroom
  omega

theorem not_strideFaults {pool : Pool}
    (htypes : ∀ type t, types.get? type = some t → t.Within align size)
    (hfits : 2 * (vertex.fields.length * (align + size)) ≤ offsetLimit)
    (hvertex : vertex.align < offsetLimit) : ¬ StrideFaults types pool vertex := by
  rintro ⟨ts, cs, rest, hserved, -, hlimit⟩
  have hwithin := hserved.within htypes
  have hfinish := finishFrom_le hwithin 0
  rw [Nat.zero_add, ← hserved.typed.length_eq] at hfinish
  refine absurd hlimit (Nat.not_le_of_lt (strideOf_lt (by omega) hvertex ?_))
  intro t ht
  have halign := (hwithin t ht).align_le
  have hpos : 0 < vertex.fields.length := by
    rw [hserved.typed.length_eq]
    exact List.length_pos_of_mem ht
  have hone : align + size ≤ vertex.fields.length * (align + size) :=
    Nat.le_mul_of_pos_left _ hpos
  have hlimit : 0 < offsetLimit := by decide
  omega

/-- **NO FAULT** with a table of bounded types, if the bounds leave room for the fields
    twice: planning returns a plan or a failure. -/
theorem ofVertex_within_returns
    (htypes : ∀ type t, types.get? type = some t → t.Within align size)
    (hfits : 2 * (vertex.fields.length * (align + size)) ≤ offsetLimit)
    (hvertex : vertex.align < offsetLimit) :
    (∃ plan, ofVertex shader vertex types = .ok plan) ∨
      ∃ e, ofVertex shader vertex types = .error (.failed e) := by
  have hlimit : 0 < offsetLimit := by decide
  cases h : ofVertex shader vertex types with
  | ok plan => exact Or.inl ⟨plan, rfl⟩
  | error stop =>
      cases stop with
      | failed e => exact Or.inr ⟨e, rfl⟩
      | faulted f =>
          rcases ofVertex_faulted_iff.mp ⟨f, h⟩ with hfield | hstride
          · exact absurd hfield (not_fieldFaults htypes (by omega))
          · exact absurd hstride (not_strideFaults htypes hfits hvertex)

end Plan

/-! ## The standard table -/

namespace TypeTable

/-- What a table finds is one of its entries. -/
theorem mem_of_get? {table : TypeTable} {type : String} {t : FieldType}
    (h : table.get? type = some t) : ∃ key, (key, t) ∈ table.entries := by
  obtain ⟨⟨key, t'⟩, hfind, rfl⟩ := Option.map_eq_some_iff.mp h
  exact ⟨key, List.mem_of_find?_eq_some hfind⟩

/-- The standard types are aligned to 16 bytes at most, and have 32 at most. -/
theorem standard_within {type : String} {t : FieldType} (h : standard.get? type = some t) :
    t.Within 16 32 := by
  have hall : ∀ entry ∈ standard.entries,
      0 < entry.2.align ∧ entry.2.align ≤ 16 ∧ entry.2.size ≤ 32 := by
    decide +kernel
  obtain ⟨key, hmem⟩ := mem_of_get? h
  obtain ⟨hpos, halign, hsize⟩ := hall (key, t) hmem
  exact ⟨hpos, halign, hsize⟩

end TypeTable

namespace Plan

/-- **THE STANDARD TABLE NEVER FAULTS**, whatever the struct is aligned to: not for fewer than
    2^57 fields, of which each adds at most 48 bytes. -/
theorem ofVertex_standard_returns {shader : String} {vertex : Vertex}
    (hfields : vertex.fields.length < 2 ^ 57) (hvertex : vertex.align < 2 ^ 64) :
    (∃ plan, ofVertex shader vertex TypeTable.standard = .ok plan) ∨
      ∃ e, ofVertex shader vertex TypeTable.standard = .error (.failed e) := by
  refine ofVertex_within_returns (fun _ _ h => TypeTable.standard_within h) ?_ hvertex
  have hlimit : offsetLimit = 2 ^ 64 := rfl
  omega

/-- A struct with the largest alignment there is, which is no power of two. -/
theorem ofVertex_standard_returns_largest :
    (∃ plan, ofVertex "attribute vec3 a_Position; attribute vec4 a_Color;"
      ⟨"Vertex", [⟨"pos", "Vec3"⟩, ⟨"color", "[f64; 4]"⟩], 2 ^ 64 - 1⟩ TypeTable.standard
        = .ok plan) ∨
      ∃ e, ofVertex "attribute vec3 a_Position; attribute vec4 a_Color;"
        ⟨"Vertex", [⟨"pos", "Vec3"⟩, ⟨"color", "[f64; 4]"⟩], 2 ^ 64 - 1⟩ TypeTable.standard
          = .error (.failed e) :=
  ofVertex_standard_returns (by decide) (by decide)

end Plan

end VertexBinding
