import VertexBinding.Emission.Layouts
import VertexBinding.Proofs.Outcome

/-! # Runs of an emission — from plans to blocks and from blocks to text

    A block has an entry for each binding, and a run a block for each vertex: both go
    through a list and stop at the first element that stops.  The lemmas say when each
    of the steps has a result and in which ways it stops. -/

namespace VertexBinding

open Emission

namespace Emission

/-- A name by which a field can be written: an identifier, or one behind the mark of raw
    identifiers. -/
def Writable (name : String) : Prop :=
  identifier? name ≠ none ∨ identifier? ("r#" ++ name) ≠ none

theorem fieldIdentifier?_eq_none_iff {name : String} :
    fieldIdentifier? name = none ↔ ¬ Writable name := by
  rw [fieldIdentifier?, Writable, not_or, not_not, not_not]
  cases identifier? name with
  | none => exact ⟨fun h => ⟨rfl, h⟩, fun h => h.2⟩
  | some w => exact ⟨nofun, fun h => nomatch h.1⟩

theorem exists_fieldIdentifier?_iff {name : String} :
    (∃ w, fieldIdentifier? name = some w) ↔ Writable name := by
  rw [← Option.ne_none_iff_exists', ne_eq, fieldIdentifier?_eq_none_iff, not_not]

/-! ## Entries -/

/-- The only thing that can go wrong with an entry is the name of its field. -/
theorem exists_entryOf_iff {b : Binding} : (∃ e, entryOf b = .ok e) ↔ Writable b.field := by
  rw [← exists_fieldIdentifier?_iff, entryOf]
  cases fieldIdentifier? b.field with
  | none => exact ⟨nofun, nofun⟩
  | some w => exact ⟨fun _ => ⟨w, rfl⟩, fun _ => ⟨_, rfl⟩⟩

/-- A binding has the entry that its field's identifier gives. -/
theorem entryOf_eq_ok_iff {b : Binding} {e : Entry} :
    entryOf b = .ok e ↔ ∃ w, fieldIdentifier? b.field = some w ∧
      e = ⟨w, b.attributeName, b.format, b.location⟩ := by
  rw [entryOf]
  cases fieldIdentifier? b.field with
  | none =>
      refine iff_of_false nofun ?_
      rintro ⟨_, h, -⟩
      exact nomatch h
  | some w =>
      constructor
      · exact fun h => ⟨w, rfl, (Except.ok.inj h).symm⟩
      · rintro ⟨_, hw, rfl⟩
        obtain rfl := Option.some.inj hw
        rfl

/-- A binding has no entry exactly if its field cannot be written. -/
theorem entryOf_eq_error_iff {b : Binding} {e : LayoutError} :
    entryOf b = .error e ↔ ¬ Writable b.field ∧ e = .invalidIdentifier b.field := by
  rw [← fieldIdentifier?_eq_none_iff, entryOf]
  cases fieldIdentifier? b.field with
  | none => exact ⟨fun h => ⟨rfl, (Except.error.inj h).symm⟩, fun h => congrArg _ h.2.symm⟩
  | some w => exact ⟨nofun, fun h => nomatch h.1⟩

theorem entriesOf_eq_mapM (bs : List Binding) : entriesOf bs = bs.mapM entryOf := by
  induction bs with
  | nil => rfl
  | cons b bs ih => rw [entriesOf, ih, List.mapM_cons]

/-- Entries are missing exactly from the first binding on whose field cannot be written. -/
theorem entriesOf_eq_error_iff {bs : List Binding} {e : LayoutError} :
    entriesOf bs = .error e ↔ ∃ before b after, bs = before ++ b :: after ∧
      (∀ b' ∈ before, Writable b'.field) ∧ ¬ Writable b.field ∧
      e = .invalidIdentifier b.field := by
  rw [entriesOf_eq_mapM, mapM_eq_error_iff]
  simp only [exists_entryOf_iff, entryOf_eq_error_iff]

/-! ## Blocks -/

/-- A block has the path that its vertex is named by. -/
theorem ImplBlock.ofPlan_eq_ok_iff {names : Bool} {plan : Plan} {b : ImplBlock} :
    ImplBlock.ofPlan names plan = .ok b ↔ ∃ path entries, path? plan.vertex = some path ∧
      entriesOf plan.bindings = .ok entries ∧ b = ⟨path, names, entries⟩ := by
  rw [ImplBlock.ofPlan]
  cases path? plan.vertex with
  | none =>
      refine iff_of_false nofun ?_
      rintro ⟨_, _, h, -⟩
      exact nomatch h
  | some path =>
      dsimp only
      rw [bind_eq_ok_iff]
      constructor
      · rintro ⟨entries, hentries, h⟩
        exact ⟨path, entries, rfl, hentries, (Except.ok.inj h).symm⟩
      · rintro ⟨_, entries, hpath, hentries, rfl⟩
        obtain rfl := Option.some.inj hpath
        exact ⟨entries, hentries, rfl⟩

/-- **TWO FAILURES**: a plan has no block if its vertex is named by no path, or else if some
    field cannot be written. -/
theorem ImplBlock.ofPlan_eq_error_iff {names : Bool} {plan : Plan} {e : LayoutError} :
    ImplBlock.ofPlan names plan = .error e ↔
      (path? plan.vertex = none ∧ e = .invalidIdentifier plan.vertex) ∨
      ∃ path, path? plan.vertex = some path ∧ entriesOf plan.bindings = .error e := by
  rw [ImplBlock.ofPlan]
  cases path? plan.vertex with
  | none =>
      constructor
      · exact fun h => Or.inl ⟨rfl, (Except.error.inj h).symm⟩
      · rintro (⟨-, rfl⟩ | ⟨_, h, -⟩)
        · rfl
        · exact nomatch h
  | some path =>
      dsimp only
      rw [bind_eq_error_iff]
      constructor
      · rintro (h | ⟨_, _, h⟩)
        · exact Or.inr ⟨path, rfl, h⟩
        · exact nomatch h
      · rintro (⟨h, -⟩ | ⟨_, -, h⟩)
        · exact nomatch h
        · exact Or.inl h

end Emission

variable {shader : String} {types : TypeTable} {options : WriteOptions} {vertex : Vertex}
  {vertices : List Vertex}

theorem failing_eq_mapError {α : Type} (x : Except LayoutError α) :
    failing x = x.mapError .failed := by
  cases x <;> rfl

theorem failing_eq_ok_iff {α : Type} {x : Except LayoutError α} {a : α} :
    failing x = .ok a ↔ x = .ok a := by
  rw [failing_eq_mapError, mapError_eq_ok_iff]

/-- A failure of planning is a failure of the run, with the same content. -/
theorem failing_eq_error_iff {α : Type} {x : Except LayoutError α} {stop : Stop} :
    failing x = .error stop ↔ ∃ e, x = .error e ∧ stop = .failed e := by
  rw [failing_eq_mapError, mapError_eq_error_iff]

/-- A block is written if there is a plan and each of its fields can be written. -/
theorem blockOf_eq_ok_iff {b : ImplBlock} :
    blockOf shader types options vertex = .ok b ↔
      ∃ plan, Plan.ofVertex shader vertex types = .ok plan ∧
        ImplBlock.ofPlan options.attributeNames plan = .ok b := by
  rw [blockOf, bind_eq_ok_iff]
  simp only [failing_eq_ok_iff]

/-- A vertex has no block if it has no plan, or else if its plan has none. -/
theorem blockOf_eq_error_iff {stop : Stop} :
    blockOf shader types options vertex = .error stop ↔
      Plan.ofVertex shader vertex types = .error stop ∨
      ∃ plan e, Plan.ofVertex shader vertex types = .ok plan ∧
        ImplBlock.ofPlan options.attributeNames plan = .error e ∧ stop = .failed e := by
  rw [blockOf, bind_eq_error_iff]
  simp only [failing_eq_error_iff, exists_and_left]

/-- A run is a traversal: it stops at the first vertex without a block. -/
theorem blocksOf_eq_mapM (shader : String) (types : TypeTable) (options : WriteOptions)
    (vertices : List Vertex) :
    blocksOf shader types options vertices = vertices.mapM (blockOf shader types options) := by
  induction vertices with
  | nil => rfl
  | cons v vs ih => rw [blocksOf, ih, List.mapM_cons]

/-! ## Texts -/

/-- One vertex is written as a list of one. -/
theorem vertexLayout_eq_map (shader : String) (vertex : Vertex) (types : TypeTable)
    (options : WriteOptions) :
    vertexLayout shader vertex types options
      = (blockOf shader types options vertex).map (fun b => writeBlocks options [b]) := by
  rw [vertexLayout, vertexLayouts, blocksOf]
  cases blockOf shader types options vertex with
  | error stop => rfl
  | ok b => rfl

end VertexBinding
