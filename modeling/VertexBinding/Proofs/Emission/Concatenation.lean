import VertexBinding.Proofs.Emission.FirstFailure
import Mathlib.Data.List.Perm.Basic

/-! # Concatenation — the vertices of one run do not influence each other

    Every vertex of a run is matched against all attributes of the shader, so what it
    turns into, or why it turns into nothing, does not depend on the vertices around it.
    Without an outside formatter, and where every name is a path that can be a type, the
    run is the vertices written one by one, with their texts joined
    (`vertexLayouts_eq_mapM`). -/

namespace VertexBinding

open Emission Plan

/-- A vertex whose name does not begin with the word `try`, read as a path. -/
def Vertex.NamesType (v : Vertex) : Prop :=
  ∀ path, path? v.name = some path → path.head? ≠ some (.word "try")

variable {shader : String} {types : TypeTable} {options : WriteOptions} {v : Vertex}
  {vertices : List Vertex} {b : ImplBlock} {bs : List ImplBlock}

/-! ## Blocks -/

theorem isTypePath_iff {path : List Source.Token} :
    isTypePath path = true ↔ path.head? ≠ some (.word "try") := by
  rw [isTypePath.eq_def]
  split
  · simp
  · rename_i hne
    refine iff_of_true rfl ?_
    intro hhead
    obtain ⟨rest, rfl⟩ := List.head?_eq_some_iff.mp hhead
    exact hne rest rfl

theorem isTypePath_of_blockOf (hv : v.NamesType) (h : blockOf shader types options v = .ok b) :
    isTypePath b.path = true := by
  obtain ⟨plan, hplan, hblock⟩ := blockOf_eq_ok_iff.mp h
  obtain ⟨path, entries, hpath, -, rfl⟩ := ImplBlock.ofPlan_eq_ok_iff.mp hblock
  rw [(fields_of_plan hplan).1] at hpath
  exact isTypePath_iff.mpr (hv path hpath)

/-- Blocks that can all be set are set one behind the other. -/
theorem writeBlocks_eq_join (hformatter : options.formatter? = none)
    (h : ∀ b ∈ bs, isTypePath b.path = true) :
    writeBlocks options bs = String.join (bs.map ImplBlock.text) := by
  rw [writeBlocks, hformatter, Option.bind_none]
  exact if_pos (List.all_eq_true.mpr h)

/-! ## Runs -/

/-- A vertex that is written alone gives the text of its block. -/
theorem vertexLayout_of_blockOf (hformatter : options.formatter? = none) (hv : v.NamesType)
    (h : blockOf shader types options v = .ok b) :
    vertexLayout shader v types options = .ok b.text := by
  have htype : ∀ b' ∈ [b], isTypePath b'.path = true :=
    List.forall_mem_singleton.mpr (isTypePath_of_blockOf hv h)
  rw [vertexLayout_eq_map, h]
  show Except.ok (writeBlocks options [b]) = _
  rw [writeBlocks_eq_join hformatter htype, List.map_singleton, String.join_cons,
    String.join_nil, String.append_empty]

/-- **ONE BY ONE**: a run writes each vertex as if it were alone, and joins the texts. -/
theorem vertexLayouts_eq_mapM (hformatter : options.formatter? = none)
    (hnames : ∀ v ∈ vertices, v.NamesType) :
    vertexLayouts shader vertices types options
      = (vertices.mapM (fun v => vertexLayout shader v types options)).map String.join := by
  rw [vertexLayouts, blocksOf_eq_mapM]
  cases hblocks : vertices.mapM (blockOf shader types options) with
  | ok bs =>
      have hall := (List.forall₂_and_left _ _).mpr ⟨hnames, mapM_eq_ok_iff.mp hblocks⟩
      have hpaths : List.Forall₂ (fun b v => isTypePath b.path = true ∧ v.NamesType) bs vertices :=
        hall.flip.imp (fun b v h => ⟨isTypePath_of_blockOf h.1 h.2, h.1⟩)
      have htypes := ((List.forall₂_and_left _ _).mp hpaths).1
      have htexts : vertices.mapM (fun v => vertexLayout shader v types options)
          = .ok (bs.map ImplBlock.text) := by
        rw [mapM_eq_ok_iff, List.forall₂_map_right_iff]
        exact hall.imp (fun v b h => vertexLayout_of_blockOf hformatter h.1 h.2)
      rw [htexts]
      exact congrArg Except.ok (writeBlocks_eq_join hformatter htypes)
  | error stop =>
      obtain ⟨before, v, after, hvertices, hbefore, hstop⟩ := mapM_eq_error_iff.mp hblocks
      have hfirst : vertices.mapM (fun v => vertexLayout shader v types options)
          = .error stop := by
        refine mapM_eq_error_iff.mpr ⟨before, v, after, hvertices, ?_, ?_⟩
        · intro u hu
          obtain ⟨b, hb⟩ := hbefore u hu
          rw [vertexLayout_eq_map, hb]
          exact ⟨_, rfl⟩
        · rw [vertexLayout_eq_map, hstop]
          rfl
      rw [hfirst]
      rfl

theorem vertexLayouts_of_texts (hformatter : options.formatter? = none)
    (hnames : ∀ v ∈ vertices, v.NamesType) {texts : List String}
    (h : List.Forall₂ (fun v t => vertexLayout shader v types options = .ok t) vertices texts) :
    vertexLayouts shader vertices types options = .ok (String.join texts) := by
  rw [vertexLayouts_eq_mapM hformatter hnames, mapM_eq_ok_iff.mpr h]
  rfl

/-- **VERTICES STAND ALONE**: a run gives the texts that its vertices give alone, joined in
    their order, or stops as the first vertex that stops alone.  So another order of the
    vertices gives the same texts in that order, and any number of vertices can use the same
    attributes. -/
theorem vertexLayouts_stand_alone (hformatter : options.formatter? = none)
    (hnames : ∀ v ∈ vertices, v.NamesType) :
    (∀ text, vertexLayouts shader vertices types options = .ok text ↔
        ∃ texts, List.Forall₂ (fun v t => vertexLayout shader v types options = .ok t)
          vertices texts ∧ text = String.join texts) ∧
      (∀ stop, vertexLayouts shader vertices types options = .error stop ↔
        ∃ before v after, vertices = before ++ v :: after ∧
          (∀ u ∈ before, ∃ t, vertexLayout shader u types options = .ok t) ∧
          vertexLayout shader v types options = .error stop) ∧
      (∀ texts order, order.Perm vertices →
        List.Forall₂ (fun v t => vertexLayout shader v types options = .ok t) vertices texts →
        ∃ texts', texts'.Perm texts ∧
          List.Forall₂ (fun v t => vertexLayout shader v types options = .ok t) order texts' ∧
          vertexLayouts shader order types options = .ok (String.join texts')) ∧
      ∀ v ∈ vertices, ∀ t n, vertexLayout shader v types options = .ok t →
        vertexLayouts shader (List.replicate n v) types options
          = .ok (String.join (List.replicate n t)) := by
  refine ⟨fun text => ?_, fun stop => ?_, ?_, ?_⟩
  · rw [vertexLayouts_eq_mapM hformatter hnames, map_eq_ok_iff]
    simp only [mapM_eq_ok_iff]
  · rw [vertexLayouts_eq_mapM hformatter hnames, map_eq_error_iff, mapM_eq_error_iff]
  · intro texts order horder htexts
    obtain ⟨texts', htexts', hperm⟩ := List.perm_comp_forall₂ horder htexts
    have hnames' : ∀ v ∈ order, v.NamesType := fun v hv => hnames v (horder.mem_iff.mp hv)
    exact ⟨texts', hperm, htexts', vertexLayouts_of_texts hformatter hnames' htexts'⟩
  · intro v hv t n ht
    have hnames' : ∀ u ∈ List.replicate n v, u.NamesType := by
      intro u hu
      exact List.eq_of_mem_replicate hu ▸ hnames v hv
    refine vertexLayouts_of_texts hformatter hnames' ?_
    induction n with
    | zero => exact .nil
    | succ n ih => exact .cons ht (ih (fun u hu => hnames' u (List.mem_cons_of_mem v hu)))

/-- Two vertices that use the same attribute. -/
theorem vertexLayouts_stand_alone_shared :
    ∃ point mesh,
      vertexLayout "attribute vec4 a_Color; attribute vec2 a_UV;"
        ⟨"Point", [⟨"color", "[f32; 4]"⟩], 1⟩ TypeTable.standard {} = .ok point ∧
      vertexLayout "attribute vec4 a_Color; attribute vec2 a_UV;"
        ⟨"Mesh", [⟨"uv", "[f32; 2]"⟩, ⟨"color", "[f32; 4]"⟩], 1⟩ TypeTable.standard {}
        = .ok mesh ∧
      vertexLayouts "attribute vec4 a_Color; attribute vec2 a_UV;"
        [⟨"Point", [⟨"color", "[f32; 4]"⟩], 1⟩,
          ⟨"Mesh", [⟨"uv", "[f32; 2]"⟩, ⟨"color", "[f32; 4]"⟩], 1⟩] TypeTable.standard {}
        = .ok (String.join [point, mesh]) := by
  have hpoint : (vertexLayout "attribute vec4 a_Color; attribute vec2 a_UV;"
      ⟨"Point", [⟨"color", "[f32; 4]"⟩], 1⟩ TypeTable.standard {}).isOk = true := by
    decide +kernel
  have hmesh : (vertexLayout "attribute vec4 a_Color; attribute vec2 a_UV;"
      ⟨"Mesh", [⟨"uv", "[f32; 2]"⟩, ⟨"color", "[f32; 4]"⟩], 1⟩ TypeTable.standard {}).isOk
      = true := by
    decide +kernel
  have hnames : ∀ v ∈ [(⟨"Point", [⟨"color", "[f32; 4]"⟩], 1⟩ : Vertex),
      ⟨"Mesh", [⟨"uv", "[f32; 2]"⟩, ⟨"color", "[f32; 4]"⟩], 1⟩], v.NamesType := by
    have hpath : path? "Point" = some [.word "Point"] ∧ path? "Mesh" = some [.word "Mesh"] := by
      decide +kernel
    intro v hv path h
    rcases List.mem_pair.mp hv with rfl | rfl
    · obtain rfl := Option.some.inj (hpath.1.symm.trans h)
      decide
    · obtain rfl := Option.some.inj (hpath.2.symm.trans h)
      decide
  obtain ⟨point, hpoint⟩ := exists_ok_of_isOk hpoint
  obtain ⟨mesh, hmesh⟩ := exists_ok_of_isOk hmesh
  refine ⟨point, mesh, hpoint, hmesh, ?_⟩
  exact ((vertexLayouts_stand_alone rfl hnames).1 _).mpr
    ⟨[point, mesh], .cons hpoint (.cons hmesh .nil), rfl⟩

end VertexBinding
