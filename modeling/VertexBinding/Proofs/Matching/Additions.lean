import VertexBinding.Proofs.Matching.Interleaving
import VertexBinding.Proofs.Matching.Locations

/-! # Additions — attributes that fit no field change nothing but locations

    A list of attributes is extended by writing others between them.  If the others
    fit no field, then every field takes the declaration it took before; its location
    has moved by the number of additions in front of it.  The additions are all left
    over. -/

namespace VertexBinding.Pool

open Naming

/-- An attribute of an extended list: one that was there, or one that was added. -/
inductive Entry where
  | kept (d : Declaration)
  | added (d : Declaration)
  deriving DecidableEq, Repr

namespace Entry

def declaration : Entry → Declaration
  | kept d => d
  | added d => d

def kept? : Entry → Option Declaration
  | kept d => some d
  | added _ => none

def isAdded : Entry → Bool
  | kept _ => false
  | added _ => true

end Entry

/-- The attributes before the additions. -/
def original (entries : List Entry) : List Declaration :=
  entries.filterMap Entry.kept?

/-- The attributes with the additions. -/
def extended (entries : List Entry) : List Declaration :=
  entries.map Entry.declaration

/-- How many additions stand in front of a location of the extended list. -/
def addedBefore (entries : List Entry) (l : Nat) : Nat :=
  (entries.take l).countP Entry.isAdded

/-- Two candidates are the same declaration, in the list without the additions and in
    the list with them. -/
structure SameEntry (entries : List Entry) (c c' : Candidate) : Prop where
  kept : entries[c'.location]? = some (.kept c.declaration)
  declaration_eq : c'.declaration = c.declaration
  location_eq : c'.location = c.location + addedBefore entries c'.location

/-- The additions as candidates, their locations counted from a number on. -/
def additionsFrom : Nat → List Entry → List Candidate
  | _, [] => []
  | l, .kept _ :: entries => additionsFrom (l + 1) entries
  | l, .added d :: entries => ⟨l, d⟩ :: additionsFrom (l + 1) entries

theorem added_mem_of_mem_additionsFrom {entries : List Entry} {l : Nat} {c : Candidate}
    (h : c ∈ additionsFrom l entries) : Entry.added c.declaration ∈ entries := by
  induction entries generalizing l with
  | nil => exact nomatch h
  | cons entry entries ih =>
      cases entry with
      | kept d => exact List.mem_cons_of_mem _ (ih h)
      | added d =>
          rcases List.mem_cons.mp h with rfl | hmem
          · exact List.mem_cons_self ..
          · exact List.mem_cons_of_mem _ (ih hmem)

theorem mem_additionsFrom {entries : List Entry} {i : Nat} {d : Declaration}
    (h : entries[i]? = some (.added d)) (l : Nat) : ⟨l + i, d⟩ ∈ additionsFrom l entries := by
  induction entries generalizing i l with
  | nil => exact nomatch h
  | cons entry entries ih =>
      cases i with
      | zero =>
          obtain rfl : entry = .added d := Option.some.inj h
          exact List.mem_cons_self ..
      | succ i =>
          have hmem := ih (i := i) h (l + 1)
          rw [Nat.add_assoc, Nat.add_comm 1 i] at hmem
          cases entry with
          | kept _ => exact hmem
          | added _ => exact List.mem_cons_of_mem _ hmem

/-- Every entry was there or was added. -/
theorem length_eq_add (entries : List Entry) :
    entries.length = (original entries).length + entries.countP Entry.isAdded := by
  induction entries with
  | nil => rfl
  | cons entry entries ih =>
      cases entry with
      | kept d =>
          show entries.length + 1 = (original entries).length + 1 + entries.countP Entry.isAdded
          omega
      | added d =>
          rw [List.countP_cons_of_pos rfl]
          show entries.length + 1 = (original entries).length + (entries.countP Entry.isAdded + 1)
          omega

/-- The candidates of the extended list are those of the original, interleaved with the
    additions. -/
theorem interleaved_additions (front back : List Entry) :
    Interleaved (SameEntry (front ++ back)) (candidatesFrom (original front).length (original back))
      (additionsFrom front.length back) (candidatesFrom front.length (extended back)) := by
  induction back generalizing front with
  | nil => exact .nil
  | cons entry back ih =>
      have hrest := ih (front ++ [entry])
      rw [List.append_assoc, List.singleton_append, List.length_append, List.length_singleton]
        at hrest
      cases entry with
      | kept d =>
          have hlength : (original (front ++ [.kept d])).length = (original front).length + 1 := by
            simp [original, Entry.kept?]
          rw [hlength] at hrest
          refine .kept ⟨?_, rfl, ?_⟩ hrest
          · simp
          · show front.length = (original front).length + addedBefore (front ++ .kept d :: back) _
            rw [addedBefore, List.take_left, length_eq_add]
      | added d =>
          have hlength : (original (front ++ [.added d])).length = (original front).length := by
            simp [original, Entry.kept?]
          rw [hlength] at hrest
          exact .added hrest

/-- The first field without an attribute is the same in related answers. -/
theorem findIdx_isNone_eq {R : Candidate → Candidate → Prop} {xs ys : List (Option Candidate)}
    (h : List.Forall₂ (Option.Rel R) xs ys) :
    xs.findIdx Option.isNone = ys.findIdx Option.isNone := by
  induction h with
  | nil => rfl
  | cons hxy _ ih =>
      rw [List.findIdx_cons, List.findIdx_cons, ih]
      cases hxy with
      | none => rfl
      | some _ => rfl

/-- **ADDITIONS DISTURB NO MATCH**: if attributes that fit none of the fields are added to
    a list, each field takes the same declaration as before or nothing as before, so the
    first to take nothing is the same; locations move by the number of additions in
    front; and no addition is taken. -/
theorem additions_keep_matches {entries : List Entry} {fields : List Declaration}
    (hcount : (extended entries).length ≤ locationLimit)
    (hzero : ∀ d, Entry.added d ∈ entries → ∀ field ∈ fields, affinity field.name d.name = 0) :
    List.Forall₂ (Option.Rel (SameEntry entries))
        ((ofDeclarations (original entries)).takeEach fields).1
        ((ofDeclarations (extended entries)).takeEach fields).1 ∧
      ((ofDeclarations (original entries)).takeEach fields).1.findIdx Option.isNone
        = ((ofDeclarations (extended entries)).takeEach fields).1.findIdx Option.isNone ∧
      ∀ l d, entries[l]? = some (.added d) →
        ⟨l, d⟩ ∈ ((ofDeclarations (extended entries)).takeEach fields).2.candidates := by
  have hcount' : (original entries).length ≤ locationLimit := by
    have hlength := length_eq_add entries
    rw [extended, List.length_map] at hcount
    omega
  have hstart : Interleaved (SameEntry entries) (ofDeclarations (original entries)).candidates
      (additionsFrom 0 entries) (ofDeclarations (extended entries)).candidates := by
    rw [candidates_eq_candidatesFrom hcount, candidates_eq_candidatesFrom hcount']
    exact interleaved_additions [] entries
  have hname : ∀ c c', SameEntry entries c c' → c.name = c'.name := by
    intro c c' hsame
    rw [Candidate.name, Candidate.name, hsame.declaration_eq]
  obtain ⟨hanswers, hlast⟩ := takeEach_interleaved hstart hname (fun field hmem a ha =>
    hzero a.declaration (added_mem_of_mem_additionsFrom ha) field hmem)
  refine ⟨hanswers, findIdx_isNone_eq hanswers, ?_⟩
  intro l d hentry
  have hadded := mem_additionsFrom hentry 0
  rw [Nat.zero_add] at hadded
  exact hlast.mem_of_mem_added hadded

/-- One addition shares a number with a field, and one field fits nothing. -/
theorem additions_keep_matches_numbered :
    List.Forall₂
        (Option.Rel (SameEntry [.added ⟨"x0", "float"⟩, .kept ⟨"a_Position", "vec3"⟩,
          .added ⟨"a_Fog", "float"⟩, .kept ⟨"a_Color0", "vec4"⟩]))
        [some ⟨1, ⟨"a_Color0", "vec4"⟩⟩, none, some ⟨0, ⟨"a_Position", "vec3"⟩⟩]
        [some ⟨3, ⟨"a_Color0", "vec4"⟩⟩, none, some ⟨1, ⟨"a_Position", "vec3"⟩⟩] ∧
      ⟨0, ⟨"x0", "float"⟩⟩ ∈ ((ofDeclarations [⟨"x0", "float"⟩, ⟨"a_Position", "vec3"⟩,
        ⟨"a_Fog", "float"⟩, ⟨"a_Color0", "vec4"⟩]).takeEach
          [⟨"color_0", "[f32; 4]"⟩, ⟨"uv", "[f32; 2]"⟩, ⟨"pos", "[f32; 3]"⟩]).2.candidates := by
  have hzero : ∀ d, Entry.added d ∈ [Entry.added ⟨"x0", "float"⟩, .kept ⟨"a_Position", "vec3"⟩,
        .added ⟨"a_Fog", "float"⟩, .kept ⟨"a_Color0", "vec4"⟩] →
      ∀ field ∈ [(⟨"color_0", "[f32; 4]"⟩ : Declaration), ⟨"uv", "[f32; 2]"⟩, ⟨"pos", "[f32; 3]"⟩],
        affinity field.name d.name = 0 := by
    intro d hd
    simp only [List.mem_cons, Entry.added.injEq, reduceCtorEq, List.not_mem_nil, or_false,
      false_or] at hd
    rcases hd with rfl | rfl
    · decide +kernel
    · decide +kernel
  obtain ⟨hanswers, -, hadded⟩ := additions_keep_matches (by decide) hzero
  have hsmall : ((ofDeclarations [⟨"a_Position", "vec3"⟩, ⟨"a_Color0", "vec4"⟩]).takeEach
      [⟨"color_0", "[f32; 4]"⟩, ⟨"uv", "[f32; 2]"⟩, ⟨"pos", "[f32; 3]"⟩]).1
      = [some ⟨1, ⟨"a_Color0", "vec4"⟩⟩, none, some ⟨0, ⟨"a_Position", "vec3"⟩⟩] := by
    decide +kernel
  have hlarge : ((ofDeclarations [⟨"x0", "float"⟩, ⟨"a_Position", "vec3"⟩, ⟨"a_Fog", "float"⟩,
      ⟨"a_Color0", "vec4"⟩]).takeEach
      [⟨"color_0", "[f32; 4]"⟩, ⟨"uv", "[f32; 2]"⟩, ⟨"pos", "[f32; 3]"⟩]).1
      = [some ⟨3, ⟨"a_Color0", "vec4"⟩⟩, none, some ⟨1, ⟨"a_Position", "vec3"⟩⟩] := by
    decide +kernel
  rw [← hsmall, ← hlarge]
  exact ⟨hanswers, hadded 0 _ rfl⟩

end VertexBinding.Pool
