import VertexBinding.Proofs.Matching.Locations
import VertexBinding.Proofs.Matching.Session
import Mathlib.Data.List.Forall2
import Mathlib.Data.List.Nodup

/-! # Leftovers — a session leaves exactly the attributes that it did not take

    Locations are counted in 32 bits, so in a shader with more attributes than that two
    candidates can share one.  Indices tell them apart: a session takes the attributes at
    some indices, each once, and what it leaves are the attributes at all the others, in
    the order of their declarations. -/

namespace VertexBinding.Pool

/-- A declaration as the candidate at its index. -/
def candidateAt (p : Declaration × Nat) : Candidate :=
  ⟨p.2 % locationLimit, p.1⟩

/-- Candidates were made of the declarations at the given indices. -/
def MadeAt (declared : List Declaration) (taken : List Nat) (cs : List Candidate) : Prop :=
  List.Forall₂ (fun i c => ∃ d, declared[i]? = some d ∧ c = candidateAt (d, i)) taken cs

/-- The names of the attributes whose indices were not taken, in the order of the
    declarations. -/
def openNames (declared : List Declaration) (taken : List Nat) : List String :=
  (openAt declared taken).map (fun p => p.1.name)

variable {declared fields : List Declaration} {taken : List Nat} {pool last : Pool}
  {cs : List Candidate}

theorem candidates_eq_map_candidateAt (declared : List Declaration) :
    (ofDeclarations declared).candidates = (openAt declared []).map candidateAt := by
  have hopen : openAt declared [] = declared.zipIdx :=
    List.filter_eq_self.mpr (fun p _ => by simp)
  rw [hopen]
  rfl

/-- **RUN**: fields that are all served take what is open, each index once, and the rest is
    what is open then. -/
theorem takeAll_openAt (hpool : pool.candidates = (openAt declared taken).map candidateAt)
    (hnodup : taken.Nodup) (h : pool.takeAll fields = .ok (cs, last)) :
    ∃ new, (taken ++ new).Nodup ∧ MadeAt declared new cs ∧
      last.candidates = (openAt declared (taken ++ new)).map candidateAt := by
  induction fields generalizing pool taken cs with
  | nil =>
      rw [takeAll_nil] at h
      obtain ⟨rfl, rfl⟩ := Prod.mk.inj (Except.ok.inj h)
      refine ⟨[], ?_, List.Forall₂.nil, ?_⟩
      · rwa [List.append_nil]
      · rwa [List.append_nil]
  | cons field fields ih =>
      obtain ⟨c, rest, cs', htake, hall, rfl⟩ := takeAll_cons_eq_ok_iff.mp h
      obtain ⟨p, hp, rfl, -, hrest⟩ := takeBest_openAt hpool htake
      obtain ⟨hdeclared, hopen⟩ := mem_openAt.mp hp
      have hnodup' : (taken ++ [p.2]).Nodup := by
        refine List.nodup_append.mpr ⟨hnodup, List.nodup_singleton _, ?_⟩
        rintro i hi j hj rfl
        exact hopen (List.mem_singleton.mp hj ▸ hi)
      obtain ⟨new, hnew, hmade, hlast⟩ := ih hrest hnodup' hall
      rw [List.append_assoc, List.singleton_append] at hnew hlast
      exact ⟨p.2 :: new, hnew, List.Forall₂.cons ⟨p.1, hdeclared, rfl⟩ hmade, hlast⟩

/-- **LEFT OVER**: a session from a fresh pool takes the attributes at some indices and
    leaves the names of all the others, in the order of the declarations. -/
theorem names_of_takeAll (h : (ofDeclarations declared).takeAll fields = .ok (cs, last)) :
    ∃ taken : List Nat, taken.Nodup ∧ MadeAt declared taken cs ∧
      last.names = openNames declared taken := by
  obtain ⟨taken, hnodup, hmade, hlast⟩ :=
    takeAll_openAt (candidates_eq_map_candidateAt declared) List.nodup_nil h
  refine ⟨taken, hnodup, hmade, ?_⟩
  rw [names, hlast, List.map_map]
  rfl

end VertexBinding.Pool
