import VertexBinding.Proofs.Matching.Requests
import Mathlib.Data.Finset.Card
import Mathlib.Data.Finset.Lattice.Basic

/-! # Argmax — the first position with the highest score

    How well a field fits a candidate is here the size of a set: the words that the two
    names have in common, unless all of them are numbers (`score_eq_commonScore`).  A
    choice is here a position in the pool: `FirstArgmax` compares it with every position
    in front of it and behind it, and the pool loses this position and no other
    (`firstArgmax_iff`). -/

namespace VertexBinding.Pool

open Naming

/-- The canonical words that the name of a field and the name of a candidate, its qualifier
    taken off, have in common. -/
def commonWords (field : Declaration) (c : Candidate) : Finset (List Char) :=
  (fieldWords field.name).toFinset ∩ (attributeWords c.name).toFinset

/-- How many words the names have in common; none count if all of them are numbers. -/
def commonScore (field : Declaration) (c : Candidate) : Nat :=
  if ∀ w ∈ commonWords field c, isNumeral w = true then 0 else (commonWords field c).card

/-- The element at a position is the first with the highest score, and the score is not
    zero. -/
structure FirstArgmax {α : Type} (score : α → Nat) (xs : List α) (i : Nat) (x : α) : Prop where
  at_position : xs[i]? = some x
  pos : 0 < score x
  lt_of_lt : ∀ j y, j < i → xs[j]? = some y → score y < score x
  le_of_lt : ∀ j y, i < j → xs[j]? = some y → score y ≤ score x

variable {α : Type} {field : Declaration} {c : Candidate}

/-! ## Scores -/

/-- The words in common as a set are those of the list of shared words. -/
theorem mem_commonWords {w : List Char} :
    w ∈ commonWords field c ↔ w ∈ shared (fieldWords field.name) (attributeWords c.name) := by
  rw [commonWords, Finset.mem_inter, List.mem_toFinset, List.mem_toFinset, mem_shared]

/-- **THE SCORE COUNTS A SET**. -/
theorem score_eq_commonScore (field : Declaration) (c : Candidate) :
    score field c = commonScore field c := by
  have hnodup : (shared (fieldWords field.name) (attributeWords c.name)).Nodup :=
    (nodup_distinct _).filter _
  have hset : commonWords field c
      = (shared (fieldWords field.name) (attributeWords c.name)).toFinset := by
    ext w
    rw [mem_commonWords, List.mem_toFinset]
  have hnumerals : (∀ w ∈ commonWords field c, isNumeral w = true) ↔
      (shared (fieldWords field.name) (attributeWords c.name)).all isNumeral = true := by
    rw [List.all_eq_true]
    exact forall_congr' (fun w => by rw [mem_commonWords])
  have hcard : (commonWords field c).card
      = (shared (fieldWords field.name) (attributeWords c.name)).length := by
    rw [hset, List.toFinset_card_of_nodup hnodup]
  rw [score, affinity, wordAffinity, commonScore, hcard]
  exact if_congr hnumerals.symm rfl rfl

/-- A score counts only if one of the shared words is more than a number. -/
theorem commonScore_pos_iff :
    0 < commonScore field c ↔ ∃ w ∈ commonWords field c, isNumeral w = false := by
  rw [← score_eq_commonScore, score, affinity, wordAffinity_pos_iff]
  refine exists_congr (fun w => ?_)
  rw [mem_commonWords, mem_shared, and_assoc]

/-! ## Positions -/

/-- A position is a split of the list. -/
theorem firstArgmax_iff {score : α → Nat} {xs : List α} {i : Nat} {x : α} :
    FirstArgmax score xs i x ↔ ∃ before after, xs = before ++ x :: after ∧ before.length = i ∧
      FirstBest score before x after := by
  constructor
  · intro h
    obtain ⟨hi, rfl⟩ := List.getElem?_eq_some_iff.mp h.at_position
    refine ⟨xs.take i, xs.drop (i + 1), ?_, ?_, h.pos, ?_, ?_⟩
    · rw [← List.drop_eq_getElem_cons hi, List.take_append_drop]
    · rw [List.length_take, Nat.min_eq_left (Nat.le_of_lt hi)]
    · intro y hy
      obtain ⟨j, hj⟩ := List.mem_iff_getElem?.mp hy
      rw [List.getElem?_take] at hj
      split at hj
      · next hlt => exact h.lt_of_lt j y hlt hj
      · exact nomatch hj
    · intro y hy
      obtain ⟨j, hj⟩ := List.mem_iff_getElem?.mp hy
      rw [List.getElem?_drop] at hj
      exact h.le_of_lt (i + 1 + j) y (by omega) hj
  · rintro ⟨before, after, rfl, rfl, h⟩
    refine ⟨?_, h.pos, ?_, ?_⟩
    · rw [List.getElem?_append_right (Nat.le_refl _), Nat.sub_self]
      rfl
    · intro j y hj hy
      rw [List.getElem?_append_left hj] at hy
      exact h.before_lt y (List.mem_of_getElem? hy)
    · intro j y hj hy
      obtain ⟨k, rfl⟩ := Nat.exists_eq_add_of_lt hj
      rw [List.getElem?_append_right (by omega), show before.length + k + 1 - before.length = k + 1
        by omega, List.getElem?_cons_succ] at hy
      exact h.after_le y (List.mem_of_getElem? hy)

/-- Taking what stands behind a front leaves the front and what follows. -/
theorem eraseIdx_split (before : List α) (x : α) (after : List α) :
    (before ++ x :: after).eraseIdx before.length = before ++ after := by
  rw [List.eraseIdx_append_of_length_le (Nat.le_refl _), Nat.sub_self]
  rfl

/-- What is taken is the candidate at some position, and what is left are the others. -/
theorem takeBest_eq_ok_iff_position {pool rest : Pool} :
    pool.takeBest field = .ok (c, rest) ↔
      ∃ i, FirstArgmax (commonScore field) pool.candidates i c ∧
        rest = ⟨pool.candidates.eraseIdx i⟩ := by
  rw [takeBest_eq_ok_iff, ← funext (score_eq_commonScore field)]
  constructor
  · rintro ⟨before, after, hpool, hrest, hbest⟩
    refine ⟨before.length, firstArgmax_iff.mpr ⟨before, after, hpool, rfl, hbest⟩, ?_⟩
    rw [hpool, eraseIdx_split, ← hrest]
  · rintro ⟨i, hargmax, rfl⟩
    obtain ⟨before, after, hpool, rfl, hbest⟩ := firstArgmax_iff.mp hargmax
    refine ⟨before, after, hpool, ?_, hbest⟩
    show pool.candidates.eraseIdx before.length = _
    rw [hpool, eraseIdx_split]

/-! ## Requests -/

theorem reply_take_eq_candidate_iff {pool rest : Pool} :
    pool.reply (.take field) = (.candidate c, rest) ↔ pool.takeBest field = .ok (c, rest) := by
  rw [reply]
  cases pool.takeBest field with
  | error e => simp
  | ok r =>
      obtain ⟨c', rest'⟩ := r
      simp

/-- A refused request leaves the pool as it was. -/
theorem reply_take_eq_refused_iff {pool rest : Pool} {e : NoMatch} :
    pool.reply (.take field) = (.refused e, rest) ↔
      pool.takeBest field = .error e ∧ rest = pool := by
  rw [reply]
  cases pool.takeBest field with
  | error e' => simp [eq_comm]
  | ok r => simp

/-- **FIRST ARGMAX, OR NOTHING**: a request for the attribute of a field is granted exactly if
    some candidate has a word in common with the field that is no number.  What it gives
    out is the candidate at the first position with the highest score, and the pool loses
    this position.  Otherwise the refusal names the field and all candidates in order, and
    the pool stays as it is. -/
theorem take_first_argmax (pool : Pool) (field : Declaration) :
    ((∃ c rest, pool.reply (.take field) = (.candidate c, rest)) ↔
        ∃ c ∈ pool.candidates, ∃ w ∈ commonWords field c, isNumeral w = false) ∧
      (∀ c rest, pool.reply (.take field) = (.candidate c, rest) ↔
        ∃ i, FirstArgmax (commonScore field) pool.candidates i c ∧
          rest = ⟨pool.candidates.eraseIdx i⟩) ∧
      ∀ e rest, pool.reply (.take field) = (.refused e, rest) ↔
        (∀ c ∈ pool.candidates, ∀ w ∈ commonWords field c, isNumeral w = true) ∧
          e = ⟨field.name, pool.candidates.map Candidate.name⟩ ∧ rest = pool := by
  simp only [reply_take_eq_candidate_iff, reply_take_eq_refused_iff]
  refine ⟨⟨?_, ?_⟩, fun c rest => takeBest_eq_ok_iff_position, ?_⟩
  · rintro ⟨c, rest, h⟩
    obtain ⟨before, after, hpool, -, hbest⟩ := takeBest_eq_ok_iff.mp h
    refine ⟨c, ?_, commonScore_pos_iff.mp (score_eq_commonScore field c ▸ hbest.pos)⟩
    rw [hpool]
    exact List.mem_append_right before (List.mem_cons_self ..)
  · rintro ⟨c, hc, hw⟩
    refine exists_takeBest hc ?_
    rw [score_eq_commonScore]
    exact commonScore_pos_iff.mpr hw
  · intro e rest
    rw [takeBest_eq_error_iff, and_assoc]
    refine and_congr_left' (forall₂_congr fun c _ => ?_)
    have hzero : commonScore field c = 0 ↔ ¬ 0 < commonScore field c := by omega
    rw [score_eq_commonScore, hzero, commonScore_pos_iff]
    simp

/-- A tie, and an attribute that has only a number in common with the field. -/
example : reply ⟨[⟨0, ⟨"a_Fog1", "float"⟩⟩, ⟨1, ⟨"a_UV", "vec2"⟩⟩, ⟨2, ⟨"a_Tex", "vec2"⟩⟩]⟩
      (.take ⟨"uv1", "[f32; 2]"⟩)
    = (.candidate ⟨1, ⟨"a_UV", "vec2"⟩⟩,
        ⟨[⟨0, ⟨"a_Fog1", "float"⟩⟩, ⟨2, ⟨"a_Tex", "vec2"⟩⟩]⟩) := by
  decide +kernel

end VertexBinding.Pool
