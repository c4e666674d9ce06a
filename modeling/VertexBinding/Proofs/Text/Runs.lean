/-! # Runs — the characters of one kind at the front of a text

    A run goes on for as long as its characters have a property, and the character
    behind it, if there is one, has not.  A text begins with one such run only. -/

namespace VertexBinding.Text

variable {p : Char → Bool} {w w' rest rest' : List Char}

/-- `w` is the whole run of characters with a property at the front of `w ++ rest`. -/
structure IsRun (p : Char → Bool) (w rest : List Char) : Prop where
  all : ∀ c ∈ w, p c = true
  stops : ∀ c ∈ rest.head?, p c = false

/-- Taking characters for as long as they have the property gives a run. -/
theorem isRun_takeWhile (p : Char → Bool) (s : List Char) :
    IsRun p (s.takeWhile p) (s.dropWhile p) := by
  constructor
  · exact List.all_eq_true.mp List.all_takeWhile
  · intro c hc
    have h := List.head?_dropWhile_not p s
    rw [Option.mem_def.mp hc] at h
    exact h

theorem IsRun.takeWhile (h : IsRun p w rest) : (w ++ rest).takeWhile p = w := by
  rw [List.takeWhile_append_of_pos h.all]
  cases rest with
  | nil => rw [List.takeWhile_nil, List.append_nil]
  | cons c rest =>
      rw [List.takeWhile_cons_of_neg (by rw [h.stops c rfl]; exact Bool.false_ne_true),
        List.append_nil]

theorem IsRun.dropWhile (h : IsRun p w rest) : (w ++ rest).dropWhile p = rest := by
  rw [List.dropWhile_append_of_pos h.all]
  cases rest with
  | nil => rfl
  | cons c rest =>
      exact List.dropWhile_cons_of_neg (by rw [h.stops c rfl]; exact Bool.false_ne_true)

/-- **ONE RUN**: a text begins with one run. -/
theorem IsRun.unique (h : IsRun p w rest) (h' : IsRun p w' rest')
    (heq : w ++ rest = w' ++ rest') : w = w' ∧ rest = rest' := by
  constructor
  · rw [← h.takeWhile, heq, h'.takeWhile]
  · rw [← h.dropWhile, heq, h'.dropWhile]

/-- The text up to a character that does not stand in it. -/
theorem isRun_upTo {c : Char} {w : List Char} (hw : c ∉ w) (rest : List Char) :
    IsRun (· != c) w (c :: rest) := by
  constructor
  · intro d hd
    rw [bne_iff_ne]
    rintro rfl
    exact hw hd
  · intro d hd
    obtain rfl := Option.some.inj hd
    rw [bne_self_eq_false]

theorem eq_of_upTo {c : Char} {w w' rest rest' : List Char} (hw : c ∉ w) (hw' : c ∉ w')
    (heq : w ++ c :: rest = w' ++ c :: rest') : w = w' ∧ rest = rest' := by
  obtain ⟨hruns, hrests⟩ := (isRun_upTo hw rest).unique (isRun_upTo hw' rest') heq
  exact ⟨hruns, (List.cons.inj hrests).2⟩

end VertexBinding.Text
