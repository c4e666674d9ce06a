import VertexBinding.Text.Blank

/-! # Respacing — white space put in and taken out

    Two texts that differ in their white space are made from each other by putting in and
    taking out white space anywhere, and they are the same text without it. -/

namespace VertexBinding.Text

/-- The second text is the first with white space put in and taken out. -/
inductive Respaced : List Char → List Char → Prop where
  | nil : Respaced [] []
  | kept (c : Char) {s t : List Char} (h : Respaced s t) : Respaced (c :: s) (c :: t)
  | takenOut {c : Char} {s t : List Char} (hc : isBlank c = true) (h : Respaced s t) :
      Respaced (c :: s) t
  | putIn {c : Char} {s t : List Char} (hc : isBlank c = true) (h : Respaced s t) :
      Respaced s (c :: t)

theorem dropBlanks_cons_blank {c : Char} (hc : isBlank c = true) (s : List Char) :
    dropBlanks (c :: s) = dropBlanks s := by
  simp [dropBlanks, hc]

/-- A character that is no blank stays. -/
theorem dropBlanks_cons_kept {c : Char} (hc : isBlank c = false) (s : List Char) :
    dropBlanks (c :: s) = c :: dropBlanks s := by
  simp [dropBlanks, hc]

/-- **ONLY WHITE SPACE**: respaced texts are those that are the same without it. -/
theorem respaced_iff {s t : List Char} : Respaced s t ↔ dropBlanks s = dropBlanks t := by
  constructor
  · intro h
    induction h with
    | nil => rfl
    | kept c _ ih =>
        cases hc : isBlank c with
        | true => rw [dropBlanks_cons_blank hc, dropBlanks_cons_blank hc, ih]
        | false => rw [dropBlanks_cons_kept hc, dropBlanks_cons_kept hc, ih]
    | takenOut hc _ ih => rw [dropBlanks_cons_blank hc, ih]
    | putIn hc _ ih => rw [dropBlanks_cons_blank hc, ih]
  · intro h
    induction s generalizing t with
    | nil =>
        induction t with
        | nil => exact .nil
        | cons d t ih =>
            cases hd : isBlank d with
            | true =>
                rw [dropBlanks_cons_blank hd] at h
                exact .putIn hd (ih h)
            | false =>
                rw [dropBlanks_cons_kept hd] at h
                exact nomatch h
    | cons c s ihs =>
        cases hc : isBlank c with
        | true =>
            rw [dropBlanks_cons_blank hc] at h
            exact .takenOut hc (ihs h)
        | false =>
            rw [dropBlanks_cons_kept hc] at h
            -- the same character comes next in the other text, behind its white space
            induction t with
            | nil => exact nomatch h
            | cons d t iht =>
                cases hd : isBlank d with
                | true =>
                    rw [dropBlanks_cons_blank hd] at h
                    exact .putIn hd (iht h)
                | false =>
                    rw [dropBlanks_cons_kept hd] at h
                    obtain ⟨rfl, hrest⟩ := List.cons.inj h
                    exact .kept c (ihs hrest)

end VertexBinding.Text
