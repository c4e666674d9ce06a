import VertexBinding.Proofs.Text.Digits

/-! # Prefix-free writings — texts that tell where they end

    A value can be written in several ways, so a writing is a relation between values and
    texts.  It is prefix-free if no text begins with two values: what a text begins with
    tells the value and what is left of the text.

    An array is written with its length in front.  The length tells which element is the
    last one, so the array is prefix-free as soon as its elements are, with or without a
    comma behind the last one (`prefixFree_arrayText`). -/

namespace VertexBinding.Text

variable {α : Type} {writes : α → List Char → Prop}

/-- A text begins with at most one value, which it tells together with the rest. -/
def PrefixFree (writes : α → List Char → Prop) : Prop :=
  ∀ ⦃a b s s' t t'⦄, writes a s → writes b s' → s ++ t = s' ++ t' → a = b ∧ t = t'

/-- Every value is written in one way. -/
def OneWay (text : α → List Char) (a : α) (s : List Char) : Prop :=
  s = text a

/-- A comma, or nothing. -/
def IsOptionalComma (s : List Char) : Prop :=
  s = [] ∨ s = [',']

/-- In front of anything but a comma, a comma that may be missing is told. -/
theorem IsOptionalComma.eq_of_append {c : Char} (hc : c ≠ ',') {s s' t t' : List Char}
    (h : IsOptionalComma s) (h' : IsOptionalComma s') (heq : s ++ c :: t = s' ++ c :: t') :
    t = t' := by
  rcases h with rfl | rfl
  · rcases h' with rfl | rfl
    · exact (List.cons.inj heq).2
    · exact absurd (List.cons.inj heq).1 hc
  · rcases h' with rfl | rfl
    · exact absurd (List.cons.inj heq).1.symm hc
    · exact (List.cons.inj (List.cons.inj heq).2).2

theorem IsOptionalComma.ends_number {c : Char} (hc : c.isDigit = false) {s : List Char}
    (h : IsOptionalComma s) (t : List Char) : ∀ d ∈ (s ++ c :: t).head?, d.isDigit = false := by
  rcases h with rfl | rfl
  · exact Text.ends_number hc t
  · exact Text.ends_number (by decide) (c :: t)

/-- Values with a comma between two of them and perhaps one behind the last. -/
inductive Listed (writes : α → List Char → Prop) : List α → List Char → Prop where
  | nil : Listed writes [] []
  | last {x : α} {s comma : List Char} (hx : writes x s) (hcomma : IsOptionalComma comma) :
      Listed writes [x] (s ++ comma)
  | cons {x y : α} {ys : List α} {s t : List Char} (hx : writes x s)
      (h : Listed writes (y :: ys) t) : Listed writes (x :: y :: ys) (s ++ ',' :: t)

/-- Lists of one length in front of a bracket. -/
theorem Listed.eq_of_append (hwrites : PrefixFree writes) {xs ys : List α}
    {s s' t t' : List Char} (h : Listed writes xs s) (h' : Listed writes ys s')
    (hlength : xs.length = ys.length) (heq : s ++ ']' :: t = s' ++ ']' :: t') :
    xs = ys ∧ t = t' := by
  induction h generalizing ys s' with
  | nil =>
      obtain rfl := List.length_eq_zero_iff.mp hlength.symm
      cases h'
      exact ⟨rfl, (List.cons.inj heq).2⟩
  | last hx hcomma =>
      obtain ⟨y, rfl⟩ := List.length_eq_one_iff.mp hlength.symm
      cases h' with
      | last hy hcomma' =>
          rw [List.append_assoc, List.append_assoc] at heq
          obtain ⟨rfl, heq⟩ := hwrites hx hy heq
          exact ⟨rfl, hcomma.eq_of_append (by decide) hcomma' heq⟩
  | cons hx _ ih =>
      cases h' with
      | nil => exact nomatch hlength
      | last _ _ => exact nomatch hlength
      | cons hy hys =>
          rw [List.append_assoc, List.append_assoc] at heq
          obtain ⟨rfl, heq⟩ := hwrites hx hy heq
          obtain ⟨htails, ht⟩ := ih hys (Nat.succ.inj hlength) (List.cons.inj heq).2
          exact ⟨congrArg (_ :: ·) htails, ht⟩

/-- How many values there are, and in brackets the values. -/
inductive ArrayText (writes : α → List Char → Prop) : List α → List Char → Prop where
  | mk {xs : List α} {s : List Char} (h : Listed writes xs s) :
      ArrayText writes xs ((toString xs.length).toList ++ (']' :: '=' :: '[' :: (s ++ [']'])))

/-- What is written for some property of each value is a list of the properties. -/
theorem Listed.map {β : Type} {f : β → α} {xs : List β} {s : List Char}
    (h : Listed (fun x => writes (f x)) xs s) : Listed writes (xs.map f) s := by
  induction h with
  | nil => exact .nil
  | last hx hcomma => exact .last hx hcomma
  | cons hx _ ih => exact .cons hx ih

theorem ArrayText.map {β : Type} {f : β → α} {xs : List β} {s : List Char}
    (h : ArrayText (fun x => writes (f x)) xs s) : ArrayText writes (xs.map f) s := by
  obtain ⟨hlisted⟩ := h
  have harray := ArrayText.mk hlisted.map
  rwa [List.length_map] at harray

/-- **AN ARRAY TELLS ITS ELEMENTS**. -/
theorem prefixFree_arrayText (hwrites : PrefixFree writes) : PrefixFree (ArrayText writes) := by
  rintro xs ys _ _ t t' ⟨hs⟩ ⟨hs'⟩ heq
  rename_i s s'
  simp only [List.append_assoc, List.cons_append, List.nil_append] at heq
  obtain ⟨hlength, heq⟩ := eq_of_number_append (ends_number (by decide) _)
    (ends_number (by decide) _) heq
  simp only [List.cons.injEq, true_and] at heq
  exact hs.eq_of_append hwrites hs' hlength heq

end VertexBinding.Text
