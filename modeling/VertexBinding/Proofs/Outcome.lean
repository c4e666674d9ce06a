import Mathlib.Control.Monad.Basic
import Mathlib.Data.List.Forall2

/-! # Outcomes — a computation that may stop, opened step by step

    A computation in steps has a result exactly if every step has one, and it
    stops exactly where the first of its steps stops; so does one that takes a step for
    each element of a list.  Two computations whose steps go side by side go side by
    side. -/

namespace VertexBinding

variable {ε α β : Type}

theorem exists_ok_of_isOk {x : Except ε α} (h : x.isOk = true) : ∃ a, x = .ok a := by
  cases x with
  | error e => exact nomatch h
  | ok a => exact ⟨a, rfl⟩

/-- Two steps have a result exactly if the first has one and the second has one
    behind it. -/
theorem bind_eq_ok_iff {x : Except ε α} {f : α → Except ε β} {b : β} :
    (x >>= f) = .ok b ↔ ∃ a, x = .ok a ∧ f a = .ok b := by
  cases x with
  | error e =>
      constructor
      · exact fun h => nomatch h
      · rintro ⟨_, h, _⟩
        exact nomatch h
  | ok a =>
      constructor
      · intro h
        exact ⟨a, rfl, h⟩
      · rintro ⟨a', ha, h⟩
        obtain rfl := Except.ok.inj ha
        exact h

/-- Two steps stop exactly if the first stops, or the second behind its result. -/
theorem bind_eq_error_iff {x : Except ε α} {f : α → Except ε β} {e : ε} :
    (x >>= f) = .error e ↔ x = .error e ∨ ∃ a, x = .ok a ∧ f a = .error e := by
  cases x with
  | error e' =>
      constructor
      · intro h
        exact Or.inl (congrArg Except.error (Except.error.inj h))
      · rintro (h | ⟨_, h, _⟩)
        · exact congrArg Except.error (Except.error.inj h)
        · exact nomatch h
  | ok a =>
      constructor
      · intro h
        exact Or.inr ⟨a, rfl, h⟩
      · rintro (h | ⟨a', ha, h⟩)
        · exact nomatch h
        · obtain rfl := Except.ok.inj ha
          exact h

theorem map_eq_ok_iff {x : Except ε α} {f : α → β} {b : β} :
    x.map f = .ok b ↔ ∃ a, x = .ok a ∧ b = f a := by
  cases x with
  | error e => exact ⟨nofun, fun ⟨_, h, _⟩ => nomatch h⟩
  | ok a => simp [Except.map, eq_comm]

theorem map_eq_error_iff {x : Except ε α} {f : α → β} {e : ε} :
    x.map f = .error e ↔ x = .error e := by
  cases x with
  | error e' => simp [Except.map]
  | ok a => exact ⟨nofun, nofun⟩

/-- Other reasons to stop change no result. -/
theorem mapError_eq_ok_iff {ε' : Type} {x : Except ε α} {f : ε → ε'} {a : α} :
    x.mapError f = .ok a ↔ x = .ok a := by
  cases x with
  | error e => exact ⟨nofun, nofun⟩
  | ok a' => simp [Except.mapError]

theorem mapError_eq_error_iff {ε' : Type} {x : Except ε α} {f : ε → ε'} {e' : ε'} :
    x.mapError f = .error e' ↔ ∃ e, x = .error e ∧ e' = f e := by
  cases x with
  | error e => simp [Except.mapError, eq_comm]
  | ok a => exact ⟨nofun, fun ⟨_, h, _⟩ => nomatch h⟩

/-- A step that leaves a state, and the others from that state on. -/
theorem bind_cons_eq_ok_iff {σ : Type} (x : Except ε (α × σ)) (f : σ → Except ε (List α × σ))
    {as : List α} {last : σ} :
    (do
        let (a, s) ← x
        let (as, s) ← f s
        return (a :: as, s)) = Except.ok (as, last) ↔
      ∃ a s as', x = .ok (a, s) ∧ f s = .ok (as', last) ∧ as = a :: as' := by
  rw [bind_eq_ok_iff]
  constructor
  · rintro ⟨⟨a, s⟩, hx, h⟩
    obtain ⟨⟨as', last'⟩, hf, h⟩ := bind_eq_ok_iff.mp h
    obtain ⟨rfl, rfl⟩ := Prod.mk.inj (Except.ok.inj h)
    exact ⟨a, s, as', hx, hf, rfl⟩
  · rintro ⟨a, s, as', hx, hf, rfl⟩
    exact ⟨(a, s), hx, bind_eq_ok_iff.mpr ⟨(as', last), hf, rfl⟩⟩

/-- A step for each element of a list has results exactly if it has one for each element. -/
theorem mapM_eq_ok_iff {f : α → Except ε β} {xs : List α} {ys : List β} :
    xs.mapM f = .ok ys ↔ List.Forall₂ (fun x y => f x = .ok y) xs ys := by
  induction xs generalizing ys with
  | nil =>
      rw [List.forall₂_nil_left_iff, List.mapM_nil]
      exact ⟨fun h => (Except.ok.inj h).symm, fun h => congrArg Except.ok h.symm⟩
  | cons x xs ih =>
      rw [List.mapM_cons, bind_eq_ok_iff, List.forall₂_cons_left_iff]
      constructor
      · rintro ⟨y, hy, h⟩
        obtain ⟨ys', hys', h⟩ := bind_eq_ok_iff.mp h
        exact ⟨y, ys', hy, ih.mp hys', (Except.ok.inj h).symm⟩
      · rintro ⟨y, ys', hy, hys', rfl⟩
        exact ⟨y, hy, bind_eq_ok_iff.mpr ⟨ys', ih.mpr hys', rfl⟩⟩

/-- It stops exactly where it stops for some element and has results for those in front. -/
theorem mapM_eq_error_iff {f : α → Except ε β} {xs : List α} {e : ε} :
    xs.mapM f = .error e ↔ ∃ before x after, xs = before ++ x :: after ∧
      (∀ y ∈ before, ∃ b, f y = .ok b) ∧ f x = .error e := by
  induction xs with
  | nil =>
      refine iff_of_false nofun ?_
      rintro ⟨before, x, after, h, -⟩
      exact List.append_ne_nil_of_right_ne_nil before (List.cons_ne_nil x after) h.symm
  | cons x xs ih =>
      rw [List.mapM_cons, bind_eq_error_iff]
      constructor
      · rintro (h | ⟨y, hy, h⟩)
        · exact ⟨[], x, xs, rfl, nofun, h⟩
        · rcases bind_eq_error_iff.mp h with h | ⟨_, _, h⟩
          · obtain ⟨before, x', after, rfl, hbefore, hx'⟩ := ih.mp h
            refine ⟨x :: before, x', after, rfl, ?_, hx'⟩
            exact List.forall_mem_cons.mpr ⟨⟨y, hy⟩, hbefore⟩
          · exact nomatch h
      · rintro ⟨before, x', after, hxs, hbefore, hx'⟩
        cases before with
        | nil =>
            obtain ⟨rfl, rfl⟩ := List.cons.inj hxs
            exact Or.inl hx'
        | cons first before =>
            obtain ⟨rfl, rfl⟩ := List.cons.inj hxs
            obtain ⟨⟨y, hy⟩, hbefore⟩ := List.forall_mem_cons.mp hbefore
            refine Or.inr ⟨y, hy, bind_eq_error_iff.mpr (Or.inl ?_)⟩
            exact ih.mpr ⟨before, x', after, rfl, hbefore, hx'⟩

/-- So it is if a step gives a result or nothing. -/
theorem mapM_eq_some_iff {f : α → Option β} {xs : List α} {ys : List β} :
    xs.mapM f = some ys ↔ List.Forall₂ (fun x y => f x = some y) xs ys := by
  induction xs generalizing ys with
  | nil =>
      rw [List.forall₂_nil_left_iff, List.mapM_nil]
      exact ⟨fun h => (Option.some.inj h).symm, fun h => congrArg some h.symm⟩
  | cons x xs ih =>
      rw [List.mapM_cons, List.forall₂_cons_left_iff]
      constructor
      · intro h
        obtain ⟨y, hy, h⟩ := Option.bind_eq_some_iff.mp h
        obtain ⟨ys', hys', h⟩ := Option.bind_eq_some_iff.mp h
        exact ⟨y, ys', hy, ih.mp hys', (Option.some.inj h).symm⟩
      · rintro ⟨y, ys', hy, hys', rfl⟩
        rw [hy, ih.mpr hys']
        rfl

/-- What came out of a traversal has something it came from. -/
theorem exists_of_mem_right {R : α → β → Prop} {xs : List α} {ys : List β} {y : β}
    (h : List.Forall₂ R xs ys) (hy : y ∈ ys) : ∃ x ∈ xs, R x y := by
  induction h with
  | nil => exact nomatch hy
  | cons hr _ ih =>
      rcases List.mem_cons.mp hy with rfl | hy
      · exact ⟨_, List.mem_cons_self .., hr⟩
      · obtain ⟨x, hx, hr⟩ := ih hy
        exact ⟨x, List.mem_cons_of_mem _ hx, hr⟩

/-- Two computations go side by side: both have results, and these are related, or both
    stop, for related reasons. -/
inductive SideBySide {ε' β : Type} (E : ε → ε' → Prop) (R : α → β → Prop) :
    Except ε α → Except ε' β → Prop where
  | ok {a : α} {b : β} (h : R a b) : SideBySide E R (.ok a) (.ok b)
  | error {e : ε} {e' : ε'} (h : E e e') : SideBySide E R (.error e) (.error e')

/-- If one of two related runs ends well, so does the other. -/
theorem SideBySide.exists_ok {ε' β : Type} {E : ε → ε' → Prop} {R : α → β → Prop} {a : α}
    {x : Except ε' β} (h : SideBySide E R (.ok a) x) : ∃ b, x = .ok b ∧ R a b := by
  cases h with
  | ok hb => exact ⟨_, rfl, hb⟩

/-- If one of them fails, so does the other, with a related error. -/
theorem SideBySide.exists_error {ε' β : Type} {E : ε → ε' → Prop} {R : α → β → Prop} {e : ε}
    {x : Except ε' β} (h : SideBySide E R (.error e) x) : ∃ e', x = .error e' ∧ E e e' := by
  cases h with
  | error he => exact ⟨_, rfl, he⟩

/-- Related runs stay related when related steps follow them. -/
theorem SideBySide.bind {ε' α' β' : Type} {E : ε → ε' → Prop} {R : α → α' → Prop}
    {Q : β → β' → Prop} {x : Except ε α} {x' : Except ε' α'} {f : α → Except ε β}
    {f' : α' → Except ε' β'} (h : SideBySide E R x x')
    (hf : ∀ a a', R a a' → SideBySide E Q (f a) (f' a')) :
    SideBySide E Q (x >>= f) (x' >>= f') := by
  cases h with
  | ok ha => exact hf _ _ ha
  | error he => exact .error he

end VertexBinding
