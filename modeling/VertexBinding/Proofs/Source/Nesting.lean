import VertexBinding.Source.Token

/-! # Nesting — what stands inside a bracket

    Tokens are nested if every bracket among them that opens is closed among them, and none
    is closed that did not open there.  What stands inside a bracket is nested and ends at
    the bracket that closes it (`Encloses`); there is one such end, and splitting the tokens
    behind an opening bracket finds it (`splitClosing_eq_iff`). -/

namespace VertexBinding.Source

/-- Is the token a bracket? -/
def Token.isBracket : Token → Bool
  | opening _ => true
  | closing _ => true
  | _ => false

/-- The tokens close the `depth` brackets around them, and all that open among them. -/
inductive ClosesFrom : (depth : Nat) → List Token → Prop where
  | nil : ClosesFrom 0 []
  | plain {depth : Nat} {t : Token} {ts : List Token} (ht : t.isBracket = false)
      (rest : ClosesFrom depth ts) : ClosesFrom depth (t :: ts)
  | opening {depth : Nat} {ts : List Token} (d : Delimiter) (rest : ClosesFrom (depth + 1) ts) :
      ClosesFrom depth (.opening d :: ts)
  | closing {depth : Nat} {ts : List Token} (d : Delimiter) (rest : ClosesFrom depth ts) :
      ClosesFrom (depth + 1) (.closing d :: ts)

/-- Every bracket among the tokens has its partner among them. -/
def Nested (ts : List Token) : Prop :=
  ClosesFrom 0 ts

/-- Tokens behind an opening bracket: those inside it, up to the bracket that closes it, and
    those behind that one.  If none closes it, all tokens stand inside. -/
inductive Encloses : (tokens inside behind : List Token) → Prop where
  | closed {inside behind : List Token} (d : Delimiter) (h : Nested inside) :
      Encloses (inside ++ .closing d :: behind) inside behind
  | unclosed {ts : List Token}
      (h : ∀ inside d behind, Nested inside → ts ≠ inside ++ .closing d :: behind) :
      Encloses ts ts []

theorem ClosesFrom.append {m n : Nat} {ts us : List Token} (hts : ClosesFrom m ts)
    (hus : ClosesFrom n us) : ClosesFrom (m + n) (ts ++ us) := by
  induction hts with
  | nil =>
      rw [Nat.zero_add]
      exact hus
  | plain ht _ ih => exact .plain ht ih
  | @opening m _ d _ ih =>
      refine .opening d ?_
      rw [Nat.add_right_comm]
      exact ih
  | @closing m _ d _ ih =>
      rw [Nat.add_right_comm]
      exact .closing d ih

theorem Nested.append {ts us : List Token} (hts : Nested ts) (hus : Nested us) :
    Nested (ts ++ us) :=
  ClosesFrom.append hts hus

/-- A group with the brackets around it. -/
theorem Nested.group {inside : List Token} (h : Nested inside) (d e : Delimiter) :
    Nested (.opening d :: (inside ++ [.closing e])) :=
  .opening d (ClosesFrom.append h (.closing e .nil))

/-- What stands behind a group is the end of what stands behind its opening bracket. -/
theorem Encloses.suffix {ts inside behind : List Token} (h : Encloses ts inside behind) :
    behind <:+ ts := by
  cases h with
  | closed d _ => exact (List.suffix_cons _ _).trans (List.suffix_append _ _)
  | unclosed _ => exact List.nil_suffix

/-! ## Splitting -/

/-- Splitting passes over what closes the brackets around it. -/
theorem splitClosing_append {depth : Nat} {ts : List Token} (h : ClosesFrom depth ts)
    (us : List Token) :
    splitClosing depth (ts ++ us) = (ts ++ (splitClosing 0 us).1, (splitClosing 0 us).2) := by
  induction h with
  | nil => rfl
  | @plain depth t ts ht _ ih =>
      have hstep : splitClosing depth (t :: (ts ++ us))
          = (t :: (splitClosing depth (ts ++ us)).1, (splitClosing depth (ts ++ us)).2) := by
        cases t with
        | opening d => exact nomatch ht
        | closing d => exact nomatch ht
        | _ => cases depth <;> rfl
      rw [List.cons_append, hstep, ih, List.cons_append]
  | @opening depth ts d _ ih =>
      have hstep : splitClosing depth (.opening d :: (ts ++ us))
          = (.opening d :: (splitClosing (depth + 1) (ts ++ us)).1,
              (splitClosing (depth + 1) (ts ++ us)).2) := by
        cases depth <;> rfl
      rw [List.cons_append, hstep, ih, List.cons_append]
  | @closing depth ts d _ ih =>
      have hstep : splitClosing (depth + 1) (.closing d :: (ts ++ us))
          = (.closing d :: (splitClosing depth (ts ++ us)).1,
              (splitClosing depth (ts ++ us)).2) := rfl
      rw [List.cons_append, hstep, ih, List.cons_append]

/-- Splitting ends at a bracket that closes, with nothing but closed brackets in front of
    it, or it goes to the end. -/
theorem splitClosing_cases (depth : Nat) (ts : List Token) :
    (∃ d, ClosesFrom depth (splitClosing depth ts).1 ∧
      ts = (splitClosing depth ts).1 ++ .closing d :: (splitClosing depth ts).2) ∨
      splitClosing depth ts = (ts, []) := by
  fun_induction splitClosing depth ts with
  | case1 depth => exact Or.inr rfl
  | case2 d rest => exact Or.inl ⟨d, .nil, rfl⟩
  | case3 depth d rest inside behind h ih =>
      rw [h] at ih
      rcases ih with ⟨e, hcloses, hrest⟩ | hend
      · exact Or.inl ⟨e, .closing d hcloses, congrArg (.closing d :: ·) hrest⟩
      · obtain ⟨rfl, rfl⟩ := Prod.mk.inj hend
        exact Or.inr rfl
  | case4 depth d rest inside behind h ih =>
      rw [h] at ih
      rcases ih with ⟨e, hcloses, hrest⟩ | hend
      · exact Or.inl ⟨e, .opening d hcloses, congrArg (.opening d :: ·) hrest⟩
      · obtain ⟨rfl, rfl⟩ := Prod.mk.inj hend
        exact Or.inr rfl
  | case5 depth t rest hzero hsucc hopening inside behind h ih =>
      rw [h] at ih
      have ht : t.isBracket = false := by
        cases t with
        | opening d => exact absurd rfl (hopening d)
        | closing d =>
            cases depth with
            | zero => exact (hzero d rfl rfl).elim
            | succ depth => exact (hsucc depth d rfl rfl).elim
        | _ => rfl
      rcases ih with ⟨e, hcloses, hrest⟩ | hend
      · exact Or.inl ⟨e, .plain ht hcloses, congrArg (t :: ·) hrest⟩
      · obtain ⟨rfl, rfl⟩ := Prod.mk.inj hend
        exact Or.inr rfl

/-- **ONE END**: splitting behind an opening bracket gives what the bracket encloses. -/
theorem splitClosing_eq_iff {ts inside behind : List Token} :
    splitClosing 0 ts = (inside, behind) ↔ Encloses ts inside behind := by
  have hclosed : ∀ (inside : List Token) (d : Delimiter) (behind : List Token), Nested inside →
      splitClosing 0 (inside ++ .closing d :: behind) = (inside, behind) := by
    intro inside d behind h
    rw [splitClosing_append h]
    exact Prod.ext (List.append_nil inside) rfl
  constructor
  · intro h
    rcases splitClosing_cases 0 ts with ⟨d, hnested, hts⟩ | hend
    · rw [h] at hnested hts
      rw [hts]
      exact .closed d hnested
    · obtain ⟨rfl, rfl⟩ := Prod.mk.inj (h.symm.trans hend)
      refine .unclosed ?_
      rintro inside' d behind' hnested hts
      have hsplit := hclosed inside' d behind' hnested
      rw [← hts, h] at hsplit
      obtain ⟨rfl, -⟩ := Prod.mk.inj hsplit
      exact List.cons_ne_nil _ _ (List.self_eq_append_right.mp hts)
  · intro h
    cases h with
    | closed d hnested => exact hclosed _ d _ hnested
    | unclosed hopen =>
        rcases splitClosing_cases 0 ts with ⟨d, hnested, hts⟩ | hend
        · exact absurd hts (hopen _ d _ hnested)
        · exact hend

end VertexBinding.Source
