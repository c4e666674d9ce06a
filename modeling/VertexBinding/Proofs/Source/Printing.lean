import VertexBinding.Proofs.Emission.Calls
import VertexBinding.Proofs.Source.Nesting
import VertexBinding.Source.Grammar

/-! # Printing — the reader prints what it takes

    What a rule prints are the tokens it takes, but for their joints, so what is read and
    what stands in the source differ in white space only.  Two rules do otherwise: generic
    arguments print their lifetimes first, and two colons in front of the inputs of a
    function trait are left out.  Tokens with neither are `Plain`.

    A rule is `Faithful` if it is built without these two, or so that they need a lifetime or
    such colons among the tokens; reading by a faithful rule prints what it takes
    (`Rule.printsTaken`), and the whole grammar is faithful (`Phrase.faithful`). -/

namespace VertexBinding.Source

open Emission Text

/-- Tokens without lifetimes, and without two colons in front of a parenthesis. -/
structure Plain (ts : List Token) : Prop where
  no_lifetime : ∀ t ∈ ts, t.isLifetime = false
  no_inputs : ∀ joint, ¬ [.sign ':' true, .sign ':' joint, .opening .parenthesis] <:+: ts

/-- A part of plain tokens is plain. -/
theorem Plain.of_infix {ts us : List Token} (h : Plain ts) (hsub : us <:+: ts) : Plain us :=
  ⟨fun t ht => h.no_lifetime t (hsub.subset ht),
    fun joint hinputs => h.no_inputs joint (hinputs.trans hsub)⟩

theorem Plain.left {ts us : List Token} (h : Plain (ts ++ us)) : Plain ts :=
  h.of_infix (List.prefix_append ts us).isInfix

theorem Plain.right {ts us : List Token} (h : Plain (ts ++ us)) : Plain us :=
  h.of_infix (List.suffix_append ts us).isInfix

/-- What is read is the front of what was given, and is printed as it is if it is plain. -/
def PrintsTaken (r : Reader) : Prop :=
  ∀ ts printed behind, r ts = some (printed, behind) →
    ∃ front, ts = front ++ behind ∧ (Plain front → shown printed = shown front)

/-- One behind the other. -/
theorem PrintsTaken.next {first second : Reader} (hfirst : PrintsTaken first)
    (hsecond : PrintsTaken second) {ts p mid q behind : List Token}
    (hp : first ts = some (p, mid)) (hq : second mid = some (q, behind)) :
    ∃ front, ts = front ++ behind ∧ (Plain front → shown (p ++ q) = shown front) := by
  obtain ⟨front, rfl, hfront⟩ := hfirst ts p mid hp
  obtain ⟨others, rfl, hothers⟩ := hsecond mid q behind hq
  refine ⟨front ++ others, (List.append_assoc ..).symm, fun hplain => ?_⟩
  rw [shown_append, shown_append, hfront hplain.left, hothers hplain.right]

/-! ## Readers -/

/-- Whether a sign is joined to the next one does not show. -/
theorem shown_alone (t : Token) : shown [t.alone] = shown [t] := by
  cases t <;> rfl

/-- An operator is printed as the signs that were read for it, but for their joints. -/
theorem shown_signs {cs : List Char} {ts : List Token} (h : Ahead.signs cs ts = true) :
    shown (Token.signs cs) = shown (ts.take cs.length) := by
  fun_induction Ahead.signs cs ts with
  | case1 => rfl
  | case2 c d joint rest =>
      obtain rfl := beq_iff_eq.mp h
      rfl
  | case3 c e cs d rest ih =>
      rw [Bool.and_eq_true, beq_iff_eq] at h
      obtain ⟨rfl, hrest⟩ := h
      exact congrArg (dropBlanks c.toString.toList ++ ·) (ih hrest)
  | case4 => exact nomatch h

theorem exists_sign_of_signs {c : Char} {ts : List Token} (h : Ahead.signs [c] ts = true) :
    ∃ joint rest, ts = .sign c joint :: rest := by
  cases ts with
  | nil => exact nomatch h
  | cons t rest =>
      cases t with
      | sign d joint =>
          have hd : c = d := beq_iff_eq.mp h
          exact ⟨joint, rest, hd ▸ rfl⟩
      | _ => exact nomatch h

/-- Where an operator of two characters comes next, two signs do. -/
theorem exists_signs_of_signs {c e : Char} {ts : List Token}
    (h : Ahead.signs [c, e] ts = true) :
    ∃ joint rest, ts = .sign c true :: .sign e joint :: rest := by
  cases ts with
  | nil => exact nomatch h
  | cons t rest =>
      cases t with
      | sign d joint =>
          cases joint with
          | false => exact nomatch h
          | true =>
              rw [Ahead.signs, Bool.and_eq_true, beq_iff_eq] at h
              obtain ⟨rfl, hrest⟩ := h
              obtain ⟨joint, behind, rfl⟩ := exists_sign_of_signs hrest
              exact ⟨joint, behind, rfl⟩
      | _ => exact nomatch h

theorem takeSigns_printsTaken (text : String) : PrintsTaken (takeSigns text) := by
  intro ts printed behind h
  rw [takeSigns] at h
  split at h
  · next hsigns =>
      obtain ⟨rfl, rfl⟩ := Prod.mk.inj (Option.some.inj h)
      exact ⟨_, (List.take_append_drop ..).symm, fun _ => shown_signs hsigns⟩
  · exact nomatch h

/-- A group is printed as it is: its bracket, what it encloses, and the bracket that closes
    it. -/
theorem takeGroup_printsTaken : PrintsTaken takeGroup := by
  intro ts printed behind h
  unfold takeGroup at h
  split at h
  · next d rest =>
      have hgroup : Encloses rest (splitClosing 0 rest).1 (splitClosing 0 rest).2 :=
        splitClosing_eq_iff.mp rfl
      dsimp only at h
      generalize (splitClosing 0 rest).1 = inside at h hgroup
      generalize (splitClosing 0 rest).2 = outside at h hgroup
      cases hgroup with
      | closed e _ =>
          rw [List.drop_left] at h
          obtain ⟨rfl, rfl⟩ := Prod.mk.inj (Option.some.inj h)
          exact ⟨.opening d :: inside ++ [.closing e], by simp, fun _ => rfl⟩
      | unclosed _ =>
          rw [List.drop_length] at h
          exact nomatch h
  · exact nomatch h

/-- Repetition prints what it takes, one round behind the other. -/
theorem readMany_printsTaken {stop : Ahead} {body : Reader} (hbody : PrintsTaken body)
    (size : Nat) : PrintsTaken (readMany stop body size) := by
  induction size with
  | zero =>
      intro ts printed behind h
      obtain ⟨rfl, rfl⟩ := Prod.mk.inj (Option.some.inj h)
      exact ⟨[], rfl, fun _ => rfl⟩
  | succ size ih =>
      intro ts printed behind h
      rw [readMany] at h
      split at h
      · obtain ⟨rfl, rfl⟩ := Prod.mk.inj (Option.some.inj h)
        exact ⟨[], rfl, fun _ => rfl⟩
      · split at h
        · exact nomatch h
        · next p rest hp =>
            obtain ⟨⟨q, last⟩, hq, h⟩ := Option.map_eq_some_iff.mp h
            obtain ⟨rfl, rfl⟩ := Prod.mk.inj h
            exact hbody.next ih hp hq

/-! ## Lists -/

/-- An early element begins with a lifetime, which neither ends the list nor separates its
    elements. -/
def EarlyLifetimes (early stop : Ahead) : Prop :=
  ∀ ts, early ts = true → ∃ name rest, ts = .lifetime name :: rest ∧ stop ts = false

theorem printElements_cons {e : Element} (he : e.comma = true) (es : List Element) :
    printElements (e :: es) = e.printed ++ comma :: printElements es := by
  cases es with
  | nil => simp [printElements, he]
  | cons f es => simp [printElements]

/-- Without early elements a list keeps its order. -/
theorem printList_of_not_early {es : List Element} (h : ∀ e ∈ es, e.early = false) :
    printList es = printElements es := by
  have hnone : es.filter (·.early) = [] := by
    rw [List.filter_eq_nil_iff]
    intro e he
    simp [h e he]
  have hall : es.filter (!·.early) = es := by
    rw [List.filter_eq_self]
    intro e he
    simp [h e he]
  rw [printList, hnone, hall, List.nil_append]

/-- In front of a plain element nothing begins early: the lifetime an early one begins with
    would be among the tokens, or be what ends or separates the elements. -/
theorem not_early {early stop : Ahead} (hearly : EarlyLifetimes early stop)
    {front rest : List Token} (hplain : Plain front)
    (hgoes : stop rest = true ∨ Ahead.op "," rest = true) : early (front ++ rest) = false := by
  rw [← Bool.not_eq_true]
  intro h
  obtain ⟨name, others, hts, hstop⟩ := hearly _ h
  cases front with
  | nil =>
      rw [List.nil_append] at hts hstop
      subst hts
      rcases hgoes with hend | hcomma
      · rw [hstop] at hend
        exact nomatch hend
      · exact nomatch hcomma
  | cons t front =>
      obtain ⟨rfl, -⟩ := List.cons.inj hts
      exact nomatch hplain.no_lifetime _ (List.mem_cons_self ..)

/-- **LISTS**: plain elements are no early ones, so they are printed in their order. -/
theorem readElements_printsTaken {early stop : Ahead} {body : Reader}
    (hearly : EarlyLifetimes early stop) (hbody : PrintsTaken body) {size : Nat}
    {ts behind : List Token} {es : List Element}
    (h : readElements early stop body size ts = some (es, behind)) :
    ∃ front, ts = front ++ behind ∧ (Plain front →
      (∀ e ∈ es, e.early = false) ∧ shown (printElements es) = shown front) := by
  induction size generalizing ts es with
  | zero =>
      obtain ⟨rfl, rfl⟩ := Prod.mk.inj (Option.some.inj h)
      exact ⟨[], rfl, fun _ => ⟨nofun, rfl⟩⟩
  | succ size ih =>
      rw [readElements] at h
      split at h
      · obtain ⟨rfl, rfl⟩ := Prod.mk.inj (Option.some.inj h)
        exact ⟨[], rfl, fun _ => ⟨nofun, rfl⟩⟩
      · split at h
        · exact nomatch h
        · next p rest hp =>
            obtain ⟨front, rfl, hfront⟩ := hbody ts p rest hp
            split at h
            · next hstop =>
                obtain ⟨rfl, rfl⟩ := Prod.mk.inj (Option.some.inj h)
                refine ⟨front, rfl, fun hplain => ⟨?_, ?_⟩⟩
                · rintro e he
                  obtain rfl := List.mem_singleton.mp he
                  exact not_early hearly hplain (Or.inl hstop)
                · rw [← hfront hplain]
                  exact congrArg shown (List.append_nil p)
            · split at h
              · next hcomma =>
                  obtain ⟨⟨es', last⟩, hes, h⟩ := Option.map_eq_some_iff.mp h
                  obtain ⟨rfl, rfl⟩ := Prod.mk.inj h
                  obtain ⟨joint, rest', rfl⟩ := exists_sign_of_signs (c := ',') hcomma
                  obtain ⟨others, hrest, hothers⟩ := ih hes
                  obtain rfl : rest' = others ++ last := hrest
                  refine ⟨front ++ .sign ',' joint :: others, by simp, fun hplain => ?_⟩
                  have hplainOthers : Plain others :=
                    hplain.right.of_infix (List.suffix_cons _ others).isInfix
                  obtain ⟨hlate, hshown⟩ := hothers hplainOthers
                  refine ⟨List.forall_mem_cons.mpr ⟨?_, hlate⟩, ?_⟩
                  · exact not_early hearly hplain.left (Or.inr hcomma)
                  · have hcommas : shown (comma :: printElements es')
                        = shown (.sign ',' joint :: others) :=
                      congrArg (dropBlanks comma.text.toList ++ ·) hshown
                    rw [printElements_cons rfl, shown_append, shown_append, hfront hplain.left,
                      hcommas]
              · exact nomatch h

/-! ## Rules -/

/-- A rule that prints what it takes, if the rules it refers to do. -/
inductive Faithful {N : Type} : Rule N → Prop where
  | done : Faithful .done
  | never : Faithful .never
  | token {test : Token → Bool} {printed : Token → List Token}
      (h : ∀ t, test t = true → shown (printed t) = shown [t]) : Faithful (.token test printed)
  | operator (text : String) : Faithful (.operator text)
  | group : Faithful .group
  | seq {first second : Rule N} (hfirst : Faithful first) (hsecond : Faithful second) :
      Faithful (.seq first second)
  | choose (test : Ahead) {yes no : Rule N} (hyes : Faithful yes) (hno : Faithful no) :
      Faithful (.choose test yes no)
  | many (stop : Ahead) {body : Rule N} (hbody : Faithful body) : Faithful (.many stop body)
  | list {early stop : Ahead} {body : Rule N} (hearly : EarlyLifetimes early stop)
      (hbody : Faithful body) : Faithful (.list early stop body)
  | ref (name : N) : Faithful (.ref name)
  /-- Two colons that are left out, and a parenthesis behind them. -/
  | inputs {inner tail : Rule N} (hinner : Faithful inner) (htail : Faithful tail) :
      Faithful (.seq (.opt (Ahead.op "::") (.hidden "::"))
        (.seq (.seq (.one (· == .opening .parenthesis)) inner) tail))

variable {N : Type} {self : N → Reader}

/-- Two rules in a row read two parts in a row. -/
theorem read_seq_eq_some {first second : Rule N} {ts printed behind : List Token}
    (h : (Rule.seq first second).read self ts = some (printed, behind)) :
    ∃ p mid q, first.read self ts = some (p, mid) ∧ second.read self mid = some (q, behind) ∧
      printed = p ++ q := by
  rw [Rule.read] at h
  split at h
  · exact nomatch h
  · next p mid hp =>
      obtain ⟨⟨q, last⟩, hq, h⟩ := Option.map_eq_some_iff.mp h
      obtain ⟨rfl, rfl⟩ := Prod.mk.inj h
      exact ⟨p, mid, q, hp, hq, rfl⟩

theorem read_one_eq_some {test : Token → Bool} {ts printed behind : List Token}
    (h : (Rule.one test).read self ts = some (printed, behind)) :
    ∃ t, ts = t :: behind ∧ test t = true ∧ printed = [t.alone] := by
  cases ts with
  | nil => exact nomatch h
  | cons t rest =>
      rw [Rule.one, Rule.read] at h
      split at h
      · next ht =>
          obtain ⟨rfl, rfl⟩ := Prod.mk.inj (Option.some.inj h)
          exact ⟨t, rfl, ht, rfl⟩
      · exact nomatch h

/-- Rules in a row print what they take. -/
theorem seq_printsTaken {first second : Rule N} (hfirst : PrintsTaken (first.read self))
    (hsecond : PrintsTaken (second.read self)) :
    PrintsTaken ((Rule.seq first second).read self) := by
  intro ts printed behind h
  obtain ⟨p, mid, q, hp, hq, rfl⟩ := read_seq_eq_some h
  exact hfirst.next hsecond hp hq

theorem one_printsTaken (test : Token → Bool) : PrintsTaken ((Rule.one test).read self) := by
  intro ts printed behind h
  obtain ⟨t, rfl, -, rfl⟩ := read_one_eq_some h
  exact ⟨[t], rfl, fun _ => shown_alone t⟩

/-- Where colons are left out, the tokens are not plain. -/
theorem inputs_printsTaken {inner tail : Rule N} (hinner : PrintsTaken (inner.read self))
    (htail : PrintsTaken (tail.read self)) :
    PrintsTaken ((Rule.seq (.opt (Ahead.op "::") (.hidden "::"))
      (.seq (.seq (.one (· == .opening .parenthesis)) inner) tail)).read self) := by
  intro ts printed behind h
  obtain ⟨p, mid, q, hp, hq, rfl⟩ := read_seq_eq_some h
  by_cases hcolons : Ahead.op "::" ts = true
  · obtain ⟨joint, rest, rfl⟩ := exists_signs_of_signs (c := ':') (e := ':') hcolons
    obtain ⟨-, rfl⟩ : [] = p ∧ rest = mid := by
      rw [Rule.opt, Rule.read, if_pos hcolons, Rule.read, takeSigns, if_pos hcolons] at hp
      exact Prod.mk.inj (Option.some.inj hp)
    obtain ⟨_, mid, _, hgroup, htaken, -⟩ := read_seq_eq_some hq
    obtain ⟨_, inside, _, hopening, hread, -⟩ := read_seq_eq_some hgroup
    obtain ⟨t, rfl, ht, -⟩ := read_one_eq_some hopening
    obtain rfl := beq_iff_eq.mp ht
    obtain ⟨front, rfl, -⟩ := hinner.next htail hread htaken
    refine ⟨.sign ':' true :: .sign ':' joint :: .opening .parenthesis :: front, rfl, ?_⟩
    exact fun hplain => absurd ⟨[], front, rfl⟩ (hplain.no_inputs joint)
  · obtain ⟨rfl, rfl⟩ : [] = p ∧ ts = mid := by
      rw [Rule.opt, Rule.read, if_neg hcolons] at hp
      exact Prod.mk.inj (Option.some.inj hp)
    exact seq_printsTaken (seq_printsTaken (one_printsTaken _) hinner) htail ts q behind hq

/-- **RULES PRINT WHAT THEY TAKE** if they are faithful and those they refer to do. -/
theorem Rule.printsTaken (hself : ∀ name, PrintsTaken (self name)) {rule : Rule N}
    (h : Faithful rule) : PrintsTaken (rule.read self) := by
  induction h with
  | done =>
      intro ts printed behind h
      obtain ⟨rfl, rfl⟩ := Prod.mk.inj (Option.some.inj h)
      exact ⟨[], rfl, fun _ => rfl⟩
  | never => exact fun _ _ _ h => nomatch h
  | @token test printed hprinted =>
      intro ts p behind h
      cases ts with
      | nil => exact nomatch h
      | cons t rest =>
          rw [Rule.read] at h
          split at h
          · next ht =>
              obtain ⟨rfl, rfl⟩ := Prod.mk.inj (Option.some.inj h)
              exact ⟨[t], rfl, fun _ => hprinted t ht⟩
          · exact nomatch h
  | operator text => exact takeSigns_printsTaken text
  | group => exact takeGroup_printsTaken
  | seq _ _ ihFirst ihSecond => exact seq_printsTaken ihFirst ihSecond
  | choose test _ _ ihYes ihNo =>
      intro ts printed behind h
      rw [Rule.read] at h
      split at h
      · exact ihYes ts printed behind h
      · exact ihNo ts printed behind h
  | many stop _ ih =>
      intro ts printed behind h
      exact readMany_printsTaken ih _ ts printed behind h
  | list hearly _ ih =>
      intro ts printed behind h
      obtain ⟨⟨es, rest⟩, hes, h⟩ := Option.map_eq_some_iff.mp h
      obtain ⟨rfl, rfl⟩ := Prod.mk.inj h
      obtain ⟨front, hts, hfront⟩ := readElements_printsTaken hearly ih hes
      refine ⟨front, hts, fun hplain => ?_⟩
      obtain ⟨hlate, hshown⟩ := hfront hplain
      rw [printList_of_not_early hlate, hshown]
  | ref name => exact hself name
  | inputs _ _ ihInner ihTail => exact inputs_printsTaken ihInner ihTail

/-- **AT ANY DEPTH**: by induction, the names that a rule refers to already print what they
    take. -/
theorem readTo_printsTaken {grammar : N → Rule N} (h : ∀ name, Faithful (grammar name))
    (depth : Nat) (name : N) : PrintsTaken (Rule.readTo grammar depth name) := by
  induction depth generalizing name with
  | zero => exact fun _ _ _ h => nomatch h
  | succ depth ih => exact Rule.printsTaken ih (h name)

/-! ## The grammar -/

theorem faithful_one (test : Token → Bool) : Faithful (Rule.one test : Rule N) :=
  .token (fun t _ => shown_alone t)

theorem earlyLifetimes_never (stop : Ahead) : EarlyLifetimes (fun _ => false) stop :=
  fun _ h => nomatch h

/-- The only early elements of the grammar are lifetimes between angle brackets. -/
theorem earlyLifetimes_angle : EarlyLifetimes Ahead.lifetime (Ahead.op ">") := by
  intro ts h
  cases ts with
  | nil => exact nomatch h
  | cons t rest =>
      cases t with
      | lifetime name => exact ⟨name, rest, rfl, rfl⟩
      | _ => exact nomatch h

/-- Field numbers that a point joins are shown as the one token they were. -/
theorem shown_fieldNumbers {rest : List Char → Bool} {t : Token}
    (h : t.isFieldNumberThen rest = true) : shown t.fieldNumbers = shown [t] := by
  cases t with
  | literal text =>
      have hsplit : text.toList.takeWhile isDigit ++ text.toList.dropWhile isDigit = text.toList :=
        List.takeWhile_append_dropWhile
      generalize hfront : text.toList.takeWhile isDigit = front at hsplit
      generalize text.toList.dropWhile isDigit = behind at hsplit
      have hbehind : text.toList.drop front.length = behind := by rw [← hsplit, List.drop_left]
      rw [Token.isFieldNumberThen, hfront, hbehind] at h
      cases behind with
      | nil => exact absurd h Bool.false_ne_true
      | cons c back =>
          obtain rfl : c = '.' := by
            split at h
            · next heq => exact (List.cons.inj heq).1
            · exact absurd h Bool.false_ne_true
          have hback : text.toList.drop (front.length + 1) = back := by
            rw [← List.drop_drop, hbehind, List.drop_one, List.tail_cons]
          have hshown : shown [.literal text] = dropBlanks (front ++ ['.'] ++ back) := by
            rw [List.append_assoc, List.singleton_append, hsplit]
            exact List.append_nil _
          rw [Token.fieldNumbers, hfront, hback, hshown, dropBlanks_append, dropBlanks_append]
          cases back with
          | nil => simp [shown, Token.text, dropBlanks]
          | cons d back => simp [shown, Token.text]
  | _ => exact absurd h Bool.false_ne_true

/-- A choice among several rules is faithful if each of them is. -/
theorem Faithful.cases {options : List (Ahead × Rule N)} {otherwise : Rule N}
    (h : ∀ o ∈ options, Faithful o.2) (hotherwise : Faithful otherwise) :
    Faithful (Rule.cases options otherwise) := by
  induction options with
  | nil => exact hotherwise
  | cons o options ih =>
      obtain ⟨ho, hoptions⟩ := List.forall_mem_cons.mp h
      exact .choose _ ho (ih hoptions)

/-- The inputs of a function trait are the one place where colons are left out. -/
theorem faithful_parenthesised (inType : Bool) : Faithful (Grammar.parenthesised inType) := by
  refine .inputs ?_ ?_
  · refine .seq (.list (earlyLifetimes_never _) (.ref _)) (faithful_one _)
  · cases inType with
    | false => exact .ref _
    | true => exact .ref _

/-- A range that lacks an end is refused or left as it is. -/
theorem faithful_lacksEnd (element : Bool) : Faithful (Grammar.lacksEnd element) := by
  cases element with
  | false => exact .done
  | true => exact .choose _ .never .done

theorem faithful_rangeTail (structs : Bool) : Faithful (Grammar.rangeTail structs) := by
  repeat' constructor

/-- The operators are a table, so its rows are faithful for one reason, and the three rules
    behind the table one by one. -/
theorem faithful_operators (structs : Bool) (level : Level) (compared : Bool) :
    Faithful (Grammar.operators structs level compared) := by
  refine Faithful.cases ?_ .done
  intro option hoption
  rcases List.mem_append.mp hoption with hbinary | hlast
  · obtain ⟨entry, -, rfl⟩ := List.mem_map.mp hbinary
    dsimp only
    split
    · exact .done
    · split
      · exact .never
      · exact .seq (.operator _) (.seq (.ref _) (.ref _))
  · simp only [List.mem_cons, List.not_mem_nil, or_false] at hlast
    rcases hlast with rfl | rfl | rfl
    · dsimp only
      split
      · exact .done
      · exact .seq (.operator _) (.seq (.ref _) (.ref _))
    · dsimp only
      split
      · exact .done
      · exact faithful_rangeTail structs
    · exact .seq (faithful_one _) (.seq (.ref _) (.choose _ .never (.ref _)))

/-- **THE GRAMMAR IS FAITHFUL**: only generic arguments and parameters have early elements,
    and only the inputs of a function trait leave colons out. -/
theorem Phrase.faithful (p : Phrase) : Faithful p.rule := by
  cases p with
  | operators structs level compared => exact faithful_operators structs level compared
  | _ =>
      dsimp only [Phrase.rule]
      -- a rule is taken apart into its parts, down to those without any
      repeat' first
        | exact faithful_one _
        | exact earlyLifetimes_never _
        | exact earlyLifetimes_angle
        | exact fun t ht => shown_fieldNumbers ht
        | with_reducible exact faithful_parenthesised _
        | with_reducible exact faithful_lacksEnd _
        | constructor
        | split

/-- A phrase is read by its rule, at some depth: how deep does not matter to a rule that
    refers to no other. -/
theorem Phrase.exists_read_eq (p : Phrase) (ts : List Token) :
    ∃ depth, p.read ts = p.rule.read (Rule.readTo Phrase.rule depth) ts := by
  have hpos : Phrase.chain * (ts.length + 1) ≠ 0 :=
    Nat.mul_ne_zero (by decide) (Nat.succ_ne_zero _)
  obtain ⟨depth, hdepth⟩ := Nat.exists_eq_succ_of_ne_zero hpos
  exact ⟨depth, by rw [Phrase.read, hdepth, Rule.readTo]⟩

/-- **PHRASES** print what they take from the front, if it is plain. -/
theorem Phrase.printsTaken (p : Phrase) : PrintsTaken p.read :=
  fun ts => readTo_printsTaken Phrase.faithful _ p ts

end VertexBinding.Source
