import VertexBinding.Emission.ImplBlock
import VertexBinding.Proofs.Text.Runs

/-! # Calls — the fields that written code asks the compiler about

    Generated code leaves offsets to the compiler: it calls `offset_of!` with the path
    of a vertex and the identifier of a field.  `Calls` reads these calls from a text
    whose white space is dropped; every exclamation mark of the text belongs to one.  A
    text has one list of calls (`Calls.unique`).

    Code is written as bare tokens or as a set document.  Without white space the first
    is the texts of its tokens (`dropBlanks_render`).  What the second shows depends on
    where lines are broken, since some broken lines end with a comma; `Shows` leaves that
    open, and `shows_setFrom` holds for every setting. -/

namespace VertexBinding.Emission

open Source Text

/-- What a call names. -/
structure OffsetCall where
  vertex : String
  field : String
  deriving DecidableEq, Repr

/-- The call without its arguments. -/
def callOpening : List Char := "offset_of!(".toList

/-- The calls of a text in their order. -/
inductive Calls : List Char → List OffsetCall → Prop where
  | none {s : List Char} (h : '!' ∉ s) : Calls s []
  | call {before rest : List Char} {c : OffsetCall} {cs : List OffsetCall}
      (hbefore : '!' ∉ before) (hvertex : ',' ∉ c.vertex.toList)
      (hfield : ')' ∉ c.field.toList) (hrest : Calls rest cs) :
      Calls (before ++ (callOpening
        ++ (c.vertex.toList ++ ',' :: (c.field.toList ++ ')' :: rest)))) (c :: cs)

/-- Text without an exclamation mark in front adds no call. -/
theorem Calls.prepend {s t : List Char} {cs : List OffsetCall} (hs : '!' ∉ s) (h : Calls t cs) :
    Calls (s ++ t) cs := by
  cases h with
  | none ht => exact .none (fun hmem => (List.mem_append.mp hmem).elim hs ht)
  | @call before rest c cs hbefore hvertex hfield hrest =>
      rw [← List.append_assoc]
      exact .call (fun hmem => (List.mem_append.mp hmem).elim hs hbefore) hvertex hfield hrest

/-- Calls are read piece by piece: those of two texts follow each other. -/
theorem Calls.append {s t : List Char} {cs ds : List OffsetCall} (hs : Calls s cs)
    (ht : Calls t ds) : Calls (s ++ t) (cs ++ ds) := by
  induction hs with
  | none h => exact ht.prepend h
  | call hbefore hvertex hfield _ ih =>
      simp only [List.append_assoc, List.cons_append]
      exact .call hbefore hvertex hfield ih

/-- **ONE READING**: the calls of a text are determined. -/
theorem Calls.unique {s : List Char} {cs ds : List OffsetCall} (h : Calls s cs)
    (h' : Calls s ds) : cs = ds := by
  have hsplit : ∀ before s : List Char,
      before ++ (callOpening ++ s) = (before ++ "offset_of".toList) ++ '!' :: '(' :: s := by
    intro before s
    rw [List.append_assoc]
    rfl
  have hname : ∀ {before : List Char}, '!' ∉ before → '!' ∉ before ++ "offset_of".toList :=
    fun hbefore hmem => (List.mem_append.mp hmem).elim hbefore (by decide)
  induction h generalizing ds with
  | none hs =>
      cases h' with
      | none _ => rfl
      | call _ _ _ _ =>
          rw [hsplit] at hs
          exact absurd (List.mem_append_right _ (List.mem_cons_self ..)) hs
  | @call before rest c cs hbefore hvertex hfield _ ih =>
      rw [hsplit] at h'
      generalize hs : before ++ "offset_of".toList ++ _ = s at h'
      cases h' with
      | none hnone =>
          rw [← hs] at hnone
          exact absurd (List.mem_append_right _ (List.mem_cons_self ..)) hnone
      | @call before' rest' c' cs' hbefore' hvertex' hfield' hrest' =>
          rw [hsplit] at hs
          -- from exclamation mark to comma to closing parenthesis
          obtain ⟨-, hs⟩ := eq_of_upTo (hname hbefore) (hname hbefore') hs
          obtain ⟨hvertices, hs⟩ := eq_of_upTo hvertex hvertex' (List.cons.inj hs).2
          obtain ⟨hfields, rfl⟩ := eq_of_upTo hfield hfield' hs
          obtain rfl : c = c' := by
            obtain ⟨vertex, field⟩ := c
            obtain ⟨vertex', field'⟩ := c'
            obtain rfl := String.toList_inj.mp hvertices
            obtain rfl := String.toList_inj.mp hfields
            rfl
          rw [ih hrest']

/-! ## Bare tokens -/

/-- The texts of tokens without white space. -/
def shown (ts : List Token) : List Char :=
  ts.flatMap (fun t => dropBlanks t.text.toList)

theorem shown_append (ts us : List Token) : shown (ts ++ us) = shown ts ++ shown us :=
  List.flatMap_append ..

/-- Bare tokens show their texts: the spaces between them are the only white space that
    rendering adds. -/
theorem dropBlanks_render (ts : List Token) : dropBlanks (Token.render ts).toList = shown ts := by
  fun_induction Token.render ts with
  | case1 => rfl
  | case2 t => exact (List.append_nil _).symm
  | case3 t u rest ih =>
      have hspace : dropBlanks (if t.spaced u then " " else "").toList = [] := by
        split <;> decide
      rw [String.toList_append, String.toList_append, dropBlanks_append, dropBlanks_append, hspace,
        ih, List.append_nil]
      rfl

/-! ## Set documents -/

/-- What a document shows without white space: its texts in order, and behind some of
    them what ends a broken line. -/
inductive Shows : List Piece → List Char → Prop where
  | nil : Shows [] []
  | text (t : String) {ps : List Piece} {s : List Char} (h : Shows ps s) :
      Shows (.text t :: ps) (dropBlanks t.toList ++ s)
  | whole (b : Break) {ps : List Piece} {s : List Char} (h : Shows ps s) :
      Shows (.place b :: ps) s
  | broken (b : Break) {ps : List Piece} {s : List Char} (h : Shows ps s) :
      Shows (.place b :: ps) (dropBlanks b.ending.toList ++ s)
  | strut {ps : List Piece} {s : List Char} (h : Shows ps s) : Shows (.strut :: ps) s
  | opening (consistent : Bool) (indent : Int) {ps : List Piece} {s : List Char}
      (h : Shows ps s) : Shows (.opening consistent indent :: ps) s
  | closing {ps : List Piece} {s : List Char} (h : Shows ps s) : Shows (.closing :: ps) s

theorem dropBlanks_blanks (n : Nat) : dropBlanks (blanks n) = [] := by
  rw [dropBlanks, blanks, List.filter_eq_nil_iff]
  intro c hc
  rw [List.eq_of_mem_replicate hc]
  decide

/-- **WHATEVER THE SETTING**, a set document shows its texts. -/
theorem shows_setFrom (setting : Setting) (ps : List Piece) :
    Shows ps (dropBlanks (setFrom setting ps)) := by
  induction ps generalizing setting with
  | nil => exact .nil
  | cons p ps ih =>
      cases p with
      | text t =>
          rw [setFrom, dropBlanks_append, dropBlanks_append, dropBlanks_blanks]
          exact .text t (ih _)
      | place b =>
          rw [setFrom]
          split
          · exact .whole b (ih _)
          · have hending : dropBlanks (if b.ending.isEmpty then []
                else blanks setting.pending ++ b.ending.toList) = dropBlanks b.ending.toList := by
              split
              · next hempty => rw [String.isEmpty_iff.mp hempty]; rfl
              · rw [dropBlanks_append, dropBlanks_blanks, List.nil_append]
            have hbreak : dropBlanks ['\n'] = [] := by decide
            dsimp only
            rw [dropBlanks_append, dropBlanks_append, hending, hbreak, List.append_nil]
            exact .broken b (ih _)
      | strut => exact .strut (ih _)
      | opening consistent indent =>
          rw [setFrom]
          split
          · exact .opening consistent indent (ih _)
          · exact .opening consistent indent (ih _)
      | closing =>
          rw [setFrom]
          split
          · exact .closing (ih _)
          · exact .closing (ih _)
          · exact .closing (ih _)

/-- What two documents show together falls apart into what each shows, one case for each
    kind of piece. -/
theorem Shows.exists_append {ps qs : List Piece} {s : List Char} (h : Shows (ps ++ qs) s) :
    ∃ s₁ s₂, s = s₁ ++ s₂ ∧ Shows ps s₁ ∧ Shows qs s₂ := by
  induction ps generalizing s with
  | nil => exact ⟨[], s, rfl, .nil, h⟩
  | cons p ps ih =>
      cases h with
      | text t h =>
          obtain ⟨s₁, s₂, rfl, h₁, h₂⟩ := ih h
          exact ⟨_, s₂, (List.append_assoc ..).symm, .text t h₁, h₂⟩
      | whole b h =>
          obtain ⟨s₁, s₂, rfl, h₁, h₂⟩ := ih h
          exact ⟨s₁, s₂, rfl, .whole b h₁, h₂⟩
      | broken b h =>
          obtain ⟨s₁, s₂, rfl, h₁, h₂⟩ := ih h
          exact ⟨_, s₂, (List.append_assoc ..).symm, .broken b h₁, h₂⟩
      | strut h =>
          obtain ⟨s₁, s₂, rfl, h₁, h₂⟩ := ih h
          exact ⟨s₁, s₂, rfl, .strut h₁, h₂⟩
      | opening consistent indent h =>
          obtain ⟨s₁, s₂, rfl, h₁, h₂⟩ := ih h
          exact ⟨s₁, s₂, rfl, .opening consistent indent h₁, h₂⟩
      | closing h =>
          obtain ⟨s₁, s₂, rfl, h₁, h₂⟩ := ih h
          exact ⟨s₁, s₂, rfl, .closing h₁, h₂⟩

/-- The calls that a document shows, however it is set. -/
def ShowsCalls (ps : List Piece) (cs : List OffsetCall) : Prop :=
  ∀ s, Shows ps s → Calls s cs

/-- The calls of two documents follow each other, however both are set. -/
theorem ShowsCalls.append {ps qs : List Piece} {cs ds : List OffsetCall} (hps : ShowsCalls ps cs)
    (hqs : ShowsCalls qs ds) : ShowsCalls (ps ++ qs) (cs ++ ds) := by
  intro s h
  obtain ⟨s₁, s₂, rfl, h₁, h₂⟩ := h.exists_append
  exact (hps s₁ h₁).append (hqs s₂ h₂)

/-- A piece that shows no exclamation mark. -/
def Piece.Unmarked : Piece → Prop
  | .text t => '!' ∉ t.toList
  | .place b => '!' ∉ b.ending.toList
  | _ => True

instance (p : Piece) : Decidable p.Unmarked := by
  unfold Piece.Unmarked
  split <;> infer_instance

theorem mark_not_mem_dropBlanks {s : List Char} (h : '!' ∉ s) : '!' ∉ dropBlanks s :=
  fun hmem => h (List.mem_filter.mp hmem).1

/-- A document without an exclamation mark shows no call; the endings of broken lines count
    as its text. -/
theorem ShowsCalls.none {ps : List Piece} (hps : ∀ p ∈ ps, p.Unmarked) : ShowsCalls ps [] := by
  intro s h
  refine .none ?_
  induction h with
  | nil => exact List.not_mem_nil
  | text t _ ih =>
      rw [List.forall_mem_cons] at hps
      intro hmem
      exact (List.mem_append.mp hmem).elim (mark_not_mem_dropBlanks hps.1) (ih hps.2)
  | whole b _ ih => exact ih (List.forall_mem_cons.mp hps).2
  | broken b _ ih =>
      rw [List.forall_mem_cons] at hps
      intro hmem
      exact (List.mem_append.mp hmem).elim (mark_not_mem_dropBlanks hps.1) (ih hps.2)
  | strut _ ih => exact ih (List.forall_mem_cons.mp hps).2
  | opening _ _ _ ih => exact ih (List.forall_mem_cons.mp hps).2
  | closing _ ih => exact ih (List.forall_mem_cons.mp hps).2

end VertexBinding.Emission
