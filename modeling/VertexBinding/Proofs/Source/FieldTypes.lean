import VertexBinding.Proofs.Source.Remainders

/-! # Field types — the tokens behind the text of a type

    A field's type is kept as a text: the tokens it was printed as, with spaces between
    them.  In the source it stands behind the name of the field and a colon (`TypeAt`), with
    any white space and comments between its tokens, and apart from these as it is printed
    if it is plain.  `TypeTokens` are the tokens it may be known by: those it is printed as
    and, if they are plain, those it is written with.

    Without white space the text of a type is the texts of these tokens, and so is every
    text in which they stand with other white space between them (`Spaced`). -/

namespace VertexBinding.Source

open Emission Text

/-- Tokens one behind the other, with any white space or none around them. -/
inductive Spaced : List Token → List Char → Prop where
  | done {gap : List Char} (hgap : ∀ c ∈ gap, isBlank c = true) : Spaced [] gap
  | token {gap s : List Char} {t : Token} {ts : List Token} (hgap : ∀ c ∈ gap, isBlank c = true)
      (h : Spaced ts s) : Spaced (t :: ts) (gap ++ (t.text.toList ++ s))

/-- The type at the front of tokens as it is printed, and the tokens behind it.  A struct or
    a union in place of the type is printed as it stands. -/
inductive TypeRead (name : String) (ts : List Token) : (printed behind : List Token) → Prop where
  | type {printed behind : List Token} (hnested : startsNestedFields name ts = false)
      (h : Phrase.read (.type true) ts = some (printed, behind)) : TypeRead name ts printed behind
  | nested {behind : List Token} (hnested : startsNestedFields name ts = true)
      (h : skip? .namedFields (ts.drop 1) = some behind) :
      TypeRead name ts (taken ts behind) behind

/-- The type of the field stands in the source, behind the name of the field. -/
inductive TypeAt (source : List Token) (f : Declaration) :
    (written printed : List Token) → Prop where
  | behindName {w : String} {joint : Bool} {written printed behind : List Token}
      (hplace : .word w :: .sign ':' joint :: (written ++ behind) <:+ source)
      (hname : f.name = unraw w) (hread : TypeRead f.name (written ++ behind) printed behind)
      (htext : f.type = Token.render printed) : TypeAt source f written printed

/-- The tokens that the type of the field may be known by. -/
inductive TypeTokens (source : List Token) (f : Declaration) (ts : List Token) : Prop where
  | printed {written : List Token} (h : TypeAt source f written ts)
  | written {printed : List Token} (h : TypeAt source f ts printed) (hplain : Plain ts)

/-! ## White space -/

theorem dropBlanks_gap {gap : List Char} (h : ∀ c ∈ gap, isBlank c = true) :
    dropBlanks gap = [] := by
  rw [dropBlanks, List.filter_eq_nil_iff]
  intro c hc
  simp [h c hc]

/-- However tokens are spaced, without white space they are their texts. -/
theorem Spaced.dropBlanks {ts : List Token} {s : List Char} (h : Spaced ts s) :
    dropBlanks s = shown ts := by
  induction h with
  | done hgap => exact dropBlanks_gap hgap
  | @token gap s t ts hgap _ ih =>
      rw [dropBlanks_append, dropBlanks_append, dropBlanks_gap hgap, ih]
      rfl

theorem Spaced.behind_gap {gap s : List Char} {ts : List Token}
    (hgap : ∀ c ∈ gap, isBlank c = true) (h : Spaced ts s) : Spaced ts (gap ++ s) := by
  cases h with
  | done hnext => exact .done (List.forall_mem_append.mpr ⟨hgap, hnext⟩)
  | token hnext h =>
      rw [← List.append_assoc]
      exact .token (List.forall_mem_append.mpr ⟨hgap, hnext⟩) h

/-- Tokens are rendered with spaces between them. -/
theorem spaced_render (ts : List Token) : Spaced ts (Token.render ts).toList := by
  have hnone : ∀ c ∈ ([] : List Char), isBlank c = true := nofun
  fun_induction Token.render ts with
  | case1 => exact .done hnone
  | case2 t => exact List.append_nil t.text.toList ▸ .token hnone (.done hnone)
  | case3 t u rest ih =>
      have hspace : ∀ c ∈ (if t.spaced u then " " else "").toList, isBlank c = true := by
        split
        · exact List.forall_mem_singleton.mpr (by decide)
        · exact hnone
      rw [String.toList_append, String.toList_append, List.append_assoc]
      exact .token hnone (ih.behind_gap hspace)

/-! ## Types -/

/-- The type of a field is what reading it printed. -/
theorem typeRead_of_fieldType? {name type : String} {ts behind : List Token}
    (h : fieldType? name ts = some (type, behind)) :
    ∃ printed, TypeRead name ts printed behind ∧ type = Token.render printed := by
  unfold fieldType? at h
  split at h
  · next hnested =>
      obtain ⟨rest, hrest, h⟩ := Option.map_eq_some_iff.mp h
      obtain ⟨rfl, rfl⟩ := Prod.mk.inj h
      exact ⟨_, .nested hnested hrest, rfl⟩
  · next hnested =>
      obtain ⟨⟨printed, rest⟩, hread, h⟩ := Option.map_eq_some_iff.mp h
      obtain ⟨rfl, rfl⟩ := Prod.mk.inj h
      exact ⟨printed, .type (Bool.not_eq_true _ ▸ hnested) hread, rfl⟩

theorem taken_append (front behind : List Token) : taken (front ++ behind) behind = front := by
  rw [taken, List.length_append, Nat.add_sub_cancel, List.take_left]

/-- What is read is the front of what was given, and a plain type is printed as it is. -/
theorem TypeRead.printsTaken {name : String} {ts printed behind : List Token}
    (h : TypeRead name ts printed behind) :
    ∃ written, ts = written ++ behind ∧ (Plain written → shown printed = shown written) := by
  cases h with
  | type _ h => exact (Phrase.type true).printsTaken ts printed behind h
  | nested _ h =>
      obtain ⟨written, rfl⟩ := (skip?_suffix h).trans (List.drop_suffix 1 ts)
      refine ⟨written, rfl, fun _ => ?_⟩
      rw [taken_append]

/-- Plain tokens of a type differ in white space only from what is printed for them. -/
theorem TypeAt.shown_eq {source written printed : List Token} {f : Declaration}
    (h : TypeAt source f written printed) (hplain : Plain written) :
    shown printed = shown written := by
  cases h with
  | behindName _ _ hread _ =>
      obtain ⟨front, hfront, hshown⟩ := hread.printsTaken
      obtain rfl := List.append_cancel_right hfront
      exact hshown hplain

theorem TypeAt.type_eq {source written printed : List Token} {f : Declaration}
    (h : TypeAt source f written printed) : f.type = Token.render printed := by
  cases h with
  | behindName _ _ _ htext => exact htext

/-- **KNOWN BY TOKENS**: without white space the text of a type is that of its tokens. -/
theorem TypeTokens.dropBlanks_type {source ts : List Token} {f : Declaration}
    (h : TypeTokens source f ts) : Text.dropBlanks f.type.toList = shown ts := by
  cases h with
  | printed h => rw [h.type_eq, dropBlanks_render]
  | written h hplain => rw [h.type_eq, dropBlanks_render, h.shown_eq hplain]

/-- A field that was read has its type at a place in the source. -/
theorem FieldIn.exists_typeAt {source : List Token} {f : Declaration} (h : FieldIn source f) :
    ∃ written printed, TypeAt source f written printed := by
  obtain ⟨ts, behind, hsuffix, h⟩ := h
  obtain ⟨w, joint, rest, hplace, -, hname, htype⟩ := exists_of_field? h
  obtain ⟨printed, hread, htext⟩ := typeRead_of_fieldType? htype
  obtain ⟨written, rfl, -⟩ := hread.printsTaken
  exact ⟨written, printed, .behindName (hplace.trans hsuffix) hname hread htext⟩

/-- The text of a field's type is its printed tokens with spaces between them. -/
theorem FieldIn.exists_typeTokens {source : List Token} {f : Declaration} (h : FieldIn source f) :
    ∃ ts, TypeTokens source f ts ∧ Spaced ts f.type.toList := by
  obtain ⟨written, printed, hat⟩ := h.exists_typeAt
  exact ⟨printed, .printed hat, hat.type_eq ▸ spaced_render printed⟩

end VertexBinding.Source
