import VertexBinding.Proofs.Source.Arguments

/-! # Contributions — what the attributes of a struct add up to

    The arguments that the attributes contribute are added in their order.  A flag is set if
    one of them is its argument, and the alignment is that of the last which is one
    (`Representation.ofArguments_eq`).  So it does not matter over how many attributes
    well-formed arguments are spread, and what is malformed in one attribute takes nothing
    from the others (`Representation.ofAttributes_contributed`). -/

namespace VertexBinding.Source

namespace ReprArgument

/-- The bytes of an alignment. -/
def alignment? : ReprArgument → Option Nat
  | align n => some n
  | _ => none

/-- The alignments among arguments. -/
def alignments (as : List ReprArgument) : List Nat :=
  as.filterMap alignment?

/-- The alignments of a list of arguments are those that its alignment arguments give. -/
theorem mem_alignments {as : List ReprArgument} {n : Nat} :
    n ∈ alignments as ↔ .align n ∈ as := by
  rw [alignments, List.mem_filterMap]
  constructor
  · rintro ⟨a, ha, h⟩
    cases a with
    | align m =>
        obtain rfl := Option.some.inj h
        exact ha
    | _ => exact nomatch h
  · exact fun h => ⟨.align n, h, rfl⟩

/-! ## Well-formed arguments -/

/-- An argument from its first token to its last. -/
inductive ArgumentText : List Token → ReprArgument → Prop where
  | align {text : String} {n : Nat} (hvalue : integerValue? text.toList = some n)
      (hlimit : n < alignLimit) :
      ArgumentText [.word "align", .opening .parenthesis, .literal text, .closing .parenthesis]
        (.align n)
  | bare {path : List Token} {name : Option String} (hpath : PathText path name)
      (hname : name ≠ some "align") : ArgumentText path (meaning name)
  | grouped {path inside : List Token} {name : Option String} (hpath : PathText path name)
      (hname : name ≠ some "align") (hinside : Nested inside) :
      ArgumentText (path ++ .opening .parenthesis :: (inside ++ [.closing .parenthesis]))
        (meaning name)

/-- Arguments with commas between them, at least one. -/
inductive ArgumentList : List Token → List ReprArgument → Prop where
  | one {ts : List Token} {a : ReprArgument} (h : ArgumentText ts a) : ArgumentList ts [a]
  | cons {ts rest : List Token} {a : ReprArgument} {as : List ReprArgument} {joint : Bool}
      (h : ArgumentText ts a) (others : ArgumentList rest as) :
      ArgumentList (ts ++ .sign ',' joint :: rest) (a :: as)

theorem Segments.nested {ts : List Token} (h : Segments ts) : Nested ts := by
  induction h with
  | nil => exact .nil
  | cons _ ih => exact .plain rfl (.plain rfl (.plain rfl ih))

theorem PathText.nested {path : List Token} {name : Option String} (h : PathText path name) :
    Nested path := by
  cases h with
  | name w => exact .plain rfl .nil
  | longer h _ => exact .plain rfl h.nested
  | leading h _ => exact h.nested

/-- The text of an argument leaves no group open. -/
theorem ArgumentText.nested {ts : List Token} {a : ReprArgument} (h : ArgumentText ts a) :
    Nested ts := by
  cases h with
  | align _ _ =>
      exact .plain rfl (Nested.group (.plain rfl .nil) .parenthesis .parenthesis)
  | bare hpath _ => exact hpath.nested
  | grouped hpath _ hinside => exact hpath.nested.append (hinside.group ..)

/-- Nor does a list of them. -/
theorem ArgumentList.nested {ts : List Token} {as : List ReprArgument}
    (h : ArgumentList ts as) : Nested ts := by
  induction h with
  | one h => exact h.nested
  | cons h _ ih => exact h.nested.append (.plain rfl ih)

/-- A well-formed argument is read whole in front of a comma and at the end. -/
theorem ArgumentText.argument {ts behind : List Token} {a : ReprArgument}
    (h : ArgumentText ts a) (hbehind : behind = [] ∨ StartsComma behind) :
    Argument (ts ++ behind) a behind := by
  have hcolons : ¬ StartsColons behind := by
    rintro ⟨joint, rest, rfl⟩
    rcases hbehind with h | ⟨joint', rest', h⟩
    · exact nomatch h
    · exact nomatch (Token.sign.inj (List.cons.inj h).1).1
  have hgroup : ¬ StartsGroup behind := by
    rintro ⟨rest, rfl⟩
    rcases hbehind with h | ⟨joint', rest', h⟩
    · exact nomatch h
    · exact nomatch (List.cons.inj h).1
  cases h with
  | align hvalue hlimit => exact .align hvalue hlimit (.closed _ .nil)
  | bare hpath hname => exact .bare hpath hname hcolons hgroup
  | @grouped path inside name hpath hname hinside =>
      have hends : Encloses (inside ++ .closing .parenthesis :: behind) inside behind :=
        .closed _ hinside
      have hargument := Argument.grouped hpath hname hends
      rw [List.append_assoc, List.cons_append, List.append_assoc]
      exact hargument

/-- A list of arguments is read as these arguments. -/
theorem ArgumentList.arguments {ts : List Token} {as : List ReprArgument}
    (h : ArgumentList ts as) : Arguments ts as := by
  induction h with
  | @one ts a h =>
      have hargument := h.argument (Or.inl rfl)
      rw [List.append_nil] at hargument
      exact .last hargument (fun ⟨_, _, hcomma⟩ => nomatch hcomma)
  | cons h _ ih => exact .cons (h.argument (Or.inr ⟨_, _, rfl⟩)) ih

/-- Behind well-formed arguments and a comma the reader goes on. -/
theorem ArgumentList.arguments_append {ts us : List Token} {as bs : List ReprArgument}
    {joint : Bool} (h : ArgumentList ts as) (hus : Arguments us bs) :
    Arguments (ts ++ .sign ',' joint :: us) (as ++ bs) := by
  induction h with
  | one h => exact .cons (h.argument (Or.inr ⟨_, _, rfl⟩)) hus
  | cons h _ ih =>
      rw [List.append_assoc]
      exact .cons (h.argument (Or.inr ⟨_, _, rfl⟩)) ih

/-- The attribute `repr` with the given tokens in parentheses. -/
def reprAttribute (inside : List Token) : List Token :=
  .word "repr" :: .opening .parenthesis :: (inside ++ [.closing .parenthesis])

/-- An attribute with the given arguments in its parentheses contributes them. -/
theorem ofAttribute_reprAttribute {inside : List Token} {as : List ReprArgument}
    (hinside : Nested inside) (h : Arguments inside as) : ofAttribute (reprAttribute inside) = as :=
  ofAttribute_eq_iff.mpr (.repr (.closed .parenthesis hinside) h)

/-- Arguments may be spread over two attributes. -/
theorem ofAttribute_split {xs ys : List Token} {as : List ReprArgument} {joint : Bool}
    (hxs : ArgumentList xs as) (hys : Nested ys) :
    ofAttribute (reprAttribute (xs ++ .sign ',' joint :: ys))
      = ofAttribute (reprAttribute xs) ++ ofAttribute (reprAttribute ys) := by
  have hrest : Arguments ys (readAll ys) := readAll_eq_iff.mp rfl
  rw [ofAttribute_reprAttribute hxs.nested hxs.arguments, ofAttribute_reprAttribute hys hrest]
  exact ofAttribute_reprAttribute (hxs.nested.append (.plain rfl hys))
    (hxs.arguments_append hrest)

end ReprArgument

namespace Representation

open ReprArgument

/-! ## Flags and alignment -/

/-- Adding arguments one by one sets the flags that occur and leaves the last alignment. -/
theorem foldl_add (as : List ReprArgument) (r : Representation) :
    as.foldl add r = ⟨r.c || decide (.c ∈ as), r.packed || decide (.packed ∈ as),
      (alignments as).getLast?.or r.align⟩ := by
  induction as generalizing r with
  | nil => simp [alignments]
  | cons a as ih =>
      rw [List.foldl_cons, ih]
      cases a <;> simp [add, alignments, alignment?, List.getLast?_cons]

/-- Arguments set the flags that are among them, and the last alignment. -/
theorem ofArguments_eq (as : List ReprArgument) :
    ofArguments as = ⟨decide (.c ∈ as), decide (.packed ∈ as), (alignments as).getLast?⟩ := by
  rw [ofArguments, foldl_add]
  simp

/-- What attributes contribute is what the reader finds in each of them. -/
theorem contributes_iff {attributes : List (List Token)}
    {contributions : List (List ReprArgument)} :
    List.Forall₂ Contributes attributes contributions ↔
      contributions = attributes.map ofAttribute := by
  induction attributes generalizing contributions with
  | nil => exact List.forall₂_nil_left_iff
  | cons body bodies ih =>
      rw [List.forall₂_cons_left_iff, List.map_cons]
      constructor
      · rintro ⟨as, others, h, hothers, rfl⟩
        rw [ofAttribute_eq_iff.mpr h, ih.mp hothers]
      · rintro rfl
        exact ⟨_, _, ofAttribute_eq_iff.mp rfl, ih.mpr rfl, rfl⟩

/-- Every attribute contributes what is read from it. -/
theorem contributes_ofAttribute (attributes : List (List Token)) :
    List.Forall₂ Contributes attributes (attributes.map ofAttribute) :=
  contributes_iff.mpr rfl

/-- Attributes ask for what their arguments ask for together. -/
theorem ofAttributes_of_contributes {attributes : List (List Token)}
    {contributions : List (List ReprArgument)}
    (h : List.Forall₂ Contributes attributes contributions) :
    ofAttributes attributes = ⟨decide (.c ∈ contributions.flatten),
      decide (.packed ∈ contributions.flatten), (alignments contributions.flatten).getLast?⟩ := by
  rw [contributes_iff.mp h, ← List.flatMap_def, ofAttributes, ofArguments_eq]

/-- Whatever the other attributes hold, an argument of one of them counts. -/
theorem mem_contributed {attributes : List (List Token)} {body : List Token}
    (h : body ∈ attributes) {a : ReprArgument}
    (ha : a ∈ [body].flatMap ofAttribute) : a ∈ attributes.flatMap ofAttribute := by
  rw [List.flatMap_singleton] at ha
  exact List.mem_flatMap.mpr ⟨body, h, ha⟩

/-- **ONLY WHAT FOLLOWS IS HIDDEN**: attributes contribute the arguments in front of the first
    malformed one of each, in one way only.  A flag is set exactly if its argument is
    contributed, and the alignment is the last one contributed.  Well-formed arguments may be
    spread over two attributes, and what an attribute asks for on its own is asked for
    whatever the others hold. -/
theorem ofAttributes_contributed :
    (∀ attributes, ∃ contributions, List.Forall₂ Contributes attributes contributions ∧
      (∀ others, List.Forall₂ Contributes attributes others → others = contributions) ∧
      ((ofAttributes attributes).c = true ↔ .c ∈ contributions.flatten) ∧
      ((ofAttributes attributes).packed = true ↔ .packed ∈ contributions.flatten) ∧
      (ofAttributes attributes).align = (alignments contributions.flatten).getLast?) ∧
    (∀ xs as ys joint before after, ArgumentList xs as → Nested ys →
      ofAttributes (before ++ reprAttribute (xs ++ .sign ',' joint :: ys) :: after)
        = ofAttributes (before ++ reprAttribute xs :: reprAttribute ys :: after)) ∧
    ∀ attributes, ∀ body ∈ attributes,
      ((ofAttributes [body]).c = true → (ofAttributes attributes).c = true) ∧
      ((ofAttributes [body]).packed = true → (ofAttributes attributes).packed = true) ∧
      ((ofAttributes [body]).align ≠ none → (ofAttributes attributes).align ≠ none) := by
  refine ⟨fun attributes => ?_, ?_, ?_⟩
  · have hcontributes := contributes_ofAttribute attributes
    refine ⟨_, hcontributes, fun others h => contributes_iff.mp h, ?_⟩
    rw [ofAttributes_of_contributes hcontributes]
    exact ⟨decide_eq_true_iff, decide_eq_true_iff, rfl⟩
  · intro xs as ys joint before after hxs hys
    rw [ofAttributes, ofAttributes, List.flatMap_append, List.flatMap_append, List.flatMap_cons,
      List.flatMap_cons, List.flatMap_cons, ofAttribute_split hxs hys, List.append_assoc]
  · intro attributes body hmem
    rw [ofAttributes, ofAttributes, ofArguments_eq, ofArguments_eq]
    refine ⟨?_, ?_, ?_⟩
    · exact fun h => decide_eq_true (mem_contributed hmem (of_decide_eq_true h))
    · exact fun h => decide_eq_true (mem_contributed hmem (of_decide_eq_true h))
    · intro h
      obtain ⟨n, hn⟩ := Option.ne_none_iff_exists'.mp h
      have hone := mem_alignments.mp (List.mem_of_getLast? hn)
      intro hnone
      have hall := mem_alignments.mpr (mem_contributed hmem hone)
      rw [List.getLast?_eq_none_iff.mp hnone] at hall
      exact nomatch hall

/-- A packing by two bytes with an alignment behind it, and a value in front of a packing that
    is therefore not read. -/
theorem ofAttributes_contributed_malformed :
    ofAttributes [reprAttribute [.word "packed", .opening .parenthesis, .literal "2",
          .closing .parenthesis, .sign ',' false, .word "align", .opening .parenthesis,
          .literal "0x10", .closing .parenthesis]]
      = ofAttributes [reprAttribute [.word "packed", .opening .parenthesis, .literal "2",
            .closing .parenthesis],
          reprAttribute [.word "align", .opening .parenthesis, .literal "0x10",
            .closing .parenthesis]] ∧
    (∃ contributions, List.Forall₂ Contributes
        [reprAttribute [.word "C", .sign '=' false, .literal "1", .sign ',' false,
            .word "packed"],
          reprAttribute [.word "align", .opening .parenthesis, .literal "8",
            .closing .parenthesis]] contributions ∧
      .c ∈ contributions.flatten ∧ .packed ∉ contributions.flatten ∧
      (alignments contributions.flatten).getLast? = some 8) ∧
    (ofAttributes
        [reprAttribute [.word "C", .sign '=' false, .literal "1", .sign ',' false,
            .word "packed"],
          reprAttribute [.word "align", .opening .parenthesis, .literal "8",
            .closing .parenthesis]]).align ≠ none := by
  obtain ⟨hall, hsplit, hkept⟩ := ofAttributes_contributed
  refine ⟨?_, ?_, ?_⟩
  · have hpacked : ArgumentList [.word "packed", .opening .parenthesis, .literal "2",
        .closing .parenthesis] [.packed] :=
      .one (.grouped (.name "packed") (by decide) (.plain rfl .nil))
    have halign : ArgumentList [.word "align", .opening .parenthesis, .literal "0x10",
        .closing .parenthesis] [.align 16] :=
      .one (.align (by decide) (by decide))
    exact hsplit _ _ _ false [] [] hpacked halign.nested
  · obtain ⟨contributions, hcontributes, -, hc, hpacked, halign⟩ := hall
      [reprAttribute [.word "C", .sign '=' false, .literal "1", .sign ',' false, .word "packed"],
        reprAttribute [.word "align", .opening .parenthesis, .literal "8",
          .closing .parenthesis]]
    refine ⟨contributions, hcontributes, hc.mp (by decide), ?_, halign.symm.trans (by decide)⟩
    exact fun h => absurd (hpacked.mpr h) (by decide)
  · exact (hkept _ _ (List.mem_cons_of_mem _ (List.mem_cons_self ..))).2.2 (by decide)

end Representation

end VertexBinding.Source
