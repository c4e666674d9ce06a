import VertexBinding.Proofs.Source.Nesting
import VertexBinding.Source.Representation
import Mathlib.Data.List.Forall2

/-! # Arguments — what the attributes of a struct contribute, without a reader

    An argument is `align` with a number of 64 bits in parentheses, or a path with or
    without a group in parentheses behind it; a path is read as far as it goes.  The
    arguments of an attribute are those in front of the first place where none can be read,
    and none follows one without a comma behind it (`Arguments`).  An attribute contributes
    them if it is `repr` with a group in brackets of any kind; every other attribute
    contributes nothing (`Contributes`).

    The reader reads this grammar and nothing else (`ofAttribute_eq_iff`). -/

namespace VertexBinding.Source.ReprArgument

/-- Two colons and a word, any number of times. -/
inductive Segments : List Token → Prop where
  | nil : Segments []
  | cons {joint : Bool} {w : String} {ts : List Token} (others : Segments ts) :
      Segments (.sign ':' true :: .sign ':' joint :: .word w :: ts)

/-- A path, and its name if it has one: it is then a single word. -/
inductive PathText : List Token → Option String → Prop where
  | name (w : String) : PathText [.word w] (some w)
  | longer {w : String} {ts : List Token} (h : Segments ts) (hne : ts ≠ []) :
      PathText (.word w :: ts) none
  | leading {ts : List Token} (h : Segments ts) (hne : ts ≠ []) : PathText ts none

/-- Two colons come next. -/
def StartsColons (ts : List Token) : Prop :=
  ∃ joint rest, ts = .sign ':' true :: .sign ':' joint :: rest

/-- A parenthesis opens next. -/
def StartsGroup (ts : List Token) : Prop :=
  ∃ rest, ts = .opening .parenthesis :: rest

/-- A comma comes next. -/
def StartsComma (ts : List Token) : Prop :=
  ∃ joint rest, ts = .sign ',' joint :: rest

/-- What an argument of the name says about the layout; alignments say more than a name. -/
def meaning : Option String → ReprArgument
  | some "C" => .c
  | some "packed" => .packed
  | _ => .other

/-- The argument at the front of tokens, and the tokens behind it. -/
inductive Argument : List Token → ReprArgument → List Token → Prop where
  | align {text : String} {n : Nat} {ts others behind : List Token}
      (hvalue : integerValue? text.toList = some n) (hlimit : n < alignLimit)
      (hgroup : Encloses ts others behind) :
      Argument (.word "align" :: .opening .parenthesis :: .literal text :: ts) (.align n) behind
  | bare {path behind : List Token} {name : Option String} (hpath : PathText path name)
      (hname : name ≠ some "align") (hcolons : ¬ StartsColons behind)
      (hgroup : ¬ StartsGroup behind) : Argument (path ++ behind) (meaning name) behind
  | grouped {path ts inside behind : List Token} {name : Option String}
      (hpath : PathText path name) (hname : name ≠ some "align")
      (hgroup : Encloses ts inside behind) :
      Argument (path ++ .opening .parenthesis :: ts) (meaning name) behind

/-- The arguments in front of the first place where none can be read. -/
inductive Arguments : List Token → List ReprArgument → Prop where
  | stop {ts : List Token} (h : ∀ a behind, ¬ Argument ts a behind) : Arguments ts []
  | last {ts behind : List Token} {a : ReprArgument} (h : Argument ts a behind)
      (hcomma : ¬ StartsComma behind) : Arguments ts [a]
  | cons {ts rest : List Token} {a : ReprArgument} {as : List ReprArgument} {joint : Bool}
      (h : Argument ts a (.sign ',' joint :: rest)) (others : Arguments rest as) :
      Arguments ts (a :: as)

/-- What stands in the brackets of an attribute, and the arguments it contributes. -/
inductive Contributes : List Token → List ReprArgument → Prop where
  | repr {d : Delimiter} {ts inside behind : List Token} {as : List ReprArgument}
      (hgroup : Encloses ts inside behind) (h : Arguments inside as) :
      Contributes (.word "repr" :: .opening d :: ts) as
  | other {ts : List Token} (h : ∀ d rest, ts ≠ .word "repr" :: .opening d :: rest) :
      Contributes ts []

/-! ## Paths -/

theorem PathText.ne_nil {path : List Token} {name : Option String} (h : PathText path name) :
    path ≠ [] := by
  cases h with
  | name w => exact List.cons_ne_nil _ _
  | longer _ _ => exact List.cons_ne_nil _ _
  | leading _ hne => exact hne

/-- Segments are read as far as they go. -/
theorem behindName_append {segments behind : List Token} (h : Segments segments)
    (hcolons : ¬ StartsColons behind) (name : Option String) :
    behindName name (segments ++ behind)
      = some (if segments = [] then name else none, behind) := by
  induction h generalizing name with
  | nil =>
      rw [List.nil_append, if_pos rfl]
      unfold behindName
      split
      · exact absurd ⟨_, _, rfl⟩ hcolons
      · exact absurd ⟨_, _, rfl⟩ hcolons
      · rfl
  | cons _ ih =>
      rw [if_neg (List.cons_ne_nil _ _)]
      refine (ih none).trans ?_
      rw [ite_self]

/-- Behind a name any further segments are read, and any of them makes the name a path. -/
theorem exists_segments {name name' : Option String} {ts behind : List Token}
    (h : behindName name ts = some (name', behind)) :
    ∃ segments, Segments segments ∧ ts = segments ++ behind ∧ ¬ StartsColons behind ∧
      name' = if segments = [] then name else none := by
  fun_induction behindName name ts with
  | case1 name joint w rest ih =>
      obtain ⟨segments, hsegments, rfl, hcolons, hname⟩ := ih h
      refine ⟨_, .cons hsegments, rfl, hcolons, ?_⟩
      rw [hname, ite_self, if_neg (List.cons_ne_nil _ _)]
  | case2 name joint rest _ => exact nomatch h
  | case3 name ts hword hcolons =>
      obtain ⟨rfl, rfl⟩ := Prod.mk.inj (Option.some.inj h)
      refine ⟨[], .nil, rfl, ?_, (if_pos rfl).symm⟩
      rintro ⟨joint, rest, rfl⟩
      exact hcolons joint rest rfl

/-- A path is read as far as it goes. -/
theorem name?_eq_some_iff {ts behind : List Token} {name : Option String} :
    name? ts = some (name, behind) ↔
      ∃ path, PathText path name ∧ ts = path ++ behind ∧ ¬ StartsColons behind := by
  constructor
  · intro h
    unfold name? at h
    split at h
    · next w rest =>
        obtain ⟨segments, hsegments, rfl, hcolons, hname⟩ := exists_segments h
        refine ⟨.word w :: segments, ?_, rfl, hcolons⟩
        by_cases hnil : segments = []
        · rw [hname, if_pos hnil, hnil]
          exact .name w
        · rw [hname, if_neg hnil]
          exact .longer hsegments hnil
    · next joint w rest =>
        obtain ⟨segments, hsegments, rfl, hcolons, hname⟩ := exists_segments h
        rw [ite_self] at hname
        rw [hname]
        exact ⟨_, .leading (.cons hsegments) (List.cons_ne_nil _ _), rfl, hcolons⟩
    · exact nomatch h
  · rintro ⟨path, hpath, rfl, hcolons⟩
    cases hpath with
    | name w => exact behindName_append .nil hcolons (some w)
    | longer hsegments hne =>
        refine (behindName_append hsegments hcolons _).trans ?_
        rw [if_neg hne]
    | leading hsegments hne =>
        cases hsegments with
        | nil => exact absurd rfl hne
        | cons hothers =>
            refine (behindName_append hothers hcolons none).trans ?_
            rw [ite_self]

/-! ## One argument -/

/-- The parentheses behind an alignment are read up to their end. -/
theorem bytes?_eq_some_iff {ts behind : List Token} {n : Nat} :
    bytes? ts = some (n, behind) ↔
      ∃ text rest others, ts = .opening .parenthesis :: .literal text :: rest ∧
        integerValue? text.toList = some n ∧ n < alignLimit ∧ Encloses rest others behind := by
  constructor
  · intro h
    unfold bytes? at h
    split at h
    · next text rest =>
        split at h
        · next m hvalue =>
            split at h
            · next hlimit =>
                obtain ⟨rfl, rfl⟩ := Prod.mk.inj (Option.some.inj h)
                exact ⟨text, rest, _, rfl, hvalue, hlimit, splitClosing_eq_iff.mp rfl⟩
            · exact nomatch h
        · exact nomatch h
    · exact nomatch h
  · rintro ⟨text, rest, others, rfl, hvalue, hlimit, hgroup⟩
    simp only [bytes?, hvalue, if_pos hlimit, splitClosing_eq_iff.mpr hgroup]

/-- Behind any other name a group may stand, and it is passed over. -/
theorem behindParentheses_eq_iff {ts behind : List Token} :
    behindParentheses ts = behind ↔
      (∃ rest inside, ts = .opening .parenthesis :: rest ∧ Encloses rest inside behind) ∨
        ¬ StartsGroup ts ∧ ts = behind := by
  unfold behindParentheses
  split
  · next rest =>
      constructor
      · intro h
        exact Or.inl ⟨rest, _, rfl, splitClosing_eq_iff.mp (Prod.ext rfl h)⟩
      · rintro (⟨rest', inside, heq, hgroup⟩ | ⟨hgroup, -⟩)
        · obtain rfl := (List.cons.inj heq).2
          rw [splitClosing_eq_iff.mpr hgroup]
        · exact absurd ⟨rest, rfl⟩ hgroup
  · next hgroup =>
      constructor
      · rintro rfl
        exact Or.inr ⟨fun ⟨rest, h⟩ => hgroup rest h, rfl⟩
      · rintro (⟨rest, inside, rfl, -⟩ | ⟨-, h⟩)
        · exact absurd rfl (hgroup rest)
        · exact h

theorem read?_of_align {ts rest : List Token} (h : name? ts = some (some "align", rest)) :
    read? ts = (bytes? rest).map (fun (n, behind) => (.align n, behind)) := by
  rw [read?, h]
  rfl

/-- Every argument but an alignment is read by its name; a group behind it is passed over.
    -/
theorem read?_of_name {ts rest : List Token} {name : Option String}
    (h : name? ts = some (name, rest)) (hname : name ≠ some "align") :
    read? ts = some (meaning name, behindParentheses rest) := by
  unfold read?
  rw [h]
  split
  · next heq => exact nomatch heq
  · next heq =>
      obtain ⟨rfl, -⟩ := Prod.mk.inj (Option.some.inj heq)
      exact absurd rfl hname
  · next heq =>
      obtain ⟨rfl, rfl⟩ := Prod.mk.inj (Option.some.inj heq)
      rfl
  · next heq =>
      obtain ⟨rfl, rfl⟩ := Prod.mk.inj (Option.some.inj heq)
      rfl
  · next hc hpacked heq =>
      obtain ⟨rfl, rfl⟩ := Prod.mk.inj (Option.some.inj heq)
      rw [meaning]
      · exact hc
      · exact hpacked

theorem PathText.name?_group {path : List Token} {name : Option String} (h : PathText path name)
    (ts : List Token) : name? (path ++ .opening .parenthesis :: ts)
      = some (name, .opening .parenthesis :: ts) := by
  refine name?_eq_some_iff.mpr ⟨path, h, rfl, ?_⟩
  rintro ⟨joint, rest, heq⟩
  exact nomatch (List.cons.inj heq).1

/-- **ONE ARGUMENT**: the reader reads the argument at the front. -/
theorem read?_eq_some_iff {ts behind : List Token} {a : ReprArgument} :
    read? ts = some (a, behind) ↔ Argument ts a behind := by
  constructor
  · intro h
    cases hread : name? ts with
    | none =>
        rw [read?, hread] at h
        exact nomatch h
    | some r =>
        obtain ⟨name, rest⟩ := r
        obtain ⟨path, hpath, rfl, hcolons⟩ := name?_eq_some_iff.mp hread
        by_cases hname : name = some "align"
        · subst hname
          rw [read?_of_align hread] at h
          obtain ⟨⟨n, behind'⟩, hbytes, h⟩ := Option.map_eq_some_iff.mp h
          obtain ⟨rfl, rfl⟩ := Prod.mk.inj h
          obtain ⟨text, others, inside, rfl, hvalue, hlimit, hgroup⟩ :=
            bytes?_eq_some_iff.mp hbytes
          cases hpath with
          | name w => exact .align hvalue hlimit hgroup
        · rw [read?_of_name hread hname] at h
          obtain ⟨rfl, hbehind⟩ := Prod.mk.inj (Option.some.inj h)
          rcases behindParentheses_eq_iff.mp hbehind with ⟨ts, inside, rfl, hgroup⟩ | ⟨hgroup, rfl⟩
          · exact .grouped hpath hname hgroup
          · exact .bare hpath hname hcolons hgroup
  · intro h
    cases h with
    | @align text n ts _ _ hvalue hlimit hgroup =>
        refine (read?_of_align ((PathText.name "align").name?_group (.literal text :: ts))).trans ?_
        rw [bytes?_eq_some_iff.mpr ⟨_, _, _, rfl, hvalue, hlimit, hgroup⟩]
        rfl
    | bare hpath hname hcolons hgroup =>
        rw [read?_of_name (name?_eq_some_iff.mpr ⟨_, hpath, rfl, hcolons⟩) hname,
          behindParentheses_eq_iff.mpr (Or.inr ⟨hgroup, rfl⟩)]
    | grouped hpath hname hgroup =>
        rw [read?_of_name (hpath.name?_group _) hname,
          behindParentheses_eq_iff.mpr (Or.inl ⟨_, _, rfl, hgroup⟩)]

theorem read?_eq_none_iff {ts : List Token} :
    read? ts = none ↔ ∀ a behind, ¬ Argument ts a behind := by
  rw [Option.eq_none_iff_forall_ne_some]
  constructor
  · exact fun h a behind hargument => h (a, behind) (read?_eq_some_iff.mpr hargument)
  · exact fun h r hread => h r.1 r.2 (read?_eq_some_iff.mp hread)

/-- There is one argument at the front, or none. -/
theorem Argument.unique {ts behind behind' : List Token} {a a' : ReprArgument}
    (h : Argument ts a behind) (h' : Argument ts a' behind') : a' = a ∧ behind' = behind :=
  Prod.mk.inj (Option.some.inj
    ((read?_eq_some_iff.mpr h').symm.trans (read?_eq_some_iff.mpr h)))

/-- An argument takes at least one token. -/
theorem Argument.length_lt {ts behind : List Token} {a : ReprArgument}
    (h : Argument ts a behind) : behind.length < ts.length := by
  cases h with
  | align _ _ hgroup =>
      have hlength := hgroup.suffix.length_le
      simp only [List.length_cons]
      omega
  | bare hpath _ _ _ =>
      rw [List.length_append]
      exact Nat.lt_add_of_pos_left (List.length_pos_iff.mpr hpath.ne_nil)
  | grouped _ _ hgroup =>
      have hlength := hgroup.suffix.length_le
      rw [List.length_append, List.length_cons]
      omega

/-! ## All arguments of an attribute -/

/-- The arguments of a list of tokens are determined. -/
theorem Arguments.unique {ts : List Token} {as as' : List ReprArgument} (h : Arguments ts as)
    (h' : Arguments ts as') : as' = as := by
  induction h generalizing as' with
  | stop hstop =>
      cases h' with
      | stop _ => rfl
      | last hargument _ => exact absurd hargument (hstop _ _)
      | cons hargument _ => exact absurd hargument (hstop _ _)
  | last hargument hcomma =>
      cases h' with
      | stop hstop => exact absurd hargument (hstop _ _)
      | last hargument' _ => rw [(hargument.unique hargument').1]
      | cons hargument' _ => exact absurd ⟨_, _, (hargument.unique hargument').2.symm⟩ hcomma
  | cons hargument _ ih =>
      cases h' with
      | stop hstop => exact absurd hargument (hstop _ _)
      | last hargument' hcomma => exact absurd ⟨_, _, (hargument.unique hargument').2⟩ hcomma
      | cons hargument' hothers =>
          obtain ⟨rfl, hbehind⟩ := hargument.unique hargument'
          obtain rfl := (List.cons.inj hbehind).2
          rw [ih hothers]

/-- With a size that the tokens bound, reading gives these arguments: each one takes a token
    at least. -/
theorem arguments_readUpTo {size : Nat} {ts : List Token} (hsize : ts.length ≤ size) :
    Arguments ts (readUpTo size ts) := by
  induction size generalizing ts with
  | zero =>
      refine .stop ?_
      intro a behind h
      have := h.length_lt
      omega
  | succ size ih =>
      rw [readUpTo]
      split
      · next hread => exact .stop (read?_eq_none_iff.mp hread)
      · next a joint rest hread =>
          have hargument := read?_eq_some_iff.mp hread
          refine .cons hargument (ih ?_)
          have hlength := hargument.length_lt
          rw [List.length_cons] at hlength
          omega
      · next a behind hcomma hread =>
          refine .last (read?_eq_some_iff.mp hread) ?_
          rintro ⟨joint, rest, rfl⟩
          exact hcomma joint rest rfl

/-- **ALL ARGUMENTS**: the reader reads those in front of the first malformed one. -/
theorem readAll_eq_iff {ts : List Token} {as : List ReprArgument} :
    readAll ts = as ↔ Arguments ts as := by
  have hread : Arguments ts (readAll ts) := arguments_readUpTo (Nat.le_refl _)
  constructor
  · rintro rfl
    exact hread
  · exact fun h => h.unique hread

/-- What an attribute contributes is what the reader gives for it. -/
theorem ofAttribute_eq_iff {ts : List Token} {as : List ReprArgument} :
    ofAttribute ts = as ↔ Contributes ts as := by
  unfold ofAttribute
  split
  · next d rest =>
      constructor
      · intro h
        exact .repr (splitClosing_eq_iff.mp rfl) (readAll_eq_iff.mp h)
      · intro h
        cases h with
        | repr hgroup harguments =>
            rw [splitClosing_eq_iff.mpr hgroup]
            exact readAll_eq_iff.mpr harguments
        | other hother => exact absurd rfl (hother d rest)
  · next hother =>
      constructor
      · rintro rfl
        exact .other (fun d rest h => hother d rest h)
      · intro h
        cases h with
        | repr _ _ => exact absurd rfl (hother _ _)
        | other _ => rfl

end VertexBinding.Source.ReprArgument
