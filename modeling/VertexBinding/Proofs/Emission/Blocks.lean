import VertexBinding.Proofs.Emission.Calls
import VertexBinding.Proofs.Source.TextLiterals
import VertexBinding.Proofs.Source.Words

/-! # Blocks — one call for each entry of a block

    A block writes a call for each of its entries, in their order, and no other
    exclamation mark: as bare tokens (`ImplBlock.calls_tokens`) and as a set document
    (`ImplBlock.showsCalls_pieces`).  Both proofs follow the definitions part by part; a part
    without a call is one whose texts have no exclamation mark. -/

namespace VertexBinding.Emission

open Source Text

/-- A block for a vertex with a plain name: words of a source name the vertex and its
    fields, and no name of an attribute has an exclamation mark. -/
structure ImplBlock.Names (b : ImplBlock) (vertex : String) : Prop where
  path_eq : b.path = [Token.word vertex]
  vertex : IsSourceWord vertex
  fields : ∀ e ∈ b.entries, IsSourceWord e.field
  attributes : ∀ e ∈ b.entries, '!' ∉ e.attributeName.toList

/-- The calls of a block. -/
def ImplBlock.calls (b : ImplBlock) (vertex : String) : List OffsetCall :=
  b.entries.map (fun e => ⟨vertex, e.field⟩)

/-! ## Texts without an exclamation mark -/

theorem mark_not_mem_number (n : Nat) : '!' ∉ (toString n).toList := by
  rw [Nat.toString_eq_ofList_toDigits, String.toList_ofList]
  exact not_mem_toDigits (by decide) (by decide) (by decide) n

theorem mark_not_mem_formatName (f : VertexFormat) : '!' ∉ f.name.toList := by
  cases f <;> decide

/-- Escapes bring no exclamation mark into a literal. -/
theorem mark_not_mem_textLiteral {s : String} (h : '!' ∉ s.toList) :
    '!' ∉ (textLiteral s).toList :=
  fun hmem => (mem_textLiteral hmem).elim h (by decide)

/-! ## Bare tokens -/

/-- Tokens without an exclamation mark show no call. -/
theorem calls_shown_none {ts : List Token} (h : ∀ t ∈ ts, '!' ∉ t.text.toList) :
    Calls (shown ts) [] := by
  refine .none ?_
  rw [shown, List.mem_flatMap]
  rintro ⟨t, ht, hmem⟩
  exact mark_not_mem_dropBlanks (h t ht) hmem

theorem calls_shown_append {ts us : List Token} {cs ds : List OffsetCall}
    (hts : Calls (shown ts) cs) (hus : Calls (shown us) ds) :
    Calls (shown (ts ++ us)) (cs ++ ds) := by
  rw [shown_append]
  exact hts.append hus

/-- A frame without an exclamation mark changes no call. -/
theorem calls_shown_between {front back ts : List Token} {cs : List OffsetCall}
    (hfront : ∀ t ∈ front, '!' ∉ t.text.toList) (hback : ∀ t ∈ back, '!' ∉ t.text.toList)
    (h : Calls (shown ts) cs) : Calls (shown (front ++ ts ++ back)) cs := by
  have hall := calls_shown_append (calls_shown_append (calls_shown_none hfront) h)
    (calls_shown_none hback)
  rwa [List.nil_append, List.append_nil] at hall

theorem calls_shown_inside (d : Delimiter) {ts : List Token} {cs : List OffsetCall}
    (h : Calls (shown ts) cs) : Calls (shown (inside d ts)) cs :=
  calls_shown_between (by cases d <;> decide) (by cases d <;> decide) h

/-- Elements in a row show their calls in the order of the elements; the commas between them
    show none. -/
theorem calls_shown_separated {α : Type} {tokens : α → List Token} {calls : α → List OffsetCall}
    {xs : List α} (h : ∀ x ∈ xs, Calls (shown (tokens x)) (calls x)) :
    Calls (shown (separated (xs.map tokens))) (xs.flatMap calls) := by
  induction xs with
  | nil => exact .none List.not_mem_nil
  | cons x xs ih =>
      obtain ⟨hx, hxs⟩ := List.forall_mem_cons.mp h
      cases xs with
      | nil =>
          rw [List.flatMap_cons, List.flatMap_nil, List.append_nil]
          exact hx
      | cons y ys =>
          have hcomma : Calls (shown (op ",")) [] := calls_shown_none (by decide)
          have hfront := calls_shown_append hx hcomma
          rw [List.append_nil] at hfront
          exact calls_shown_append hfront (ih hxs)

/-- A field of a struct expression has the calls of its value. -/
theorem calls_shown_field {name : String} (hname : '!' ∉ name.toList) {value : List Token}
    {cs : List OffsetCall} (h : Calls (shown value) cs) :
    Calls (shown (fieldTokens name value)) cs := by
  refine calls_shown_between (List.forall_mem_append.mpr ⟨?_, by decide⟩) (by decide) h
  exact List.forall_mem_singleton.mpr hname

theorem calls_shown_number (n : Nat) : Calls (shown (number n)) [] :=
  calls_shown_none (List.forall_mem_singleton.mpr (mark_not_mem_number n))

/-- A constant array has the calls of its elements: neither its name nor its type has any.
    -/
theorem calls_shown_constant {α : Type} {tokens : α → List Token} {calls : α → List OffsetCall}
    {xs : List α} {name : String} {element : List Token} (hname : '!' ∉ name.toList)
    (helement : ∀ t ∈ element, '!' ∉ t.text.toList)
    (h : ∀ x ∈ xs, Calls (shown (tokens x)) (calls x)) :
    Calls (shown (constantTokens name element (xs.map tokens))) (xs.flatMap calls) := by
  have htype : ∀ t ∈ inside .bracket (element ++ op ";" ++ number (xs.map tokens).length),
      '!' ∉ t.text.toList := by
    simp only [inside, List.forall_mem_append]
    refine ⟨⟨by decide, ⟨helement, by decide⟩, ?_⟩, by decide⟩
    exact List.forall_mem_singleton.mpr (mark_not_mem_number _)
  refine calls_shown_between ?_ (by decide) (calls_shown_inside .bracket (calls_shown_separated h))
  simp only [List.forall_mem_append]
  refine ⟨⟨⟨?_, by decide⟩, htype⟩, by decide⟩
  rw [List.forall_mem_cons, List.forall_mem_cons, List.forall_mem_singleton]
  exact ⟨by decide, by decide, hname⟩

/-- A text without white space is shown as it is. -/
theorem dropBlanks_eq_self {s : List Char} (h : ∀ c ∈ s, isBlank c = false) :
    dropBlanks s = s := by
  refine List.filter_eq_self.mpr ?_
  intro c hc
  rw [h c hc]
  rfl

/-- A word of a source holds no white space. -/
theorem dropBlanks_sourceWord {w : String} (h : IsSourceWord w) :
    dropBlanks w.toList = w.toList := by
  refine dropBlanks_eq_self ?_
  intro c hc
  cases hblank : isBlank c with
  | false => rfl
  | true =>
      refine absurd hc (h.not_mem (not_isIdentifierChar_of_isBlank hblank) ?_)
      rintro rfl
      exact absurd hblank (by decide)

/-- The one call of an entry, with what stands behind its field's parenthesis. -/
theorem calls_of_words {vertex field : String} (hvertex : IsSourceWord vertex)
    (hfield : IsSourceWord field) {before rest : List Char} (hbefore : '!' ∉ before)
    (hrest : '!' ∉ rest) :
    Calls (before ++ (callOpening ++ (vertex.toList ++ ',' :: (field.toList ++ ')' :: rest))))
      [⟨vertex, field⟩] := by
  have hcomma : ',' ∉ vertex.toList := hvertex.not_mem (by decide) (by decide)
  have hclose : ')' ∉ field.toList := hfield.not_mem (by decide) (by decide)
  exact Calls.call (c := ⟨vertex, field⟩) hbefore hcomma hclose (.none hrest)

/-- **ONE CALL AN ENTRY**: it stands in the offset, and names the field. -/
theorem calls_shown_entry {vertex : String} (hvertex : IsSourceWord vertex) {e : Entry}
    (hfield : IsSourceWord e.field) :
    Calls (shown (e.tokens [Token.word vertex])) [⟨vertex, e.field⟩] := by
  have hcall : Calls (shown (pathOf ["std", "mem", "offset_of"] ++ op "!"
      ++ inside .parenthesis ([Token.word vertex] ++ op "," ++ [Token.word e.field])
      ++ [Token.word "as", .word "u64"])) [⟨vertex, e.field⟩] := by
    have hshown : shown (pathOf ["std", "mem", "offset_of"] ++ op "!"
        ++ inside .parenthesis ([Token.word vertex] ++ op "," ++ [Token.word e.field])
        ++ [Token.word "as", .word "u64"])
        = "std::mem::".toList ++ (callOpening
          ++ (vertex.toList ++ ',' :: (e.field.toList ++ ')' :: "asu64".toList))) := by
      rw [← dropBlanks_sourceWord hvertex, ← dropBlanks_sourceWord hfield]
      rfl
    rw [hshown]
    exact calls_of_words hvertex hfield (by decide) (by decide)
  have hpath : Calls (shown (pathOf ["wgpu", "VertexAttribute"])) [] :=
    calls_shown_none (by decide)
  have hformats : Calls (shown (pathOf ["wgpu", "VertexFormat"] ++ op "::")) [] :=
    calls_shown_none (by decide)
  have hname : Calls (shown [Token.word e.format.name]) [] :=
    calls_shown_none (List.forall_mem_singleton.mpr (mark_not_mem_formatName e.format))
  have hformat : Calls (shown (fieldTokens "format"
      (pathOf ["wgpu", "VertexFormat", e.format.name]))) [] :=
    calls_shown_field (by decide) (calls_shown_append hformats hname)
  have hoffset := calls_shown_field (show '!' ∉ "offset".toList by decide) hcall
  have hlocation := calls_shown_field (show '!' ∉ "shader_location".toList by decide)
    (calls_shown_number e.location)
  exact calls_shown_append hpath
    (calls_shown_inside .brace (calls_shown_append (calls_shown_append hformat hoffset) hlocation))

/-- The layout function consists of fixed tokens and of the path. -/
theorem mem_functionTokens {path : List Token} {t : Token} (h : t ∈ functionTokens path) :
    t ∈ path ∨ t ∈ functionTokens [] := by
  simp only [functionTokens, fieldTokens, inside, List.mem_append] at h ⊢
  grind

/-- A word of a source as a token has no exclamation mark. -/
theorem calls_shown_word {w : String} (h : IsSourceWord w) : Calls (shown [Token.word w]) [] :=
  calls_shown_none (List.forall_mem_singleton.mpr (h.not_mem (by decide) (by decide)))

/-- The names of attributes are literals, which call nothing. -/
theorem calls_shown_names {entries : List Entry}
    (h : ∀ e ∈ entries, '!' ∉ e.attributeName.toList) :
    Calls (shown (constantTokens "ATTRIBUTE_NAMES"
      (op "&" ++ [Token.lifetime "static", .word "str"])
      (entries.map (fun e => [Token.literal (textLiteral e.attributeName)])))) [] := by
  have hliteral : ∀ e ∈ entries,
      Calls (shown [Token.literal (textLiteral e.attributeName)]) ((fun _ => []) e) := by
    intro e he
    exact calls_shown_none
      (List.forall_mem_singleton.mpr (mark_not_mem_textLiteral (h e he)))
  have hconstant := calls_shown_constant (show '!' ∉ "ATTRIBUTE_NAMES".toList by decide)
    (show ∀ t ∈ op "&" ++ [Token.lifetime "static", .word "str"], '!' ∉ t.text.toList by decide)
    hliteral
  rwa [List.flatMap_eq_nil_iff.mpr (fun _ _ => rfl)] at hconstant

/-- The array of attributes calls once for each entry, in their order. -/
theorem calls_shown_attributes {vertex : String} (hvertex : IsSourceWord vertex)
    {entries : List Entry} (h : ∀ e ∈ entries, IsSourceWord e.field) :
    Calls (shown (constantTokens "VERTEX_ATTRIBUTES" (pathOf ["wgpu", "VertexAttribute"])
      (entries.map (Entry.tokens [.word vertex])))) (entries.map (fun e => ⟨vertex, e.field⟩)) := by
  have hentry : ∀ e ∈ entries,
      Calls (shown (e.tokens [Token.word vertex])) ((fun e => [⟨vertex, e.field⟩]) e) :=
    fun e he => calls_shown_entry hvertex (h e he)
  have hconstant := calls_shown_constant (show '!' ∉ "VERTEX_ATTRIBUTES".toList by decide)
    (show ∀ t ∈ pathOf ["wgpu", "VertexAttribute"], '!' ∉ t.text.toList by decide) hentry
  rwa [← List.map_eq_flatMap] at hconstant

/-- The layout function refers to the array of attributes and calls nothing. -/
theorem calls_shown_function {vertex : String} (hvertex : IsSourceWord vertex) :
    Calls (shown (functionTokens [Token.word vertex])) [] := by
  refine calls_shown_none ?_
  intro t ht
  have hfixed : ∀ t ∈ functionTokens [], '!' ∉ t.text.toList := by decide
  rcases mem_functionTokens ht with hpath | hrest
  · rw [List.mem_singleton.mp hpath]
    exact hvertex.not_mem (by decide) (by decide)
  · exact hfixed t hrest

/-- **A BLOCK'S CALLS**, written as bare tokens. -/
theorem ImplBlock.Names.calls_tokens {b : ImplBlock} {vertex : String} (h : b.Names vertex) :
    Calls (shown b.tokens) (b.calls vertex) := by
  have hhead : Calls (shown ([Token.word "impl"] ++ b.path)) [] := by
    rw [h.path_eq]
    exact calls_shown_append (calls_shown_none (by decide)) (calls_shown_word h.vertex)
  have hnames : Calls (shown (if b.names then
        constantTokens "ATTRIBUTE_NAMES" (op "&" ++ [Token.lifetime "static", .word "str"])
          (b.entries.map (fun e => [Token.literal (textLiteral e.attributeName)]))
      else [])) [] := by
    split
    · exact calls_shown_names h.attributes
    · exact .none List.not_mem_nil
  have hattributes := calls_shown_attributes h.vertex h.fields
  have hfunction := calls_shown_function h.vertex
  rw [← h.path_eq] at hattributes hfunction
  have hblock := calls_shown_append hhead (calls_shown_inside .brace
    (calls_shown_append (calls_shown_append hnames hattributes) hfunction))
  rw [List.nil_append, List.append_nil] at hblock
  exact hblock

/-! ## Set documents -/

/-- The same of documents: a frame of unmarked pieces changes no call. -/
theorem ShowsCalls.between {front back ps : List Piece} {cs : List OffsetCall}
    (hfront : ∀ p ∈ front, p.Unmarked) (hback : ∀ p ∈ back, p.Unmarked)
    (h : ShowsCalls ps cs) : ShowsCalls (front ++ ps ++ back) cs := by
  have hall := ((ShowsCalls.none hfront).append h).append (ShowsCalls.none hback)
  rwa [List.nil_append, List.append_nil] at hall

theorem ShowsCalls.consistent (indent : Int) {ps : List Piece} {cs : List OffsetCall}
    (h : ShowsCalls ps cs) : ShowsCalls (Piece.consistent indent ps) cs :=
  h.between (List.forall_mem_singleton.mpr trivial) (List.forall_mem_singleton.mpr trivial)

theorem ShowsCalls.inconsistent (indent : Int) {ps : List Piece} {cs : List OffsetCall}
    (h : ShowsCalls ps cs) : ShowsCalls (Piece.inconsistent indent ps) cs :=
  h.between (List.forall_mem_singleton.mpr trivial) (List.forall_mem_singleton.mpr trivial)

/-- Elements of an array show their calls in order; the comma that ends the last line shows
    none, whether it is there or not. -/
theorem ShowsCalls.elements {α : Type} {pieces : α → List Piece} {calls : α → List OffsetCall}
    {xs : List α} (atEnd : Nat) (h : ∀ x ∈ xs, ShowsCalls (pieces x) (calls x)) :
    ShowsCalls (elementPieces atEnd (xs.map pieces)) (xs.flatMap calls) := by
  induction xs with
  | nil => exact .none nofun
  | cons x xs ih =>
      obtain ⟨hx, hxs⟩ := List.forall_mem_cons.mp h
      cases xs with
      | nil =>
          have hplace : Piece.Unmarked (.lastPlace atEnd) := show '!' ∉ ",".toList by decide
          exact hx.append (.none (List.forall_mem_singleton.mpr hplace))
      | cons y ys =>
          have hcomma : ShowsCalls [Piece.text ",", .space] [] := .none (by decide)
          have hfront := hx.append hcomma
          rw [List.append_nil] at hfront
          exact hfront.append (ih hxs)

/-- A constant array has the calls of its elements, empty or not. -/
theorem ShowsCalls.constant {α : Type} {pieces : α → List Piece} {calls : α → List OffsetCall}
    {xs : List α} {name element : String} (hname : '!' ∉ name.toList)
    (helement : '!' ∉ element.toList) (h : ∀ x ∈ xs, ShowsCalls (pieces x) (calls x)) :
    ShowsCalls (constantPieces name element (xs.map pieces)) (xs.flatMap calls) := by
  have harray : ShowsCalls (arrayPieces (xs.map pieces)) (xs.flatMap calls) := by
    rw [arrayPieces]
    split
    · next hempty =>
        rw [List.isEmpty_iff, List.map_eq_nil_iff] at hempty
        rw [hempty]
        exact .none (by decide)
    · have hgap : ShowsCalls [Piece.gap] [] := .none (by decide)
      exact ((hgap.append (ShowsCalls.elements 0 h)).consistent 4).between (by decide) (by decide)
  have htitle : ∀ p ∈ [Piece.text ("pub const " ++ name ++ ": [" ++ element ++ "; "
      ++ toString (xs.map pieces).length ++ "] = ")], p.Unmarked := by
    refine List.forall_mem_singleton.mpr ?_
    simp only [Piece.Unmarked, String.toList_append, List.mem_append, not_or]
    exact ⟨⟨⟨⟨⟨⟨by decide, hname⟩, by decide⟩, helement⟩, by decide⟩, mark_not_mem_number _⟩,
      by decide⟩
  have hend : ∀ p ∈ [Piece.text ";"], p.Unmarked := by decide
  have hline : ShowsCalls [Piece.newline 0] [] := .none (by decide)
  have hall := ((harray.between htitle hend).consistent 0).append hline
  rwa [List.append_nil] at hall

/-- A field with a number of bytes has the calls of its value. -/
theorem ShowsCalls.bytes {name : String} (hname : '!' ∉ name.toList) {value : List Piece}
    {cs : List OffsetCall} (h : ShowsCalls value cs) : ShowsCalls (bytesField name value) cs := by
  have htitle : ShowsCalls [Piece.text (name ++ ": ")] [] := by
    refine .none (List.forall_mem_singleton.mpr ?_)
    rw [Piece.Unmarked, String.toList_append, List.mem_append, not_or]
    exact ⟨hname, by decide⟩
  have hwidth : ShowsCalls [Piece.space, .text "as u64"] [] := .none (by decide)
  have hvalue := (h.inconsistent (-4)).append hwidth
  rw [List.append_nil] at hvalue
  exact htitle.append ((hvalue.inconsistent 4).inconsistent 0)

/-- A struct expression of three fields. -/
theorem ShowsCalls.struct {path : String} (hpath : '!' ∉ path.toList) {a b c : List Piece}
    {cs : List OffsetCall} (ha : ShowsCalls a []) (hb : ShowsCalls b cs) (hc : ShowsCalls c []) :
    ShowsCalls (structPieces path [a, b, c]) cs := by
  have hhead : ∀ p ∈ [Piece.text path, .text " \x7b", .space], p.Unmarked := by
    rw [List.forall_mem_cons]
    exact ⟨hpath, by decide⟩
  have hcomma : ShowsCalls [Piece.text ",", .space] [] := .none (by decide)
  have hlast : ShowsCalls [Piece.lastPlace 1] [] := .none (by decide)
  have hfields := (ha.append hcomma).append ((hb.append hcomma).append (hc.append hlast))
  rw [List.append_nil, List.append_nil, List.nil_append, List.append_nil] at hfields
  have hstrut : ∀ p ∈ [Piece.strut], p.Unmarked := by decide
  have hbrace : ShowsCalls [Piece.text "\x7d"] [] := .none (by decide)
  have hall := ((hfields.between hhead hstrut).consistent 4).append hbrace
  rwa [List.append_nil] at hall

/-! ### The call itself -/

/-- Nothing ends a line that is broken here. -/
def Piece.Whole : Piece → Prop
  | .place b => b.ending = ""
  | _ => True

instance : DecidablePred Piece.Whole
  | .place b => instDecidableEqString b.ending ""
  | .text _ | .strut | .opening _ _ | .closing => .isTrue trivial

/-- The texts of pieces without white space. -/
def textOf (ps : List Piece) : List Char :=
  ps.flatMap fun
    | .text t => dropBlanks t.toList
    | _ => []

theorem textOf_append (ps qs : List Piece) : textOf (ps ++ qs) = textOf ps ++ textOf qs :=
  List.flatMap_append ..

/-- Where nothing ends broken lines, only one text can be shown. -/
theorem Shows.eq_textOf {ps : List Piece} {s : List Char} (h : Shows ps s)
    (hps : ∀ p ∈ ps, p.Whole) : s = textOf ps := by
  induction h with
  | nil => rfl
  | text t _ ih => rw [ih (List.forall_mem_cons.mp hps).2]; rfl
  | whole b _ ih => exact ih (List.forall_mem_cons.mp hps).2
  | broken b _ ih =>
      obtain ⟨hb, hps⟩ := List.forall_mem_cons.mp hps
      rw [show b.ending = "" from hb]
      exact ih hps
  | strut _ ih => exact ih (List.forall_mem_cons.mp hps).2
  | opening _ _ _ ih => exact ih (List.forall_mem_cons.mp hps).2
  | closing _ ih => exact ih (List.forall_mem_cons.mp hps).2

/-- Each token of an input gives its text, with a space in front or without. -/
theorem inputPieces_cons (p : Preceding) (joined : Bool) (t : Token) (ts : List Token) :
    ∃ lead next joined', (lead = [Piece.space, .text t.text] ∨ lead = [Piece.text t.text]) ∧
      inputPieces p joined (t :: ts) = lead ++ inputPieces next joined' ts := by
  refine ⟨_, _, _, ?_, rfl⟩
  by_cases h : ((setApart p t).1 && !joined) = true
  · exact Or.inl (if_pos h)
  · exact Or.inr (if_neg h)

/-- Between the tokens of an input a line may break, but nothing ends it there. -/
theorem inputPieces_whole (p : Preceding) (joined : Bool) (ts : List Token) :
    ∀ q ∈ inputPieces p joined ts, q.Whole := by
  induction ts generalizing p joined with
  | nil => exact nofun
  | cons t ts ih =>
      obtain ⟨lead, next, joined', rfl | rfl, hcons⟩ := inputPieces_cons p joined t ts
      · rw [hcons, List.cons_append, List.singleton_append]
        exact List.forall_mem_cons.mpr ⟨rfl, List.forall_mem_cons.mpr ⟨trivial, ih _ _⟩⟩
      · rw [hcons, List.singleton_append]
        exact List.forall_mem_cons.mpr ⟨trivial, ih _ _⟩

/-- The inputs of a call are shown as their tokens are, whatever stands between them. -/
theorem textOf_inputPieces (p : Preceding) (joined : Bool) (ts : List Token) :
    textOf (inputPieces p joined ts) = shown ts := by
  induction ts generalizing p joined with
  | nil => rfl
  | cons t ts ih =>
      obtain ⟨lead, next, joined', rfl | rfl, hcons⟩ := inputPieces_cons p joined t ts
      · rw [hcons, textOf_append, ih]
        exact congrArg (· ++ shown ts) (List.append_nil _)
      · rw [hcons, textOf_append, ih]
        exact congrArg (· ++ shown ts) (List.append_nil _)

/-- The pieces of a call. -/
def offsetPieces (path : List Token) (field : String) : List Piece :=
  [Piece.text "std::mem::offset_of!("]
    ++ Piece.consistent 4
        ([Piece.gap]
          ++ Piece.inconsistent 0 (inputPieces .start true (path ++ op "," ++ [Token.word field]))
          ++ [Piece.place ⟨0, -4, ""⟩])
    ++ [Piece.text ")"]

/-- No comma can get into a call by breaking its lines. -/
theorem offsetPieces_whole (path : List Token) (field : String) :
    ∀ p ∈ offsetPieces path field, p.Whole := by
  simp only [offsetPieces, Piece.consistent, Piece.inconsistent, List.forall_mem_append,
    List.forall_mem_singleton]
  exact ⟨⟨trivial, ⟨trivial, ⟨rfl, ⟨trivial, inputPieces_whole _ _ _⟩, trivial⟩, rfl⟩, trivial⟩,
    trivial⟩

/-- So a call shows the same text however it is set. -/
theorem textOf_offsetPieces (path : List Token) {field : String} (hfield : IsSourceWord field) :
    textOf (offsetPieces path field)
      = "std::mem::offset_of!(".toList ++ (shown path ++ ',' :: (field.toList ++ [')'])) := by
  have hinputs : shown (path ++ op "," ++ [Token.word field])
      = shown path ++ ',' :: field.toList := by
    rw [shown_append, shown_append, ← dropBlanks_sourceWord hfield, List.append_assoc]
    exact congrArg (shown path ++ ',' :: ·) (List.append_nil _)
  have hopening : textOf [Piece.text "std::mem::offset_of!("] = "std::mem::offset_of!(".toList := by
    decide
  have hclosing : textOf [Piece.text ")"] = [')'] := by decide
  simp only [offsetPieces, Piece.consistent, Piece.inconsistent, textOf_append,
    textOf_inputPieces, hinputs, hopening, hclosing]
  show _ ++ ([] ++ ([] ++ ([] ++ _ ++ []) ++ []) ++ []) ++ _ = _
  simp only [List.nil_append, List.append_nil, List.append_assoc, List.cons_append]

/-- **THE CALL**: its pieces show one call, of the vertex and the field. -/
theorem showsCalls_offset {vertex field : String} (hvertex : IsSourceWord vertex)
    (hfield : IsSourceWord field) :
    ShowsCalls (offsetPieces [Token.word vertex] field) [⟨vertex, field⟩] := by
  intro s h
  have hpath : shown [Token.word vertex] = vertex.toList :=
    (List.append_nil _).trans (dropBlanks_sourceWord hvertex)
  have hopening : "std::mem::offset_of!(".toList = "std::mem::".toList ++ callOpening := by
    decide
  rw [h.eq_textOf (offsetPieces_whole _ _), textOf_offsetPieces _ hfield, hpath, hopening,
    List.append_assoc]
  exact calls_of_words hvertex hfield (by decide) List.not_mem_nil

/-- An entry shows the call of its offset and no other. -/
theorem showsCalls_entry {vertex : String} (hvertex : IsSourceWord vertex) {e : Entry}
    (hfield : IsSourceWord e.field) :
    ShowsCalls (e.pieces [Token.word vertex]) [⟨vertex, e.field⟩] := by
  have hformat : ShowsCalls [Piece.text ("format: wgpu::VertexFormat::" ++ e.format.name)] [] := by
    refine .none (List.forall_mem_singleton.mpr ?_)
    rw [Piece.Unmarked, String.toList_append, List.mem_append, not_or]
    exact ⟨by decide, mark_not_mem_formatName e.format⟩
  have hlocation : ShowsCalls [Piece.text ("shader_location: " ++ toString e.location)] [] := by
    refine .none (List.forall_mem_singleton.mpr ?_)
    rw [Piece.Unmarked, String.toList_append, List.mem_append, not_or]
    exact ⟨by decide, mark_not_mem_number e.location⟩
  have hoffset := (showsCalls_offset hvertex hfield).bytes (show '!' ∉ "offset".toList by decide)
  exact ShowsCalls.struct (by decide) hformat hoffset hlocation

/-! ### The whole block -/

/-- A path of one word is printed as it is. -/
theorem pathPieces_word {vertex : String} (h : IsSourceWord vertex) :
    pathPieces [Token.word vertex] = [Piece.text vertex] := by
  have hne : vertex ≠ "<" := by
    rintro rfl
    exact h.not_mem (by decide) (by decide) (List.mem_singleton_self '<')
  have hlexemes : trimmedLists (plainLists (lexemes [Token.word vertex])) = [vertex] := by
    show trimmedLists (plainLists [vertex]) = [vertex]
    simp [plainLists, trimmedLists]
  rw [pathPieces, hlexemes]
  unfold typePieces
  simp only [Option.any_none, Bool.false_eq_true, if_false]
  split
  · exact absurd rfl hne
  · next heq => exact nomatch heq
  · next heq => exact nomatch heq
  · rfl

/-- As among tokens, the pieces of the layout function are fixed but for the path. -/
theorem mem_functionPieces {path : List Token} {p : Piece} (h : p ∈ functionPieces path) :
    p ∈ pathPieces path ∨ p ∈ functionPieces [] := by
  simp only [functionPieces, Piece.consistent, structPieces, bytesField, elementPieces,
    Piece.inconsistent, List.mem_append] at h ⊢
  grind

/-- The layout function calls nothing, however it is set. -/
theorem ShowsCalls.function {vertex : String} (hvertex : IsSourceWord vertex) :
    ShowsCalls (functionPieces [Token.word vertex]) [] := by
  refine .none ?_
  intro p hp
  have hfixed : ∀ p ∈ functionPieces [], p.Unmarked := by decide
  rcases mem_functionPieces hp with hpath | hrest
  · rw [pathPieces_word hvertex, List.mem_singleton] at hpath
    rw [hpath]
    exact hvertex.not_mem (by decide) (by decide)
  · exact hfixed p hrest

/-- The names of attributes call nothing. -/
theorem ShowsCalls.names {entries : List Entry}
    (h : ∀ e ∈ entries, '!' ∉ e.attributeName.toList) :
    ShowsCalls (constantPieces "ATTRIBUTE_NAMES" "&'static str"
      (entries.map (fun e => [Piece.text (textLiteral e.attributeName)]))) [] := by
  have hliteral : ∀ e ∈ entries,
      ShowsCalls [Piece.text (textLiteral e.attributeName)] ((fun _ => []) e) := by
    intro e he
    exact .none (List.forall_mem_singleton.mpr (mark_not_mem_textLiteral (h e he)))
  have hconstant := ShowsCalls.constant (show '!' ∉ "ATTRIBUTE_NAMES".toList by decide)
    (show '!' ∉ "&'static str".toList by decide) hliteral
  rwa [List.flatMap_eq_nil_iff.mpr (fun _ _ => rfl)] at hconstant

/-- The array of attributes calls once for each entry, however it is set. -/
theorem ShowsCalls.attributes {vertex : String} (hvertex : IsSourceWord vertex)
    {entries : List Entry} (h : ∀ e ∈ entries, IsSourceWord e.field) :
    ShowsCalls (constantPieces "VERTEX_ATTRIBUTES" "wgpu::VertexAttribute"
      (entries.map (Entry.pieces [.word vertex]))) (entries.map (fun e => ⟨vertex, e.field⟩)) := by
  have hentry : ∀ e ∈ entries,
      ShowsCalls (e.pieces [Token.word vertex]) ((fun e => [⟨vertex, e.field⟩]) e) :=
    fun e he => showsCalls_entry hvertex (h e he)
  have hconstant := ShowsCalls.constant (show '!' ∉ "VERTEX_ATTRIBUTES".toList by decide)
    (show '!' ∉ "wgpu::VertexAttribute".toList by decide) hentry
  rwa [← List.map_eq_flatMap] at hconstant

/-- **A BLOCK'S CALLS**, set as a document. -/
theorem ImplBlock.Names.showsCalls_pieces {b : ImplBlock} {vertex : String} (h : b.Names vertex) :
    ShowsCalls b.pieces (b.calls vertex) := by
  have hhead : ShowsCalls (Piece.inconsistent (-4)
      ([Piece.text "impl "] ++ pathPieces b.path ++ [Piece.text " "])) [] := by
    rw [h.path_eq, pathPieces_word h.vertex]
    refine ((ShowsCalls.none ?_).between (by decide) (by decide)).inconsistent (-4)
    exact List.forall_mem_singleton.mpr (h.vertex.not_mem (by decide) (by decide))
  have hopening : ShowsCalls [Piece.text "\x7b", .newline 0] [] := .none (by decide)
  have hnames : ShowsCalls (if b.names then
        constantPieces "ATTRIBUTE_NAMES" "&'static str"
          (b.entries.map (fun e => [Piece.text (textLiteral e.attributeName)]))
      else []) [] := by
    split
    · exact .names h.attributes
    · exact .none nofun
  have hattributes := ShowsCalls.attributes h.vertex h.fields
  have hfunction := ShowsCalls.function h.vertex
  rw [← h.path_eq] at hattributes hfunction
  have hnewline : ShowsCalls [Piece.newline (-4)] [] := .none (by decide)
  have hclosing : ShowsCalls [Piece.text "\x7d", .newline 0] [] := .none (by decide)
  have hbody := ((((hhead.append hopening).append hnames).append hattributes).append
    hfunction).append hnewline
  have hblock := (hbody.consistent 4).append hclosing
  simp only [List.nil_append, List.append_nil] at hblock
  exact hblock

end VertexBinding.Emission
