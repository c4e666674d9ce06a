import VertexBinding.Emission.Layouts
import VertexBinding.Proofs.Emission.BlockText
import VertexBinding.Proofs.Emission.Blocks

/-! # Renditions — every way to write a block gives a block text

    A block is written as bare tokens or set as a document.  Without white space the first
    is one text; of the second, commas are open that end broken lines: behind slots, behind
    arrays, and in the path of the vertex behind generic arguments.  Either way the result
    is a block text with a head that depends on the path only (`exists_heads`).

    The two halves go through the definitions of tokens and pieces part by part, with one
    lemma for a list, for an array and for a slot each. -/

namespace VertexBinding.Emission

open Source Text

variable {α : Type} {writes : α → List Char → Prop}

/-- An entry whose names hold no white space. -/
structure Entry.Plain (e : Entry) : Prop where
  field : IsSourceWord e.field
  attributeName : ∀ c ∈ e.attributeName.toList, isBlank c = false

/-! ## Texts that hold no white space -/

theorem dropBlanks_formatName (f : VertexFormat) :
    dropBlanks f.name.toList = f.name.toList := by
  have hall : ∀ f ∈ VertexFormat.all, dropBlanks f.name.toList = f.name.toList := by
    decide +kernel
  exact hall f (VertexFormat.mem_all f)

theorem dropBlanks_number (n : Nat) :
    dropBlanks (toString n).toList = (toString n).toList := by
  refine dropBlanks_eq_self ?_
  intro c hc
  have hdigits : ∀ d < 10, isBlank (Nat.digitChar d) = false := by decide
  rw [Nat.toString_eq_ofList_toDigits, String.toList_ofList] at hc
  obtain ⟨d, hd, rfl⟩ := exists_digitChar_of_mem (by decide) hc
  exact hdigits d hd

/-- A literal of a text without white space has none either: no escape needs it. -/
theorem dropBlanks_textLiteral {s : String} (h : ∀ c ∈ s.toList, isBlank c = false) :
    dropBlanks (textLiteral s).toList = (textLiteral s).toList := by
  refine dropBlanks_eq_self ?_
  intro c hc
  have hliteral : literalChars.all (fun c => !isBlank c) = true := by decide
  rcases mem_textLiteral hc with hc | hc
  · exact h c hc
  · rw [← Bool.not_eq_true']
    exact List.all_eq_true.mp hliteral c hc

/-! ## Bare tokens -/

theorem shown_singleton (t : Token) : shown [t] = dropBlanks t.text.toList :=
  List.append_nil _

theorem shown_around (front ts back : List Token) :
    shown (front ++ (ts ++ back)) = shown front ++ (shown ts ++ shown back) := by
  rw [shown_append, shown_append]

/-- Tokens in a row are a list whose last element has no comma behind it. -/
theorem listed_shown {tokens : α → List Token} {xs : List α}
    (h : ∀ x ∈ xs, writes x (shown (tokens x))) :
    Listed writes xs (shown (separated (xs.map tokens))) := by
  induction xs with
  | nil => exact .nil
  | cons x xs ih =>
      obtain ⟨hx, hxs⟩ := List.forall_mem_cons.mp h
      cases xs with
      | nil =>
          have hlast := Listed.last hx (Or.inl rfl)
          rwa [List.append_nil] at hlast
      | cons y ys =>
          have hcomma : shown (op ",") = [','] := by decide
          have hcons := Listed.cons hx (ih hxs)
          show Listed writes _ (shown (tokens x ++ op "," ++ separated ((y :: ys).map tokens)))
          rw [shown_append, shown_append, hcomma, List.append_assoc]
          exact hcons

/-- What stands in front of the length of an array. -/
def constantTitle (name : String) (element : List Token) : List Token :=
  [Token.word "pub", .word "const", .word name] ++ op ":" ++ [Token.opening .bracket] ++ element
    ++ op ";"

/-- **AN ARRAY** of tokens is an array text behind a title that does not depend on its
    elements. -/
theorem exists_array_shown {tokens : α → List Token} {xs : List α} (name : String)
    (element : List Token) (h : ∀ x ∈ xs, writes x (shown (tokens x))) :
    ∃ s, ArrayText writes xs s ∧ shown (constantTokens name element (xs.map tokens))
      = shown (constantTitle name element) ++ (s ++ [';']) := by
  refine ⟨_, .mk (listed_shown h), ?_⟩
  have hparts : constantTokens name element (xs.map tokens)
      = constantTitle name element ++ (number xs.length ++ ([Token.closing .bracket] ++ op "="
        ++ [Token.opening .bracket] ++ (separated (xs.map tokens)
        ++ ([Token.closing .bracket] ++ op ";")))) := by
    simp only [constantTokens, constantTitle, inside, List.length_map, List.append_assoc]
  have hnumber : shown (number xs.length) = (toString xs.length).toList := by
    rw [number, shown_singleton]
    exact dropBlanks_number _
  have hopening : shown ([Token.closing .bracket] ++ op "=" ++ [Token.opening .bracket])
      = [']', '=', '['] := by
    decide
  have hclosing : shown ([Token.closing .bracket] ++ op ";") = [']', ';'] := by decide
  rw [hparts, shown_around, hnumber, shown_around, hopening, hclosing]
  simp only [List.append_assoc, List.cons_append, List.nil_append]

/-- The format is a path that ends with its name. -/
theorem shown_format (f : VertexFormat) :
    shown (fieldTokens "format" (pathOf ["wgpu", "VertexFormat", f.name]))
      = "format:wgpu::VertexFormat::".toList ++ (f.name.toList ++ [',']) := by
  have htitle : shown ([Token.word "format"] ++ op ":" ++ pathOf ["wgpu", "VertexFormat"]
      ++ op "::") = "format:wgpu::VertexFormat::".toList := by
    decide
  have hparts := shown_around ([Token.word "format"] ++ op ":" ++ pathOf ["wgpu", "VertexFormat"]
    ++ op "::") [Token.word f.name] (op ",")
  rw [htitle, shown_singleton, Token.text, dropBlanks_formatName] at hparts
  exact hparts

/-- The offset is a call with the path of the vertex and the word of the field. -/
theorem shown_offset (path : List Token) {field : String} (hfield : IsSourceWord field) :
    shown (fieldTokens "offset" (pathOf ["std", "mem", "offset_of"] ++ op "!"
        ++ inside .parenthesis (path ++ op "," ++ [Token.word field])
        ++ [Token.word "as", .word "u64"]))
      = "offset:".toList ++ ("std::mem::offset_of!(".toList
        ++ (shown path ++ ',' :: (field.toList ++ ')' :: ("asu64".toList ++ [','])))) := by
  have hparts : fieldTokens "offset" (pathOf ["std", "mem", "offset_of"] ++ op "!"
      ++ inside .parenthesis (path ++ op "," ++ [Token.word field])
      ++ [Token.word "as", .word "u64"])
      = ([Token.word "offset"] ++ op ":")
        ++ ((pathOf ["std", "mem", "offset_of"] ++ op "!" ++ [Token.opening .parenthesis])
        ++ (path ++ (op "," ++ ([Token.word field]
        ++ ([Token.closing .parenthesis, .word "as", .word "u64"] ++ op ","))))) := by
    simp only [fieldTokens, inside, List.append_assoc, List.cons_append, List.nil_append]
  have htitle : shown ([Token.word "offset"] ++ op ":") = "offset:".toList := by decide
  have hcall : shown (pathOf ["std", "mem", "offset_of"] ++ op "!" ++ [Token.opening .parenthesis])
      = "std::mem::offset_of!(".toList := by
    decide
  have hcomma : shown (op ",") = [','] := by decide
  have hend : shown ([Token.closing .parenthesis, .word "as", .word "u64"] ++ op ",")
      = ')' :: ("asu64".toList ++ [',']) := by
    decide
  rw [hparts, shown_around, htitle, hcall, shown_around, hcomma, shown_append [.word field], hend,
    shown_singleton, Token.text, dropBlanks_sourceWord hfield, List.singleton_append]

theorem shown_location (n : Nat) :
    shown (fieldTokens "shader_location" (number n))
      = "shader_location:".toList ++ ((toString n).toList ++ [',']) := by
  have htitle : shown ([Token.word "shader_location"] ++ op ":") = "shader_location:".toList := by
    decide
  have hparts := shown_around ([Token.word "shader_location"] ++ op ":") (number n) (op ",")
  rw [htitle, number, shown_singleton, Token.text, dropBlanks_number] at hparts
  exact hparts

/-- **A SLOT** in tokens: its three fields one behind the other, each with a comma. -/
theorem slotText_shown (path : List Token) {e : Entry} (he : IsSourceWord e.field) :
    SlotText (shown path) e.slot (shown (e.tokens path)) := by
  have hclose : ')' ∉ e.field.toList := he.not_mem (by decide) (by decide)
  have htitle : shown (pathOf ["wgpu", "VertexAttribute"] ++ [Token.opening .brace])
      = "wgpu::VertexAttribute\x7b".toList := by
    decide
  have hend : shown [Token.closing .brace] = ['\x7d'] := by decide
  have hparts : e.tokens path
      = (pathOf ["wgpu", "VertexAttribute"] ++ [Token.opening .brace])
        ++ (fieldTokens "format" (pathOf ["wgpu", "VertexFormat", e.format.name])
        ++ (fieldTokens "offset" (pathOf ["std", "mem", "offset_of"] ++ op "!"
            ++ inside .parenthesis (path ++ op "," ++ [Token.word e.field])
            ++ [Token.word "as", .word "u64"])
        ++ (fieldTokens "shader_location" (number e.location) ++ [Token.closing .brace]))) := by
    simp only [Entry.tokens, inside, List.append_assoc]
  have hslot : SlotText (shown path) e.slot _ := .mk hclose (Or.inr rfl)
  rw [hparts, shown_around, htitle, shown_around, shown_format, shown_offset path he,
    shown_location, hend]
  simp only [List.append_assoc, List.cons_append, List.nil_append] at hslot ⊢
  exact hslot

/-! ## Set documents -/

/-- A place that ends a broken line with a comma shows a comma or nothing. -/
theorem Shows.eq_comma {b : Break} (hb : b.ending = ",") {s : List Char}
    (h : Shows [Piece.place b] s) : IsOptionalComma s := by
  cases h with
  | whole _ h =>
      cases h
      exact Or.inl rfl
  | broken _ h =>
      cases h
      rw [hb]
      exact Or.inr (by decide)

/-- A document with one place at which a comma may stand. -/
theorem Shows.exists_comma {front back : List Piece} (blanks : Nat)
    (hfront : ∀ p ∈ front, p.Whole) (hback : ∀ p ∈ back, p.Whole) {s : List Char}
    (h : Shows (front ++ (.lastPlace blanks :: back)) s) :
    ∃ comma, IsOptionalComma comma ∧ s = textOf front ++ (comma ++ textOf back) := by
  obtain ⟨s₁, s', rfl, h₁, h⟩ := h.exists_append
  rw [← List.singleton_append] at h
  obtain ⟨comma, s₂, rfl, hcomma, h₂⟩ := h.exists_append
  exact ⟨comma, hcomma.eq_comma rfl, by rw [h₁.eq_textOf hfront, h₂.eq_textOf hback]⟩

/-- Pieces in a row are a list; the place behind the last one may show a comma. -/
theorem listed_of_shows {pieces : α → List Piece} {xs : List α} (atEnd : Nat)
    (hpieces : ∀ x ∈ xs, ∀ s, Shows (pieces x) s → writes x s) {s : List Char}
    (h : Shows (elementPieces atEnd (xs.map pieces)) s) : Listed writes xs s := by
  induction xs generalizing s with
  | nil =>
      cases h
      exact .nil
  | cons x xs ih =>
      obtain ⟨hx, hxs⟩ := List.forall_mem_cons.mp hpieces
      cases xs with
      | nil =>
          obtain ⟨s₁, comma, rfl, h₁, hcomma⟩ := h.exists_append
          exact .last (hx s₁ h₁) (hcomma.eq_comma rfl)
      | cons y ys =>
          obtain ⟨s', s₂, rfl, h', h₂⟩ := Shows.exists_append
            (show Shows ((pieces x ++ [Piece.text ",", .space])
              ++ elementPieces atEnd ((y :: ys).map pieces)) s from h)
          obtain ⟨s₁, comma, rfl, h₁, hcomma⟩ := h'.exists_append
          have hwhole : ∀ p ∈ [Piece.text ",", .space], p.Whole := by decide
          have htext : textOf [Piece.text ",", .space] = [','] := by decide
          rw [hcomma.eq_textOf hwhole, htext, List.append_assoc, List.singleton_append]
          exact .cons (hx s₁ h₁) (ih hxs h₂)

/-- An array is set in brackets, on one line or on several. -/
theorem exists_listed_of_shows {pieces : α → List Piece} {xs : List α}
    (hpieces : ∀ x ∈ xs, ∀ s, Shows (pieces x) s → writes x s) {t : List Char}
    (h : Shows (arrayPieces (xs.map pieces)) t) :
    ∃ s, Listed writes xs s ∧ t = '[' :: (s ++ [']']) := by
  rw [arrayPieces] at h
  split at h
  · next hempty =>
      rw [List.isEmpty_iff, List.map_eq_nil_iff] at hempty
      have hwhole : ∀ p ∈ [Piece.text "[]"], p.Whole := by decide
      rw [hempty, h.eq_textOf hwhole]
      exact ⟨[], .nil, by decide⟩
  · have hparts : [Piece.text "["]
        ++ Piece.consistent 4 ([Piece.gap] ++ elementPieces 0 (xs.map pieces)) ++ [Piece.text "]"]
        = [Piece.text "[", .opening true 4, .gap]
          ++ (elementPieces 0 (xs.map pieces) ++ [Piece.closing, .text "]"]) := by
      simp only [Piece.consistent, List.append_assoc, List.cons_append, List.nil_append]
    rw [hparts] at h
    obtain ⟨front, s', rfl, hfront, h⟩ := h.exists_append
    obtain ⟨s, back, rfl, hs, hback⟩ := h.exists_append
    have hwhole : (∀ p ∈ [Piece.text "[", .opening true 4, .gap], p.Whole) ∧
        ∀ p ∈ [Piece.closing, .text "]"], p.Whole := by
      decide
    have htexts : textOf [Piece.text "[", .opening true 4, .gap] = ['['] ∧
        textOf [Piece.closing, .text "]"] = [']'] := by
      decide
    rw [hfront.eq_textOf hwhole.1, hback.eq_textOf hwhole.2, htexts.1, htexts.2]
    exact ⟨s, listed_of_shows 0 hpieces hs, rfl⟩

/-- **AN ARRAY** of pieces is an array text, too: only the commas at the ends of lines are
    open. -/
theorem exists_array_of_shows {pieces : α → List Piece} {xs : List α} (name element : String)
    (hpieces : ∀ x ∈ xs, ∀ s, Shows (pieces x) s → writes x s) {t : List Char}
    (h : Shows (constantPieces name element (xs.map pieces)) t) :
    ∃ s, ArrayText writes xs s ∧
      t = dropBlanks ("pub const " ++ name ++ ": [" ++ element ++ "; ").toList ++ (s ++ [';']) := by
  have hparts : constantPieces name element (xs.map pieces)
      = [Piece.opening true 0, .text ("pub const " ++ name ++ ": [" ++ element ++ "; "
          ++ toString xs.length ++ "] = ")]
        ++ (arrayPieces (xs.map pieces) ++ [Piece.text ";", .closing, .newline 0]) := by
    simp only [constantPieces, Piece.consistent, List.length_map, List.append_assoc,
      List.cons_append, List.nil_append]
  rw [hparts] at h
  obtain ⟨title, s', rfl, htitle, h⟩ := h.exists_append
  obtain ⟨array, back, rfl, harray, hback⟩ := h.exists_append
  obtain ⟨s, hs, rfl⟩ := exists_listed_of_shows hpieces harray
  have hwhole : ∀ p ∈ [Piece.text ";", .closing, .newline 0], p.Whole := by
    decide
  have hend : textOf [Piece.text ";", .closing, .newline 0] = [';'] := by decide
  refine ⟨_, .mk hs, ?_⟩
  have hopening : ∀ t : String, textOf [Piece.opening true 0, .text t] = dropBlanks t.toList :=
    fun t => List.append_nil _
  have hbracket : dropBlanks "] = ".toList = [']', '='] := by decide
  rw [hback.eq_textOf hwhole, hend, htitle.eq_textOf (by simp [Piece.Whole]), hopening,
    String.toList_append, String.toList_append, dropBlanks_append, dropBlanks_append,
    dropBlanks_number, hbracket]
  simp only [List.append_assoc, List.cons_append, List.nil_append]

theorem textOf_singleton (t : String) : textOf [Piece.text t] = dropBlanks t.toList :=
  List.append_nil _

/-- Breaking the lines of such a field adds no comma. -/
theorem bytesField_whole (name : String) {value : List Piece} (h : ∀ p ∈ value, p.Whole) :
    ∀ p ∈ bytesField name value, p.Whole := by
  simp only [bytesField, Piece.inconsistent, List.forall_mem_append, List.forall_mem_singleton]
  exact ⟨trivial, ⟨trivial, ⟨trivial, ⟨⟨trivial, h⟩, trivial⟩, by decide⟩, trivial⟩, trivial⟩

/-- The name of the field, its value and the type it is given. -/
theorem textOf_bytesField (name : String) (value : List Piece) :
    textOf (bytesField name value)
      = dropBlanks (name ++ ": ").toList ++ (textOf value ++ "asu64".toList) := by
  have hopening : ∀ indent : Int, textOf [Piece.opening false indent] = [] := fun _ => rfl
  have hclosing : textOf [Piece.closing] = [] := rfl
  have hwidth : textOf [Piece.space, .text "as u64"] = "asu64".toList := by decide
  simp only [bytesField, Piece.inconsistent, textOf_append, textOf_singleton, hopening, hclosing,
    hwidth, List.nil_append, List.append_nil]

/-- **A SLOT** in pieces: the comma behind its last field is the only one that is open. -/
theorem slotText_of_shows (path : List Token) {e : Entry} (he : IsSourceWord e.field)
    {s : List Char} (h : Shows (e.pieces path) s) : SlotText (shown path) e.slot s := by
  have hclose : ')' ∉ e.field.toList := he.not_mem (by decide) (by decide)
  have hparts : e.pieces path
      = ([Piece.opening true 4, .text "wgpu::VertexAttribute", .text " \x7b", .space]
          ++ ([Piece.text ("format: wgpu::VertexFormat::" ++ e.format.name)]
          ++ ([Piece.text ",", .space]
          ++ (bytesField "offset" (offsetPieces path e.field) ++ ([Piece.text ",", .space]
          ++ [Piece.text ("shader_location: " ++ toString e.location)])))))
        ++ (.lastPlace 1 :: [Piece.strut, .closing, .text "\x7d"]) := by
    simp only [Entry.pieces, structPieces, elementPieces, offsetPieces, Piece.consistent,
      List.append_assoc, List.cons_append, List.nil_append]
  rw [hparts] at h
  have hcomma := h.exists_comma 1 ?_ (by decide)
  · obtain ⟨comma, hcomma, rfl⟩ := hcomma
    have htitle : textOf [.opening true 4, .text "wgpu::VertexAttribute", .text " \x7b", .space]
        = "wgpu::VertexAttribute\x7b".toList := by
      decide
    have hformat : dropBlanks "format: wgpu::VertexFormat::".toList
        = "format:wgpu::VertexFormat::".toList := by
      decide
    have hoffset : dropBlanks "offset".toList ++ dropBlanks ": ".toList = "offset:".toList := by
      decide
    have hlocation : dropBlanks "shader_location: ".toList = "shader_location:".toList := by
      decide
    have hbetween : textOf [Piece.text ",", .space] = [','] := by decide
    have hend : textOf [Piece.strut, .closing, .text "\x7d"] = ['\x7d'] := by decide
    have hslot : SlotText (shown path) e.slot _ := .mk hclose hcomma
    simp only [textOf_append, textOf_bytesField, textOf_offsetPieces path he, textOf_singleton,
      String.toList_append, dropBlanks_append, dropBlanks_formatName, dropBlanks_number, htitle,
      hformat, hoffset, hlocation, hbetween, hend]
    simp only [List.append_assoc, List.cons_append, List.nil_append]
    exact hslot
  · simp only [List.forall_mem_append]
    exact ⟨by decide, List.forall_mem_singleton.mpr trivial, by decide,
      bytesField_whole _ (offsetPieces_whole _ _), by decide,
      List.forall_mem_singleton.mpr trivial⟩

/-! ## Heads -/

/-- Where nothing ends broken lines only one text is shown, so what stands behind it is
    settled. -/
theorem settled_of_whole {ps : List Piece} (hps : ∀ p ∈ ps, p.Whole) : Settled (Shows ps) := by
  intro s s' t t' hs hs' heq
  rw [hs.eq_textOf hps, hs'.eq_textOf hps] at heq
  exact List.append_cancel_left heq

/-- What stands behind two documents is settled if it is behind each of them. -/
theorem Settled.append {ps qs : List Piece} (hps : Settled (Shows ps))
    (hqs : Settled (Shows qs)) : Settled (Shows (ps ++ qs)) := by
  intro s s' t t' hs hs' heq
  obtain ⟨s₁, s₂, rfl, h₁, h₂⟩ := hs.exists_append
  obtain ⟨s₁', s₂', rfl, h₁', h₂'⟩ := hs'.exists_append
  rw [List.append_assoc, List.append_assoc] at heq
  exact hqs h₂ h₂' (hps h₁ h₁' heq)

/-- The end of a generic list, in front of which a comma may stand. -/
theorem settled_angle : Settled (Shows [Piece.lastPlace 0, .closing, .text ">"]) := by
  intro s s' t t' hs hs' heq
  have hback : ∀ p ∈ [Piece.closing, .text ">"], p.Whole := by decide
  have htext : textOf [Piece.closing, .text ">"] = ['>'] := by decide
  obtain ⟨comma, hcomma, rfl⟩ := @Shows.exists_comma [] _ 0 nofun hback _ hs
  obtain ⟨comma', hcomma', rfl⟩ := @Shows.exists_comma [] _ 0 nofun hback _ hs'
  rw [htext, List.append_assoc, List.append_assoc, List.append_assoc, List.append_assoc] at heq
  exact hcomma.eq_of_append (by decide) hcomma' heq

/-- A lexeme of a path adds pieces of its own. -/
theorem typePieces_cons (angles : List Nat) (before : Option String) (w : String)
    (rest : List String) :
    ∃ front angles' before', Settled (Shows front) ∧
      typePieces angles before (w :: rest) = front ++ typePieces angles' before' rest := by
  rw [typePieces.eq_def]
  dsimp only
  generalize hlead : (if before.any (typeSpaced · w) then [Piece.text " "] else []) = lead
  have hwhole : ∀ p ∈ lead, p.Whole := by
    rw [← hlead]
    split <;> decide
  split
  · refine ⟨lead ++ [Piece.text "<", .opening true 4, .gap], _, _, ?_, rfl⟩
    exact (settled_of_whole hwhole).append (settled_of_whole (by decide))
  · exact ⟨_, _, _, settled_angle, rfl⟩
  · exact ⟨[Piece.text ",", .space], _, _, settled_of_whole (by decide), rfl⟩
  · refine ⟨lead ++ [Piece.text w], _, _, ?_, rfl⟩
    exact (settled_of_whole hwhole).append
      (settled_of_whole (List.forall_mem_singleton.mpr trivial))

/-- What stands behind the path of a vertex is settled, in spite of the commas that may end
    its generic lists; one lexeme at a time. -/
theorem settled_typePieces (angles : List Nat) (before : Option String) (ws : List String) :
    Settled (Shows (typePieces angles before ws)) := by
  induction ws generalizing angles before with
  | nil =>
      show Settled (Shows [])
      exact settled_of_whole (List.forall_mem_nil _)
  | cons w ws ih =>
      obtain ⟨front, angles', before', hfront, hcons⟩ := typePieces_cons angles before w ws
      rw [hcons]
      exact hfront.append (ih angles' before')

/-- What a document has in front of the constants of a block. -/
def headPieces (path : List Token) : List Piece :=
  [Piece.opening true 4, .opening false (-4), .text "impl "]
    ++ (pathPieces path ++ [Piece.text " ", .closing, .text "\x7b", .newline 0])

/-- So is what stands behind the head of a block. -/
theorem settled_headPieces (path : List Token) : Settled (Shows (headPieces path)) :=
  (settled_of_whole (by decide)).append
    ((settled_typePieces _ _ _).append (settled_of_whole (by decide)))

/-! ## Blocks -/

/-- What bare tokens have in front of the constants of a block. -/
def headTokens (path : List Token) : List Token :=
  [Token.word "impl"] ++ path ++ [Token.opening .brace]

/-- **TOKENS** of a block are a block text. -/
theorem blockText_shown (path : List Token) {entries : List Entry}
    (h : ∀ e ∈ entries, e.Plain) :
    BlockText (· = shown (headTokens path)) (shown path) entries
      (shown (ImplBlock.tokens ⟨path, true, entries⟩)) := by
  have hliteral : ∀ e ∈ entries, OneWay (fun name => (textLiteral name).toList) e.attributeName
      (shown [Token.literal (textLiteral e.attributeName)]) := by
    intro e he
    rw [shown_singleton]
    exact dropBlanks_textLiteral (h e he).attributeName
  obtain ⟨names, hnames, hnamesText⟩ := exists_array_shown "ATTRIBUTE_NAMES"
    (op "&" ++ [Token.lifetime "static", .word "str"]) hliteral
  obtain ⟨slots, hslots, hslotsText⟩ := exists_array_shown "VERTEX_ATTRIBUTES"
    (pathOf ["wgpu", "VertexAttribute"]) (fun e he => slotText_shown path (h e he).field)
  have hparts : ImplBlock.tokens ⟨path, true, entries⟩ = headTokens path
      ++ (constantTokens "ATTRIBUTE_NAMES" (op "&" ++ [Token.lifetime "static", .word "str"])
          (entries.map (fun e => [Token.literal (textLiteral e.attributeName)]))
        ++ (constantTokens "VERTEX_ATTRIBUTES" (pathOf ["wgpu", "VertexAttribute"])
          (entries.map (Entry.tokens path))
        ++ (functionTokens path ++ [Token.closing .brace]))) := by
    simp only [ImplBlock.tokens, headTokens, inside, if_true, List.append_assoc]
  have hnamesTitle : shown (constantTitle "ATTRIBUTE_NAMES"
      (op "&" ++ [Token.lifetime "static", .word "str"]))
      = "pubconstATTRIBUTE_NAMES:[&'staticstr;".toList := by
    decide
  have hslotsTitle : shown (constantTitle "VERTEX_ATTRIBUTES" (pathOf ["wgpu", "VertexAttribute"]))
      = "pubconstVERTEX_ATTRIBUTES:[wgpu::VertexAttribute;".toList := by
    decide
  rw [hparts, shown_around, shown_append, hnamesText, hslotsText, hnamesTitle, hslotsTitle]
  simp only [List.append_assoc, List.cons_append, List.nil_append]
  exact .mk rfl hnames.map hslots.map

/-- **PIECES** of a block are a block text, whatever the setting. -/
theorem blockText_of_shows (path : List Token) {entries : List Entry}
    (h : ∀ e ∈ entries, e.Plain) {s : List Char}
    (hs : Shows (ImplBlock.pieces ⟨path, true, entries⟩) s) :
    BlockText (Shows (headPieces path)) (shown path) entries s := by
  have hliteral : ∀ e ∈ entries, ∀ s, Shows [Piece.text (textLiteral e.attributeName)] s →
      OneWay (fun name => (textLiteral name).toList) e.attributeName s := by
    intro e he s hs
    rw [hs.eq_textOf (List.forall_mem_singleton.mpr trivial), textOf_singleton]
    exact dropBlanks_textLiteral (h e he).attributeName
  have hparts : ImplBlock.pieces ⟨path, true, entries⟩ = headPieces path
      ++ (constantPieces "ATTRIBUTE_NAMES" "&'static str"
          (entries.map (fun e => [Piece.text (textLiteral e.attributeName)]))
        ++ (constantPieces "VERTEX_ATTRIBUTES" "wgpu::VertexAttribute"
          (entries.map (Entry.pieces path)) ++ (functionPieces path
        ++ [Piece.newline (-4), .closing, .text "\x7d", .newline 0]))) := by
    simp only [ImplBlock.pieces, headPieces, Piece.consistent, Piece.inconsistent, if_true,
      List.append_assoc, List.cons_append, List.nil_append]
  rw [hparts] at hs
  obtain ⟨head, s', rfl, hhead, hs⟩ := hs.exists_append
  obtain ⟨first, s', rfl, hfirst, hs⟩ := hs.exists_append
  obtain ⟨second, rest, rfl, hsecond, -⟩ := hs.exists_append
  obtain ⟨names, hnames, rfl⟩ := exists_array_of_shows _ _ hliteral hfirst
  obtain ⟨slots, hslots, rfl⟩ := exists_array_of_shows _ _
    (fun e he _ => slotText_of_shows path (h e he).field) hsecond
  have hnamesTitle : dropBlanks
      ("pub const " ++ "ATTRIBUTE_NAMES" ++ ": [" ++ "&'static str" ++ "; ").toList
      = "pubconstATTRIBUTE_NAMES:[&'staticstr;".toList := by
    decide
  have hslotsTitle : dropBlanks
      ("pub const " ++ "VERTEX_ATTRIBUTES" ++ ": [" ++ "wgpu::VertexAttribute" ++ "; ").toList
      = "pubconstVERTEX_ATTRIBUTES:[wgpu::VertexAttribute;".toList := by
    decide
  rw [hnamesTitle, hslotsTitle]
  simp only [List.append_assoc, List.cons_append, List.nil_append]
  exact .mk hhead hnames.map hslots.map

/-- **ONE DESCRIPTION FOR ALL**: however a block is written, without white space it is a
    block text, with a head that the path of the vertex settles. -/
theorem exists_heads (path : List Token) :
    ∃ heads, Settled heads ∧ ∀ entries : List Entry, (∀ e ∈ entries, e.Plain) →
      BlockText heads (shown path) entries
        (dropBlanks (setBlocks [⟨path, true, entries⟩]).toList) := by
  by_cases hpath : isTypePath path = true
  · refine ⟨Shows (headPieces path), settled_headPieces path, ?_⟩
    intro entries h
    have hall : [ImplBlock.mk path true entries].all (fun b => isTypePath b.path) = true :=
      List.all_eq_true.mpr (List.forall_mem_singleton.mpr hpath)
    rw [setBlocks, if_pos hall, List.map_singleton, String.join_cons, String.join_nil,
      String.append_empty, ImplBlock.text, setDocument, String.toList_ofList]
    exact blockText_of_shows path h (shows_setFrom _ _)
  · refine ⟨(· = shown (headTokens path)), ?_, ?_⟩
    · rintro s s' t t' rfl rfl heq
      exact List.append_cancel_left heq
    · intro entries h
      have hall : ¬ [ImplBlock.mk path true entries].all (fun b => isTypePath b.path) = true :=
        fun hall => hpath (List.all_eq_true.mp hall _ (List.mem_singleton_self _))
      rw [setBlocks, if_neg hall, tokenText, List.flatMap_singleton, dropBlanks_render]
      exact blockText_shown path h

end VertexBinding.Emission
