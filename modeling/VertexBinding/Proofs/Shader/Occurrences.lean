import VertexBinding.Proofs.Shader.Grammar

/-! # Occurrences — the scanner finds every declaration, and each once

    An occurrence is a place in the code where a declaration begins, with no word
    character in front of it.  The scanner does not look inside a declaration that it
    has found.  It misses nothing by that: `Declares.quiet` says that no declaration
    begins inside another, not even where the type or the name is the keyword, because
    a keyword is followed by a type and a name, and too little is left of either.

    `scan_induction` is the scanner's own induction: a text is empty, or its first
    character is passed, or a declaration is taken off its front. -/

namespace VertexBinding.Shader

open Text

/-- A place in the code where something is declared. -/
structure Occurrence where
  /-- The position of the keyword. -/
  start : Nat
  /-- The position behind the semicolon. -/
  stop : Nat
  declaration : Declaration
  deriving DecidableEq, Repr

/-- Is the character in front of what follows `s` a word character?  For an empty text
    it is the one in front of the text. -/
def inWordAfter : Bool → List Char → Bool
  | inWord, [] => inWord
  | _, c :: s => inWordAfter (isWordChar c) s

/-- The code declares something at an occurrence: no word character stands in front, the
    text from there begins with the declaration, and its semicolon ends the span. -/
def OccursIn (code : List Char) (o : Occurrence) : Prop :=
  ∃ before text rest, code = before ++ text ∧ o.start = before.length ∧
    (∀ c ∈ before.getLast?, isWordChar c = false) ∧ Declares text o.declaration rest ∧
    o.stop + rest.length = code.length

/-! ## Texts in which nothing begins -/

/-- No declaration begins inside `u` where `t` follows it. -/
def Quiet : Bool → List Char → List Char → Prop
  | _, [], _ => True
  | inWord, c :: u, t =>
      (inWord = false → ∀ d rest, ¬ Declares (c :: (u ++ t)) d rest) ∧
        Quiet (isWordChar c) u t

theorem inWordAfter_append (inWord : Bool) (u v : List Char) :
    inWordAfter inWord (u ++ v) = inWordAfter (inWordAfter inWord u) v := by
  induction u generalizing inWord with
  | nil => rfl
  | cons c u ih => exact ih (isWordChar c)

/-- Behind a text that is not empty only its last character counts. -/
theorem inWordAfter_eq_false_iff {s : List Char} :
    inWordAfter false s = false ↔ ∀ c ∈ s.getLast?, isWordChar c = false := by
  cases hs : s.getLast? with
  | none =>
      obtain rfl := List.getLast?_eq_none_iff.mp hs
      exact ⟨fun _ => nofun, fun _ => rfl⟩
  | some l =>
      obtain ⟨front, rfl⟩ := List.getLast?_eq_some_iff.mp hs
      rw [inWordAfter_append]
      show isWordChar l = false ↔ _
      constructor
      · intro h c hc
        obtain rfl := Option.some.inj hc
        exact h
      · exact fun h => h l rfl

/-- Behind word characters, inside a word, one is still inside a word. -/
theorem inWordAfter_word {u : List Char} (hu : ∀ c ∈ u, isWordChar c = true) :
    inWordAfter true u = true := by
  induction u with
  | nil => rfl
  | cons c u ih =>
      rw [inWordAfter, hu c (List.mem_cons_self ..)]
      exact ih (fun x hx => hu x (List.mem_cons_of_mem c hx))

/-- Behind white space one is outside of words. -/
theorem inWordAfter_gap {gap : List Char} (hne : gap ≠ []) (hgap : IsGap gap) (inWord : Bool) :
    inWordAfter inWord gap = false := by
  induction gap generalizing inWord with
  | nil => exact absurd rfl hne
  | cons c gap ih =>
      rw [inWordAfter, not_isWordChar_of_isBlank (hgap c (List.mem_cons_self ..))]
      cases gap with
      | nil => rfl
      | cons d gap =>
          exact ih (List.cons_ne_nil d gap) (fun x hx => hgap x (List.mem_cons_of_mem c hx)) false

/-- Two quiet texts are quiet one behind the other. -/
theorem quiet_append {inWord : Bool} {u v t : List Char} (hu : Quiet inWord u (v ++ t))
    (hv : Quiet (inWordAfter inWord u) v t) : Quiet inWord (u ++ v) t := by
  induction u generalizing inWord with
  | nil => exact hv
  | cons c u ih =>
      obtain ⟨hc, hu⟩ := hu
      rw [← List.append_assoc] at hc
      exact ⟨hc, ih hu hv⟩

/-- Nothing begins inside a word. -/
theorem quiet_inside_word {u : List Char} (hu : ∀ c ∈ u, isWordChar c = true) (t : List Char) :
    Quiet true u t := by
  induction u with
  | nil => exact trivial
  | cons c u ih =>
      refine ⟨nofun, ?_⟩
      rw [hu c (List.mem_cons_self ..)]
      exact ih (fun x hx => hu x (List.mem_cons_of_mem c hx))

/-- A declaration begins with a word character. -/
theorem Declares.head_isWordChar {c : Char} {s rest : List Char} {d : Declaration}
    (h : Declares (c :: s) d rest) : isWordChar c = true := by
  obtain ⟨t, heq, -⟩ := h
  obtain ⟨rfl, -⟩ := List.cons.inj heq
  exact isWordChar_keyword 'a' (by decide)

/-- Nothing begins where there are no word characters. -/
theorem quiet_of_not_word {u : List Char} (hu : ∀ c ∈ u, isWordChar c = false) (inWord : Bool)
    (t : List Char) : Quiet inWord u t := by
  induction u generalizing inWord with
  | nil => exact trivial
  | cons c u ih =>
      have hc := hu c (List.mem_cons_self ..)
      refine ⟨?_, ih (fun x hx => hu x (List.mem_cons_of_mem c hx)) _⟩
      intro _ d rest h
      rw [h.head_isWordChar] at hc
      exact nomatch hc

theorem quiet_gap {gap : List Char} (hgap : IsGap gap) (inWord : Bool) (t : List Char) :
    Quiet inWord gap t :=
  quiet_of_not_word (fun c hc => not_isWordChar_of_isBlank (hgap c hc)) inWord t

/-- Nothing begins inside a word at whose front nothing begins. -/
theorem quiet_word {w t : List Char} (hw : IsWord w t) (h : ∀ d rest, ¬ Declares (w ++ t) d rest) :
    Quiet false w t ∧ inWordAfter false w = true := by
  cases w with
  | nil => exact absurd rfl hw.ne_nil
  | cons c w =>
      have htail : ∀ x ∈ w, isWordChar x = true :=
        fun x hx => hw.run.all x (List.mem_cons_of_mem c hx)
      rw [Quiet, inWordAfter, hw.run.all c (List.mem_cons_self ..)]
      exact ⟨⟨fun _ => h, quiet_inside_word htail t⟩, inWordAfter_word htail⟩

/-! ## Nothing begins inside a declaration -/

/-- No declaration begins at the name of a declaration. -/
theorem not_declares_name {name gap rest : List Char} (hname : IsWord name (gap ++ ';' :: rest))
    (hgap : IsGap gap) (d : Declaration) (rest' : List Char) :
    ¬ Declares (name ++ (gap ++ ';' :: rest)) d rest' := by
  rintro ⟨t, heq, hbehind⟩
  -- the name is the keyword, so a type is wanted where the semicolon stands
  obtain ⟨-, htail⟩ := hname.run.unique hbehind.isWord_keyword.run heq
  cases hbehind with
  | parts _ hgap₁ htype _ _ _ _ => exact semicolon_ne_word hgap hgap₁ htype htail

/-- No declaration begins at the type of a declaration. -/
theorem not_declares_type {type gap name gap' rest : List Char}
    (htype : IsWord type (gap ++ (name ++ (gap' ++ ';' :: rest)))) (hgap : IsGap gap)
    (hname : IsWord name (gap' ++ ';' :: rest)) (hgap' : IsGap gap') (d : Declaration)
    (rest' : List Char) :
    ¬ Declares (type ++ (gap ++ (name ++ (gap' ++ ';' :: rest)))) d rest' := by
  rintro ⟨t, heq, hbehind⟩
  -- the type is the keyword and the name its type, so a name is wanted at the semicolon
  obtain ⟨-, htail⟩ := htype.run.unique hbehind.isWord_keyword.run heq
  cases hbehind with
  | parts _ hgap₁ htype₁ _ hgap₂ hname₁ _ =>
      obtain ⟨-, hword⟩ := (isRun_gap_word hgap hname).unique (isRun_gap_word hgap₁ htype₁) htail
      obtain ⟨-, hend⟩ := hname.run.unique htype₁.run hword
      exact semicolon_ne_word hgap' hgap₂ hname₁ hend

/-- **NOTHING INSIDE**: behind its first character a declaration is quiet, and it ends
    outside of words. -/
theorem Declares.quiet {s rest : List Char} {d : Declaration} (h : Declares s d rest) :
    ∃ c u, s = c :: (u ++ rest) ∧ isWordChar c = true ∧ Quiet true u rest ∧
      inWordAfter true u = false := by
  obtain ⟨t, rfl, hbehind⟩ := h
  cases hbehind with
  | @parts gap₁ type gap₂ name gap₃ _ hne₁ hgap₁ htype hne₂ hgap₂ hname hgap₃ =>
      have hkey : ∀ c ∈ keyword.tail, isWordChar c = true :=
        fun c hc => isWordChar_keyword c (List.mem_of_mem_tail hc)
      obtain ⟨hquietType, hafterType⟩ :=
        quiet_word htype (not_declares_type htype hgap₂ hname hgap₃)
      obtain ⟨hquietName, hafterName⟩ := quiet_word hname (not_declares_name hname hgap₃)
      have hsemicolon : ∀ inWord, Quiet inWord [';'] rest := fun inWord =>
        quiet_of_not_word (List.forall_mem_singleton.mpr not_isWordChar_semicolon) inWord rest
      refine ⟨'a', keyword.tail ++ (gap₁ ++ (type ++ (gap₂ ++ (name ++ (gap₃ ++ [';']))))),
        ?_, isWordChar_keyword 'a' (by decide), ?_, ?_⟩
      · simp only [List.append_assoc, List.singleton_append]
        rfl
      · -- keyword, gap, type, gap, name, gap and semicolon, one behind the other
        refine quiet_append (quiet_inside_word hkey _) (quiet_append (quiet_gap hgap₁ _ _) ?_)
        rw [inWordAfter_gap hne₁ hgap₁]
        refine quiet_append ?_ (quiet_append (quiet_gap hgap₂ _ _) ?_)
        · simpa only [List.append_assoc, List.singleton_append] using hquietType
        · rw [inWordAfter_gap hne₂ hgap₂]
          refine quiet_append ?_ (quiet_append (quiet_gap hgap₃ _ _) (hsemicolon _))
          simpa only [List.append_assoc, List.singleton_append] using hquietName
      · simp only [inWordAfter_append]
        exact not_isWordChar_semicolon

/-! ## The scan -/

/-- **INDUCTION ALONG THE SCAN**: a text is empty, or no declaration may begin with its
    first character, which is passed, or a declaration is taken off its front. -/
theorem scan_induction {motive : Bool → List Char → Prop} (nil : ∀ inWord, motive inWord [])
    (pass : ∀ inWord c s, (inWord = false → ∀ d rest, ¬ Declares (c :: s) d rest) →
      motive (isWordChar c) s → motive inWord (c :: s))
    (declared : ∀ s d rest, Declares s d rest → motive false rest → motive false s)
    (inWord : Bool) (s : List Char) : motive inWord s := by
  cases s with
  | nil => exact nil inWord
  | cons c s =>
      -- inside a word nothing may begin, whatever follows
      by_cases h : inWord = false ∧ ∃ d rest, Declares (c :: s) d rest
      · obtain ⟨rfl, d, rest, hdeclares⟩ := h
        have hlt := hdeclares.length_lt
        exact declared (c :: s) d rest hdeclares
          (scan_induction nil pass declared false rest)
      · refine pass inWord c s ?_ (scan_induction nil pass declared (isWordChar c) s)
        exact fun hout d rest hdeclares => h ⟨hout, d, rest, hdeclares⟩
termination_by s.length
decreasing_by
  · exact hlt
  · exact Nat.lt_succ_self s.length

/-- Where no declaration may begin, a character is passed. -/
theorem declarationsFrom_pass {inWord : Bool} {c : Char} {s : List Char}
    (h : inWord = false → ∀ d rest, ¬ Declares (c :: s) d rest) :
    declarationsFrom 0 inWord (c :: s) = declarationsFrom 0 (isWordChar c) s := by
  cases inWord with
  | true => rfl
  | false =>
      rw [declarationsFrom, occurrence?_eq_none_iff.mpr (h rfl)]

/-- Skipping goes to the end of what is skipped. -/
theorem declarationsFrom_skip (inWord : Bool) (u t : List Char) :
    declarationsFrom u.length inWord (u ++ t) = declarationsFrom 0 (inWordAfter inWord u) t := by
  induction u generalizing inWord with
  | nil => rfl
  | cons c u ih =>
      rw [List.length_cons, List.cons_append, declarationsFrom]
      exact ih (isWordChar c)

/-- A declaration is found, and the scan goes on behind it. -/
theorem declarationsFrom_declared {s rest : List Char} {d : Declaration}
    (h : Declares s d rest) :
    declarationsFrom 0 false s = d :: declarationsFrom 0 false rest := by
  obtain ⟨c, u, rfl, hc, -, hout⟩ := h.quiet
  have hocc : occurrence? (c :: (u ++ rest)) = some (d, u.length + 1) := by
    refine occurrence?_eq_some_iff.mpr ⟨rest, h, ?_⟩
    simp only [List.length_cons, List.length_append]
    omega
  rw [declarationsFrom, hocc]
  show d :: declarationsFrom (u.length + 1 - 1) (isWordChar c) (u ++ rest) = _
  rw [Nat.add_sub_cancel, declarationsFrom_skip, hc, hout]

/-- The names that a scan finds are words. -/
theorem isWordChar_of_mem_declarationsFrom {inWord : Bool} {s : List Char} {d : Declaration}
    (h : d ∈ declarationsFrom 0 inWord s) : ∀ c ∈ d.name.toList, isWordChar c = true := by
  induction inWord, s using scan_induction with
  | nil inWord => cases inWord <;> exact nomatch h
  | pass inWord c s hpass ih =>
      rw [declarationsFrom_pass hpass] at h
      exact ih h
  | declared s d' rest hdeclares ih =>
      rw [declarationsFrom_declared hdeclares] at h
      rcases List.mem_cons.mp h with rfl | h
      · obtain ⟨t, -, hbehind⟩ := hdeclares
        cases hbehind with
        | parts _ _ _ _ _ hname _ =>
            rw [String.toList_ofList]
            exact hname.run.all
      · exact ih h

/-! ## All occurrences -/

/-- The occurrences in a text, found by trying every position; `i` is the position of the
    text in the code. -/
def occurrencesFrom : (i : Nat) → (inWord : Bool) → List Char → List Occurrence
  | _, _, [] => []
  | i, true, c :: s => occurrencesFrom (i + 1) (isWordChar c) s
  | i, false, c :: s =>
      match occurrence? (c :: s) with
      | some (d, length) => ⟨i, i + length, d⟩ :: occurrencesFrom (i + 1) (isWordChar c) s
      | none => occurrencesFrom (i + 1) (isWordChar c) s

/-- Trying a position finds the declaration that begins there, if there is one. -/
theorem mem_occurrencesFrom_cons {i : Nat} {inWord : Bool} {c : Char} {s : List Char}
    {o : Occurrence} :
    o ∈ occurrencesFrom i inWord (c :: s) ↔
      (inWord = false ∧ o.start = i ∧ ∃ rest, Declares (c :: s) o.declaration rest ∧
        o.stop + rest.length = i + (c :: s).length) ∨
      o ∈ occurrencesFrom (i + 1) (isWordChar c) s := by
  cases inWord with
  | true =>
      rw [occurrencesFrom]
      exact ⟨Or.inr, fun h => h.resolve_left nofun⟩
  | false =>
      rw [occurrencesFrom]
      cases hocc : occurrence? (c :: s) with
      | none =>
          refine ⟨Or.inr, fun h => h.resolve_left ?_⟩
          rintro ⟨-, -, rest, hdeclares, -⟩
          exact occurrence?_eq_none_iff.mp hocc o.declaration rest hdeclares
      | some r =>
          obtain ⟨d, n⟩ := r
          obtain ⟨rest, hdeclares, hn⟩ := occurrence?_eq_some_iff.mp hocc
          show o ∈ ⟨i, i + n, d⟩ :: occurrencesFrom (i + 1) (isWordChar c) s ↔ _
          rw [List.mem_cons]
          refine or_congr_left ?_
          constructor
          · rintro rfl
            refine ⟨rfl, rfl, rest, hdeclares, ?_⟩
            show i + n + rest.length = i + (c :: s).length
            omega
          · rintro ⟨-, hstart, rest', hdeclares', hstop⟩
            obtain ⟨hd, rfl⟩ := hdeclares.unique hdeclares'
            obtain ⟨start, stop, d'⟩ := o
            obtain rfl : start = i := hstart
            obtain rfl : d = d' := hd
            obtain rfl : stop = start + n := by
              show stop = start + n
              have : stop + rest.length = start + (c :: s).length := hstop
              omega
            rfl

/-- Trying every position finds every occurrence, and nothing else. -/
theorem mem_occurrencesFrom {i : Nat} {inWord : Bool} {s : List Char} {o : Occurrence} :
    o ∈ occurrencesFrom i inWord s ↔
      ∃ before text rest, s = before ++ text ∧ o.start = i + before.length ∧
        inWordAfter inWord before = false ∧ Declares text o.declaration rest ∧
        o.stop + rest.length = i + s.length := by
  induction s generalizing i inWord with
  | nil =>
      refine ⟨nofun, ?_⟩
      rintro ⟨before, text, rest, hs, -, -, hdeclares, -⟩
      obtain ⟨-, rfl⟩ := List.append_eq_nil_iff.mp hs.symm
      exact absurd hdeclares.length_lt (Nat.not_lt_zero _)
  | cons c s ih =>
      rw [mem_occurrencesFrom_cons, ih]
      constructor
      · rintro (⟨hout, hstart, rest, hdeclares, hstop⟩ |
          ⟨before, text, rest, rfl, hstart, hout, hdeclares, hstop⟩)
        · exact ⟨[], c :: s, rest, rfl, hstart, hout, hdeclares, hstop⟩
        · refine ⟨c :: before, text, rest, rfl, ?_, hout, hdeclares, ?_⟩
          · rw [hstart, List.length_cons]
            omega
          · rw [hstop, List.length_cons]
            omega
      · rintro ⟨before, text, rest, hs, hstart, hout, hdeclares, hstop⟩
        -- the occurrence is here, or behind the first character
        cases before with
        | nil =>
            obtain rfl : c :: s = text := hs
            exact Or.inl ⟨hout, hstart, rest, hdeclares, hstop⟩
        | cons b before =>
            obtain ⟨rfl, rfl⟩ := List.cons.inj hs
            refine Or.inr ⟨before, text, rest, rfl, ?_, hout, hdeclares, ?_⟩
            · rw [hstart, List.length_cons]
              omega
            · rw [hstop, List.length_cons]
              omega

theorem mem_occurrences_iff {code : List Char} {o : Occurrence} :
    o ∈ occurrencesFrom 0 false code ↔ OccursIn code o := by
  rw [mem_occurrencesFrom, OccursIn]
  simp only [inWordAfter_eq_false_iff, Nat.zero_add]

/-- Where no declaration may begin, trying a position finds nothing. -/
theorem occurrencesFrom_pass {i : Nat} {inWord : Bool} {c : Char} {s : List Char}
    (h : inWord = false → ∀ d rest, ¬ Declares (c :: s) d rest) :
    occurrencesFrom i inWord (c :: s) = occurrencesFrom (i + 1) (isWordChar c) s := by
  cases inWord with
  | true => rfl
  | false =>
      rw [occurrencesFrom, occurrence?_eq_none_iff.mpr (h rfl)]

/-- Nothing is found in a quiet text. -/
theorem occurrencesFrom_quiet {inWord : Bool} {u t : List Char} (h : Quiet inWord u t)
    (i : Nat) :
    occurrencesFrom i inWord (u ++ t)
      = occurrencesFrom (i + u.length) (inWordAfter inWord u) t := by
  induction u generalizing i inWord with
  | nil => rfl
  | cons c u ih =>
      rw [List.cons_append, occurrencesFrom_pass h.1, ih h.2, List.length_cons]
      congr 1
      omega

/-- What is found next behind a declaration is behind its semicolon. -/
theorem occurrencesFrom_declared {s rest : List Char} {d : Declaration}
    (h : Declares s d rest) (i : Nat) :
    ∃ n, n + rest.length = s.length ∧
      occurrencesFrom i false s = ⟨i, i + n, d⟩ :: occurrencesFrom (i + n) false rest := by
  obtain ⟨c, u, rfl, hc, hquiet, hout⟩ := h.quiet
  have hn : u.length + 1 + rest.length = (c :: (u ++ rest)).length := by
    simp only [List.length_cons, List.length_append]
    omega
  refine ⟨u.length + 1, hn, ?_⟩
  have hocc := occurrence?_eq_some_iff.mpr ⟨rest, h, hn⟩
  -- the positions inside the declaration are tried as well, and all of them are quiet
  rw [occurrencesFrom, hocc]
  show _ :: occurrencesFrom (i + 1) (isWordChar c) (u ++ rest) = _
  rw [hc, occurrencesFrom_quiet hquiet, hout, Nat.add_right_comm, Nat.add_assoc]

/-- **SKIPPING LOSES NOTHING**: the scanner, which skips what it has found, finds the same
    declarations as trying every position. -/
theorem declarationsFrom_eq_map (i : Nat) (inWord : Bool) (s : List Char) :
    declarationsFrom 0 inWord s = (occurrencesFrom i inWord s).map Occurrence.declaration := by
  induction inWord, s using scan_induction generalizing i with
  | nil inWord => cases inWord <;> rfl
  | pass inWord c s hpass ih =>
      rw [declarationsFrom_pass hpass, occurrencesFrom_pass hpass]
      exact ih (i + 1)
  | declared s d rest hdeclares ih =>
      obtain ⟨n, -, hfound⟩ := occurrencesFrom_declared hdeclares i
      rw [declarationsFrom_declared hdeclares, hfound, List.map_cons, ih (i + n)]

theorem le_start_of_mem {i : Nat} {inWord : Bool} {s : List Char} {o : Occurrence}
    (h : o ∈ occurrencesFrom i inWord s) : i ≤ o.start := by
  obtain ⟨before, _, _, -, hstart, -⟩ := mem_occurrencesFrom.mp h
  omega

/-- Each occurrence ends before the next begins. -/
theorem occurrencesFrom_pairwise (i : Nat) (inWord : Bool) (s : List Char) :
    (occurrencesFrom i inWord s).Pairwise (fun o o' => o.stop ≤ o'.start) := by
  induction inWord, s using scan_induction generalizing i with
  | nil inWord => cases inWord <;> exact List.Pairwise.nil
  | pass inWord c s hpass ih =>
      rw [occurrencesFrom_pass hpass]
      exact ih (i + 1)
  | declared s d rest hdeclares ih =>
      obtain ⟨n, -, hfound⟩ := occurrencesFrom_declared hdeclares i
      rw [hfound, List.pairwise_cons]
      exact ⟨fun o ho => le_start_of_mem ho, ih (i + n)⟩

theorem OccursIn.start_lt_stop {code : List Char} {o : Occurrence} (h : OccursIn code o) :
    o.start < o.stop := by
  obtain ⟨before, text, rest, rfl, hstart, -, hdeclares, hstop⟩ := h
  have hlt := hdeclares.length_lt
  rw [List.length_append] at hstop
  omega

/-- Different occurrences are apart. -/
theorem stop_le_start_of_mem {os : List Occurrence}
    (hos : os.Pairwise (fun o o' => o.stop ≤ o'.start)) {o o' : Occurrence} (ho : o ∈ os)
    (ho' : o' ∈ os) (hne : o ≠ o') :
    o.stop ≤ o'.start ∨ o'.stop ≤ o.start := by
  induction os with
  | nil => exact nomatch ho
  | cons p os ih =>
      obtain ⟨hfirst, hos⟩ := List.pairwise_cons.mp hos
      rcases List.mem_cons.mp ho with rfl | hin
      · rcases List.mem_cons.mp ho' with rfl | hin'
        · exact absurd rfl hne
        · exact Or.inl (hfirst o' hin')
      · rcases List.mem_cons.mp ho' with rfl | hin'
        · exact Or.inr (hfirst o hin)
        · exact ih hos hin hin'

/-- **EXTRACTION IS EXACT**: different occurrences are apart, and the attributes of a
    shader are the declarations of all occurrences in its code, in their order. -/
theorem attributes_exact (shader : String) :
    (∀ o o', OccursIn (stripComments shader).toList o →
      OccursIn (stripComments shader).toList o' → o ≠ o' →
      o.stop ≤ o'.start ∨ o'.stop ≤ o.start) ∧
    ∃ os : List Occurrence, (∀ o, o ∈ os ↔ OccursIn (stripComments shader).toList o) ∧
      os.Pairwise (fun o o' => o.start < o'.start) ∧
      attributes shader = os.map Occurrence.declaration := by
  have hcode : (stripComments shader).toList = codeOf shader.toList := by
    rw [stripComments, String.toList_ofList]
  rw [hcode]
  have hapart := occurrencesFrom_pairwise 0 false (codeOf shader.toList)
  refine ⟨?_, occurrencesFrom 0 false (codeOf shader.toList), fun o => mem_occurrences_iff, ?_,
    declarationsFrom_eq_map 0 false (codeOf shader.toList)⟩
  · intro o o' ho ho' hne
    exact stop_le_start_of_mem hapart (mem_occurrences_iff.mpr ho) (mem_occurrences_iff.mpr ho') hne
  · refine hapart.imp_of_mem ?_
    intro o o' ho _ hle
    exact Nat.lt_of_lt_of_le (mem_occurrences_iff.mp ho).start_lt_stop hle

/-- A declaration whose type and name are the keyword is one occurrence, and what follows
    a declaration that is not finished is found. -/
theorem attributes_exact_keyword_names :
    attributes "attribute attribute attribute;attribute x attribute float y;"
        = [⟨"attribute", "attribute"⟩, ⟨"y", "float"⟩] ∧
    ∃ o o', OccursIn (stripComments
          "attribute attribute attribute;attribute x attribute float y;").toList o ∧
      OccursIn (stripComments
          "attribute attribute attribute;attribute x attribute float y;").toList o' ∧
      o ≠ o' ∧ (o.stop ≤ o'.start ∨ o'.stop ≤ o.start) := by
  have hfirst : OccursIn (stripComments
      "attribute attribute attribute;attribute x attribute float y;").toList
      ⟨0, 30, ⟨"attribute", "attribute"⟩⟩ := mem_occurrences_iff.mp (by decide +kernel)
  have hsecond : OccursIn (stripComments
      "attribute attribute attribute;attribute x attribute float y;").toList
      ⟨42, 60, ⟨"y", "float"⟩⟩ := mem_occurrences_iff.mp (by decide +kernel)
  have hne : (⟨0, 30, ⟨"attribute", "attribute"⟩⟩ : Occurrence) ≠ ⟨42, 60, ⟨"y", "float"⟩⟩ := by
    decide
  exact ⟨by decide +kernel, _, _, hfirst, hsecond, hne,
    (attributes_exact _).1 _ _ hfirst hsecond hne⟩

end VertexBinding.Shader
