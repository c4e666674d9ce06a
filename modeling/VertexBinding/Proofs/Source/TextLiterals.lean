import VertexBinding.Proofs.Text.PrefixFree
import VertexBinding.Source.Literal

/-! # Text literals — a text is read back from its literal

    In a literal a character stands for itself, behind a backslash as a short escape, or
    as its code point in base sixteen (`Escaped`).  A quote never stands for itself, so the
    first one ends the literal, and what is in front of it tells the text
    (`prefixFree_textLiteral`).

    The characters of a literal are those of its text and those that escapes are made of
    (`mem_textLiteral`). -/

namespace VertexBinding.Source

open Text

/-! ## Escapes -/

/-- Characters with a short escape, and what stands there behind the backslash.  The zero
    character has two. -/
def shortEscapes : List (Char × Char × List Char) :=
  [('"', '"', []), ('\\', '\\', []), ('\n', 'n', []), ('\r', 'r', []), ('\t', 't', []),
   ('\x00', '0', []), ('\x00', 'x', ['0', '0'])]

/-- The ways to write a character. -/
inductive Escaped : Char → List Char → Prop where
  | plain {c : Char} (hquote : c ≠ '"') (hslash : c ≠ '\\') : Escaped c [c]
  | short {c k : Char} {more : List Char} (h : (c, k, more) ∈ shortEscapes) :
      Escaped c ('\\' :: k :: more)
  | point {c : Char} :
      Escaped c ('\\' :: 'u' :: '\x7b' :: (Nat.toDigits 16 c.toNat ++ ['\x7d']))

/-- Each character is written in one of these ways, whatever follows it. -/
theorem escaped_escapeChar (next : Option Char) (c : Char) : Escaped c (escapeChar next c) := by
  unfold escapeChar
  split
  case h_6 =>
    split
    · exact .short (by decide)
    · exact .short (by decide)
  case h_7 hquote hslash _ _ _ _ =>
    split
    · exact .point
    · exact .plain hquote hslash
  all_goals exact .short (by decide)

/-- The first character behind the backslash tells the escape, and begins no code point. -/
theorem shortEscapes_distinct :
    (∀ p ∈ shortEscapes, ∀ q ∈ shortEscapes, p.2.1 = q.2.1 → p = q) ∧
      ∀ p ∈ shortEscapes, p.2.1 ≠ 'u' := by
  decide

theorem brace_not_mem_digits (n : Nat) : '\x7d' ∉ Nat.toDigits 16 n :=
  not_mem_toDigits (by decide) (by decide) (by decide) n

/-- What is written for a character ends where the next one begins. -/
theorem prefixFree_escaped : PrefixFree Escaped := by
  intro c d s s' t t' h h' heq
  cases h with
  | plain hquote hslash =>
      cases h' with
      | plain _ _ => exact List.cons.inj heq
      | short _ => exact absurd (List.cons.inj heq).1 hslash
      | point => exact absurd (List.cons.inj heq).1 hslash
  | short hshort =>
      cases h' with
      | plain _ hslash => exact absurd (List.cons.inj heq).1.symm hslash
      | short hshort' =>
          obtain ⟨hk, hbehind⟩ := List.cons.inj (List.cons.inj heq).2
          obtain ⟨rfl, hrest⟩ := Prod.mk.inj (shortEscapes_distinct.1 _ hshort _ hshort' hk)
          obtain ⟨-, rfl⟩ := Prod.mk.inj hrest
          exact ⟨rfl, List.append_cancel_left hbehind⟩
      | point =>
          exact absurd (List.cons.inj (List.cons.inj heq).2).1
            (shortEscapes_distinct.2 _ hshort)
  | point =>
      cases h' with
      | plain _ hslash => exact absurd (List.cons.inj heq).1.symm hslash
      | short hshort =>
          exact absurd (List.cons.inj (List.cons.inj heq).2).1.symm
            (shortEscapes_distinct.2 _ hshort)
      | point =>
          simp only [List.cons_append, List.append_assoc, List.nil_append, List.cons.injEq,
            true_and] at heq
          obtain ⟨hdigits, ht⟩ :=
            eq_of_upTo (brace_not_mem_digits _) (brace_not_mem_digits _) heq
          have hpoints := toDigits_injective (by decide) (by decide) hdigits
          exact ⟨Char.toNat_inj.mp hpoints, ht⟩

/-- What is written for a character never begins with a quote. -/
theorem Escaped.exists_cons {c : Char} {s : List Char} (h : Escaped c s) :
    ∃ k rest, s = k :: rest ∧ k ≠ '"' := by
  cases h with
  | plain hquote _ => exact ⟨c, [], rfl, hquote⟩
  | short _ => exact ⟨'\\', _, rfl, by decide⟩
  | point => exact ⟨'\\', _, rfl, by decide⟩

/-! ## Literals -/

theorem textLiteral_toList (s : String) :
    (textLiteral s).toList = '"' :: (escapeText s.toList ++ ['"']) := by
  rw [textLiteral, String.toList_ofList]
  rfl

/-- What is written for some characters does not begin with the quote behind the last. -/
theorem escapeText_cons_ne {c : Char} {cs t t' : List Char} :
    escapeText (c :: cs) ++ t ≠ '"' :: t' := by
  obtain ⟨k, rest, hk, hquote⟩ := (escaped_escapeChar cs.head? c).exists_cons
  rw [escapeText, hk]
  exact fun heq => hquote (List.cons.inj heq).1

/-- Escaped characters up to a quote tell which they are. -/
theorem eq_of_escapes {cs ds t t' : List Char}
    (heq : escapeText cs ++ '"' :: t = escapeText ds ++ '"' :: t') :
    cs = ds ∧ t = t' := by
  induction cs generalizing ds with
  | nil =>
      cases ds with
      | nil => exact ⟨rfl, (List.cons.inj heq).2⟩
      | cons d ds => exact absurd heq.symm escapeText_cons_ne
  | cons c cs ih =>
      cases ds with
      | nil => exact absurd heq escapeText_cons_ne
      | cons d ds =>
          rw [escapeText, escapeText, List.append_assoc, List.append_assoc] at heq
          obtain ⟨rfl, hrest⟩ :=
            prefixFree_escaped (escaped_escapeChar cs.head? c) (escaped_escapeChar ds.head? d) heq
          obtain ⟨rfl, ht⟩ := ih hrest
          exact ⟨rfl, ht⟩

/-- **A LITERAL TELLS ITS TEXT**, and where it ends. -/
theorem prefixFree_textLiteral : PrefixFree (OneWay (fun s => (textLiteral s).toList)) := by
  rintro a b _ _ t t' rfl rfl heq
  simp only [textLiteral_toList, List.cons_append, List.append_assoc, List.nil_append,
    List.cons.injEq, true_and] at heq
  obtain ⟨htexts, ht⟩ := eq_of_escapes heq
  exact ⟨String.toList_inj.mp htexts, ht⟩

/-! ## Characters of a literal -/

/-- What quotes and escapes are made of. -/
def literalChars : List Char :=
  ['"', '\\', 'n', 'r', 't', 'u', 'x', '\x7b', '\x7d', '0', '1', '2', '3', '4', '5', '6', '7',
   '8', '9', 'a', 'b', 'c', 'd', 'e', 'f']

/-- An escape is made of the few characters escapes are made of. -/
theorem Escaped.mem {c x : Char} {s : List Char} (h : Escaped c s) (hx : x ∈ s) :
    x = c ∨ x ∈ literalChars := by
  cases h with
  | plain _ _ => exact Or.inl (List.mem_singleton.mp hx)
  | short hshort =>
      have htable : shortEscapes.all (fun p => (p.2.1 :: p.2.2).all literalChars.contains)
          = true := by
        decide
      rcases List.mem_cons.mp hx with rfl | hx
      · exact Or.inr (by decide)
      · have hrow := List.all_eq_true.mp htable _ hshort
        exact Or.inr (List.contains_iff_mem.mp (List.all_eq_true.mp hrow x hx))
  | point =>
      have hdigits : (List.range 16).all (fun d => literalChars.contains (Nat.digitChar d))
          = true := by
        decide
      simp only [List.mem_cons, List.mem_append, List.not_mem_nil, or_false] at hx
      rcases hx with rfl | rfl | rfl | hx | rfl
      · exact Or.inr (by decide)
      · exact Or.inr (by decide)
      · exact Or.inr (by decide)
      · obtain ⟨d, hd, rfl⟩ := exists_digitChar_of_mem (by decide) hx
        have hd := List.all_eq_true.mp hdigits d (List.mem_range.mpr hd)
        exact Or.inr (List.contains_iff_mem.mp hd)
      · exact Or.inr (by decide)

theorem mem_escapeText {cs : List Char} {x : Char} (hx : x ∈ escapeText cs) :
    x ∈ cs ∨ x ∈ literalChars := by
  induction cs with
  | nil => exact nomatch hx
  | cons c cs ih =>
      rw [escapeText, List.mem_append] at hx
      rcases hx with hx | hx
      · rcases (escaped_escapeChar cs.head? c).mem hx with rfl | hx
        · exact Or.inl (List.mem_cons_self ..)
        · exact Or.inr hx
      · exact (ih hx).imp_left (List.mem_cons_of_mem c)

/-- So is a literal, but for the characters of its text that stand for themselves. -/
theorem mem_textLiteral {s : String} {x : Char} (hx : x ∈ (textLiteral s).toList) :
    x ∈ s.toList ∨ x ∈ literalChars := by
  rw [textLiteral_toList, List.mem_cons, List.mem_append, List.mem_singleton] at hx
  rcases hx with rfl | hx | rfl
  · exact Or.inr (by decide)
  · exact mem_escapeText hx
  · exact Or.inr (by decide)

end VertexBinding.Source
