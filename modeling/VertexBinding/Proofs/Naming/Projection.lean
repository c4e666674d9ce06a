import VertexBinding.Proofs.Naming.Conventions
import VertexBinding.Proofs.Naming.Stability

/-! # Projection — canonical words are canonical

    Neighbours of which only one is a digit are always parted, so a word is a run of digits
    or has none (`digits_or_letters`).  Lower case keeps digits and makes the letters of
    ASCII small, so a word in lower case is not cut; and no synonym is left to replace, since
    every canonical form is its own.  The canonical form of a word is neither cut nor
    changed again (`settled_canonical`).

    So the canonical words of a name, put together with underscores in any order, are a name
    with those canonical words, and a field may as well be named by it. -/

namespace VertexBinding.Naming

open Text

/-- A word that stays whole, and as it is, when it is made canonical again. -/
structure Settled (w : List Char) : Prop where
  whole : wordsOf w = [w]
  fixed : canonical w = w

/-! ## One word -/

/-- Where a name is not cut, digits stand beside digits only. -/
theorem digit_iff_of_not_cut {a b : CharClass} {next : Option CharClass}
    (ha : a ≠ .separator) (hb : b ≠ .separator) (h : isCut a b next = false) :
    b = .digit ↔ a = .digit := by
  rw [← Bool.not_eq_true, isCut_eq_true_iff] at h
  constructor
  · rintro rfl
    cases a with
    | upper => exact absurd (.digitAfterUpper next) h
    | lower => exact absurd (.digitAfterLower next) h
    | digit => rfl
    | separator => exact absurd rfl ha
  · rintro rfl
    cases b with
    | upper => exact absurd (.upperAfterDigit next) h
    | lower => exact absurd (.lowerAfterDigit next) h
    | digit => rfl
    | separator => exact absurd rfl hb

/-- A name that is one word holds no separator. -/
theorem not_separator_of_whole {w : List Char} (h : wordsOf w = [w]) :
    ∀ c ∈ w, CharClass.of c ≠ .separator := by
  have hmem : w ∈ wordsOf w := h.symm ▸ List.mem_singleton_self w
  exact not_separator_of_mem_wordsOf hmem

/-- What is whole joins its first two characters, and is whole behind the first. -/
theorem joins_of_whole {c d : Char} {rest : List Char}
    (h : wordsOf (c :: d :: rest) = [c :: d :: rest]) :
    joins c (d :: rest) = true ∧ wordsOf (d :: rest) = [d :: rest] := by
  obtain ⟨hc, hrest⟩ := List.forall_mem_cons.mp (not_separator_of_whole h)
  by_cases hjoins : joins c (d :: rest) = true
  · refine ⟨hjoins, ?_⟩
    rw [wordsOf_cons_joins hc hjoins] at h
    cases hwords : wordsOf (d :: rest) with
    | nil => exact absurd hwords (wordsOf_ne_nil_of_joins hjoins)
    | cons v vs =>
        rw [hwords] at h
        obtain ⟨hv, rfl⟩ := List.cons.inj h
        obtain ⟨-, rfl⟩ := List.cons.inj hv
        rfl
  · rw [wordsOf_cons_alone hc (Bool.not_eq_true _ ▸ hjoins)] at h
    obtain ⟨hfirst, -⟩ := List.cons.inj h
    exact nomatch hfirst

/-- All characters of a name that is one word are digits, or none is. -/
theorem digit_iff_of_whole {c : Char} {rest : List Char} (h : wordsOf (c :: rest) = [c :: rest]) :
    ∀ d ∈ rest, CharClass.of d = .digit ↔ CharClass.of c = .digit := by
  induction rest generalizing c with
  | nil => exact nofun
  | cons e rest ih =>
      obtain ⟨hjoins, hwhole⟩ := joins_of_whole h
      obtain ⟨hc, hkept⟩ := List.forall_mem_cons.mp (not_separator_of_whole h)
      have he := hkept e (List.mem_cons_self ..)
      rw [joins, Bool.and_eq_true, Bool.not_eq_true'] at hjoins
      have hiff := digit_iff_of_not_cut hc he hjoins.2
      intro d hd
      rcases List.mem_cons.mp hd with rfl | hd
      · exact hiff
      · exact (ih hwhole d hd).trans hiff

/-- **DIGITS OR LETTERS**: a word has digits only, or none. -/
theorem digits_or_letters {w : List Char} (h : wordsOf w = [w]) :
    (∀ c ∈ w, CharClass.of c = .digit) ∨ ∀ c ∈ w, CharClass.of c ≠ .digit := by
  cases w with
  | nil => exact Or.inl nofun
  | cons c rest =>
      have hiff := digit_iff_of_whole h
      by_cases hc : CharClass.of c = .digit
      · exact Or.inl (List.forall_mem_cons.mpr ⟨hc, fun d hd => (hiff d hd).mpr hc⟩)
      · exact Or.inr (List.forall_mem_cons.mpr ⟨hc, fun d hd hdigit => hc ((hiff d hd).mp hdigit)⟩)

/-! ## Canonical words -/

theorem isLower_toLower {c : Char} (hascii : c.toNat < 128) (hdigit : CharClass.of c ≠ .digit)
    (hkept : CharClass.of c ≠ .separator) : c.toLower.isLower = true :=
  forall_ascii (p := fun c => CharClass.of c ≠ .digit → CharClass.of c ≠ .separator →
    c.toLower.isLower = true) (by decide +kernel) hascii hdigit hkept

theorem isDigit_toLower {c : Char} (hascii : c.toNat < 128) (hc : CharClass.of c = .digit) :
    c.toLower.isDigit = true :=
  forall_ascii (p := fun c => CharClass.of c = .digit → c.toLower.isDigit = true)
    (by decide +kernel) hascii hc

/-- In lower case a word of ASCII is one of small letters or of digits. -/
theorem letters_or_digits_lower {w : List Char} (h : wordsOf w = [w])
    (hascii : ∀ c ∈ w, c.toNat < 128) : IsLetterWord (lower w) ∨ IsDigitWord (lower w) := by
  have hne : w.map Char.toLower ≠ [] := by
    intro hempty
    rw [List.map_eq_nil_iff.mp hempty] at h
    exact nomatch h
  rw [lower_of_ascii hascii]
  rcases digits_or_letters h with hdigits | hletters
  · refine Or.inr ⟨hne, List.forall_mem_map.mpr ?_⟩
    exact fun c hc => isDigit_toLower (hascii c hc) (hdigits c hc)
  · refine Or.inl ⟨hne, List.forall_mem_map.mpr ?_⟩
    exact fun c hc =>
      isLower_toLower (hascii c hc) (hletters c hc) (not_separator_of_whole h c hc)

/-- Small letters, or digits, are settled if no synonym stands for them. -/
theorem settled_of_synonymOf {w : List Char} (hw : IsLetterWord w ∨ IsDigitWord w)
    (h : synonymOf w = w) : Settled w :=
  ⟨wordsOf_spelled hw .small, by rw [canonical, lower_spelled hw .small, h]⟩

/-- What synonyms are replaced by is a word of letters. -/
theorem isLetterWord_target : ∀ entry ∈ synonyms, IsLetterWord entry.2.toList := by
  decide

/-- A word is kept, or replaced by what an entry of the table gives. -/
theorem synonymOf_eq_or (w : List Char) :
    synonymOf w = w ∨ ∃ entry ∈ synonyms, synonymOf w = entry.2.toList := by
  rw [synonymOf]
  cases hfind : synonyms.find? (fun entry => entry.1.toList == w) with
  | none => exact Or.inl rfl
  | some entry => exact Or.inr ⟨entry, List.mem_of_find?_eq_some hfind, rfl⟩

/-- **CANONICAL WORDS ARE SETTLED**. -/
theorem settled_canonical {w : List Char} (h : wordsOf w = [w])
    (hascii : ∀ c ∈ w, c.toNat < 128) : Settled (canonical w) := by
  rw [canonical]
  rcases synonymOf_eq_or (lower w) with hsame | ⟨entry, hentry, htarget⟩
  · rw [hsame]
    exact settled_of_synonymOf (letters_or_digits_lower h hascii) hsame
  · rw [htarget]
    exact settled_of_synonymOf (Or.inl (isLetterWord_target entry hentry))
      (synonymOf_target entry hentry)

/-- The words of a name of ASCII are settled. -/
theorem settled_of_mem_fieldWords {name : String} (hascii : ∀ c ∈ name.toList, c.toNat < 128)
    {w : List Char} (h : w ∈ fieldWords name) : Settled w := by
  obtain ⟨v, hv, rfl⟩ := List.mem_map.mp h
  refine settled_canonical (wordsOf_of_mem hv) ?_
  intro c hc
  have hmem : c ∈ (wordsOf name.toList).flatten := List.mem_flatten.mpr ⟨v, hv, hc⟩
  rw [flatten_wordsOf] at hmem
  exact hascii c (List.mem_filter.mp hmem).1

/-- Settled words with underscores between them are the canonical words of the name. -/
theorem fieldWords_join {ws : List String} (h : ∀ w ∈ ws, Settled w.toList) :
    fieldWords ("_".intercalate ws) = ws.map String.toList := by
  rw [fieldWords, canonicalWords, wordsOf_join (fun w hw => (h w hw).whole), List.map_map]
  exact List.map_congr_left (fun w hw => (h w hw).fixed)

/-- **CANONICAL NAMES**: the canonical words of a name of ASCII, joined by underscores in any
    order, are a name with the same canonical words.  A field of that name takes the same
    attribute from every pool and leaves the same pool, or fits nothing as before. -/
theorem canonical_names_keep_words {name : String} (hascii : ∀ c ∈ name.toList, c.toNat < 128)
    {ws : List String} (hws : SameWords (ws.map String.toList) (fieldWords name)) :
    SameWords (fieldWords ("_".intercalate ws)) (fieldWords name) ∧
      ∀ (pool : Pool) (type : String),
        (∃ c rest, pool.takeBest ⟨name, type⟩ = .ok (c, rest) ∧
          pool.takeBest ⟨"_".intercalate ws, type⟩ = .ok (c, rest)) ∨
        ∃ e e', pool.takeBest ⟨name, type⟩ = .error e ∧
          pool.takeBest ⟨"_".intercalate ws, type⟩ = .error e' := by
  have hsettled : ∀ w ∈ ws, Settled w.toList := fun w hw =>
    settled_of_mem_fieldWords hascii ((hws _).mp (List.mem_map_of_mem hw))
  have hsame : SameWords (fieldWords ("_".intercalate ws)) (fieldWords name) := by
    rw [fieldWords_join hsettled]
    exact hws
  refine ⟨hsame, ?_⟩
  intro pool type
  exact pool.takeBest_respelled (fun w => (hsame w).symm)

/-- Capitals, digits, a synonym and a word that is one only in lower case, in another order. -/
theorem canonical_names_keep_words_mixed :
    (∀ c ∈ "UVTex2D__pos".toList, c.toNat < 128) ∧
      SameWords (["2", "d", "texcoord", "position"].map String.toList)
        (fieldWords "UVTex2D__pos") ∧
      SameWords (fieldWords "2_d_texcoord_position") (fieldWords "UVTex2D__pos") := by
  have hall : "UVTex2D__pos".toList.all (fun c => c.toNat < 128) = true := by decide +kernel
  have hascii : ∀ c ∈ "UVTex2D__pos".toList, c.toNat < 128 :=
    fun c hc => of_decide_eq_true (List.all_eq_true.mp hall c hc)
  have hws : SameWords (["2", "d", "texcoord", "position"].map String.toList)
      (fieldWords "UVTex2D__pos") := by
    decide +kernel
  exact ⟨hascii, hws, (canonical_names_keep_words hascii hws).1⟩

end VertexBinding.Naming
