import VertexBinding.Proofs.Layout.Exactness
import VertexBinding.Proofs.Layout.Files
import VertexBinding.Proofs.Source.Contributions

/-! # Recorded alignment — the last one that a struct asks for

    A struct may ask for several alignments, in one attribute or in many, and is then aligned
    to the largest of them.  What a vertex records, and what its stride is rounded up to, is
    the last: so the record is an alignment that the struct has exactly if nothing larger
    stands in front of the last one (`forall_le_getLast_iff`). -/

namespace VertexBinding

namespace Source.ReprArgument

/-! ## Alignments have 64 bits -/

theorem meaning_ne_align (name : Option String) (n : Nat) : meaning name ≠ .align n := by
  unfold meaning
  split <;> exact nofun

/-- An alignment that is read from an argument is below the limit. -/
theorem Argument.align_lt {ts behind : List Token} {n : Nat} (h : Argument ts (.align n) behind) :
    n < alignLimit := by
  generalize ha : ReprArgument.align n = a at h
  cases h with
  | align _ hlimit _ =>
      obtain rfl := align.inj ha
      exact hlimit
  | bare _ _ _ _ => exact absurd ha.symm (meaning_ne_align _ n)
  | grouped _ _ _ => exact absurd ha.symm (meaning_ne_align _ n)

theorem Arguments.align_lt {ts : List Token} {as : List ReprArgument} (h : Arguments ts as) {n : Nat}
    (hn : .align n ∈ as) : n < alignLimit := by
  induction h with
  | stop _ => exact nomatch hn
  | last h _ =>
      obtain rfl := List.mem_singleton.mp hn
      exact h.align_lt
  | cons h _ ih =>
      rcases List.mem_cons.mp hn with rfl | hothers
      · exact h.align_lt
      · exact ih hothers

/-- So is one that an attribute contributes. -/
theorem Contributes.align_lt {body : List Token} {as : List ReprArgument} (h : Contributes body as)
    {n : Nat} (hn : .align n ∈ as) : n < alignLimit := by
  cases h with
  | repr _ h => exact h.align_lt hn
  | other _ => exact nomatch hn

/-- An alignment that attributes contribute is one of 64 bits. -/
theorem contributed_align_lt {attributes : List (List Token)}
    {contributions : List (List ReprArgument)}
    (h : List.Forall₂ Contributes attributes contributions) {n : Nat}
    (hn : n ∈ alignments contributions.flatten) : n < alignLimit := by
  obtain ⟨as, has, hmem⟩ := List.mem_flatten.mp (mem_alignments.mp hn)
  rw [Representation.contributes_iff.mp h] at has
  obtain ⟨body, -, rfl⟩ := List.mem_map.mp has
  exact (ofAttribute_eq_iff.mp rfl).align_lt hmem

end Source.ReprArgument

namespace Vertex

open Source Source.ReprArgument

/-- The last number is no less than the others exactly if it is no less than those in front
    of it. -/
theorem forall_le_getLast_iff (ns : List Nat) :
    (∀ n ∈ ns, n ≤ ns.getLast?.getD 1) ↔
      ∀ earlier last, ns = earlier ++ [last] → ∀ n ∈ earlier, n ≤ last := by
  constructor
  · rintro h earlier last rfl n hn
    have hle := h n (List.mem_append_left _ hn)
    rwa [List.getLast?_concat] at hle
  · intro h n hn
    rcases List.eq_nil_or_concat' ns with rfl | ⟨earlier, last, hns⟩
    · exact nomatch hn
    · have hearlier := h earlier last hns
      rw [hns, List.getLast?_concat]
      rw [hns] at hn
      rcases List.mem_append.mp hn with hn | hn
      · exact hearlier n hn
      · exact Nat.le_of_eq (List.mem_singleton.mp hn)

/-- **THE LAST ALIGNMENT IS RECORDED**: a vertex has the last of the alignments that the
    attributes of its struct contribute, or is aligned to single bytes if there are none.
    That is as strict as every one of them exactly if none in front of the last is larger.
    The stride of each plan is rounded up to it. -/
theorem ofSource_records_last_align {text : String} {v : Vertex}
    (h : (ofSource text).1 = .ok v) :
    ∃ attributes contributions,
      StructItem.ofSource? text = some ⟨attributes, v.name, .named v.fields⟩ ∧
      List.Forall₂ Contributes attributes contributions ∧
      v.align = (alignments contributions.flatten).getLast?.getD 1 ∧
      v.align < 2 ^ 64 ∧
      ((∀ n ∈ alignments contributions.flatten, n ≤ v.align) ↔
        ∀ earlier last, alignments contributions.flatten = earlier ++ [last] →
          ∀ n ∈ earlier, n ≤ last) ∧
      ∀ shader types plan, Plan.ofVertex shader v types = .ok plan →
        ∃ ts, List.Forall₂ (fun field t => types.get? field.type = some t) v.fields ts ∧
          plan.stride = Plan.strideOf v.align ts := by
  obtain ⟨item, hitem, hok⟩ := ofSource_eq_ok_iff.mp h
  obtain ⟨-, hshape, halign⟩ := ofItem_eq_ok_iff.mp hok
  have hcontributes := Representation.contributes_ofAttribute item.attributes
  rw [Representation.ofAttributes_of_contributes hcontributes] at halign
  refine ⟨item.attributes, _, hitem.trans (congrArg some hshape), hcontributes, halign, ?_, ?_, ?_⟩
  · rw [halign]
    cases hlast : (alignments (item.attributes.map ofAttribute).flatten).getLast? with
    | none => exact Nat.one_lt_two_pow (by decide)
    | some n => exact contributed_align_lt hcontributes (List.mem_of_getLast? hlast)
  · rw [halign]
    exact forall_le_getLast_iff _
  · intro shader types plan hplan
    obtain ⟨ts, cs, rest, hserved, -, rfl⟩ := Plan.served_of_plan hplan
    exact ⟨ts, hserved.typed, rfl⟩

/-- Alignments in two attributes that rise. -/
theorem ofSource_records_last_align_rising :
    ∃ contributions, List.Forall₂ Contributes
        [reprAttribute [.word "C", .sign ',' false, .word "align", .opening .parenthesis,
            .literal "8", .closing .parenthesis],
          reprAttribute [.word "align", .opening .parenthesis, .literal "16",
            .closing .parenthesis]] contributions ∧
      (alignments contributions.flatten).getLast?.getD 1 = 16 ∧
      (∀ n ∈ alignments contributions.flatten, n ≤ 16) ∧
      ∃ ts, Plan.strideOf 16 ts = 16 := by
  have hok : (ofSource "#[repr(C, align(8))] #[repr(align(16))] struct Vertex \x7b position: [f32; 3] \x7d").1
      = .ok ⟨"Vertex", [⟨"position", "[f32 ; 3]"⟩], 16⟩ := by
    decide +kernel
  have hitem : StructItem.ofSource? "#[repr(C, align(8))] #[repr(align(16))] struct Vertex \x7b position: [f32; 3] \x7d"
      = some ⟨[reprAttribute [.word "C", .sign ',' false, .word "align", .opening .parenthesis,
            .literal "8", .closing .parenthesis],
          reprAttribute [.word "align", .opening .parenthesis, .literal "16",
            .closing .parenthesis]],
        "Vertex", .named [⟨"position", "[f32 ; 3]"⟩]⟩ := by
    decide +kernel
  obtain ⟨attributes, contributions, hread, hcontributes, halign, -, hiff, hstride⟩ :=
    ofSource_records_last_align hok
  obtain ⟨rfl, -⟩ := StructItem.mk.inj (Option.some.inj (hitem.symm.trans hread))
  refine ⟨contributions, hcontributes, halign.symm, hiff.mpr ?_, ?_⟩
  · rw [Representation.contributes_iff.mp hcontributes]
    intro earlier last (hsplit : [8] ++ [16] = earlier ++ [last])
    obtain ⟨rfl, hlast⟩ := List.append_inj' hsplit rfl
    obtain rfl := List.singleton_inj.mp hlast
    decide
  · obtain ⟨ts, -, h⟩ := hstride "attribute vec3 position;" TypeTable.standard
      ⟨"Vertex", 16, [⟨"position", "position", 0, .float32x3, 3, 0⟩]⟩ (by decide +kernel)
    exact ⟨ts, h.symm⟩

/-- Alignments that fall: the struct is aligned to 32 bytes, the vertex to 8, and the stride is
    that of the last. -/
theorem ofSource_records_last_align_falling :
    ∃ inside v v',
      ArgumentList inside [.c, .align 32, .align 8] ∧
      StructItem.ofSource? "#[repr(C, align(32), align(8))] struct Vertex \x7b position: [f32; 3] \x7d"
        = some ⟨[reprAttribute inside], v.name, .named v.fields⟩ ∧
      (ofSource "#[repr(C, align(32), align(8))] struct Vertex \x7b position: [f32; 3] \x7d").1
        = .ok v ∧
      ¬ (∀ n ∈ alignments [.c, .align 32, .align 8], n ≤ v.align) ∧
      (ofSource "#[repr(C, align(8), align(32))] struct Vertex \x7b position: [f32; 3] \x7d").1
        = .ok v' ∧
      (Plan.ofVertex "attribute vec3 position;" v TypeTable.standard).map Plan.stride = .ok 16 ∧
      (Plan.ofVertex "attribute vec3 position;" v' TypeTable.standard).map Plan.stride = .ok 32 := by
  refine ⟨[.word "C", .sign ',' false, .word "align", .opening .parenthesis, .literal "32",
      .closing .parenthesis, .sign ',' false, .word "align", .opening .parenthesis, .literal "8",
      .closing .parenthesis],
    ⟨"Vertex", [⟨"position", "[f32 ; 3]"⟩], 8⟩, ⟨"Vertex", [⟨"position", "[f32 ; 3]"⟩], 32⟩,
    ?_, ?_, ?_, ?_, ?_, ?_, ?_⟩
  · exact .cons (.bare (.name "C") (by decide)) (.cons (.align (by decide) (by decide))
      (.one (.align (by decide) (by decide))))
  · decide +kernel
  · decide +kernel
  · decide
  · decide +kernel
  · decide +kernel
  · decide +kernel

end Vertex

end VertexBinding
