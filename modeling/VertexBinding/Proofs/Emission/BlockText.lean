import VertexBinding.Emission.ImplBlock
import VertexBinding.Proofs.Source.TextLiterals

/-! # Block texts — what the text of a block tells about its entries

    `BlockText` describes the text of a block without its white space: a head, an array of
    names, an array of slots, and a rest.  A slot is what the block says about a field
    beside the name of its attribute; a comma may end it, and so may it end an array.

    The arrays begin with their lengths, names are literals, and the parts of a slot end
    with characters that do not occur in them.  So block texts with heads that are told
    have the same entries if they are equal (`BlockText.entries_eq`). -/

namespace VertexBinding.Emission

open Source Text

/-- What a block says about a field beside the name of its attribute. -/
structure Slot where
  field : String
  format : VertexFormat
  location : Nat

/-- The slot of an entry. -/
def Entry.slot (e : Entry) : Slot :=
  ⟨e.field, e.format, e.location⟩

/-- A slot without its white space; `path` stands for the path of the vertex. -/
inductive SlotText (path : List Char) : Slot → List Char → Prop where
  | mk {slot : Slot} {comma : List Char} (hfield : ')' ∉ slot.field.toList)
      (hcomma : IsOptionalComma comma) :
      SlotText path slot
        ("wgpu::VertexAttribute\x7b".toList
          ++ ("format:wgpu::VertexFormat::".toList ++ (slot.format.name.toList ++ ','
          :: ("offset:".toList ++ ("std::mem::offset_of!(".toList ++ (path ++ ','
          :: (slot.field.toList ++ ')' :: ("asu64".toList ++ ','
          :: ("shader_location:".toList ++ ((toString slot.location).toList
          ++ (comma ++ ['\x7d'])))))))))))

/-- A block without its white space. -/
inductive BlockText (heads : List Char → Prop) (path : List Char) :
    List Entry → List Char → Prop where
  | mk {entries : List Entry} {head names slots rest : List Char} (hhead : heads head)
      (hnames : ArrayText (OneWay (fun name => (textLiteral name).toList))
        (entries.map Entry.attributeName) names)
      (hslots : ArrayText (SlotText path) (entries.map Entry.slot) slots) :
      BlockText heads path entries
        (head ++ ("pubconstATTRIBUTE_NAMES:[&'staticstr;".toList
          ++ (names ++ ';' :: ("pubconstVERTEX_ATTRIBUTES:[wgpu::VertexAttribute;".toList
          ++ (slots ++ rest)))))

/-! ## Slots -/

theorem comma_not_mem_formatName (f : VertexFormat) : ',' ∉ f.name.toList := by
  have hall : ∀ f ∈ VertexFormat.all, ',' ∉ f.name.toList := by decide
  exact hall f (VertexFormat.mem_all f)

/-- No two formats have one name, since a name is read back. -/
theorem formatName_injective {f g : VertexFormat} (h : f.name = g.name) : f = g := by
  have hf := VertexFormat.ofName?_name f
  rw [h, VertexFormat.ofName?_name] at hf
  exact (Option.some.inj hf).symm

/-- **A SLOT TELLS ITS PARTS**, and where it ends: one part after the other ends with a
    character that is not in it. -/
theorem prefixFree_slotText (path : List Char) : PrefixFree (SlotText path) := by
  rintro slot slot' _ _ t t' ⟨hfield, hcomma⟩ ⟨hfield', hcomma'⟩ heq
  simp only [List.append_assoc, List.cons_append, List.nil_append] at heq
  -- from the format to the field to the location
  have hformat := List.append_cancel_left (List.append_cancel_left heq)
  obtain ⟨hformats, heq⟩ :=
    eq_of_upTo (comma_not_mem_formatName _) (comma_not_mem_formatName _) hformat
  have hpath := List.append_cancel_left (List.append_cancel_left heq)
  obtain ⟨hfields, heq⟩ :=
    eq_of_upTo hfield hfield' (List.cons.inj (List.append_cancel_left hpath)).2
  have hlocation := List.append_cancel_left (List.cons.inj (List.append_cancel_left heq)).2
  obtain ⟨hlocations, heq⟩ := eq_of_number_append (hcomma.ends_number (by decide) _)
    (hcomma'.ends_number (by decide) _) hlocation
  refine ⟨?_, hcomma.eq_of_append (by decide) hcomma' heq⟩
  obtain ⟨field, format, location⟩ := slot
  obtain ⟨field', format', location'⟩ := slot'
  obtain rfl := formatName_injective (String.toList_inj.mp hformats)
  obtain rfl := String.toList_inj.mp hfields
  obtain rfl : location = location' := hlocations
  rfl

/-! ## Blocks -/

/-- An entry is the name of its attribute and its slot. -/
theorem entries_eq_of_maps {es es' : List Entry}
    (hnames : es.map Entry.attributeName = es'.map Entry.attributeName)
    (hslots : es.map Entry.slot = es'.map Entry.slot) : es = es' := by
  have hpairs : es.map (fun e => (e.attributeName, e.slot))
      = es'.map (fun e => (e.attributeName, e.slot)) := by
    rw [← List.zip_map', ← List.zip_map', hnames, hslots]
  refine (List.map_inj_right ?_).mp hpairs
  rintro ⟨field, name, format, location⟩ ⟨field', name', format', location'⟩ h
  obtain ⟨rfl, hslot⟩ := Prod.mk.inj h
  obtain ⟨rfl, rfl, rfl⟩ := Slot.mk.inj hslot
  rfl

/-- Texts of which none begins another. -/
def Settled (texts : List Char → Prop) : Prop :=
  ∀ ⦃s s' t t'⦄, texts s → texts s' → s ++ t = s' ++ t' → t = t'

/-- **A BLOCK TELLS ITS ENTRIES**, in their order, as soon as its head is told. -/
theorem BlockText.entries_eq {heads : List Char → Prop} {path s : List Char}
    {es es' : List Entry} (hheads : Settled heads) (h : BlockText heads path es s)
    (h' : BlockText heads path es' s) : es = es' := by
  obtain ⟨hhead, hnames, hslots⟩ := h
  rename_i head names slots rest
  generalize hs : head ++ _ = s at h'
  obtain ⟨hhead', hnames', hslots'⟩ := h'
  have htail := hheads hhead hhead' hs
  have hliteral := prefixFree_arrayText prefixFree_textLiteral
  obtain ⟨hnamesEq, heq⟩ := hliteral hnames hnames' (List.append_cancel_left htail)
  obtain ⟨hslotsEq, -⟩ := prefixFree_arrayText (prefixFree_slotText path) hslots hslots'
    (List.append_cancel_left (List.cons.inj heq).2)
  exact entries_eq_of_maps hnamesEq hslotsEq

end VertexBinding.Emission
