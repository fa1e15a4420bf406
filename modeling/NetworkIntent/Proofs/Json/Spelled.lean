import NetworkIntent.Proofs.Json.Number
import NetworkIntent.Proofs.Json.Storable
import NetworkIntent.Proofs.Json.Text

/-!
# How documents are spelled

The texts that stand for a document: between any two parts there may be blanks, a character of a
text may be written as itself or as an escape, and the entries of an object come in any order, a key
perhaps several times. This is the grammar of JSON, told without the readers. What is written in
some layout is one of the spellings.

## Main definitions

* `Json.Blank`: blanks between the parts of a document.
* `Json.Spells`: the spellings of a document within a text.
* `Json.SpellsWhole`: its spellings as a whole text.

## Main results

* `Json.Spells.exists_cons`: how the spelling of a document starts.
* `Json.spells_write`: a document is written in one of its spellings.
-/

set_option autoImplicit false

namespace NetworkIntent.Json

/-! ## Blanks -/

/-- A byte that is no blank is not skipped. -/
theorem skipGap_cons {b : UInt8} (h : isGap b = false) (text : Bytes) :
    skipGap (b :: text) = b :: text := by
  simp [skipGap, h]

/-- Blanks between the parts of a document. -/
def Blank (gap : Bytes) : Prop :=
  ∀ b ∈ gap, isGap b = true

/-- No byte at all is blank. -/
theorem blank_nil : Blank [] := by
  simp [Blank]

/-- Blanks are skipped. -/
theorem Blank.skipGap_append {gap : Bytes} (h : Blank gap) (text : Bytes) :
    skipGap (gap ++ text) = skipGap text :=
  List.dropWhile_append_of_pos h

/-- Blanks are skipped up to the next part. -/
theorem Blank.skipGap_cons {gap : Bytes} (h : Blank gap) {b : UInt8} (hb : isGap b = false)
    (text : Bytes) : skipGap (gap ++ b :: text) = b :: text := by
  rw [h.skipGap_append, Json.skipGap_cons hb]

/-- What starts with blanks, or else with something that may follow a value, may follow it. -/
theorem Blank.follows {gap text : Bytes} (h : Blank gap) (htext : Follows text) :
    Follows (gap ++ text) := by
  cases gap with
  | nil => exact htext
  | cons b gap => exact .inl (h b List.mem_cons_self)

/-! ## Documents -/

/-- What comes before a part of a list or an object: blanks, and among them a comma unless it is the
first part. -/
def Leads : (first : Bool) → Bytes → Prop
  | true, lead => Blank lead
  | false, lead => ∃ gap gap', Blank gap ∧ Blank gap' ∧ lead = gap ++ 0x2C :: gap'

mutual

/-- The spellings of a document. A whole number within 64 bits has a single one; any other number
is spelled by the numerals that are nearest to it. -/
def Spells : Json → Bytes → Prop
  | .null, text => text = [0x6E, 0x75, 0x6C, 0x6C]
  | .bool true, text => text = [0x74, 0x72, 0x75, 0x65]
  | .bool false, text => text = [0x66, 0x61, 0x6C, 0x73, 0x65]
  | .int value, text => InRange value ∧ text = Utf8.encode (writeInt value)
  | .double value, text => SpellsNumber text ∧ readWith none text = .ok (.double value, [])
  | .str s, text => SpellsText s text
  | .arr items, text => ∃ inner, text = 0x5B :: inner ∧ SpellsItems true items inner
  | .obj fields, text => ∃ inner, text = 0x7B :: inner ∧ SpellsFields true fields inner

/-- The spellings of the items of a list up to its closing bracket. -/
def SpellsItems : (first : Bool) → List Json → Bytes → Prop
  | _, [], text => ∃ gap, Blank gap ∧ text = gap ++ [0x5D]
  | first, item :: items, text => ∃ lead part after, Leads first lead ∧ Spells item part ∧
    SpellsItems false items after ∧ text = lead ++ (part ++ after)

/-- The spellings of the entries of an object up to its closing brace. -/
def SpellsFields : (first : Bool) → List (String × Json) → Bytes → Prop
  | _, [], text => ∃ gap, Blank gap ∧ text = gap ++ [0x7D]
  | first, (key, value) :: fields, text => ∃ lead name gap gap' part after, Leads first lead ∧
    SpellsText key name ∧ Blank gap ∧ Blank gap' ∧ Spells value part ∧
    SpellsFields false fields after ∧
    text = lead ++ (name ++ (gap ++ 0x3A :: (gap' ++ (part ++ after))))

end

/-- The spellings of a document as a whole text, in which blanks may come before and after it. -/
def SpellsWhole (document : Json) (text : Bytes) : Prop :=
  ∃ gap part gap', Blank gap ∧ Spells document part ∧ Blank gap' ∧ text = gap ++ (part ++ gap')

/-! ## How spellings start and go on -/

section Parts

variable {text : Bytes}

/-- A spelling starts neither with a blank nor with a closing bracket, and only that of the absent
value starts with its letter. -/
theorem Spells.exists_cons {document : Json} (h : Spells document text) :
    ∃ b bytes, text = b :: bytes ∧ isGap b = false ∧ b ≠ 0x5D ∧ (b = 0x6E → document = .null) := by
  have hnumber : SpellsNumber text → ∃ b bytes, text = b :: bytes ∧ isGap b = false ∧ b ≠ 0x5D ∧
      (b = 0x6E → document = .null) := by
    have hdigit : ∀ d < 10, isGap (digitByte d) = false ∧ digitByte d ≠ 0x5D ∧
        digitByte d ≠ 0x6E := by decide
    intro hnumber
    obtain ⟨b, bytes, rfl, rfl | ⟨d, hd, rfl⟩⟩ := hnumber.exists_cons
    · exact ⟨_, _, rfl, by decide, by decide, fun hn => absurd hn (by decide)⟩
    · obtain ⟨hgap, hbracket, hn⟩ := hdigit d hd
      exact ⟨_, _, rfl, hgap, hbracket, fun heq => absurd heq hn⟩
  have hother : ∀ b bytes, text = b :: bytes → isGap b = false ∧ b ≠ 0x5D ∧ b ≠ 0x6E →
      ∃ b bytes, text = b :: bytes ∧ isGap b = false ∧ b ≠ 0x5D ∧ (b = 0x6E → document = .null) :=
    fun b bytes htext hb => ⟨b, bytes, htext, hb.1, hb.2.1, fun heq => absurd heq hb.2.2⟩
  match document with
  | .null => exact ⟨_, _, h, by decide, by decide, fun _ => rfl⟩
  | .bool true => exact hother _ _ h (by decide)
  | .bool false => exact hother _ _ h (by decide)
  | .int value => exact hnumber (h.2 ▸ spellsNumber_writeInt value)
  | .double value => exact hnumber h.1
  | .str s =>
    obtain ⟨parts, -, rfl⟩ := h
    exact hother _ _ rfl (by decide)
  | .arr items =>
    obtain ⟨inner, rfl, -⟩ := h
    exact hother _ _ rfl (by decide)
  | .obj fields =>
    obtain ⟨inner, rfl, -⟩ := h
    exact hother _ _ rfl (by decide)

/-- What spells the rest of a list is its end, or a comma before the rest as a list of its own. -/
theorem SpellsItems.end_or_comma {items : List Json} (h : SpellsItems false items text) :
    (∃ gap, Blank gap ∧ text = gap ++ [0x5D]) ∨
      items ≠ [] ∧ ∃ gap inner, Blank gap ∧ SpellsItems true items inner ∧
        text = gap ++ 0x2C :: inner := by
  cases items with
  | nil => exact .inl h
  | cons item items =>
    obtain ⟨_, part, after, ⟨gap, gap', hgap, hgap', rfl⟩, hitem, hitems, rfl⟩ := h
    refine .inr ⟨by simp, gap, _, hgap, ⟨gap', part, after, hgap', hitem, hitems, rfl⟩, ?_⟩
    simp

/-- What spells the rest of an object is its end, or a comma before the rest as an object of its
own. -/
theorem SpellsFields.end_or_comma {fields : Fields} (h : SpellsFields false fields text) :
    (∃ gap, Blank gap ∧ text = gap ++ [0x7D]) ∨
      fields ≠ [] ∧ ∃ gap inner, Blank gap ∧ SpellsFields true fields inner ∧
        text = gap ++ 0x2C :: inner := by
  cases fields with
  | nil => exact .inl h
  | cons entry fields =>
    obtain ⟨_, name, gap₁, gap₂, part, after, ⟨gap, gap', hgap, hgap', rfl⟩, hrest⟩ := h
    obtain ⟨hname, hgap₁, hgap₂, hvalue, hfields, rfl⟩ := hrest
    refine .inr ⟨by simp, gap, _, hgap, ⟨gap', name, gap₁, gap₂, part, after, hgap', hname, hgap₁,
      hgap₂, hvalue, hfields, rfl⟩, ?_⟩
    simp

/-- What spells the rest of a list may follow a value. -/
theorem SpellsItems.follows {items : List Json} (h : SpellsItems false items text)
    (rest : Bytes) : Follows (text ++ rest) := by
  rcases h.end_or_comma with ⟨gap, hgap, rfl⟩ | ⟨-, gap, inner, hgap, -, rfl⟩ <;>
    rw [List.append_assoc]
  · exact hgap.follows (.inr (.inr (.inl rfl)))
  · exact hgap.follows (.inr (.inl rfl))

/-- What spells the rest of an object may follow a value. -/
theorem SpellsFields.follows {fields : Fields} (h : SpellsFields false fields text)
    (rest : Bytes) : Follows (text ++ rest) := by
  rcases h.end_or_comma with ⟨gap, hgap, rfl⟩ | ⟨-, gap, inner, hgap, -, rfl⟩ <;>
    rw [List.append_assoc]
  · exact hgap.follows (.inr (.inr (.inr rfl)))
  · exact hgap.follows (.inr (.inl rfl))

/-- What spells the rest of a list has a byte. -/
theorem SpellsItems.length_pos {items : List Json} (h : SpellsItems false items text) :
    0 < text.length := by
  rcases h.end_or_comma with ⟨gap, -, rfl⟩ | ⟨-, gap, inner, -, -, rfl⟩ <;> simp

/-- The colon between a key and its value is read, with the blanks before it. -/
theorem Blank.readColon {gap : Bytes} (h : Blank gap) (text : Bytes) :
    readColon (gap ++ 0x3A :: text) = .ok text := by
  rw [Json.readColon, h.skipGap_cons (by decide)]
  rfl

/-- A document is found behind blanks. -/
theorem Blank.skipGap_part {gap part : Bytes} (h : Blank gap) {document : Json}
    (hpart : Spells document part) (rest : Bytes) :
    skipGap (gap ++ (part ++ rest)) = part ++ rest := by
  obtain ⟨b, bytes, rfl, hb, -⟩ := hpart.exists_cons
  exact h.skipGap_cons hb _

/-- The items of a list start with a byte that is neither a blank nor a closing bracket. -/
theorem SpellsItems.exists_cons {item : Json} {items : List Json}
    (h : SpellsItems true (item :: items) text) (rest : Bytes) :
    ∃ b bytes, skipGap (text ++ rest) = b :: bytes ∧ isGap b = false ∧ b ≠ 0x5D := by
  obtain ⟨lead, part, after, hlead, hitem, -, rfl⟩ := h
  obtain ⟨b, bytes, rfl, hgap, hb, -⟩ := hitem.exists_cons
  rw [List.append_assoc, List.append_assoc, Blank.skipGap_part hlead hitem]
  exact ⟨b, _, rfl, hgap, hb⟩

/-- The entries of an object start with a quote. -/
theorem SpellsFields.exists_cons {entry : String × Json} {fields : Fields}
    (h : SpellsFields true (entry :: fields) text) (rest : Bytes) :
    ∃ bytes, skipGap (text ++ rest) = 0x22 :: bytes := by
  obtain ⟨lead, _, gap, gap', part, after, hlead, ⟨parts, -, rfl⟩, -, -, -, -, rfl⟩ := h
  rw [List.append_assoc]
  exact ⟨_, Blank.skipGap_cons hlead (by decide) _⟩

end Parts

/-! ## Writing -/

/-- A line break and the indentation are blanks. -/
theorem blank_lineBreak (layout : Layout) (level : Nat) :
    Blank (Utf8.encode (layout.lineBreak level)) := by
  have hspaces : ∀ n, Blank (Utf8.encode (List.replicate n ' ')) := by
    intro n
    induction n with
    | zero => exact blank_nil
    | succ n ih => exact List.forall_mem_cons.mpr ⟨rfl, ih⟩
  rw [Layout.lineBreak]
  split
  · exact blank_nil
  · exact List.forall_mem_cons.mpr ⟨rfl, hspaces _⟩

/-- What is written between a key and its value is a colon with blanks around it. -/
theorem encode_colon (layout : Layout) :
    ∃ gap, Blank gap ∧ Utf8.encode layout.colon = 0x3A :: gap := by
  rw [Layout.colon]
  split
  · exact ⟨[], blank_nil, rfl⟩
  · exact ⟨[0x20], List.forall_mem_singleton.mpr rfl, rfl⟩

mutual

/-- **A written document is spelled by its characters**, if its numbers are whole ones within
range. -/
theorem spells_write (layout : Layout) : (document : Json) → ∀ level, document.Whole →
    Spells document (Utf8.encode (write layout level document))
  | .null, _, _ => by rw [Spells]; rfl
  | .bool true, _, _ => by rw [Spells]; rfl
  | .bool false, _, _ => by rw [Spells]; rfl
  | .int value, _, h => ⟨h, rfl⟩
  | .double value, _, h => absurd h (by simp [Whole])
  | .str text, _, _ => spellsText_writeText layout text
  | .arr [], _, _ => ⟨_, rfl, [], blank_nil, rfl⟩
  | .arr (item :: items), level, h => by
    simp only [Whole, WholeItems] at h
    refine ⟨_, ?_, _, _, _, blank_lineBreak layout (level + 1), spells_write layout item (level + 1) h.1,
      spellsItems_write layout items level h.2, rfl⟩
    simp only [write, Utf8.encode_append, Utf8.encode_cons, List.cons_append, List.append_assoc]
    rfl
  | .obj [], _, _ => ⟨_, rfl, [], blank_nil, rfl⟩
  | .obj ((key, value) :: fields), level, h => by
    simp only [Whole, WholeFields] at h
    obtain ⟨gap, hgap, hcolon⟩ := encode_colon layout
    refine ⟨_, ?_, _, _, [], gap, _, _, blank_lineBreak layout (level + 1),
      spellsText_writeText layout key, blank_nil, hgap, spells_write layout value (level + 1) h.1,
      spellsFields_write layout fields level h.2, rfl⟩
    simp only [write, Utf8.encode_append, Utf8.encode_cons, List.cons_append, List.append_assoc,
      hcolon]
    rfl

/-- The items of a list after its first one are spelled by what is written for them. -/
theorem spellsItems_write (layout : Layout) : (items : List Json) → ∀ level, WholeItems items →
    SpellsItems false items (Utf8.encode (writeItems layout level items))
  | [], level, _ => by
    refine ⟨_, blank_lineBreak layout level, ?_⟩
    rw [writeItems, Utf8.encode_append]
    rfl
  | item :: items, level, h => by
    simp only [WholeItems] at h
    refine ⟨_, _, _, ⟨[], _, blank_nil, blank_lineBreak layout (level + 1), rfl⟩,
      spells_write layout item (level + 1) h.1, spellsItems_write layout items level h.2, ?_⟩
    simp only [writeItems, Utf8.encode_append, Utf8.encode_cons, List.cons_append,
      List.append_assoc]
    rfl

/-- The entries of an object after its first one are spelled by what is written for them. -/
theorem spellsFields_write (layout : Layout) : (fields : Fields) → ∀ level, WholeFields fields →
    SpellsFields false fields (Utf8.encode (writeFields layout level fields))
  | [], level, _ => by
    refine ⟨_, blank_lineBreak layout level, ?_⟩
    rw [writeFields, Utf8.encode_append]
    rfl
  | (key, value) :: fields, level, h => by
    simp only [WholeFields] at h
    obtain ⟨gap, hgap, hcolon⟩ := encode_colon layout
    refine ⟨_, _, [], gap, _, _, ⟨[], _, blank_nil, blank_lineBreak layout (level + 1), rfl⟩,
      spellsText_writeText layout key, blank_nil, hgap, spells_write layout value (level + 1) h.1,
      spellsFields_write layout fields level h.2, ?_⟩
    simp only [writeFields, Utf8.encode_append, Utf8.encode_cons, List.cons_append,
      List.append_assoc, hcolon]
    rfl

end

/-- The text of a document is one of its spellings. -/
theorem spellsWhole_render (layout : Layout) {document : Json} (h : document.Whole) :
    SpellsWhole document (Utf8.ofString (document.render layout)) := by
  refine ⟨[], _, [], blank_nil, spells_write layout document 0 h, blank_nil, ?_⟩
  rw [Utf8.ofString, render, String.toList_ofList, List.nil_append, List.append_nil]

end NetworkIntent.Json
