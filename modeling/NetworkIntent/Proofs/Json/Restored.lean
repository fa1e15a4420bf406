import NetworkIntent.Intent.Basic
import NetworkIntent.Proofs.Json.Parsed
import NetworkIntent.Proofs.Record

/-!
# Values that are read back

A value is read back from a document that it was written as. For lists and records this is put
together from their parts: the document of a record has one entry for each field, under the name of
the field, and may have other entries that are no fields. So that the document survives being
written as a text as well, its levels are counted on the way.

## Main definitions

* `Json.StorableIn`: documents that are storable, with no more than so many levels.
* `Json.Decoder.Restores`: a value is read back from a document.
* `Json.Record.Restores`: what is made of fields is made of some entries.

## Main results

* `Json.Decoder.Restores.list`: lists are read back if their items are.
* `Json.Record.Restores.ofFields`: a record is read back from any object with its entries.
* `Json.Record.Restores.decoder`: a record is read back from the object of its entries.
-/

set_option autoImplicit false

namespace NetworkIntent.Json

variable {α β : Type} {levels levels' : Nat} {document : Json}

/-! ## Levels -/

/-- The keys of all objects ascend, all numbers are whole ones within range, and there are no more
than so many levels of lists and objects. -/
structure StorableIn (levels : Nat) (document : Json) : Prop extends
    document.SortedWithin levels where
  whole : document.Whole

/-- There may be fewer levels. -/
theorem StorableIn.mono (h : document.StorableIn levels) (hle : levels ≤ levels') :
    document.StorableIn levels' :=
  ⟨⟨h.sorted, h.depth_le.trans hle⟩, h.whole⟩

/-- A document of few levels is storable. -/
theorem StorableIn.storable (h : document.StorableIn levels) (hle : levels ≤ maxDepth) :
    document.Storable :=
  ⟨h.sorted, h.whole, h.depth_le.trans hle⟩

/-- Texts have no levels. -/
theorem storableIn_str (text : String) : (Json.str text).StorableIn levels :=
  ⟨⟨trivial, Nat.zero_le _⟩, trivial⟩

/-- Numbers of 64 bits are within range. -/
theorem storableIn_ofInt64 (n : Int64) : (Json.ofInt64 n).StorableIn levels := by
  have hleast := n.minValue_le_toInt
  have hgreatest := n.toInt_le
  have hmin : Int64.minValue.toInt = -9223372036854775808 := by decide
  have hmax : Int64.maxValue.toInt = 9223372036854775807 := by decide
  exact ⟨⟨trivial, Nat.zero_le _⟩, by omega, by omega⟩

/-- A list is one level above its items. -/
theorem StorableIn.arr {items : List Json} (h : ∀ item ∈ items, item.StorableIn levels) :
    (Json.arr items).StorableIn (levels + 1) :=
  ⟨.arr fun item hitem => (h item hitem).toSortedWithin,
    (wholeItems_iff items).mpr fun item hitem => (h item hitem).whole⟩

/-- An object made of entries is one level above their values. -/
theorem StorableIn.ofEntries {entries : Fields}
    (h : ∀ entry ∈ entries, entry.2.StorableIn levels) :
    (Json.ofEntries entries).StorableIn (levels + 1) :=
  ⟨.ofEntries fun entry hentry => (h entry hentry).toSortedWithin,
    (wholeFields_iff _).mpr fun entry hentry =>
      (h entry (Table.mem_of_mem_ofEntries hentry)).whole⟩

/-! ## Single values and lists -/

namespace Decoder

/-- A value is read from a document, which is storable with no more than so many levels. -/
structure Restores (decoder : Decoder α) (levels : Nat) (document : Json) (a : α) : Prop where
  storable : document.StorableIn levels
  read : decoder.ofJson document = .ok a

/-- There may be fewer levels. -/
theorem Restores.mono {decoder : Decoder α} {a : α} (h : decoder.Restores levels document a)
    (hle : levels ≤ levels') : decoder.Restores levels' document a :=
  ⟨h.storable.mono hle, h.read⟩

/-- Numbers are read back. -/
theorem Restores.int64 (n : Int64) : int64.Restores levels (.ofInt64 n) n :=
  ⟨storableIn_ofInt64 n, int64_eq_ok_iff.mpr rfl⟩

/-- Texts are read back. -/
theorem Restores.text (s : String) : text.Restores levels (.str s) s :=
  ⟨storableIn_str s, text_eq_ok_iff.mpr rfl⟩

/-- Lists are read back if their items are. -/
theorem Restores.list {item : Decoder α} {write : α → Json} {as : List α}
    (h : ∀ a ∈ as, item.Restores levels (write a) a) :
    (list item).Restores (levels + 1) (.arr (as.map write)) as where
  storable := .arr (List.forall_mem_map.mpr fun a ha => (h a ha).storable)
  read := by
    refine list_eq_ok_iff.mpr ⟨as.map write, rfl, ?_⟩
    rw [List.forall₂_map_left_iff, List.forall₂_same]
    exact fun a ha => (h a ha).read

/-- Lists of texts are read back. -/
theorem Restores.texts (texts : List String) :
    (Decoder.list Decoder.text).Restores (levels + 1) (.ofTexts texts) texts :=
  .list fun s _ => .text s

end Decoder

/-! ## Records -/

namespace Record

/-- What is made of the fields of a record is made of some entries: one for each field, under its
name, with a value of its type that is storable with no more than so many levels. -/
structure Restores (record : Record α) (levels : Nat) (entries : Fields) (a : α) : Prop where
  storable : ∀ entry ∈ entries, entry.2.StorableIn levels
  checked : List.Forall₂ (fun entry slot => entry.1 = slot.name ∧ slot.check entry.2 = .ok ())
    entries record.slots
  build : ∀ absent rest, record.build absent (entries.map (fun entry => some entry.2) ++ rest) =
    .ok (a, rest)

/-- No field is made of no entry. -/
theorem Restores.pure (a : α) : (Record.pure a).Restores levels [] a :=
  ⟨by simp, .nil, fun _ _ => rfl⟩

/-- Fields followed by one more are made of the entries of both. -/
theorem Restores.more {record : Record (α → β)} {field : Record α} {entries others : Fields}
    {f : α → β} {a : α} (h : record.Restores levels entries f)
    (h' : field.Restores levels others a) :
    (record.more field).Restores levels (entries ++ others) (f a) where
  storable := List.forall_mem_append.mpr ⟨h.storable, h'.storable⟩
  checked := List.rel_append h.checked h'.checked
  build absent rest := by
    simp only [Record.more, List.map_append, List.append_assoc, h.build, h'.build]
    rfl

/-- A field is made of an entry with its value. -/
theorem Restores.field {decoder : Decoder α} {a : α} (h : decoder.Restores levels document a)
    (name : String) (default : Option α) (aliases : List String) :
    (field name decoder default aliases).Restores levels [(name, document)] a where
  storable := List.forall_mem_singleton.mpr h.storable
  checked := .cons ⟨rfl, by simp only [h.read]; rfl⟩ .nil
  build absent rest := by
    simp only [Record.field, List.map_cons, List.map_nil, List.cons_append, List.nil_append, h.read]
    rfl

theorem Restores.required {decoder : Decoder α} {a : α} (h : decoder.Restores levels document a)
    (name : String) : (required name decoder).Restores levels [(name, document)] a :=
  .field h name none []

theorem Restores.withDefault {decoder : Decoder α} {a : α}
    (h : decoder.Restores levels document a) (name : String) (default : α) :
    (withDefault name decoder default).Restores levels [(name, document)] a :=
  .field h name (some default) []

variable {record : Record α} {entries fields : Fields} {a : α}

/-- The entries of a record have the names of its fields. -/
theorem Restores.keys_eq (h : record.Restores levels entries a) :
    Table.keys entries = record.slots.map Slot.name :=
  map_eq_map_iff_forall₂.mpr (h.checked.imp fun _ _ hslot => hslot.1)

/-- A record is read back from any object without repeated keys that has its entries. -/
theorem Restores.ofFields (h : record.Restores levels entries a) (hplain : record.Plain)
    (hkeys : (Table.keys fields).Nodup)
    (hget : ∀ entry ∈ entries, Table.get? entry.1 fields = some entry.2) :
    record.ofFields fields = .ok a := by
  have hfound : List.Forall₂ (fun entry slot =>
      Table.get? slot.name fields = some entry.2 ∧ slot.check entry.2 = .ok ()) entries
      record.slots := by
    refine ((List.forall₂_and_left _ _).mpr ⟨hget, h.checked⟩).imp ?_
    rintro entry slot ⟨hentry, hname, hcheck⟩
    exact ⟨hname ▸ hentry, hcheck⟩
  have hchecked : ∀ slot ∈ record.slots, ∀ value, Table.get? slot.name fields = some value →
      slot.check value = .ok () := by
    refine forall_mem_of_forall₂ (hfound.imp ?_)
    rintro entry slot ⟨hentry, hcheck⟩ value hvalue
    obtain rfl := Option.some.inj (hentry.symm.trans hvalue)
    exact hcheck
  have hnone : ∀ name ∈ ([] : List String), name ∉ Table.keys fields := by simp
  obtain ⟨selected, hselected⟩ := (hplain.exists_select_iff hkeys hnone).mpr hchecked
  have hvalues : record.slots.map (fun slot => Table.get? slot.name selected) =
      entries.map fun entry => some entry.2 := by
    rw [List.map_congr_left fun slot hslot => hplain.get?_select hselected hslot]
    exact (map_eq_map_iff_forall₂.mpr (hfound.imp fun _ _ hslot => hslot.1.symm)).symm
  have hbuild := h.build (fun slot => .missingField slot.name) []
  rw [List.append_nil] at hbuild
  rw [Record.ofFields, hselected]
  dsimp only
  rw [hvalues, hbuild]
  rfl

/-- A record is read back from the object of its entries. -/
theorem Restores.decoder (h : record.Restores levels entries a) (hplain : record.Plain)
    (name : String) : (record.decoder name).Restores (levels + 1) (.ofEntries entries) a where
  storable := .ofEntries h.storable
  read := by
    have hnodup : (Table.keys entries).Nodup := h.keys_eq ▸ hplain.names
    refine h.ofFields hplain (Table.ascending_ofEntries entries).nodup fun entry hentry => ?_
    rw [Table.get?_ofEntries_of_nodup hnodup]
    exact (Table.get?_eq_some_iff hnodup).mpr hentry

end Record

end NetworkIntent.Json
