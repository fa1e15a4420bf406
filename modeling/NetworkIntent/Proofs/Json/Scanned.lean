import Mathlib.Data.List.Pairwise
import NetworkIntent.Proofs.Json.RoundTrip
import NetworkIntent.Proofs.Json.Skipped
import NetworkIntent.Proofs.Record

/-!
# Values read from spelled documents

A decoder reads a value directly from a text. Wherever a document that shows the value is spelled,
the value is read: the entries of an object may come in any order and among unknown ones, a field
may be given under any of its keys, and a field with a default may be left out. A field must not be
given twice.

What a document has to show is told for each type of values, and for a record it is put together
from what its fields have to be given.

## Main definitions

* `Json.given`: the values that an object gives under some keys.
* `Json.Decoder.Scans`: a decoder reads what a document shows wherever the document is spelled.
* `Json.Record.Scans`: the same of the fields of a record.

## Main results

* `Json.Decoder.Scans.int64`, `Json.Decoder.Scans.text`, `Json.Decoder.Scans.list`,
  `Json.Decoder.Scans.nullable`: what the common types are read from.
* `Json.Record.Scans.field`, `Json.Record.Scans.more`: what fields are read from.
* `Json.Record.Scans.decoder`: a record is read from an object that gives its fields.
* `Json.Decoder.Scans.parse`: a value is read from a whole text that spells what shows it.
-/

set_option autoImplicit false

namespace NetworkIntent

namespace Json

variable {α β : Type} {levels depth : Nat}

/-! ## Finding values -/

section Finding

variable {reader : Reader α} {document : Json} {P : α → Prop} {a : α}

/-- There is a text in which a document is spelled and a reader finds a value there. -/
def Found (reader : Reader α) (document : Json) (a : α) : Prop :=
  ∃ part text rest : Bytes, Spells document part ∧ skipGap text = part ++ rest ∧ Follows rest ∧
    reader text = .ok (a, rest)

/-- What a reader finds wherever a document is spelled is found somewhere. -/
theorem Finds.found (h : Finds reader document P) :
    Finds reader document fun a => Found reader document a ∧ P a := by
  intro part text rest hpart htext hrest
  obtain ⟨a, hread, ha⟩ := h hpart htext hrest
  exact ⟨a, hread, ⟨part, text, rest, hpart, htext, hrest, hread⟩, ha⟩

/-- What is found somewhere has the property of everything that is found. -/
theorem Finds.of_found (h : Finds reader document P) (ha : Found reader document a) : P a := by
  obtain ⟨part, text, rest, hpart, htext, hrest, hread⟩ := ha
  obtain ⟨b, hread', hb⟩ := h hpart htext hrest
  rw [hread] at hread'
  obtain rfl : a = b := by simpa using hread'
  exact hb

/-- What is found has any weaker property. -/
theorem Finds.imp {Q : α → Prop} (h : Finds reader document P) (hPQ : ∀ a, P a → Q a) :
    Finds reader document Q := by
  intro part text rest hpart htext hrest
  obtain ⟨a, hread, ha⟩ := h hpart htext hrest
  exact ⟨a, hread, hPQ a ha⟩

end Finding

/-! ## Single values, lists and absent values -/

namespace Decoder

variable {Shows : Json → α → Prop}

/-- Wherever a document that shows a value is spelled, with enough levels left, the decoder reads
this value. -/
def Scans (decoder : Decoder α) (levels : Nat) (Shows : Json → α → Prop) : Prop :=
  ∀ document a, Shows document a → ∀ depth, levels ≤ depth →
    Finds (decoder.scan depth) document (decoder.ofJson · = .ok a)

/-- More levels are enough, too. -/
theorem Scans.mono {decoder : Decoder α} {more : Nat} (h : decoder.Scans levels Shows)
    (hlevels : levels ≤ more) : decoder.Scans more Shows :=
  fun document a hshows depth hdepth =>
    h document a hshows depth (Nat.le_trans hlevels hdepth)

/-- A weaker condition on documents is enough. -/
theorem Scans.imp {decoder : Decoder α} {Tells : Json → α → Prop} (h : decoder.Scans levels Shows)
    (hTells : ∀ document a, Tells document a → Shows document a) : decoder.Scans levels Tells :=
  fun document a htells => h document a (hTells document a htells)

/-- A single value is scanned if it is read from a document that is neither a list nor an object. -/
theorem Scans.ofSingle {ofJson : Json → Except Mismatch α}
    (hread : ∀ document a, Shows document a → Finds (readWith none) document (· = document))
    (hvalue : ∀ document a, Shows document a → ofJson document = .ok a) :
    (ofSingle ofJson).Scans 0 Shows := by
  intro document a hshows depth _ part text rest hpart htext hrest
  obtain ⟨b, bytes, rfl, hgap, -⟩ := hpart.exists_cons
  obtain ⟨found, hfound, heq⟩ := hread document a hshows hpart
    (skipGap_cons hgap (bytes ++ rest)) hrest
  obtain rfl : document = found := heq.symm
  have hopen : ¬(b = 0x5B ∨ b = 0x7B) := by
    rintro (rfl | rfl) <;> simp [readWith, skipGap_cons hgap, isDigit, stopOn] at hfound
  refine ⟨document, ?_, hvalue document a hshows⟩
  simp only [Decoder.ofSingle, scanSingle, htext, List.cons_append, if_neg hopen, hfound,
    hvalue document a hshows]

/-- A number of 64 bits is read from its numeral. -/
theorem Scans.int64 : int64.Scans 0 fun document n => document = .int n.toInt := by
  refine Scans.ofSingle ?_ ?_
  · rintro _ n rfl part text rest ⟨hrange, rfl⟩ htext hrest
    exact ⟨_, readWith_writeInt none hrange htext hrest, rfl⟩
  · rintro _ n rfl
    exact int64_eq_ok_iff.mpr rfl

/-- A number of 64 bits without a sign is read from its numeral. -/
theorem Scans.uint64 : uint64.Scans 0 fun document n => document = .int n.toNat := by
  refine Scans.ofSingle ?_ ?_
  · rintro _ n rfl part text rest ⟨hrange, rfl⟩ htext hrest
    exact ⟨_, readWith_writeInt none hrange htext hrest, rfl⟩
  · rintro _ n rfl
    exact uint64_eq_ok_iff.mpr rfl

/-- A text is read from its spelling. -/
theorem Scans.text : text.Scans 0 fun document s => document = .str s := by
  refine Scans.ofSingle ?_ ?_
  · rintro _ s rfl part text rest hpart htext -
    exact ⟨_, SpellsText.readWith none hpart htext, rfl⟩
  · rintro _ s rfl
    exact text_eq_ok_iff.mpr rfl

/-- A list is read from a list, item by item. -/
theorem Scans.list {item : Decoder α} (h : item.Scans levels Shows) :
    (list item).Scans (levels + 1) fun document as =>
      ∃ items, document = .arr items ∧ List.Forall₂ Shows items as := by
  rintro _ as ⟨items, rfl, hall⟩ depth hdepth part text rest ⟨inner, rfl, hinner⟩ htext hrest
  obtain ⟨depth, rfl⟩ : ∃ below, depth = below + 1 := ⟨depth - 1, by omega⟩
  have hitems : ∀ document ∈ items, Finds (item.scan depth) document
      (Found (item.scan depth) document) := by
    intro document hmem
    obtain ⟨a, hshows⟩ := exists_forall₂_iff.mp ⟨as, hall⟩ document hmem
    exact (h document a hshows depth (Nat.le_of_succ_le_succ hdepth)).found.imp fun _ ha => ha.1
  obtain ⟨values, hread, hfound⟩ := readList_of_spells hitems hinner rest
  refine ⟨.arr values, ?_, ?_⟩
  · simp only [Decoder.list, scanList, htext, List.cons_append, if_true, hread]
    rfl
  · refine list_eq_ok_iff.mpr ⟨values, rfl, ?_⟩
    clear hread hitems hinner
    induction hfound generalizing as with
    | nil =>
      cases hall
      exact .nil
    | cons hfirst _ ih =>
      cases hall with
      | cons hshows hothers =>
        exact .cons ((h _ _ hshows depth (Nat.le_of_succ_le_succ hdepth)).of_found hfirst)
          (ih _ hothers)

/-- A value that may be null is read from null, or from what shows it. -/
theorem Scans.nullable {value : Decoder α} (h : value.Scans levels Shows)
    (hshows : ∀ a, ¬Shows .null a) (hnull : ∀ a, value.ofJson .null ≠ .ok a) :
    (nullable value).Scans levels fun document o =>
      o.elim (document = .null) (Shows document) := by
  rintro document (_ | a) hdocument depth hdepth part text rest hpart htext hrest
  · obtain rfl : document = .null := hdocument
    rw [Spells] at hpart
    refine ⟨.null, ?_, rfl⟩
    rw [hpart] at htext
    simp only [Decoder.nullable, htext]
    rfl
  · have hdocument : Shows document a := hdocument
    have hne : document ≠ .null := by
      rintro rfl
      exact hshows a hdocument
    obtain ⟨b, bytes, rfl, hgap, -, hb⟩ := hpart.exists_cons
    obtain ⟨scanned, hscan, hvalue⟩ := h document a hdocument depth hdepth hpart
      (skipGap_cons hgap (bytes ++ rest)) hrest
    refine ⟨scanned, ?_, ?_⟩
    · simp only [Decoder.nullable, htext, List.cons_append]
      rw [if_neg (fun heq => hne (hb heq)), hscan]
    · have hsome : (Decoder.nullable value).ofJson scanned = some <$> value.ofJson scanned := by
        cases scanned with
        | null => exact absurd hvalue (hnull a)
        | _ => rfl
      exact hsome.trans (by rw [hvalue]; rfl)

/-- A text that may be null is read from null or from the text. -/
theorem Scans.nullableText : (Decoder.nullable .text).Scans 0 fun document o =>
    o.elim (document = .null) (document = .str ·) :=
  Scans.text.nullable (by simp) fun s => by simp [text_eq_ok_iff]

end Decoder

/-! ## Fields -/

/-- The keys that stand for a field. -/
def Slot.keys (slot : Slot) : List String :=
  slot.name :: slot.aliases

/-- A key stands for a field if it is one of its keys. -/
theorem Slot.hasKey_eq_true_iff {slot : Slot} {key : String} :
    slot.hasKey key = true ↔ key ∈ slot.keys := by
  simp only [Slot.hasKey, Slot.keys, Bool.or_eq_true, decide_eq_true_eq, List.contains_iff_mem,
    List.mem_cons, @eq_comm _ key]

/-- The values that an object gives under some keys, in their order. -/
def given (keys : List String) (fields : Fields) : List Json :=
  (fields.filter fun entry => keys.contains entry.1).map Prod.snd

/-- An entry under one of the keys is given before the ones after it. -/
theorem given_cons_of_mem {keys : List String} {key : String} (h : key ∈ keys) (value : Json)
    (fields : Fields) : given keys ((key, value) :: fields) = value :: given keys fields := by
  simp [given, h]

/-- An entry under no such key is not given. -/
theorem given_cons_of_not_mem {keys : List String} {key : String} (h : key ∉ keys) (value : Json)
    (fields : Fields) : given keys ((key, value) :: fields) = given keys fields := by
  simp [given, h]

/-- What is given by entries is given by the first ones and then by the others. -/
theorem given_append (keys : List String) (fields others : Fields) :
    given keys (fields ++ others) = given keys fields ++ given keys others := by
  simp [given]

/-- What scanning makes of the values that are given for a field: nothing of none, and of a single
one what is found where it is spelled. -/
inductive Slot.Gives (slot : Slot) (depth : Nat) : List Json → Option Json → Prop where
  | absent : Gives slot depth [] none
  | present {document value : Json} (hfound : Found (slot.scan depth) document value) :
    Gives slot depth [document] (some value)

/-- What may be given for a field: a single value that can be scanned, and nothing if the field may
be left out. -/
def Slot.Accepts (slot : Slot) (depth : Nat) : List Json → Prop
  | [] => slot.optional = true
  | [document] => Finds (slot.scan depth) document (slot.check · = .ok ())
  | _ :: _ :: _ => False

/-- What is given for a field is given once. -/
theorem Slot.Accepts.of_append {slot : Slot} {first last : List Json} {document : Json}
    (h : slot.Accepts depth (first ++ document :: last)) :
    first = [] ∧ Finds (slot.scan depth) document (slot.check · = .ok ()) := by
  cases first with
  | nil =>
    cases last with
    | nil => exact ⟨rfl, h⟩
    | cons => exact absurd h id
  | cons _ first => cases first <;> exact absurd h id

namespace Record

/-- From an object with a property together with what is made of it, the fields of a record can be
scanned, and exactly this is made of them. -/
structure Scans (record : Record α) (levels : Nat) (P : Fields → α → Prop) : Prop where
  accepts : ∀ fields a, P fields a → ∀ slot ∈ record.slots, ∀ depth, levels ≤ depth →
    slot.Accepts depth (given slot.keys fields)
  build : ∀ fields a, P fields a → ∀ depth, levels ≤ depth → ∀ values : Slot → Option Json,
    (∀ slot ∈ record.slots, slot.Gives depth (given slot.keys fields) (values slot)) →
    ∀ absent rest, record.build absent (record.slots.map values ++ rest) = .ok (a, rest)

variable {P : Fields → α → Prop}

/-- The property may be replaced by a stronger one. -/
theorem Scans.imp {record : Record α} {Q : Fields → α → Prop} (h : record.Scans levels P)
    (hQP : ∀ fields a, Q fields a → P fields a) : record.Scans levels Q where
  accepts fields a hQ := h.accepts fields a (hQP fields a hQ)
  build fields a hQ := h.build fields a (hQP fields a hQ)

/-- No field is scanned from any object. -/
theorem Scans.pure (levels : Nat) (a : α) : (Record.pure a).Scans levels fun _ b => b = a where
  accepts fields b _ slot hslot := by simp [Record.pure] at hslot
  build := by
    rintro fields _ rfl depth - values - absent rest
    rfl

/-- Fields followed by one more are scanned if both are. -/
theorem Scans.more {record : Record (α → β)} {field : Record α} {P : Fields → (α → β) → Prop}
    {Q : Fields → α → Prop} (h : record.Scans levels P) (h' : field.Scans levels Q) :
    (record.more field).Scans levels fun fields b => ∃ f a, P fields f ∧ Q fields a ∧ b = f a where
  accepts := by
    rintro fields _ ⟨f, a, hP, hQ, rfl⟩ slot hslot
    rcases List.mem_append.mp hslot with hslot | hslot
    · exact h.accepts fields f hP slot hslot
    · exact h'.accepts fields a hQ slot hslot
  build := by
    rintro fields _ ⟨f, a, hP, hQ, rfl⟩ depth hdepth values hvalues absent rest
    have hfirst := h.build fields f hP depth hdepth values
      (fun slot hslot => hvalues slot (List.mem_append_left _ hslot)) absent
    have hsecond := h'.build fields a hQ depth hdepth values
      (fun slot hslot => hvalues slot (List.mem_append_right _ hslot)) absent
    simp only [Record.more, List.map_append, List.append_assoc, hfirst, hsecond]
    rfl

/-- A field is scanned from an object that gives a value for it once, under any of its keys, or from
one that gives none if there is a default. -/
theorem Scans.field {decoder : Decoder α} {Shows : Json → α → Prop}
    (h : decoder.Scans levels Shows) (name : String) (default : Option α) (aliases : List String) :
    (field name decoder default aliases).Scans levels fun fields a =>
      (∃ document, given (name :: aliases) fields = [document] ∧ Shows document a) ∨
        given (name :: aliases) fields = [] ∧ default = some a where
  accepts := by
    rintro fields a hP slot hslot depth hdepth
    obtain rfl := List.mem_singleton.mp hslot
    rcases hP with ⟨document, hgiven, hshows⟩ | ⟨hgiven, hdefault⟩ <;>
      simp only [Slot.keys, hgiven, Slot.Accepts]
    · exact (h document a hshows depth hdepth).imp fun value hvalue => by rw [hvalue]; rfl
    · rw [hdefault]
      rfl
  build := by
    rintro fields a hP depth hdepth values hvalues absent rest
    have hgives := hvalues _ (List.mem_singleton.mpr rfl)
    simp only [Slot.keys] at hgives
    simp only [Record.field, List.map_cons, List.map_nil, List.cons_append, List.nil_append]
    rcases hP with ⟨document, hgiven, hshows⟩ | ⟨hgiven, hdefault⟩
    · rw [hgiven] at hgives
      generalize values _ = value at hgives ⊢
      cases hgives with
      | present hfound =>
        have hvalue := (h document a hshows depth hdepth).of_found hfound
        dsimp only
        rw [hvalue]
        rfl
    · rw [hgiven] at hgives
      generalize values _ = value at hgives ⊢
      cases hgives with
      | absent =>
        dsimp only
        rw [hdefault]
        rfl

/-! ## Objects -/

variable {record : Record α}

/-- No key stands for two fields. -/
def Separate (record : Record α) : Prop :=
  (record.slots.flatMap Slot.keys).Nodup

instance (record : Record α) : Decidable record.Separate :=
  inferInstanceAs (Decidable (List.Nodup _))

/-- A key stands for a single field. -/
theorem Separate.eq_of_mem (h : record.Separate) {slot other : Slot} (hslot : slot ∈ record.slots)
    (hother : other ∈ record.slots) {key : String} (hkey : key ∈ slot.keys)
    (hkey' : key ∈ other.keys) : slot = other := by
  by_contra hne
  have hsymm : Std.Symm (Function.onFun List.Disjoint Slot.keys) := ⟨fun _ _ hd _ ha hb => hd hb ha⟩
  exact (List.nodup_flatMap.mp h).2.forall hslot hother hne hkey hkey'

/-- The field for which a key stands is the one that has it. -/
theorem Separate.slotOf?_eq_some_iff (h : record.Separate) {key : String} {slot : Slot} :
    record.slotOf? key = some slot ↔ slot ∈ record.slots ∧ key ∈ slot.keys := by
  have hfound : ∀ found, record.slotOf? key = some found →
      found ∈ record.slots ∧ key ∈ found.keys := by
    intro found hfind
    have hhas := List.find?_some hfind
    exact ⟨List.mem_of_find?_eq_some hfind, Slot.hasKey_eq_true_iff.mp hhas⟩
  refine ⟨hfound slot, fun ⟨hmem, hkey⟩ => ?_⟩
  have hsome : (record.slotOf? key).isSome = true :=
    List.find?_isSome.mpr ⟨slot, hmem, Slot.hasKey_eq_true_iff.mpr hkey⟩
  obtain ⟨found, hfind⟩ := Option.isSome_iff_exists.mp hsome
  obtain ⟨hmem', hkey'⟩ := hfound found hfind
  rw [hfind, h.eq_of_mem hmem' hmem hkey' hkey]

/-- A key that stands for no field is not one of the keys of a field. -/
theorem not_mem_keys_of_slotOf?_eq_none {key : String} (h : record.slotOf? key = none) {slot : Slot}
    (hslot : slot ∈ record.slots) : key ∉ slot.keys := by
  have hnone := List.find?_eq_none.mp h slot hslot
  rwa [Slot.hasKey_eq_true_iff] at hnone

/-- What has been scanned of the entries of an object: each field once, under its name, with a value
of its type, and what has been given for it. -/
structure Scanned (record : Record α) (depth : Nat) (done scanned : Fields) : Prop where
  checked : ∀ entry ∈ scanned, ∃ slot ∈ record.slots, slot.name = entry.1 ∧
    slot.check entry.2 = .ok ()
  nodup : (Table.keys scanned).Nodup
  gives : ∀ slot ∈ record.slots,
    slot.Gives depth (given slot.keys done) (Table.get? slot.name scanned)

/-- At first nothing has been scanned. -/
theorem scanned_nil (record : Record α) (depth : Nat) : record.Scanned depth [] [] where
  checked := by simp
  nodup := List.nodup_nil
  gives _ _ := .absent

/-- An entry that is no field changes nothing. -/
theorem Scanned.unknown {done scanned : Fields} (h : record.Scanned depth done scanned)
    {key : String} (hkey : record.slotOf? key = none) (value : Json) :
    record.Scanned depth (done ++ [(key, value)]) scanned where
  checked := h.checked
  nodup := h.nodup
  gives slot hslot := by
    rw [given_append, given_cons_of_not_mem (not_mem_keys_of_slotOf?_eq_none hkey hslot)]
    simpa [given] using h.gives slot hslot

/-- An entry that is a field for which nothing has been given is scanned under its name. -/
theorem Scanned.known (hrecord : record.Separate) {done scanned : Fields}
    (h : record.Scanned depth done scanned) {key : String} {slot : Slot} (hslot : slot ∈ record.slots)
    (hkey : key ∈ slot.keys) (hnew : given slot.keys done = []) {document value : Json}
    (hfound : Found (slot.scan depth) document value) (hcheck : slot.check value = .ok ()) :
    record.Scanned depth (done ++ [(key, document)]) (scanned ++ [(slot.name, value)]) := by
  have hget : Table.get? slot.name scanned = none := by
    have hgives := h.gives slot hslot
    rw [hnew] at hgives
    generalize Table.get? slot.name scanned = o at hgives ⊢
    cases hgives
    rfl
  refine ⟨?_, ?_, fun other hother => ?_⟩
  · refine List.forall_mem_append.mpr ⟨h.checked, ?_⟩
    exact List.forall_mem_singleton.mpr ⟨slot, hslot, rfl, hcheck⟩
  · rw [Table.keys, List.map_append]
    refine List.nodup_append.mpr ⟨h.nodup, List.nodup_singleton _, ?_⟩
    rintro name hname _ hname' rfl
    obtain rfl := List.mem_singleton.mp hname'
    exact Table.get?_eq_none_iff.mp hget hname
  · rw [given_append, Table.get?_append]
    by_cases hsame : other = slot
    · subst hsame
      rw [hnew, hget, given_cons_of_mem hkey]
      simpa [given, Table.get?] using Slot.Gives.present hfound
    · have hnot : key ∉ other.keys := fun hmem =>
        hsame (hrecord.eq_of_mem hother hslot hmem hkey)
      have hname : slot.name ≠ other.name := by
        intro heq
        have hmem : slot.name ∈ other.keys := heq ▸ List.mem_cons_self
        exact hsame (hrecord.eq_of_mem hother hslot hmem List.mem_cons_self)
      rw [given_cons_of_not_mem hnot]
      simpa [given, Table.get?, hname] using h.gives other hother

/-- The entries of an object that gives the fields of a record are taken one after the other. -/
theorem takes_scanEntry (hrecord : record.Separate) {fields : Fields}
    (h : ∀ slot ∈ record.slots, slot.Accepts depth (given slot.keys fields)) :
    Takes (record.scanEntry depth) fun before left =>
      ∃ done, done ++ left = fields ∧ record.Scanned depth done before := by
  rintro before key document left ⟨done, rfl, hscanned⟩ gap gap' part rest hgap hgap' hpart hrest
  have hskip := hgap'.skipGap_part hpart rest
  have hsplit : done ++ (key, document) :: left = done ++ [(key, document)] ++ left := by simp
  rcases hof : record.slotOf? key with _ | slot
  · refine ⟨none, ?_, done ++ [(key, document)], hsplit.symm, ?_⟩
    · rw [scanEntry, hof]
      dsimp only
      rw [hgap.readColon]
      dsimp only
      rw [hpart.skip hskip hrest]
      rfl
    · simpa using hscanned.unknown hof document
  · obtain ⟨hslot, hkey⟩ := hrecord.slotOf?_eq_some_iff.mp hof
    -- The entry is the only one for its field, so none has been scanned before it.
    have haccepts := h slot hslot
    rw [given_append, given_cons_of_mem hkey] at haccepts
    have hgiven := haccepts.of_append
    have hnew : Table.contains slot.name before = false := by
      have hgives := hscanned.gives slot hslot
      rw [hgiven.1] at hgives
      rw [Table.contains]
      generalize Table.get? slot.name before = o at hgives ⊢
      cases hgives
      rfl
    obtain ⟨value, hscan, hfound, hcheck⟩ := hgiven.2.found hpart hskip hrest
    refine ⟨some (slot.name, value), ?_, done ++ [(key, document)], hsplit.symm,
      hscanned.known hrecord hslot hkey hgiven.1 hfound hcheck⟩
    simp only [scanEntry, hof, hnew, Bool.false_eq_true, if_false, hgap.readColon, hscan]
    rfl

/-- Fields under their names are selected as they are. -/
theorem select_of_checked (hrecord : record.Separate) {before : List String} {scanned : Fields}
    (hchecked : ∀ entry ∈ scanned, ∃ slot ∈ record.slots, slot.name = entry.1 ∧
      slot.check entry.2 = .ok ()) (hnodup : (Table.keys scanned).Nodup)
    (hbefore : ∀ name ∈ before, name ∉ Table.keys scanned) :
    record.select before scanned = .ok scanned := by
  induction scanned generalizing before with
  | nil => rfl
  | cons entry scanned ih =>
    obtain ⟨⟨slot, hslot, hname, hcheck⟩, hothers⟩ := List.forall_mem_cons.mp hchecked
    obtain ⟨key, value⟩ := entry
    obtain ⟨hkey, hnodup'⟩ := List.nodup_cons.mp hnodup
    obtain rfl : slot.name = key := hname
    have hof : record.slotOf? slot.name = some slot :=
      hrecord.slotOf?_eq_some_iff.mpr ⟨hslot, List.mem_cons_self⟩
    have hnew : before.contains slot.name = false := by
      simpa using fun hmem => hbefore _ hmem List.mem_cons_self
    have hbefore' : ∀ name ∈ slot.name :: before, name ∉ Table.keys scanned :=
      List.forall_mem_cons.mpr ⟨hkey, fun name hmem hmem' =>
        hbefore name hmem (List.mem_cons_of_mem _ hmem')⟩
    have hrest := ih hothers hnodup' hbefore'
    simp only [select, hof, hnew, Bool.false_eq_true, if_false, hcheck, hrest]
    rfl

/-- **A record is read from an object that gives its fields**, in any order and among unknown
entries.

**Proof sketch.** The entries are taken one after the other. What has been scanned of the ones that
have come is known to be the fields that they give, under their names; so at the end the fields can
be put together, and no required one is missing. -/
theorem Scans.decoder {P : Fields → α → Prop} (h : record.Scans levels P)
    (hrecord : record.Separate) (name : String) :
    (record.decoder name).Scans (levels + 1) fun document a =>
      ∃ fields, document = .obj fields ∧ P fields a := by
  rintro _ a ⟨fields, rfl, hP⟩ depth hdepth part text rest ⟨inner, rfl, hinner⟩ htext hrest
  obtain ⟨depth, rfl⟩ : ∃ below, depth = below + 1 := ⟨depth - 1, by omega⟩
  have hlevels := Nat.le_of_succ_le_succ hdepth
  obtain ⟨scanned, hread, _, hdone, hscanned⟩ := readEntries_of_spells
    (takes_scanEntry hrecord fun slot hslot => h.accepts fields a hP slot hslot depth hlevels)
    ⟨[], rfl, scanned_nil record depth⟩ hinner rest
  rw [List.append_nil] at hdone
  subst hdone
  refine ⟨.obj scanned, ?_, ?_⟩
  · have hmissing : (record.slots.find? fun slot =>
        !slot.optional && !Table.contains slot.name scanned) = none := by
      refine List.find?_eq_none.mpr fun slot hslot => ?_
      have haccepts := h.accepts _ a hP slot hslot depth hlevels
      have hgives := hscanned.gives slot hslot
      rw [Table.contains]
      generalize Table.get? slot.name scanned = o at hgives ⊢
      generalize given slot.keys _ = documents at haccepts hgives
      cases hgives with
      | absent =>
        have hoptional : slot.optional = true := haccepts
        simp [hoptional]
      | present hfound => simp
    have hbracket : ¬(0x7B : UInt8) = 0x5B := by decide
    simp only [Record.decoder, scan, htext, List.cons_append, hbracket, if_false, if_true, hread,
      hmissing]
    rfl
  · have hselect : record.select [] scanned = .ok scanned :=
      select_of_checked hrecord hscanned.checked hscanned.nodup (by simp)
    have hbuild := h.build _ a hP depth hlevels (fun slot => Table.get? slot.name scanned)
      hscanned.gives (fun slot => .missingField slot.name) []
    rw [List.append_nil] at hbuild
    change record.ofFields scanned = .ok a
    rw [ofFields, hselect]
    dsimp only
    rw [hbuild]
    rfl

end Record

/-! ## Whole texts -/

/-- **A value is read from every text that spells a document which shows it**, if there are not too
many levels. -/
theorem Decoder.Scans.parse {decoder : Decoder α} {Shows : Json → α → Prop}
    (h : decoder.Scans levels Shows) (hlevels : levels ≤ maxDepth) {document : Json} {a : α}
    (hshows : Shows document a) {text : Bytes} (htext : SpellsWhole document text) :
    decoder.parse text = .ok a := by
  rw [Decoder.parse]
  refine htext.readAll ?_
  intro part text rest hpart htext hrest
  obtain ⟨scanned, hscan, hvalue⟩ := h document a hshows maxDepth hlevels hpart htext hrest
  refine ⟨a, ?_, rfl⟩
  simp only [hscan, hvalue]

end Json

end NetworkIntent
