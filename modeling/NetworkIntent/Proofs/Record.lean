import Mathlib.Data.List.Nodup
import NetworkIntent.Json.Decoder
import NetworkIntent.Proofs.Pointwise
import NetworkIntent.Proofs.Table

/-!
# Reading records

A record is read from the entries of an object one after the other, and what is wrong first is
reported. When no key is repeated the order of the entries does not matter for success: the object
is read exactly if every field that is present has a value of its type and no required field is
missing. So what is read depends on the look-ups of the fields alone.

A record is put together from its fields, and the property that its reading stands for is put
together in the same way.

## Main definitions

* `Json.Record.Plain`: the fields of a record have no other keys and are all different.
* `Json.Record.Reads`: what a record is read from, as a property of the object.

## Main results

* `Json.Decoder.int64_eq_ok_iff`, `Json.Decoder.list_eq_ok_iff` and others: what values are read
  from.
* `Json.Record.Reads.required`, `Json.Record.Reads.withDefault`, `Json.Record.Reads.more`: the
  properties of fields and of several fields.
* `Json.Record.Plain.ofFields_eq_ok_iff`: a record is read from an object without repeated keys
  exactly if its property holds.
-/

set_option autoImplicit false

namespace NetworkIntent

namespace Json

/-! ## Single values -/

namespace Decoder

variable {value : Json}

/-- A whole number is read from itself if it is within the bounds. -/
theorem integer_eq_ok_iff {least greatest n : Int} {expected : String} :
    integer least greatest expected value = .ok n ↔ value = .int n ∧ least ≤ n ∧ n ≤ greatest := by
  cases value with
  | int m =>
    rw [integer, Json.int.injEq]
    constructor
    · intro h
      split at h
      next hrange =>
        obtain rfl := Except.ok.inj h
        exact ⟨rfl, hrange⟩
      next => cases h
    · rintro ⟨rfl, hrange⟩
      rw [if_pos hrange]
  | _ => simp [integer]

/-- A number is read from the whole number that it is. -/
theorem int64_eq_ok_iff {n : Int64} : int64.ofJson value = .ok n ↔ value = .int n.toInt := by
  have hmin : Int64.minValue.toInt = -2 ^ 63 := by decide
  have hmax : Int64.maxValue.toInt = 2 ^ 63 - 1 := by decide
  change Int64.ofInt <$> integer _ _ "i64" value = .ok n ↔ _
  simp only [map_eq_ok_iff, integer_eq_ok_iff]
  constructor
  · rintro ⟨m, ⟨rfl, hleast, hgreatest⟩, rfl⟩
    rw [Int64.toInt_ofInt_of_le (by omega) (by omega)]
  · rintro rfl
    exact ⟨n.toInt, ⟨rfl, n.minValue_le_toInt, n.toInt_le⟩, n.ofInt_toInt⟩

/-- A number without a sign is read from the whole number that it is. -/
theorem uint64_eq_ok_iff {n : UInt64} : uint64.ofJson value = .ok n ↔ value = .int n.toNat := by
  have hmax : maxUnsigned = UInt64.size - 1 := rfl
  have hsize : UInt64.size = 2 ^ 64 := rfl
  change (fun m : Int => UInt64.ofNat m.toNat) <$> integer _ _ "u64" value = .ok n ↔ _
  simp only [map_eq_ok_iff, integer_eq_ok_iff]
  constructor
  · rintro ⟨m, ⟨rfl, hleast, hgreatest⟩, rfl⟩
    have hlt : m.toNat < UInt64.size := by omega
    rw [UInt64.toNat_ofNat_of_lt' hlt, Int.toNat_of_nonneg hleast]
  · rintro rfl
    have hlt := n.toNat_lt
    exact ⟨n.toNat, ⟨rfl, by omega, by omega⟩, by simp⟩

/-- A text is read from this text. -/
theorem text_eq_ok_iff {s : String} : text.ofJson value = .ok s ↔ value = .str s := by
  cases value <;> simp [text, textOf, ofSingle]

/-- A list is read from a list, item by item. -/
theorem list_eq_ok_iff {α : Type} {item : Decoder α} {as : List α} :
    (list item).ofJson value = .ok as ↔
      ∃ items, value = .arr items ∧ List.Forall₂ (fun v a => item.ofJson v = .ok a) items as := by
  cases value with
  | arr items => simp [list, Decoder.items, mapM_eq_ok_iff]
  | _ => simp [list, Decoder.items]

/-- A named value is read from its name. -/
theorem ofNames_str_eq_ok_iff {α : Type} {names : List (String × α)} {name : String} {a : α} :
    (ofNames names).ofJson (.str name) = .ok a ↔ names.lookup name = some a := by
  simp only [ofNames, ofSingle, variant, bind, Except.bind]
  cases names.lookup name with
  | none => simp [throw, throwThe, MonadExceptOf.throw]
  | some value => exact ⟨fun h => congrArg some (Except.ok.inj h), fun h => Option.some.inj h ▸ rfl⟩

end Decoder

/-! ## Fields -/

namespace Record

variable {α : Type} {record : Record α} {before : List String} {fields selected : Fields}

/-- The fields of a record have no other keys than their names, which are all different. -/
structure Plain (record : Record α) : Prop where
  aliases : ∀ slot ∈ record.slots, slot.aliases = []
  names : (record.slots.map Slot.name).Nodup

instance (record : Record α) : Decidable record.Plain :=
  decidable_of_iff
    ((∀ slot ∈ record.slots, slot.aliases = []) ∧ (record.slots.map Slot.name).Nodup)
    ⟨fun ⟨haliases, hnames⟩ => ⟨haliases, hnames⟩, fun h => ⟨h.aliases, h.names⟩⟩

/-- In a plain record a key stands for the field with this name. -/
theorem Plain.slotOf?_eq_some_iff (h : record.Plain) {key : String} {slot : Slot} :
    record.slotOf? key = some slot ↔ slot ∈ record.slots ∧ slot.name = key := by
  have hhas : ∀ slot ∈ record.slots, slot.hasKey key = true ↔ slot.name = key := by
    intro slot hslot
    simp [Slot.hasKey, h.aliases slot hslot]
  constructor
  · intro hfind
    have hmem := List.mem_of_find?_eq_some hfind
    have hkey := List.find?_some hfind
    exact ⟨hmem, (hhas slot hmem).mp hkey⟩
  · rintro ⟨hmem, hname⟩
    have hsome : (record.slotOf? key).isSome = true :=
      List.find?_isSome.mpr ⟨slot, hmem, (hhas slot hmem).mpr hname⟩
    obtain ⟨other, hother⟩ := Option.isSome_iff_exists.mp hsome
    have hmem' := List.mem_of_find?_eq_some hother
    have hkey := List.find?_some hother
    have hname' := (hhas other hmem').mp hkey
    rw [hother, List.inj_on_of_nodup_map h.names hmem' hmem (hname'.trans hname.symm)]

/-- A key that stands for no field is not the name of one. -/
theorem Plain.ne_name (h : record.Plain) {key : String} (hof : record.slotOf? key = none)
    {slot : Slot} (hslot : slot ∈ record.slots) : key ≠ slot.name := by
  rintro rfl
  rw [h.slotOf?_eq_some_iff.mpr ⟨hslot, rfl⟩] at hof
  cases hof

/-- What is selected of an object has the values of the fields. -/
theorem Plain.get?_select (h : record.Plain) (hselect : record.select before fields = .ok selected)
    {slot : Slot} (hslot : slot ∈ record.slots) :
    Table.get? slot.name selected = Table.get? slot.name fields := by
  induction fields generalizing before selected with
  | nil =>
    cases hselect
    rfl
  | cons entry rest ih =>
    obtain ⟨key, document⟩ := entry
    rw [select] at hselect
    rcases hof : record.slotOf? key with _ | found
    · simp only [hof] at hselect
      rw [ih hselect, Table.get?_cons, if_neg (h.ne_name hof hslot)]
    · obtain ⟨-, rfl⟩ := h.slotOf?_eq_some_iff.mp hof
      simp only [hof] at hselect
      split at hselect
      · cases hselect
      split at hselect
      · cases hselect
      rcases hrest : record.select (found.name :: before) rest with _ | others
      · rw [hrest] at hselect
        cases hselect
      · rw [hrest] at hselect
        cases hselect
        rw [Table.get?_cons, Table.get?_cons, ih hrest]

/-- The fields of an object without repeated keys can be selected exactly if each of them has a
value of its type. -/
theorem Plain.exists_select_iff (h : record.Plain) (hkeys : (Table.keys fields).Nodup)
    (hbefore : ∀ name ∈ before, name ∉ Table.keys fields) :
    (∃ selected, record.select before fields = .ok selected) ↔
      ∀ slot ∈ record.slots, ∀ value, Table.get? slot.name fields = some value →
        slot.check value = .ok () := by
  induction fields generalizing before with
  | nil => simp [select]
  | cons entry rest ih =>
    obtain ⟨key, document⟩ := entry
    obtain ⟨hkey, hrest⟩ := List.nodup_cons.mp hkeys
    have hbefore' : ∀ name ∈ before, name ∉ Table.keys rest := fun name hname hmem =>
      hbefore name hname (List.mem_cons_of_mem _ hmem)
    rw [select]
    rcases hof : record.slotOf? key with _ | found
    · dsimp only
      rw [ih hrest hbefore']
      refine forall₂_congr fun slot hslot => ?_
      rw [Table.get?_cons, if_neg (h.ne_name hof hslot)]
    · obtain ⟨hfound, rfl⟩ := h.slotOf?_eq_some_iff.mp hof
      have hnew : before.contains found.name = false := by
        simpa using fun hmem => hbefore _ hmem List.mem_cons_self
      simp only [hnew, Bool.false_eq_true, if_false]
      rcases hcheck : found.check document with mismatch | ⟨⟩
      · refine ⟨fun ⟨_, hselected⟩ => (nomatch hselected), fun hall => ?_⟩
        have hok := hall found hfound document (Table.get?_cons_self _ _ _)
        rw [hcheck] at hok
        cases hok
      · have hmore : ∀ name ∈ found.name :: before, name ∉ Table.keys rest :=
          List.forall_mem_cons.mpr ⟨hkey, hbefore'⟩
        simp only [map_eq_ok_iff, exists_comm, exists_eq_right']
        rw [ih hrest hmore]
        refine forall₂_congr fun slot hslot => forall_congr' fun value => ?_
        rw [Table.get?_cons]
        by_cases hname : found.name = slot.name
        · obtain rfl := List.inj_on_of_nodup_map h.names hfound hslot hname
          rw [if_pos rfl, Table.get?_eq_none_iff.mpr hkey]
          simpa using fun hvalue => hvalue ▸ hcheck
        · rw [if_neg hname]

/-- What is made of fields is what has a property together with an object, provided that the fields
that are present have values of their types. -/
structure Reads (record : Record α) (P : Fields → α → Prop) : Prop where
  build_iff : ∀ absent fields a rest others,
    record.build absent (record.slots.map (fun slot => Table.get? slot.name fields) ++ rest) =
      .ok (a, others) ↔ others = rest ∧ P fields a
  check : ∀ fields a, P fields a → ∀ slot ∈ record.slots, ∀ value,
    Table.get? slot.name fields = some value → slot.check value = .ok ()

/-- The property may be told in other words. -/
theorem Reads.congr {P Q : Fields → α → Prop} (h : record.Reads P)
    (hPQ : ∀ fields a, P fields a ↔ Q fields a) : record.Reads Q where
  build_iff absent fields a rest others := by rw [h.build_iff, hPQ]
  check fields a hQ := h.check fields a ((hPQ fields a).mpr hQ)

theorem Reads.pure (a : α) : (Record.pure a).Reads fun _ b => b = a where
  build_iff absent fields b rest others := by
    simp [Record.pure, and_comm, eq_comm]
  check fields b _ slot hslot := by simp [Record.pure] at hslot

/-- Fields followed by one more. -/
theorem Reads.more {β : Type} {record : Record (α → β)} {field : Record α}
    {P : Fields → (α → β) → Prop} {Q : Fields → α → Prop} (h : record.Reads P)
    (h' : field.Reads Q) :
    (record.more field).Reads fun fields b => ∃ f a, P fields f ∧ Q fields a ∧ b = f a where
  build_iff absent fields b rest others := by
    simp only [Record.more, List.map_append, List.append_assoc]
    constructor
    · intro hb
      split at hb
      · cases hb
      · next f values hbuild =>
        obtain ⟨rfl, hP⟩ := (h.build_iff absent fields f _ values).mp hbuild
        obtain ⟨⟨a, others'⟩, hfield, heq⟩ := map_eq_ok_iff.mp hb
        obtain ⟨rfl, hQ⟩ := (h'.build_iff absent fields a rest others').mp hfield
        cases heq
        exact ⟨rfl, f, a, hP, hQ, rfl⟩
    · rintro ⟨rfl, f, a, hP, hQ, rfl⟩
      rw [(h.build_iff absent fields f _ _).mpr ⟨rfl, hP⟩]
      simp only [(h'.build_iff absent fields a others others).mpr ⟨rfl, hQ⟩]
      rfl
  check := by
    rintro fields _ ⟨f, a, hP, hQ, rfl⟩ slot hslot
    rcases List.mem_append.mp hslot with hslot | hslot
    · exact h.check fields f hP slot hslot
    · exact h'.check fields a hQ slot hslot

/-- A field that must not be left out. -/
theorem Reads.required (name : String) (decoder : Decoder α) :
    (Record.required name decoder).Reads fun fields a =>
      ∃ value, Table.get? name fields = some value ∧ decoder.ofJson value = .ok a where
  build_iff absent fields a rest others := by
    simp only [Record.required, field, List.map_cons, List.map_nil, List.cons_append,
      List.nil_append]
    cases Table.get? name fields with
    | none => simp
    | some value =>
      simp only [map_eq_ok_iff, Prod.mk.injEq, Option.some.injEq, exists_eq_left']
      exact ⟨fun ⟨_, hread, rfl, hrest⟩ => ⟨hrest.symm, hread⟩,
        fun ⟨hrest, hread⟩ => ⟨a, hread, rfl, hrest.symm⟩⟩
  check := by
    rintro fields a ⟨value, hget, hread⟩ slot hslot other hother
    obtain rfl : slot = _ := by simpa only [Record.required, field, List.mem_singleton] using hslot
    rw [hget] at hother
    cases hother
    simp [hread]

/-- A field with a default. -/
theorem Reads.withDefault (name : String) (decoder : Decoder α) (default : α) :
    (Record.withDefault name decoder default).Reads fun fields a =>
      (Table.get? name fields).elim (a = default) (decoder.ofJson · = .ok a) where
  build_iff absent fields a rest others := by
    simp only [Record.withDefault, field, List.map_cons, List.map_nil, List.cons_append,
      List.nil_append]
    cases Table.get? name fields with
    | none => simp [and_comm, eq_comm]
    | some value =>
      simp only [map_eq_ok_iff, Prod.mk.injEq]
      exact ⟨fun ⟨_, hread, rfl, hrest⟩ => ⟨hrest.symm, hread⟩,
        fun ⟨hrest, hread⟩ => ⟨a, hread, rfl, hrest.symm⟩⟩
  check := by
    intro fields a h slot hslot other hother
    obtain rfl : slot = _ := by
      simpa only [Record.withDefault, field, List.mem_singleton] using hslot
    have hget : Table.get? name fields = some other := hother
    rw [hget] at h
    simp [show decoder.ofJson other = .ok a from h]

/-- A record is read from an object without repeated keys exactly if what is made of its fields
has the property that the fields stand for. -/
theorem Plain.ofFields_eq_ok_iff (h : record.Plain) {P : Fields → α → Prop}
    (hreads : record.Reads P) (hkeys : (Table.keys fields).Nodup) {a : α} :
    record.ofFields fields = .ok a ↔ P fields a := by
  have hnone : ∀ name ∈ ([] : List String), name ∉ Table.keys fields := by simp
  have hselects := h.exists_select_iff hkeys hnone
  rw [ofFields]
  rcases hselect : record.select [] fields with mismatch | selected
  · refine ⟨nofun, fun ha => ?_⟩
    obtain ⟨selected, hselected⟩ := hselects.mpr (hreads.check fields a ha)
    rw [hselect] at hselected
    cases hselected
  · have hvalues : (record.slots.map fun slot => Table.get? slot.name selected) =
        record.slots.map fun slot => Table.get? slot.name fields :=
      List.map_congr_left fun slot hslot => h.get?_select hselect hslot
    have hbuild := hreads.build_iff (fun slot => .missingField slot.name) fields a []
    simp only [List.append_nil] at hbuild
    simp [hvalues, map_eq_ok_iff, hbuild]

end Record

end Json

end NetworkIntent
