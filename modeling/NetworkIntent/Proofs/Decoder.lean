import NetworkIntent.Intent.Basic
import NetworkIntent.Proofs.Table

/-!
# Laws of records

What can be said of a document from which a record has been read.

## Main results

* `Json.Record.exists_get?_of_ofFields_required`: a required field is present.
* `Intent.exists_get?_of_ofDocument`: a document that declares an intent has both collections.
-/

set_option autoImplicit false

namespace NetworkIntent

namespace Json.Record

variable {α : Type} {record : Record α} {before : List String} {fields selected : Fields}

/-- A field that is selected comes from an entry whose key stands for it. -/
theorem exists_key_of_select (h : record.select before fields = .ok selected) {name : String}
    (hname : name ∈ Table.keys selected) :
    ∃ key ∈ Table.keys fields, ∃ slot, record.slotOf? key = some slot ∧ slot.name = name := by
  induction fields generalizing before selected with
  | nil =>
    cases h
    simp [Table.keys] at hname
  | cons entry fields ih =>
    obtain ⟨key, document⟩ := entry
    have hlift : (∃ k ∈ Table.keys fields, ∃ slot, record.slotOf? k = some slot ∧
        slot.name = name) → ∃ k ∈ Table.keys ((key, document) :: fields), ∃ slot,
        record.slotOf? k = some slot ∧ slot.name = name := by
      rintro ⟨k, hk, hslot⟩
      exact ⟨k, List.mem_cons_of_mem _ hk, hslot⟩
    rw [select] at h
    split at h
    · exact hlift (ih h hname)
    · next slot hslot =>
      split at h
      · simp at h
      · split at h
        · simp at h
        · rcases hrest : record.select (slot.name :: before) fields with _ | rest
          · simp [hrest] at h
          · rw [hrest] at h
            cases h
            rcases List.mem_cons.mp hname with rfl | hname
            · exact ⟨key, List.mem_cons_self, slot, hslot, rfl⟩
            · exact hlift (ih hrest hname)

/-- A field that must not be left out is present in an object from which it has been read. -/
theorem exists_get?_of_ofFields_required {name : String} {decoder : Decoder α} {a : α}
    (h : (required name decoder).ofFields fields = .ok a) :
    ∃ value, Table.get? name fields = some value := by
  by_contra hnone
  have hnone : Table.get? name fields = none := by
    simpa [← Option.ne_none_iff_exists'] using hnone
  unfold ofFields at h
  split at h
  · simp at h
  · next selected hselect =>
    have habsent : Table.get? name selected = none := by
      rw [Table.get?_eq_none_iff]
      intro hname
      obtain ⟨key, hkey, slot, hslot, -⟩ := exists_key_of_select hselect hname
      have hhas := List.find?_some hslot
      have hmem := List.mem_of_find?_eq_some hslot
      obtain rfl : slot = _ := by simpa only [required, field, List.mem_singleton] using hmem
      have hkey' : name = key := by simpa [Slot.hasKey] using hhas
      exact Table.get?_eq_none_iff.mp hnone (hkey' ▸ hkey)
    simp [required, field, habsent] at h

end Json.Record

/-- A document that declares an intent carries both collections under their qualified keys. -/
theorem Intent.exists_get?_of_ofDocument {fields : Fields} {intent : Intent}
    (h : Intent.ofDocument (.obj fields) = .ok intent) (c : Collection) :
    ∃ value, Table.get? (c.key .qualified) fields = some value := by
  unfold Intent.ofDocument at h
  split at h
  · simp at h
  · next sites hsites =>
    cases c with
    | sites => exact Json.Record.exists_get?_of_ofFields_required hsites
    | vpns =>
      rcases hvpns : vpnsDecoder.ofJson (.obj fields) with _ | vpns
      · simp [hvpns] at h
      · exact Json.Record.exists_get?_of_ofFields_required hvpns

end NetworkIntent
