import NetworkIntent.Intent.Document
import NetworkIntent.Proofs.Json.Storable

/-!
# Laws of service documents

What the documents made by merging and by renaming keys carry under each key. The entries of an
object are looked at through the table made of them, so nothing is asked of their order.

## Main definitions

* `Json.lookup?`: the value of a key of an object, of whose entries with one key the last one
  counts.
* `Json.ClashFree`: no collection stands under both of its keys.

## Main results

* `get?_mergeDocuments`: what a merged document carries.
* `renameKeys_eq_ok_iff`: documents are renamed exactly if they are free of clashes.
* `get?_key_of_renameKeys`, `get?_other_of_renameKeys`, `get?_of_renameKeys`: what a renamed
  document carries.
* `renameKeys_renameKeys`: of two renamings the last one counts.
* `storable_renameKeys`, `storable_mergeDocuments`: storable documents stay storable.
-/

set_option autoImplicit false

namespace NetworkIntent

variable {form : KeyForm} {document renamed : Json} {key : String}

/-! ## Entries -/

/-- The value of a key of an object. Of entries with one key the last one counts. -/
def Json.lookup? (key : String) (document : Json) : Option Json :=
  Table.get? key (Table.ofEntries document.entries)

/-- In an object with ascending keys the entries count as they stand. -/
theorem Json.lookup?_of_ascending (h : Table.Ascending document.entries) (key : String) :
    document.lookup? key = document.get? key := by
  rw [lookup?, Table.get?_ofEntries_of_ascending h]
  cases document <;> rfl

/-- An object has a key exactly if one of its entries has it. -/
theorem Json.lookup?_obj_eq_none_iff (fields : Fields) :
    (Json.obj fields).lookup? key = none ↔ Table.contains key fields = false := by
  rw [lookup?, Table.get?_ofEntries_eq_none_iff, Table.contains]
  change Table.get? key fields = none ↔ _
  cases Table.get? key fields <;> simp

/-- The merged document carries what the second document carries, and what the first one carries
under other keys. -/
theorem get?_mergeDocuments (key : String) (sites vpns : Json) :
    (mergeDocuments sites vpns).get? key = (vpns.lookup? key).or (sites.lookup? key) := by
  rw [mergeDocuments, Json.get?, Table.get?_insertAll]
  rfl

/-- The keys of a merged document are ascending. -/
theorem ascending_mergeDocuments (sites vpns : Json) :
    Table.Ascending (mergeDocuments sites vpns).entries :=
  (Table.ascending_nil.insertAll _).insertAll _

/-! ## Keys of collections -/

/-- The keys of collections are all different. -/
theorem Collection.key_inj {form form' : KeyForm} {c c' : Collection}
    (h : c.key form = c'.key form') : form = form' ∧ c = c' := by
  revert h
  cases form <;> cases form' <;> cases c <;> cases c' <;> decide

/-- No form of keys is its own other form. -/
theorem KeyForm.other_ne (form : KeyForm) : form.other ≠ form := by
  cases form <;> decide

/-- A key is renamed to the key of a collection exactly if it is one of its keys. -/
theorem renameKey_eq_key_iff (c : Collection) :
    renameKey form key = c.key form ↔ key = c.key form ∨ key = c.key form.other := by
  unfold renameKey
  split
  · next c' hfound =>
    have hkey : key = c'.key form.other := by simpa using List.find?_some hfound
    refine ⟨fun h => .inr ?_, fun h => ?_⟩
    · rw [hkey, (Collection.key_inj h).2]
    · rcases h with h | h
      · exact absurd (Collection.key_inj (hkey.symm.trans h)).1 form.other_ne
      · rw [(Collection.key_inj (hkey.symm.trans h)).2]
  · next hfound =>
    refine ⟨.inl, fun h => h.resolve_right fun hkey => ?_⟩
    have := List.find?_eq_none.mp hfound c (by cases c <;> decide)
    simp [hkey] at this

/-- No key is renamed to a key of the other form. -/
theorem renameKey_ne_other (c : Collection) : renameKey form key ≠ c.key form.other := by
  unfold renameKey
  split
  · exact fun h => form.other_ne (Collection.key_inj h).1.symm
  · next hfound =>
    have := List.find?_eq_none.mp hfound c (by cases c <;> decide)
    simpa using this

/-- A key is renamed to a key that belongs to no collection exactly if it is that key. -/
theorem renameKey_eq_iff {target : String} (h : ∀ form c, target ≠ Collection.key form c) :
    renameKey form key = target ↔ key = target := by
  unfold renameKey
  split
  · next c' hfound =>
    have hkey : key = c'.key form.other := by simpa using List.find?_some hfound
    exact ⟨fun he => absurd he.symm (h form c'),
      fun he => absurd (he.symm.trans hkey) (h form.other c')⟩
  · rfl

/-! ## Renaming -/

/-- No collection stands under both of its keys. -/
def Json.ClashFree (document : Json) : Prop :=
  ∀ c : Collection,
    document.lookup? (c.key .qualified) = none ∨ document.lookup? (c.key .plain) = none

/-- A document that is free of clashes lacks one key of a collection, whichever form comes first. -/
theorem Json.ClashFree.either (h : document.ClashFree) (form : KeyForm) (c : Collection) :
    document.lookup? (c.key form) = none ∨ document.lookup? (c.key form.other) = none := by
  cases form
  · exact h c
  · exact (h c).symm

/-- A collection has no clash of keys exactly if one of its keys is missing. -/
theorem Collection.clash?_eq_none_iff (form : KeyForm) (fields : Fields) (c : Collection) :
    c.clash? form fields = none ↔
      (Json.obj fields).lookup? (c.key form.other) = none ∨
        (Json.obj fields).lookup? (c.key form) = none := by
  rw [Json.lookup?_obj_eq_none_iff, Json.lookup?_obj_eq_none_iff]
  unfold Collection.clash?
  dsimp only
  split
  · next h => simp [h]
  · next h => simpa only [reduceCtorEq, true_iff, not_and_or, Bool.not_eq_true] using h

/-- An object has no clash of keys exactly if it is free of clashes. -/
theorem findSome?_clash?_eq_none_iff (form : KeyForm) (fields : Fields) :
    Collection.all.findSome? (·.clash? form fields) = none ↔ (Json.obj fields).ClashFree := by
  rw [List.findSome?_eq_none_iff]
  refine ⟨fun h c => ?_, fun h c _ => ?_⟩
  · have hc := (c.clash?_eq_none_iff form fields).mp (h c (by cases c <;> decide))
    cases form
    · exact hc.symm
    · exact hc
  · exact (c.clash?_eq_none_iff form fields).mpr (h.either form c).symm

/-- The table of an object with renamed keys. -/
def renamedFields (form : KeyForm) (fields : Fields) : Fields :=
  Table.ofEntries (fields.map fun (key, value) => (renameKey form key, value))

/-- Objects are renamed entry by entry if they are free of clashes. -/
theorem renameKeys_obj {fields : Fields} (h : (Json.obj fields).ClashFree) (form : KeyForm) :
    renameKeys form (.obj fields) = .ok (.obj (renamedFields form fields)) := by
  rw [renameKeys, (findSome?_clash?_eq_none_iff form fields).mpr h]
  rfl

/-- A document can be renamed exactly if it is free of clashes. -/
theorem renameKeys_eq_ok_iff (form : KeyForm) (document : Json) :
    (∃ renamed, renameKeys form document = .ok renamed) ↔ document.ClashFree := by
  cases document with
  | obj fields =>
    refine ⟨fun ⟨renamed, h⟩ => ?_, fun h => ⟨_, renameKeys_obj h form⟩⟩
    rw [← findSome?_clash?_eq_none_iff form]
    rw [renameKeys] at h
    split at h
    · simp at h
    · next hnone => exact hnone
  | _ => exact ⟨fun _ _ => .inl rfl, fun _ => ⟨_, rfl⟩⟩

/-- An object has a renamed form exactly if it is free of clashes, and then it is the one that is
renamed entry by entry. -/
theorem renameKeys_obj_eq_ok_iff {fields : Fields} :
    renameKeys form (.obj fields) = .ok renamed ↔
      (Json.obj fields).ClashFree ∧ renamed = .obj (renamedFields form fields) := by
  constructor
  · intro h
    have hfree := (renameKeys_eq_ok_iff form _).mp ⟨renamed, h⟩
    rw [renameKeys_obj hfree form] at h
    exact ⟨hfree, (Except.ok.inj h).symm⟩
  · rintro ⟨hfree, rfl⟩
    exact renameKeys_obj hfree form

/-- If among the keys of the entries just one becomes the given key, it keeps its value. -/
private theorem get?_renamedFields {fields : Fields} {target source : String}
    (h : ∀ k ∈ Table.keys fields, renameKey form k = target ↔ k = source) :
    Table.get? target (renamedFields form fields) =
      Table.get? source (Table.ofEntries fields) := by
  induction fields with
  | nil => rfl
  | cons entry fields ih =>
    obtain ⟨k, v⟩ := entry
    have htail := ih fun l hl => h l (List.mem_cons_of_mem _ hl)
    rw [renamedFields] at htail ⊢
    rw [List.map_cons, Table.get?_ofEntries_cons, htail, Table.get?_ofEntries_cons]
    simp only [h k List.mem_cons_self]

/-- A renamed document has each collection under the key of the new form, whichever key it had
before. -/
theorem get?_key_of_renameKeys (h : renameKeys form document = .ok renamed) (c : Collection) :
    renamed.get? (c.key form) =
      (document.lookup? (c.key form)).or (document.lookup? (c.key form.other)) := by
  cases document with
  | obj fields =>
    obtain ⟨hfree, rfl⟩ := renameKeys_obj_eq_ok_iff.mp h
    have habsent : ∀ {key}, (Json.obj fields).lookup? key = none → key ∉ Table.keys fields := by
      intro key hkey
      exact Table.get?_eq_none_iff.mp (Table.get?_ofEntries_eq_none_iff.mp hkey)
    rcases hfree.either form c with hnone | hnone
    · rw [hnone, Option.none_or]
      refine get?_renamedFields fun k hk => ?_
      rw [renameKey_eq_key_iff, or_iff_right]
      rintro rfl
      exact habsent hnone hk
    · rw [hnone, Option.or_none]
      refine get?_renamedFields fun k hk => ?_
      rw [renameKey_eq_key_iff, or_iff_left]
      rintro rfl
      exact habsent hnone hk
  | _ => cases h; rfl

/-- A renamed document has no key of the old form. -/
theorem get?_other_of_renameKeys (h : renameKeys form document = .ok renamed) (c : Collection) :
    renamed.get? (c.key form.other) = none := by
  cases document with
  | obj fields =>
    obtain ⟨hfree, rfl⟩ := renameKeys_obj_eq_ok_iff.mp h
    rw [Json.get?, renamedFields, Table.get?_ofEntries_eq_none_iff, Table.get?_eq_none_iff]
    intro hmem
    simp only [Table.keys, List.map_map, List.mem_map] at hmem
    obtain ⟨⟨k, v⟩, -, hk⟩ := hmem
    exact renameKey_ne_other c hk
  | _ => cases h; rfl

/-- A renamed document has the same values under all other keys. -/
theorem get?_of_renameKeys (h : renameKeys form document = .ok renamed)
    (hkey : ∀ form c, key ≠ Collection.key form c) : renamed.get? key = document.lookup? key := by
  cases document with
  | obj fields =>
    obtain ⟨hfree, rfl⟩ := renameKeys_obj_eq_ok_iff.mp h
    exact get?_renamedFields fun k _ => renameKey_eq_iff hkey
  | _ => cases h; rfl

/-! ## Renaming twice -/

/-- In a document without clashes it does not matter which key of a collection is looked at first.
-/
theorem Json.ClashFree.or_comm (h : document.ClashFree) (form : KeyForm) (c : Collection) :
    (document.lookup? (c.key form)).or (document.lookup? (c.key form.other)) =
      (document.lookup? (c.key .qualified)).or (document.lookup? (c.key .plain)) := by
  cases form with
  | qualified => rfl
  | plain =>
    change (document.lookup? (c.key .plain)).or (document.lookup? (c.key .qualified)) = _
    rcases h c with hnone | hnone <;> simp [hnone]

/-- A document in which no collection has its other key is free of clashes. -/
theorem Json.clashFree_of_absent
    (h : ∀ c : Collection, document.lookup? (c.key form.other) = none) : document.ClashFree := by
  intro c
  cases form with
  | qualified => exact .inr (h c)
  | plain => exact .inl (h c)

/-- The renamed form of an object is the object with ascending keys that carries each collection
under its new key, none under the other one, and everything else as before. -/
theorem renameKeys_obj_eq {fields fields' : Fields} (hfree : (Json.obj fields).ClashFree)
    (hascending : Table.Ascending fields')
    (hkey : ∀ c : Collection, (Json.obj fields').get? (c.key form) =
      ((Json.obj fields).lookup? (c.key .qualified)).or ((Json.obj fields).lookup? (c.key .plain)))
    (hother : ∀ c : Collection, (Json.obj fields').get? (c.key form.other) = none)
    (hrest : ∀ key, (∀ form c, key ≠ Collection.key form c) →
      (Json.obj fields').get? key = (Json.obj fields).lookup? key) :
    renameKeys form (.obj fields) = .ok (.obj fields') := by
  have hrenamed := renameKeys_obj hfree form
  rw [hrenamed]
  congr 2
  refine (Table.ascending_ofEntries _).ext hascending fun key => ?_
  change (Json.obj (renamedFields form fields)).get? key = (Json.obj fields').get? key
  by_cases hcollection : ∃ form' c, key = Collection.key form' c
  · obtain ⟨form', c, rfl⟩ := hcollection
    by_cases hform : form' = form
    · rw [hform, get?_key_of_renameKeys hrenamed c, hfree.or_comm, hkey]
    · have hform' : form' = form.other := by
        cases form <;> cases form' <;> first | rfl | exact absurd rfl hform
      rw [hform', get?_other_of_renameKeys hrenamed c, hother]
  · have hne : ∀ form' c, key ≠ Collection.key form' c := fun form' c heq =>
      hcollection ⟨form', c, heq⟩
    rw [get?_of_renameKeys hrenamed hne, hrest key hne]

/-- A document in which no collection has the other key is its own renamed form. -/
theorem renameKeys_of_absent (hascending : Table.Ascending document.entries)
    (h : ∀ c : Collection, document.get? (c.key form.other) = none) :
    renameKeys form document = .ok document := by
  cases document with
  | obj fields =>
    have hentry := Json.lookup?_of_ascending hascending
    have habsent : ∀ c : Collection, (Json.obj fields).lookup? (c.key form.other) = none :=
      fun c => (hentry _).trans (h c)
    have hfree := Json.clashFree_of_absent habsent
    refine renameKeys_obj_eq hfree hascending (fun c => ?_) h fun key _ => (hentry key).symm
    rw [← hfree.or_comm form, habsent, Option.or_none, hentry]
  | _ => rfl

/-- Of two renamings the last one counts.

**Proof sketch.** A renamed document has no key of the other form, so it is free of clashes. Both
renamings carry each collection under the same key, with the one value that it has in the document,
and all else is as in the document. -/
theorem renameKeys_renameKeys {form' : KeyForm} (h : renameKeys form document = .ok renamed) :
    renameKeys form' renamed = renameKeys form' document := by
  cases document with
  | obj fields =>
    obtain ⟨hfree, rfl⟩ := renameKeys_obj_eq_ok_iff.mp h
    have hascending : Table.Ascending (renamedFields form fields) := Table.ascending_ofEntries _
    have hentry : ∀ key, (Json.obj (renamedFields form fields)).lookup? key =
        (Json.obj (renamedFields form fields)).get? key := Json.lookup?_of_ascending hascending
    have hkey : ∀ c : Collection, (Json.obj (renamedFields form fields)).lookup? (c.key form) =
        ((Json.obj fields).lookup? (c.key .qualified)).or
          ((Json.obj fields).lookup? (c.key .plain)) :=
      fun c => by rw [hentry, get?_key_of_renameKeys h c, hfree.or_comm]
    have hother : ∀ c : Collection,
        (Json.obj (renamedFields form fields)).lookup? (c.key form.other) = none :=
      fun c => by rw [hentry, get?_other_of_renameKeys h c]
    have hfree' := Json.clashFree_of_absent hother
    rw [renameKeys_obj hfree form']
    refine renameKeys_obj_eq hfree' (Table.ascending_ofEntries _) (fun c => ?_)
      (get?_other_of_renameKeys (renameKeys_obj hfree form')) fun key hne => ?_
    · rw [get?_key_of_renameKeys (renameKeys_obj hfree form') c, hfree.or_comm,
        ← hfree'.or_comm form, hkey, hother, Option.or_none]
    · rw [get?_of_renameKeys (renameKeys_obj hfree form') hne, hentry,
        get?_of_renameKeys h hne]
  | _ => cases h; rfl

/-! ## Storable documents -/

/-- A document with renamed keys is as storable as the document. -/
theorem storable_renameKeys (hstorable : document.Storable)
    (h : renameKeys form document = .ok renamed) : renamed.Storable := by
  cases document with
  | obj fields =>
    obtain ⟨-, rfl⟩ := renameKeys_obj_eq_ok_iff.mp h
    refine Json.storable_ofEntries fun entry hentry => ?_
    obtain ⟨⟨key, value⟩, hmem, rfl⟩ := List.mem_map.mp hentry
    exact ((Json.storable_obj_iff fields).mp hstorable).2 (key, value) hmem
  | _ => cases h; exact hstorable

/-- The values of a storable document are storable one level further down. -/
theorem Json.Storable.storableWithin (h : document.Storable) {entry : String × Json}
    (hentry : entry ∈ document.entries) : entry.2.StorableWithin := by
  cases document with
  | obj fields => exact ((storable_obj_iff fields).mp h).2 entry hentry
  | _ => simp [entries] at hentry

/-- Two storable documents are storable as one. -/
theorem storable_mergeDocuments {sites vpns : Json} (hsites : sites.Storable)
    (hvpns : vpns.Storable) : (mergeDocuments sites vpns).Storable := by
  refine (Json.storable_obj_iff _).mpr ⟨ascending_mergeDocuments sites vpns, fun entry hentry => ?_⟩
  rcases Table.mem_of_mem_insertAll hentry with hmem | hmem
  · exact hvpns.storableWithin hmem
  · exact hsites.storableWithin (Table.mem_of_mem_ofEntries hmem)

end NetworkIntent
