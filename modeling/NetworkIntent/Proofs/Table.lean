import Mathlib.Data.List.Nodup
import Mathlib.Data.String.Basic
import NetworkIntent.Table

/-!
# Laws of tables

How look-up and insertion go together. Ascending tables are determined by their look-ups, and of
entries with one key the last one counts.

## Main definitions

* `Table.Ascending`: every key comes before the keys that follow it.

## Main results

* `Table.get?_insert`, `Table.get?_insertAll`: look-up after insertion.
* `Table.Ascending.insertAll`: insertion keeps a table ascending.
* `Table.Ascending.ext`: ascending tables with the same look-ups are equal.
* `Table.get?_ofEntries_of_nodup`: entries without repeated keys count as they stand.
* `Table.ofEntries_of_ascending`: an ascending table is made of its own entries.
* `Table.Ascending.eq_ofEntries`: a table is made of entries if it has their values and no other
  keys.
-/

set_option autoImplicit false

namespace NetworkIntent.Table

variable {α : Type} {table other entries : Table α} {key k : String} {value v : α}

/-- Every key of the table comes before the keys that follow it. -/
def Ascending (table : Table α) : Prop :=
  (keys table).Pairwise (· < ·)

/-! ## Look-up -/

@[simp] theorem get?_nil (key : String) : get? key ([] : Table α) = none := rfl

/-- The first entry of a table is looked at first. -/
theorem get?_cons (key k : String) (v : α) (table : Table α) :
    get? key ((k, v) :: table) = if k = key then some v else get? key table := rfl

@[simp] theorem get?_cons_self (key : String) (v : α) (table : Table α) :
    get? key ((key, v) :: table) = some v := by
  simp [get?_cons]

/-- A key that the first of two tables has not is looked up in the second one. -/
theorem get?_append (key : String) (table other : Table α) :
    get? key (table ++ other) = (get? key table).or (get? key other) := by
  induction table with
  | nil => rfl
  | cons entry table ih =>
    rw [List.cons_append, get?_cons, get?_cons, ih]
    split <;> rfl

/-- A key that is looked up with success is a key of the table. -/
theorem mem_of_get?_eq_some (h : get? key table = some value) : (key, value) ∈ table := by
  induction table with
  | nil => simp at h
  | cons entry table ih =>
    obtain ⟨k, v⟩ := entry
    rw [get?_cons] at h
    split at h
    · next hk =>
      obtain rfl := hk
      cases h
      exact List.mem_cons_self
    · exact List.mem_cons_of_mem _ (ih h)

/-- A key is looked up without success exactly if no entry has it. -/
theorem get?_eq_none_iff : get? key table = none ↔ key ∉ keys table := by
  induction table with
  | nil => simp [keys]
  | cons entry table ih =>
    obtain ⟨k, v⟩ := entry
    rw [get?_cons, keys, List.map_cons, List.mem_cons, not_or, ← keys, ← ih]
    by_cases hk : k = key
    · simp [hk]
    · simp [hk, Ne.symm hk]

/-- If no key is repeated, the entries are found by their keys. -/
theorem get?_eq_some_iff (hkeys : (keys table).Nodup) :
    get? key table = some value ↔ (key, value) ∈ table := by
  refine ⟨mem_of_get?_eq_some, fun hmem => ?_⟩
  induction table with
  | nil => cases hmem
  | cons entry table ih =>
    obtain ⟨k, v⟩ := entry
    obtain ⟨hk, htable⟩ := List.nodup_cons.mp hkeys
    rw [get?_cons]
    rcases List.mem_cons.mp hmem with heq | hmem
    · cases heq
      rw [if_pos rfl]
    · have hkey : key ∈ keys table := List.mem_map.mpr ⟨_, hmem, rfl⟩
      have hne : k ≠ key := fun h => hk (h ▸ hkey)
      rw [if_neg hne, ih htable hmem]

/-! ## Insertion -/

@[simp] theorem insert_nil (key : String) (value : α) : insert key value [] = [(key, value)] := rfl

/-- The inserted key has the inserted value, and all other keys keep their values. -/
theorem get?_insert (key k : String) (v : α) (table : Table α) :
    get? key (insert k v table) = if k = key then some v else get? key table := by
  induction table with
  | nil => simp [get?_cons]
  | cons entry table ih =>
    obtain ⟨l, w⟩ := entry
    rw [insert]
    split_ifs with h₁ h₂ h₂ h₃ h₃
    · simp [h₂]
    · simp [get?_cons, h₂]
    · simp [h₃]
    · obtain rfl := h₂
      simp [get?_cons, h₃]
    · obtain rfl := h₃
      simp [get?_cons, Ne.symm h₂, ih]
    · simp [get?_cons, ih, h₃]

@[simp] theorem insertAll_nil (table : Table α) : insertAll [] table = table := rfl

/-- Entries are inserted one after the other. -/
theorem insertAll_cons (k : String) (v : α) (entries table : Table α) :
    insertAll ((k, v) :: entries) table = insertAll entries (insert k v table) := rfl

/-- The keys of the inserted entries have the values of the table made of these entries, and all
other keys keep their values. -/
theorem get?_insertAll (key : String) (entries table : Table α) :
    get? key (insertAll entries table) = (get? key (ofEntries entries)).or (get? key table) := by
  induction entries generalizing table with
  | nil => simp [ofEntries]
  | cons entry entries ih =>
    obtain ⟨k, v⟩ := entry
    rw [ofEntries, insertAll_cons, insertAll_cons, ih, ih, get?_insert, insert_nil, get?_cons]
    split <;> cases get? key (ofEntries entries) <;> simp

@[simp] theorem get?_ofEntries_nil (key : String) :
    get? key (ofEntries ([] : Table α)) = none := rfl

/-- An entry counts in the table made of it and later entries unless a later one has its key. -/
theorem get?_ofEntries_cons (key k : String) (v : α) (entries : Table α) :
    get? key (ofEntries ((k, v) :: entries)) =
      (get? key (ofEntries entries)).or (if k = key then some v else none) := by
  rw [ofEntries, insertAll_cons, get?_insertAll, insert_nil, get?_cons, get?_nil]

/-- Later entries count before earlier ones. -/
theorem get?_ofEntries_append (key : String) (entries others : Table α) :
    get? key (ofEntries (entries ++ others)) =
      (get? key (ofEntries others)).or (get? key (ofEntries entries)) := by
  rw [← get?_insertAll, ofEntries, ofEntries, insertAll, List.foldl_append]
  rfl

/-- Keys that are renamed to different ones are looked up under their new names. -/
theorem get?_ofEntries_map {rename : String → String} (hrename : rename.Injective) (key : String)
    (entries : Table α) :
    get? (rename key) (ofEntries (entries.map fun entry => (rename entry.1, entry.2))) =
      get? key (ofEntries entries) := by
  induction entries with
  | nil => rfl
  | cons entry entries ih =>
    rw [List.map_cons, get?_ofEntries_cons, ih, get?_ofEntries_cons]
    simp only [hrename.eq_iff]

/-- The table made of entries has exactly their keys. -/
theorem get?_ofEntries_eq_none_iff :
    get? key (ofEntries entries) = none ↔ get? key entries = none := by
  induction entries with
  | nil => simp
  | cons entry entries ih =>
    obtain ⟨k, v⟩ := entry
    rw [get?_ofEntries_cons, get?_cons, Option.or_eq_none_iff, ih]
    split <;> simp

/-- The keys of a table are the ones of the entries that it is made of. -/
theorem mem_keys_ofEntries_iff : key ∈ keys (ofEntries entries) ↔ key ∈ keys entries := by
  rw [← not_iff_not, ← get?_eq_none_iff, get?_ofEntries_eq_none_iff, get?_eq_none_iff]

/-- An entry after insertion is the inserted one or was there before. -/
theorem mem_of_mem_insert {entry : String × α} (h : entry ∈ insert key value table) :
    entry = (key, value) ∨ entry ∈ table := by
  induction table with
  | nil => exact .inl (List.mem_singleton.mp h)
  | cons first table ih =>
    obtain ⟨k, v⟩ := first
    rw [insert] at h
    split_ifs at h with h₁ h₂
    · exact List.mem_cons.mp h
    · exact (List.mem_cons.mp h).imp_right (List.mem_cons_of_mem _)
    · rcases List.mem_cons.mp h with h | h
      · exact .inr (h ▸ List.mem_cons_self)
      · exact (ih h).imp_right (List.mem_cons_of_mem _)

/-- An entry after insertion of several is an inserted one or was there before. -/
theorem mem_of_mem_insertAll {entry : String × α} (h : entry ∈ insertAll entries table) :
    entry ∈ entries ∨ entry ∈ table := by
  induction entries generalizing table with
  | nil => exact .inr h
  | cons first entries ih =>
    rcases ih h with hmem | hmem
    · exact .inl (List.mem_cons_of_mem _ hmem)
    · rcases mem_of_mem_insert hmem with heq | hmem
      · exact .inl (heq ▸ List.mem_cons_self)
      · exact .inr hmem

/-- An entry of a table is one of the entries that the table is made of. -/
theorem mem_of_mem_ofEntries {entry : String × α} (h : entry ∈ ofEntries entries) :
    entry ∈ entries :=
  (mem_of_mem_insertAll h).resolve_right (List.not_mem_nil)

/-! ## Ascending tables -/

@[simp] theorem ascending_nil : Ascending ([] : Table α) := List.Pairwise.nil

/-- The keys after the first one of an ascending table are greater. -/
theorem ascending_cons_iff :
    Ascending ((k, v) :: table) ↔ (∀ l ∈ keys table, k < l) ∧ Ascending table :=
  List.pairwise_cons

/-- Insertion adds no other key than the inserted one. -/
theorem mem_keys_insert {l : String} (h : l ∈ keys (insert key value table)) :
    l = key ∨ l ∈ keys table := by
  by_contra hn
  push Not at hn
  have hnone : get? l table = none := get?_eq_none_iff.mpr hn.2
  have : get? l (insert key value table) = none := by
    rw [get?_insert, if_neg (Ne.symm hn.1), hnone]
  exact get?_eq_none_iff.mp this h

/-- Insertion keeps a table ascending. -/
theorem Ascending.insert (h : Ascending table) (key : String) (value : α) :
    Ascending (insert key value table) := by
  induction table with
  | nil => exact ascending_cons_iff.mpr ⟨by simp [keys], ascending_nil⟩
  | cons entry table ih =>
    obtain ⟨k, v⟩ := entry
    obtain ⟨hk, htable⟩ := ascending_cons_iff.mp h
    rw [Table.insert]
    split_ifs with h₁ h₂
    · refine ascending_cons_iff.mpr ⟨fun l hl => ?_, h⟩
      rcases List.mem_cons.mp hl with rfl | hl
      · exact h₁
      · exact h₁.trans (hk l hl)
    · obtain rfl := h₂
      exact ascending_cons_iff.mpr ⟨hk, htable⟩
    · refine ascending_cons_iff.mpr ⟨fun l hl => ?_, ih htable⟩
      rcases mem_keys_insert hl with rfl | hl
      · exact lt_of_le_of_ne (not_lt.mp h₁) (Ne.symm h₂)
      · exact hk l hl

/-- Insertion of several entries keeps a table ascending. -/
theorem Ascending.insertAll (h : Ascending table) (entries : Table α) :
    Ascending (insertAll entries table) := by
  induction entries generalizing table with
  | nil => exact h
  | cons entry entries ih => exact ih (h.insert entry.1 entry.2)

/-- The table made of entries is ascending. -/
theorem ascending_ofEntries (entries : Table α) : Ascending (ofEntries entries) :=
  ascending_nil.insertAll entries

/-- The first key of an ascending table does not come again. -/
theorem Ascending.get?_tail_eq_none (h : Ascending ((k, v) :: table)) : get? k table = none :=
  get?_eq_none_iff.mpr fun hk => lt_irrefl k ((ascending_cons_iff.mp h).1 k hk)

/-- **Ascending tables are determined by their look-ups.**

**Proof sketch.** Induction on both tables. The first keys must be equal, since each is a key of the
other table and so not less than its first key; with the first entries taken away the look-ups still
agree, because the first key does not come again in either table. -/
theorem Ascending.ext (h : Ascending table) (h' : Ascending other)
    (hget : ∀ key, get? key table = get? key other) : table = other := by
  induction table generalizing other with
  | nil =>
    cases other with
    | nil => rfl
    | cons entry other =>
      obtain ⟨k, v⟩ := entry
      simpa using hget k
  | cons entry table ih =>
    obtain ⟨k, v⟩ := entry
    cases other with
    | nil => simpa using hget k
    | cons entry' other =>
      obtain ⟨l, w⟩ := entry'
      have hkl : k = l := by
        have hk := mem_of_get?_eq_some ((hget k).symm.trans (get?_cons_self k v table))
        have hl := mem_of_get?_eq_some ((hget l).trans (get?_cons_self l w other))
        rcases List.mem_cons.mp hk with hk | hk
        · exact congrArg Prod.fst hk
        · rcases List.mem_cons.mp hl with hl | hl
          · exact (congrArg Prod.fst hl).symm
          · have h₁ := (ascending_cons_iff.mp h').1 k (List.mem_map_of_mem hk)
            have h₂ := (ascending_cons_iff.mp h).1 l (List.mem_map_of_mem hl)
            exact absurd (h₁.trans h₂) (lt_irrefl l)
      obtain rfl := hkl
      have hv : v = w := by simpa using hget k
      obtain rfl := hv
      congr 1
      refine ih (ascending_cons_iff.mp h).2 (ascending_cons_iff.mp h').2 fun key => ?_
      by_cases hkey : k = key
      · rw [← hkey, h.get?_tail_eq_none, h'.get?_tail_eq_none]
      · simpa [get?_cons, hkey] using hget key

/-- Entries without repeated keys count as they stand. -/
theorem get?_ofEntries_of_nodup (h : (keys entries).Nodup) (key : String) :
    get? key (ofEntries entries) = get? key entries := by
  induction entries with
  | nil => rfl
  | cons entry entries ih =>
    obtain ⟨k, v⟩ := entry
    obtain ⟨hk, hentries⟩ := List.nodup_cons.mp h
    rw [get?_ofEntries_cons, ih hentries, get?_cons]
    split
    · next hkey =>
      obtain rfl := hkey
      rw [get?_eq_none_iff.mpr hk, Option.none_or]
    · simp

/-- Entries without repeated keys are the entries of the table made of them. -/
theorem mem_ofEntries_iff_of_nodup (h : (keys entries).Nodup) {entry : String × α} :
    entry ∈ ofEntries entries ↔ entry ∈ entries := by
  obtain ⟨key, value⟩ := entry
  have hnodup : (keys (ofEntries entries)).Nodup := List.Pairwise.nodup (ascending_ofEntries entries)
  rw [← get?_eq_some_iff hnodup, ← get?_eq_some_iff h, get?_ofEntries_of_nodup h]

/-- The table made of entries without repeated keys consists of these entries. -/
theorem ofEntries_perm_of_nodup (h : (keys entries).Nodup) : (ofEntries entries).Perm entries := by
  have hkeys : (keys (ofEntries entries)).Nodup := List.Pairwise.nodup (ascending_ofEntries entries)
  rw [List.perm_ext_iff_of_nodup hkeys.of_map h.of_map]
  exact fun entry => mem_ofEntries_iff_of_nodup h

/-- No key of an ascending table is repeated. -/
theorem Ascending.nodup (h : Ascending table) : (keys table).Nodup :=
  List.Pairwise.nodup h

/-- In an ascending table the entries count as they stand. -/
theorem get?_ofEntries_of_ascending (h : Ascending entries) (key : String) :
    get? key (ofEntries entries) = get? key entries :=
  get?_ofEntries_of_nodup h.nodup key

/-- Some entries of an ascending table are an ascending table. -/
theorem Ascending.filter (h : Ascending table) (p : String × α → Bool) :
    Ascending (table.filter p) :=
  h.sublist (List.filter_sublist.map Prod.fst)

/-- Of the entries with chosen keys, those are found whose keys are looked up. -/
theorem get?_filter (p : String → Bool) (key : String) (table : Table α) :
    get? key (table.filter fun entry => p entry.1) = if p key then get? key table else none := by
  induction table with
  | nil => simp
  | cons entry table ih =>
    obtain ⟨k, v⟩ := entry
    rw [List.filter_cons, get?_cons]
    by_cases hk : k = key
    · subst hk
      by_cases hp : p k = true
      · simp [hp]
      · simp [hp, ih]
    · by_cases hp : p k = true
      · rw [if_pos hp, get?_cons, if_neg hk, ih, if_neg hk]
      · rw [if_neg hp, ih, if_neg hk]

/-- An ascending table is made of its own entries. -/
theorem ofEntries_of_ascending (h : Ascending entries) : ofEntries entries = entries :=
  (ascending_ofEntries entries).ext h (get?_ofEntries_of_ascending h)

/-- An ascending table is made of entries if it has the value of each of them under its key, and no
other key. -/
theorem Ascending.eq_ofEntries (h : Ascending table)
    (hkeys : ∀ key ∈ keys table, key ∈ keys entries)
    (hget : ∀ key value, (key, value) ∈ entries → get? key table = some value) :
    table = ofEntries entries := by
  refine h.ext (ascending_ofEntries entries) fun key => ?_
  rcases hentry : get? key (ofEntries entries) with _ | value
  · have hnone : key ∉ keys entries :=
      get?_eq_none_iff.mp (get?_ofEntries_eq_none_iff.mp hentry)
    exact get?_eq_none_iff.mpr fun hmem => hnone (hkeys key hmem)
  · exact hget key value (mem_of_mem_ofEntries (mem_of_get?_eq_some hentry))

end NetworkIntent.Table
