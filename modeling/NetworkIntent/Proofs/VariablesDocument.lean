import NetworkIntent.Compilation
import NetworkIntent.Proofs.Document

/-!
# The document of an intent with its variables

The gate of variables judges the document of an intent together with them. Each field of the
variables has a prefixed key there, and counts instead of whatever the intent has under that key.

## Main definitions

* `Compilation.prefixedKey`: a key with a word before it.
* `Compilation.Extends`: a document that has been extended with variables.

## Main results

* `Compilation.extends_variablesDocument`: the document that is judged.
-/

set_option autoImplicit false

namespace NetworkIntent.Compilation

variable {word key : String} {document : Json} {table : Fields}

/-! ## Prefixed keys -/

/-- A key with a word and a colon before it. -/
def prefixedKey (word key : String) : String :=
  word ++ ":" ++ key

/-- Different keys are different also with a word before them. -/
theorem prefixedKey_injective (word : String) : (prefixedKey word).Injective := by
  intro key other h
  simpa [prefixedKey] using h

/-- The two words make different keys. -/
theorem prefixedKey_ne (key other : String) :
    prefixedKey "routing" key ≠ prefixedKey "switching" other := by
  intro h
  have hlist := congrArg String.toList h
  simp [prefixedKey] at hlist

/-- An entry under the prefixed key takes the place of one in the table. -/
theorem get?_insertAll_prefixed (word : String) (document : Json) (table : Fields)
    (field : String) :
    Table.get? (prefixedKey word field) (Table.insertAll (prefixed word document) table) =
      (document.lookup? field).or (Table.get? (prefixedKey word field) table) := by
  rw [Table.get?_insertAll]
  congr 1
  exact Table.get?_ofEntries_map (prefixedKey_injective word) field document.entries

/-- All other keys keep what they have in the table. -/
theorem get?_insertAll_prefixed_of_ne
    (h : ∀ field, document.lookup? field ≠ none → key ≠ prefixedKey word field) :
    Table.get? key (Table.insertAll (prefixed word document) table) = Table.get? key table := by
  have hnone : Table.get? key (Table.ofEntries (prefixed word document)) = none := by
    rw [Table.get?_ofEntries_eq_none_iff, Table.get?_eq_none_iff]
    intro hkey
    obtain ⟨_, hentry, hkey⟩ := List.mem_map.mp hkey
    obtain ⟨⟨field, value⟩, hfield, rfl⟩ := List.mem_map.mp hentry
    refine h field ?_ hkey.symm
    rw [Json.lookup?, Ne, Table.get?_ofEntries_eq_none_iff, Table.get?_eq_none_iff, not_not]
    exact List.mem_map_of_mem hfield
  rw [Table.get?_insertAll, hnone, Option.none_or]

/-! ## The extended document -/

/-- The document of an intent has been extended with variables: each field of theirs is under its
prefixed key, whatever was there before, and all other keys are as they were. -/
structure Extends (document : Json) (routing switching : Json) (extended : Json) : Prop where
  ascending : ∃ fields, extended = .obj fields ∧ Table.Ascending fields
  get?_routing : ∀ field value, routing.get? field = some value →
    extended.get? (prefixedKey "routing" field) = some value
  get?_switching : ∀ field value, switching.get? field = some value →
    extended.get? (prefixedKey "switching" field) = some value
  get?_other : ∀ key, (∀ field, routing.get? field ≠ none → key ≠ prefixedKey "routing" field) →
    (∀ field, switching.get? field ≠ none → key ≠ prefixedKey "switching" field) →
    extended.get? key = document.get? key

/-- The document of an intent with its variables is the extended one. -/
theorem extends_variablesDocument (h : Table.Ascending document.entries)
    (routing : Routing.Document) (switching : Switching.Document) :
    Extends document routing.toJson switching.toJson
      (variablesDocument document routing switching) := by
  have hrouting : ∀ field, routing.toJson.lookup? field = routing.toJson.get? field :=
    Json.lookup?_of_ascending (Table.ascending_ofEntries _)
  have hswitching : ∀ field, switching.toJson.lookup? field = switching.toJson.get? field :=
    Json.lookup?_of_ascending (Table.ascending_ofEntries _)
  refine ⟨⟨_, rfl, (h.insertAll _).insertAll _⟩, ?_, ?_, ?_⟩
  · intro field value hfield
    rw [variablesDocument, Json.get?, get?_insertAll_prefixed_of_ne fun _ _ => prefixedKey_ne _ _,
      get?_insertAll_prefixed, hrouting, hfield, Option.some_or]
  · intro field value hfield
    rw [variablesDocument, Json.get?, get?_insertAll_prefixed, hswitching, hfield, Option.some_or]
  · intro key hkey hkey'
    rw [variablesDocument, Json.get?,
      get?_insertAll_prefixed_of_ne fun field hfield => hkey' field (hswitching field ▸ hfield),
      get?_insertAll_prefixed_of_ne fun field hfield => hkey field (hrouting field ▸ hfield)]
    cases document <;> rfl

end NetworkIntent.Compilation
