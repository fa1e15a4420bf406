import NetworkIntent.Intent.Basic

/-!
# Service documents

Sites and VPNs come in documents of their own, which are merged into one. The keys of the two
collections have a qualified form for exchange and a plain form for storage, and a document is taken
from one form to the other by renaming.

## Main definitions

* `mergeDocuments`: two documents as one.
* `renameKeys`: a document with its collections under keys of the given form.
* `KeyClash`: the two keys of a collection that a document carries both.
-/

set_option autoImplicit false

namespace NetworkIntent

/-- The entries of an object. Other documents have none. -/
def Json.entries : Json → Fields
  | .obj fields => fields
  | _ => []

/-- Two documents as one. Where both have a key, the second one counts. -/
def mergeDocuments (sites vpns : Json) : Json :=
  .obj (Table.insertAll vpns.entries (Table.insertAll sites.entries []))

/-- Both keys of a collection: the one to be renamed, and the one that is already there. -/
structure KeyClash where
  key : String
  existing : String
  deriving DecidableEq, Repr

/-- The description of a clash. -/
def KeyClash.message (clash : KeyClash) : String :=
  s!"Document carries both {clash.key} and {clash.existing}"

/-- The other form of a key. -/
def KeyForm.other : KeyForm → KeyForm
  | .qualified => .plain
  | .plain => .qualified

/-- The clash of the keys of a collection, if an object has both of them. -/
def Collection.clash? (form : KeyForm) (fields : Fields) (collection : Collection) :
    Option KeyClash :=
  let old := collection.key form.other
  let new := collection.key form
  if Table.contains old fields ∧ Table.contains new fields then some ⟨old, new⟩ else none

/-- A key in the given form, if it is the key of a collection. -/
def renameKey (form : KeyForm) (key : String) : String :=
  match Collection.all.find? fun collection => key = collection.key form.other with
  | some collection => collection.key form
  | none => key

/-- A document with its collections under keys of the given form. -/
def renameKeys (form : KeyForm) : Json → Except KeyClash Json
  | .obj fields =>
    match Collection.all.findSome? (·.clash? form fields) with
    | some clash => .error clash
    | none => .ok (.ofEntries (fields.map fun (key, value) => (renameKey form key, value)))
  | document => .ok document

end NetworkIntent
