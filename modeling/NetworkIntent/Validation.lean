import NetworkIntent.Intent.Consistency
import NetworkIntent.Schema.Catalog

/-!
# Validation

The gate in front of everything that is made from an intent: a document has to obey its schema, and
a document of an intent has to be consistent besides.

## Main definitions

* `SchemaName`: the schemas.
* `Validation.Fault`: why a document is rejected.
* `SchemaDirectory`: where schemas and their modules are, with `SchemaDirectory.validate`.
-/

set_option autoImplicit false

namespace NetworkIntent

/-- The schemas: the one of intents, the one of intents with their variables, and any other by the
name of its file. -/
inductive SchemaName where
  | services
  | deployment
  | named (file : String)
  deriving DecidableEq, Repr

/-- The file of a schema. -/
def SchemaName.file : SchemaName → String
  | .services => "services.schema.json"
  | .deployment => "variables.schema.json"
  | .named file => file

namespace Validation

/-- Why a document is rejected. -/
inductive Fault where
  /-- The schema cannot be read. -/
  | unavailable (schema reason : String)
  /-- The schema is no schema. -/
  | invalid (schema reason : String)
  /-- The document does not obey the schema. -/
  | violations (schema : String) (breaches : List Schema.Violation)
  /-- The document obeys the schema, but cannot be read as an intent. -/
  | malformed (reason : String)
  /-- The intent is not consistent. -/
  | inconsistent (breach : Intent.Inconsistency)
  deriving DecidableEq

/-- The description of a fault. -/
def Fault.message : Fault → String
  | .unavailable schema reason => s!"Schema {schema} could not be loaded: {reason}"
  | .invalid schema reason => s!"Schema {schema} is invalid: {reason}"
  | .violations schema breaches =>
    s!"Document violates {schema}: "
      ++ "; ".intercalate (breaches.map Schema.Violation.message)
  | .malformed reason => s!"Intent cannot be interpreted: {reason}"
  | .inconsistent breach => breach.message

end Validation

open Validation

/-- The directory of schemas and the directory of their modules. -/
structure SchemaDirectory where
  directory : String
  modules : String
  deriving DecidableEq, Repr

namespace SchemaDirectory

/-- A directory with its modules in a directory below it. -/
def new (directory : String) : SchemaDirectory :=
  ⟨directory, Path.join directory "modules"⟩

/-- The document of a schema. -/
def load (schemas : SchemaDirectory) (tree : FileTree) (schema : SchemaName) :
    Except Fault Json :=
  let path := Path.join schemas.directory schema.file
  match tree.readText path with
  | .error fault => .error (.unavailable schema.file s!"{path}: {fault.message}")
  | .ok text => (Json.parse text).mapError fun fault => .invalid schema.file fault.message

/-- A schema with everything that it refers to. -/
def schema (schemas : SchemaDirectory) (tree : FileTree) (schema : SchemaName) :
    Except Fault Schema := do
  let document ← schemas.load tree schema
  (Schema.load tree schemas.modules document).mapError fun defect =>
    .invalid schema.file defect.message

/-- The intent of a document that obeys its schema, if it is consistent. -/
def checkIntent (document : Json) : Except Fault Unit :=
  match Intent.ofDocument document with
  | .error mismatch => .error (.malformed mismatch.message)
  | .ok intent => intent.checkConsistency.mapError .inconsistent

/-- Judges a document by a schema. -/
def judge (name : SchemaName) (schema : Schema) (document : Json) : Except Fault Unit :=
  match schema.check document with
  | [] =>
    match name with
    | .services => checkIntent document
    | _ => .ok ()
  | violations => .error (.violations name.file violations)

/-- Validates a document by a schema. -/
def validate (schemas : SchemaDirectory) (tree : FileTree) (name : SchemaName)
    (document : Json) : Except Fault Unit := do
  let schema ← schemas.schema tree name
  judge name schema document

end SchemaDirectory

end NetworkIntent
