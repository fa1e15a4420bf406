import NetworkIntent.Artifact.Store
import NetworkIntent.Derivation
import NetworkIntent.IntentSource
import NetworkIntent.Publication.Publisher
import NetworkIntent.Validation

/-!
# Compiling an intent

What is done with an intent as a whole: its service document is stored, its variables are derived
and stored, or it is published. Nothing is written and nothing is published unless the intent has
passed the gate, and variables have to pass a gate of their own.

## Main definitions

* `Compiler`: the schemas and the store that runs work with.
* `Compilation.Fault`: why a run fails.
* `Compilation.variablesDocument`: an intent with its variables as one document.
* `Compiler.loadIntent`, `Compiler.compileServices`, `Compiler.compileVariables`,
  `Compiler.publish`: the runs.
-/

set_option autoImplicit false

namespace NetworkIntent

namespace Compilation

/-- Why a run fails. -/
inductive Fault where
  | source (cause : IntentSource.Fault)
  | validation (cause : Validation.Fault)
  | derivation (cause : Derivation.Fault)
  | store (cause : Store.Fault)
  | publication (failure : Publication.Failure)
  deriving DecidableEq

/-- The descriptions of why a run fails: of the failure itself, and of what lies behind it. -/
def Fault.messages : Fault → List String
  | .source cause => cause.message :: cause.cause?.toList
  | .validation cause => [cause.message]
  | .derivation cause => [cause.message, cause.cause]
  | .store cause => cause.message :: cause.cause?.toList
  | .publication failure =>
    failure.message :: failure.cause.message :: failure.cause.cause?.toList

/-- The entries of an object under keys that start with a word and a colon. -/
def prefixed (word : String) (document : Json) : Fields :=
  document.entries.map fun (key, value) => (s!"{word}:{key}", value)

/-- The document of an intent with its variables. The variables take the place of entries with their
keys. -/
def variablesDocument (document : Json) (routing : Routing.Document)
    (switching : Switching.Document) : Json :=
  .obj (Table.insertAll (prefixed "switching" switching.toJson)
    (Table.insertAll (prefixed "routing" routing.toJson) document.entries))

end Compilation

open Compilation

/-- The schemas that documents are judged by, and the store for what is made of them. -/
structure Compiler where
  schemas : SchemaDirectory
  store : Store
  deriving DecidableEq, Repr

namespace Compiler

variable {σ : Type}

/-- A run over the files and over a state of whoever answers questions. -/
abbrev Run (σ α : Type) := Action (FileTree × σ) Compilation.Fault α

/-- Looks at the files. -/
def onFiles {ε α : Type} (tell : ε → Compilation.Fault) (look : FileTree → Except ε α) :
    Run σ α :=
  .step fun (tree, state) => ((look tree).mapError tell, tree, state)

/-- Works on the files. -/
def withFiles {ε α : Type} (tell : ε → Compilation.Fault) (action : Action FileTree ε α) :
    Run σ α :=
  .step fun (tree, state) =>
    let (result, tree) := action.perform tree
    (result.mapError tell, tree, state)

/-- Asks somebody, who may look at the files. -/
def asking {ε α : Type} (tell : ε → Compilation.Fault) (question : FileTree → Action σ ε α) :
    Run σ α :=
  .step fun (tree, state) =>
    let (result, state) := (question tree).perform state
    (result.mapError tell, tree, state)

/-- Lets a document pass if it obeys a schema. -/
def gate (compiler : Compiler) (name : SchemaName) (document : Json) : Run σ Unit :=
  onFiles .validation fun tree => compiler.schemas.validate tree name document

/-- The intent of a source with its document, if it passes the gate. -/
def loadIntent (compiler : Compiler) (source : IntentSource σ) : Run σ (Json × Intent) := do
  let document ← asking .source source.serviceDocument
  compiler.gate .services document
  let intent ← onFiles (fun mismatch => .validation (.malformed (Json.Mismatch.message mismatch)))
    fun _ => Intent.ofDocument document
  return (document, intent)

/-- Stores the service document of an intent. The result tells the path of the document. -/
def compileServices (compiler : Compiler) (source : IntentSource σ) : Run σ String := do
  let (document, _) ← compiler.loadIntent source
  withFiles .store (compiler.store.write .service document)

/-- Derives and stores the variables of an intent. The result tells the paths of the routing and
switching variables. -/
def compileVariables (compiler : Compiler) (source : IntentSource σ) (inventory : Inventory σ) :
    Run σ (String × String) := do
  let (document, intent) ← compiler.loadIntent source
  let routing ← asking .derivation fun _ => Derivation.routing inventory intent
  let switching ← asking .derivation fun _ => Derivation.switching inventory intent
  compiler.gate .deployment (variablesDocument document routing switching)
  let routingPath ← onFiles .store fun _ => compiler.store.pathOf .routing
  let switchingPath ← onFiles .store fun _ => compiler.store.pathOf .switching
  let _ ← withFiles .store
    (compiler.store.writeAll [(.routing, routing.toJson), (.switching, switching.toJson)])
  return (routingPath, switchingPath)

/-- Publishes an intent at an instant. -/
def publish (compiler : Compiler) (source : IntentSource σ) (publisher : Publisher)
    (control : VersionControl σ) (seconds : Int) : Run σ Publication.Outcome := do
  let (sites, vpns) ← asking .source source.documents
  compiler.gate .services (mergeDocuments sites vpns)
  asking .publication fun _ => publisher.publish control seconds sites vpns

end Compiler

end NetworkIntent
