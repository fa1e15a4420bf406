import NetworkIntent.FileTree.Basic
import NetworkIntent.Intent.Document
import NetworkIntent.Json.Reader

/-!
# Sources of an intent

Where the documents of sites and VPNs come from: files, or a service that has them. The two
documents are always read in this order.

## Main definitions

* `IntentSource`: a source of both documents.
* `IntentSource.Fault`: why a document cannot be had.
* `IntentSource.serviceDocument`: both documents as one.
* `IntentSource.files`: two files as a source.
-/

set_option autoImplicit false

namespace NetworkIntent

namespace IntentSource

/-- Why a document cannot be had. -/
inductive Fault where
  /-- A file cannot be read. -/
  | file (path : String) (cause : FileTree.Fault)
  /-- A file holds no document. -/
  | notJson (path : String) (cause : Json.Fault)
  /-- A service does not give the document. -/
  | service (reason : String)
  /-- A document has both keys of a collection. -/
  | clash (document : String) (keys : KeyClash)
  deriving DecidableEq, Repr

/-- The description of what lies behind a fault, if anything does. -/
def Fault.cause? : Fault → Option String
  | .file _ cause => some cause.message
  | .notJson _ cause => some cause.message
  | .clash _ keys => some keys.message
  | .service _ => none

/-- The description of a fault. -/
def Fault.message : Fault → String
  | .file path cause => s!"Cannot read intent file {path}: {cause.message}"
  | .notJson path cause => s!"Intent document {path} is not valid JSON: {cause.message}"
  | .service reason => s!"Service database error: {reason}"
  | .clash document keys =>
    s!"Intent document {document} has conflicting keys: {keys.message}"

end IntentSource

/-- A source of the documents of sites and VPNs. The files of the day are at its hand. -/
structure IntentSource (σ : Type) where
  siteDocument : FileTree → Action σ IntentSource.Fault Json
  vpnDocument : FileTree → Action σ IntentSource.Fault Json

namespace IntentSource

variable {σ : Type}

/-- Both documents of a source, the one of sites first. -/
def documents (source : IntentSource σ) (tree : FileTree) : Action σ Fault (Json × Json) := do
  let sites ← source.siteDocument tree
  let vpns ← source.vpnDocument tree
  return (sites, vpns)

/-- Both documents of a source as one. -/
def serviceDocument (source : IntentSource σ) (tree : FileTree) : Action σ Fault Json := do
  let (sites, vpns) ← source.documents tree
  return mergeDocuments sites vpns

/-- The document that a file holds. -/
def readFile (path : String) (tree : FileTree) : Except Fault Json :=
  match tree.readText path with
  | .error cause => .error (.file path cause)
  | .ok text => (Json.parse text).mapError (.notJson path)

/-- Two files as a source. -/
def files (sitePath vpnPath : String) : IntentSource σ where
  siteDocument tree := .ofExcept (readFile sitePath tree)
  vpnDocument tree := .ofExcept (readFile vpnPath tree)

/-- The usual files below a root as a source. -/
def filesBelow (root : String) : IntentSource σ :=
  let services := Path.join root "services"
  files (Path.join services "sites.json") (Path.join services "vpns.json")

end IntentSource

end NetworkIntent
