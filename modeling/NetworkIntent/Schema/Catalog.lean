import NetworkIntent.FileTree.Basic
import NetworkIntent.Json.Reader
import NetworkIntent.Schema.Keyword

/-!
# Schemas in files

The other documents that a schema refers to, directly or through others, are files in a directory of
modules, under the last parts of their addresses.

## Main definitions

* `Schema.Module`: a document with its address and its dialect.
* `Schema.loadModules`: the modules that a document needs.
* `Schema.compile`: the schema of documents.
* `Schema.load`: the schema of a document with the modules it needs.
-/

set_option autoImplicit false

namespace NetworkIntent.Schema

/-- A document with the address under which references know it. -/
structure Module where
  address : Uri
  dialect : Dialect
  document : Json
  deriving DecidableEq

/-! ### Loading -/

/-- Reads the document with an address. -/
def loadDocument (tree : FileTree) (directory : String) (address : Uri) : Except Defect Json :=
  if address.fileName.isEmpty then
    .error (.resource address s!"cannot resolve schema module from {address.text}")
  else
    let path := Path.join directory address.fileName
    match tree.readText path with
    | .error fault => .error (.resource address s!"schema module {path}: {fault.message}")
    | .ok text =>
      match Json.parse text with
      | .error fault => .error (.resource address fault.message)
      | .ok document => .ok document

/-- The name of the dialect of a document, if it has one. -/
def dialectName? (document : Json) : Option String :=
  match document.get? "$schema" with
  | some (.str name) => some name
  | _ => none

/-- The dialect of a document, which is the given one unless the document names its own. -/
def dialectOf (default : Dialect) (document : Json) : Except Defect Dialect :=
  match dialectName? document with
  | none => .ok default
  | some name =>
    match Dialect.ofName? name with
    | some dialect => .ok dialect
    | none => .error (.dialect (Dialect.plainName name))

/-- The dialect of the document that comes first. If its name is unknown it may be the address of a
module that is itself in a known dialect. -/
def mainDialect (tree : FileTree) (directory : String) (document : Json) : Except Defect Dialect :=
  match dialectOf .modern document, dialectName? document with
  | .error defect, some name =>
    match UriReference.parse (Dialect.plainName name).toList with
    | .error _ => .error defect
    | .ok reference =>
      match loadDocument tree directory (Uri.root.resolve reference) with
      | .error _ => .error defect
      | .ok document => dialectOf .modern document
  | found, _ => found

/-- The places that a document refers to, other than the schemas of dialects. -/
def targetsIn (address : Uri) (document : Json) : Except Defect (List Target) :=
  ((referencesOf document).filter fun reference => !Dialect.isOwnReference reference).mapM
    (targetOf address)

/-- Reads the modules with the given places, and the modules that are needed there. At most `fuel`
places and modules are looked at. -/
def loadTargets (tree : FileTree) (directory : String) (dialect : Dialect) :
    (fuel : Nat) → (modules : List Module) → (seen pending : List Target) →
      Except Defect (List Module)
  | _, modules, _, [] => .ok modules
  | 0, modules, _, _ => .ok modules
  | fuel + 1, modules, seen, target :: rest =>
    if seen.contains target then loadTargets tree directory dialect fuel modules seen rest
    else
      match modules.find? (·.address = target.file) with
      | some module => do
        let more ← match resolve target.fragment module.document with
          | .ok part => targetsIn module.address part
          | .error _ => .ok []
        loadTargets tree directory dialect fuel modules (target :: seen) (more ++ rest)
      | none => do
        let document ← loadDocument tree directory target.file
        let module : Module := ⟨target.file, ← dialectOf dialect document, document⟩
        let more ← targetsIn target.file document
        loadTargets tree directory dialect fuel (modules ++ [module]) seen
          (more ++ target :: rest)

mutual

/-- The number of values in a document. -/
def size : Json → Nat
  | .arr items => 1 + sizeItems items
  | .obj fields => 1 + sizeFields fields
  | _ => 1

/-- The number of values in the items of a list. -/
def sizeItems : List Json → Nat
  | [] => 0
  | item :: rest => size item + sizeItems rest

/-- The number of values in the values of an object. -/
def sizeFields : List (String × Json) → Nat
  | [] => 0
  | (_, value) :: rest => size value + sizeFields rest

end

/-- A bound on the number of places that have to be looked at while the modules of a document are
read. There are at most as many references as there are values in the document and bytes in all
files, and each place that they lead to is searched once for further ones. -/
def loadBound (tree : FileTree) (document : Json) : Nat :=
  let references := size document + (tree.files.flatMap Prod.snd).length + tree.files.length + 1
  references * (references + 1)

/-- The modules that a document in a dialect needs, after the document itself. -/
def loadModules (tree : FileTree) (directory : String) (dialect : Dialect) (document : Json) :
    Except Defect (List Module) := do
  let targets ← targetsIn .root document
  loadTargets tree directory dialect (loadBound tree document)
    [⟨.root, dialect, document⟩] [] targets

/-! ### Compiling -/

/-- The rules at a place, where `visit` tells what is wrong with the places that they refer to. -/
def rulesAt (modules : List Module) (visit : Target → Except Defect Unit) (target : Target) :
    Except Defect Rules :=
  match modules.find? (·.address = target.file) with
  | some module => do
    let part ← resolve target.fragment module.document
    rulesOf ⟨module.dialect, module.address, visit⟩ part
  | none =>
    match Dialect.ofName? target.file.text with
    | some dialect => .ok dialect.rules
    | none =>
      .error (.resource target.file
        "Retrieving external resources is not supported once the registry is populated")

/-- Looks for a defect at a place and at those that it refers to. Places on the way to it are not
looked at again, and at most `fuel` of them follow each other. -/
def visit (modules : List Module) :
    (fuel : Nat) → (way : List Target) → Target → Except Defect Unit
  | 0, _, _ => .ok ()
  | fuel + 1, way, target =>
    if way.contains target then .ok ()
    else
      match rulesAt modules (visit modules fuel (target :: way)) target with
      | .error defect => .error defect
      | .ok _ => .ok ()

/-- Finds the rules at the given places and at all places that they refer to. At most `fuel` places
are looked at. -/
def compileTargets (modules : List Module) :
    (fuel : Nat) → (known : List (Target × Rules)) → (pending : List Target) →
      Except Defect (List (Target × Rules))
  | _, known, [] => .ok known
  | 0, known, _ => .ok known
  | fuel + 1, known, target :: rest =>
    if (known.map Prod.fst).contains target then compileTargets modules fuel known rest
    else
      match rulesAt modules (fun _ => .ok ()) target with
      | .error defect => .error defect
      | .ok rules =>
        compileTargets modules fuel (known ++ [(target, rules)]) (rules.targets ++ rest)

/-- The schema of documents, the first of which is the one that is asked for. Each place is compiled
once and refers to at most as many others as there are values in all documents, which bounds the
places to look at. -/
def compile (modules : List Module) : Except Defect Schema := do
  let total := sizeItems (modules.map Module.document) + 1
  let main : Target := ⟨.root, ""⟩
  visit modules (total + 1) [] main
  let rules ← rulesAt modules (fun _ => .ok ()) main
  let targets ← compileTargets modules ((total + 1) * (total + 1)) [] rules.targets
  return ⟨rules, targets⟩

/-- The schema of a document with the modules it needs. It has to be a schema of its dialect. -/
def load (tree : FileTree) (directory : String) (document : Json) : Except Defect Schema := do
  let dialect ← mainDialect tree directory document
  let modules ← loadModules tree directory dialect document
  match dialect.defect? document with
  | some defect => .error defect
  | none => compile modules

end NetworkIntent.Schema
