import NetworkIntent.Artifact.Target
import NetworkIntent.FileTree.Basic
import NetworkIntent.Intent.Document
import NetworkIntent.Json.Decoder

/-!
# The store of artifacts

Artifacts are files below a root. A document is first staged, that is written beside its file, and
then renamed into place, so that no file is ever written in part. Several documents are staged
before the first is renamed; where anything fails, what has been staged is discarded and what has
been renamed is put back.

The service document is stored under plain keys and read under qualified ones.

## Main definitions

* `Store`: a store, by the path of its root.
* `Store.Fault`: why an operation fails.
* `Store.write`, `Store.writeAll`: replacing artifacts.
* `Store.read`, `Store.readAs`: the documents of artifacts.
-/

set_option autoImplicit false

namespace NetworkIntent

/-- A store of artifacts below a root. -/
structure Store where
  root : String
  deriving DecidableEq, Repr

namespace Store

/-- Why an operation fails. -/
inductive Fault where
  /-- There is no such artifact. -/
  | notFound (artifact : Artifact) (path : String)
  /-- A file operation fails. -/
  | file (path : String) (cause : FileTree.Fault)
  /-- A stored text is no document. -/
  | notJson (artifact : Artifact) (cause : Json.Fault)
  /-- A stored document is not of the expected type. -/
  | mismatch (artifact : Artifact) (cause : Json.Mismatch)
  /-- A service document has both keys of a collection. -/
  | clash (keys : KeyClash)
  /-- There is no file for the artifact. -/
  | noPlace (cause : Artifact.Fault)
  deriving DecidableEq, Repr

/-- What an operation on files or a reader says about its own failure. -/
def Fault.cause? : Fault → Option String
  | .file _ cause => some cause.message
  | .notJson _ cause => some cause.message
  | .mismatch _ cause => some cause.message
  | .notFound .. | .clash _ | .noPlace _ => none

/-- The description of a fault. -/
def Fault.message : Fault → String
  | .notFound artifact path => s!"Artifact {artifact.title} not found at {path}"
  | .file path cause => s!"I/O error on {path}: {cause.message}"
  | .notJson artifact cause =>
    s!"Artifact {artifact.title} cannot be (de)serialized: {cause.message}"
  | .mismatch artifact cause =>
    s!"Artifact {artifact.title} cannot be (de)serialized: {cause.message}"
  | .clash keys => keys.message
  | .noPlace cause => cause.message

/-! ### Places and contents -/

/-- The directory of the file of a place. -/
def directoryOf (store : Store) (place : Artifact.Place) : String :=
  Path.join store.root place.directory

/-- The path of the file of a place. -/
def fileOf (store : Store) (place : Artifact.Place) : String :=
  Path.join (store.directoryOf place) place.file

/-- The path of the file of an artifact. -/
def pathOf (store : Store) (artifact : Artifact) : Except Fault String :=
  match artifact.place with
  | .error cause => .error (.noPlace cause)
  | .ok place => .ok (store.fileOf place)

/-- The path at which the file of a path is staged. -/
def stagingOf (path : String) : String :=
  Path.withSuffix path ".tmp"

/-- The document that is stored for a document. -/
def storedForm (artifact : Artifact) (document : Json) : Except Fault Json :=
  match artifact with
  | .service => (renameKeys .plain document).mapError .clash
  | _ => .ok document

/-- The text of a stored document: its layout and a line break. -/
def textOf (document : Json) : Bytes :=
  Utf8.ofString (document.render .file) ++ [0x0A]

/-! ### Writing -/

/-- A document that is staged: where it is, where it belongs, and what was there before. -/
structure Staged where
  staging : String
  path : String
  previous : Option Bytes
  deriving DecidableEq, Repr

/-- What is at a path before it is replaced, if anything. -/
def previousAt (path : String) (tree : FileTree) : Except Fault (Option Bytes) :=
  match tree.read path with
  | .ok content => .ok (some content)
  | .error .notFound => .ok none
  | .error cause => .error (.file path cause)

/-- A tree without a file, if there was one. -/
def withoutFile (path : String) (tree : FileTree) : FileTree :=
  match tree.remove path with
  | .ok tree => tree
  | .error _ => tree

/-- Stages a text at a path within a directory. -/
def stageText (directory path : String) (text : Bytes) (tree : FileTree) :
    Except Fault Staged × FileTree :=
  match tree.makeDirectories directory with
  | (.error cause, tree) => (.error (.file directory cause), tree)
  | (.ok (), tree) =>
    match previousAt path tree with
    | .error fault => (.error fault, tree)
    | .ok previous =>
      let staging := stagingOf path
      match tree.write staging text with
      | .error cause => (.error (.file staging cause), withoutFile staging tree)
      | .ok tree => (.ok ⟨staging, path, previous⟩, tree)

/-- Stages the document of an artifact. -/
def stage (store : Store) (artifact : Artifact) (document : Json) (tree : FileTree) :
    Except Fault Staged × FileTree :=
  match storedForm artifact document with
  | .error fault => (.error fault, tree)
  | .ok stored =>
    match artifact.place with
    | .error cause => (.error (.noPlace cause), tree)
    | .ok place =>
      stageText (store.directoryOf place) (store.fileOf place) (textOf stored) tree

/-- A tree without what is staged. -/
def discard (staged : List Staged) (tree : FileTree) : FileTree :=
  staged.foldl (fun tree entry => withoutFile entry.staging tree) tree

/-- A tree in which a renamed document is replaced by what was there before it. -/
def putBack (entry : Staged) (tree : FileTree) : FileTree :=
  match entry.previous with
  | none => withoutFile entry.path tree
  | some content =>
    match tree.write entry.path content with
    | .ok tree => tree
    | .error _ => tree

/-- Stages documents after the ones that are staged already. If one cannot be staged, all are
discarded. -/
def stageAll (store : Store) : (staged : List Staged) → List (Artifact × Json) → FileTree →
    Except Fault (List Staged) × FileTree
  | staged, [], tree => (.ok staged, tree)
  | staged, (artifact, document) :: rest, tree =>
    match store.stage artifact document tree with
    | (.error fault, tree) => (.error fault, discard staged tree)
    | (.ok entry, tree) => stageAll store (staged ++ [entry]) rest tree

/-- Renames staged documents into place after the ones that are renamed already, the last of which
comes first. If one cannot be renamed, the renamed ones are put back. -/
def renameAll : (renamed staged : List Staged) → FileTree → Except Fault Unit × FileTree
  | _, [], tree => (.ok (), tree)
  | renamed, entry :: rest, tree =>
    match tree.rename entry.staging entry.path with
    | .ok tree => renameAll (entry :: renamed) rest tree
    | .error cause =>
      let tree := discard (entry :: rest) tree
      (.error (.file entry.path cause), renamed.foldl (fun tree entry => putBack entry tree) tree)

/-- Replaces several artifacts together. The result tells their paths. -/
def writeAll (store : Store) (documents : List (Artifact × Json)) :
    Action FileTree Fault (List String) :=
  .step fun tree =>
    match store.stageAll [] documents tree with
    | (.error fault, tree) => (.error fault, tree)
    | (.ok staged, tree) =>
      match renameAll [] staged tree with
      | (.error fault, tree) => (.error fault, tree)
      | (.ok (), tree) => (.ok (staged.map Staged.path), tree)

/-- Replaces an artifact. The result tells its path. -/
def write (store : Store) (artifact : Artifact) (document : Json) :
    Action FileTree Fault String := do
  let path ← Action.ofExcept (store.pathOf artifact)
  let _ ← store.writeAll [(artifact, document)]
  return path

/-! ### Reading -/

/-- The document of an artifact. -/
def read (store : Store) (artifact : Artifact) (tree : FileTree) : Except Fault Json := do
  let path ← store.pathOf artifact
  match tree.read path with
  | .error .notFound => throw (.notFound artifact path)
  | .error cause => throw (.file path cause)
  | .ok text =>
    let document ← (Json.parse text).mapError (.notJson artifact)
    match artifact with
    | .service => (renameKeys .qualified document).mapError .clash
    | _ => return document

/-- The value that the document of an artifact stands for. -/
def readAs {α : Type} (store : Store) (artifact : Artifact) (decoder : Json.Decoder α)
    (tree : FileTree) : Except Fault α := do
  let document ← store.read artifact tree
  (decoder.ofJson document).mapError (.mismatch artifact)

end Store

end NetworkIntent
