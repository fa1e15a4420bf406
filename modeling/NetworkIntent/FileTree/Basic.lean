import NetworkIntent.Action
import NetworkIntent.FileTree.Path

/-!
# File trees

Files and directories as an operating system keeps them: a file has its bytes, and every file is in
a directory, all the way up to the top of the tree.

A tree lists what there is by its location, the names of the directories on the way from the top and
its own name. A path is resolved to a location name by name; on the way everything has to be a
directory, and the names `.` and `..` stand for the directory itself and the one above it.

## Main definitions

* `FileTree`: the entries of a tree by location.
* `FileTree.Fault`: why an operation fails.
* `FileTree.locate`: the location that a path leads to.
* `FileTree.read`, `FileTree.readText`, `FileTree.write`, `FileTree.rename`, `FileTree.remove`,
  `FileTree.makeDirectories`: operations on files.
* `FileTree.filesWritten`, `FileTree.filesGone`: how two trees differ.
-/

set_option autoImplicit false

namespace NetworkIntent

/-- The names that lead from the top of a tree to a file or directory, which has the last of them.
-/
abbrev Location := List String

/-- What is at a location. -/
inductive Entry where
  | file (content : Bytes)
  | directory
  deriving DecidableEq, Repr

/-- The entries of a tree by location, and the working directory. The top of the tree is a directory
without being listed. -/
structure FileTree where
  entries : List (Location × Entry)
  working : Location
  deriving DecidableEq, Repr

namespace FileTree

/-- Why an operation on files fails. -/
inductive Fault where
  | notFound
  | notDirectory
  | isDirectory
  | exists
  | nameTooLong
  | nulInName
  | notText
  deriving DecidableEq, Repr

/-- The description of a fault. -/
def Fault.message : Fault → String
  | .notFound => "No such file or directory (os error 2)"
  | .notDirectory => "Not a directory (os error 20)"
  | .isDirectory => "Is a directory (os error 21)"
  | .exists => "File exists (os error 17)"
  | .nameTooLong => "File name too long (os error 36)"
  | .nulInName => "file name contained an unexpected NUL byte"
  | .notText => "stream did not contain valid UTF-8"

/-- The tree without any entry. -/
def empty : FileTree :=
  ⟨[], []⟩

/-! ### Entries -/

/-- What is at a location. -/
def get? (tree : FileTree) (location : Location) : Option Entry :=
  if location = [] then some .directory else tree.entries.lookup location

/-- Puts something at a location, in place of what may have been there. -/
def put (location : Location) (entry : Entry) (tree : FileTree) : FileTree :=
  { tree with
    entries := (location, entry) :: tree.entries.filter fun (l, _) => l ≠ location }

/-- Takes away what is at a location. -/
def erase (location : Location) (tree : FileTree) : FileTree :=
  { tree with entries := tree.entries.filter fun (l, _) => l ≠ location }

/-- Takes away what is at a location and everything below it. -/
def eraseAll (location : Location) (tree : FileTree) : FileTree :=
  { tree with entries := tree.entries.filter fun (l, _) => !location.isPrefixOf l }

/-- Whether there is a directory at a location. -/
def isDirectoryAt (tree : FileTree) (location : Location) : Bool :=
  tree.get? location = some .directory

/-- The files of a tree with their contents. -/
def files (tree : FileTree) : List (Location × Bytes) :=
  tree.entries.filterMap fun
    | (location, .file content) => some (location, content)
    | _ => none

/-! ### Paths -/

/-- The greatest number of bytes of a name. -/
def maxNameLength : Nat := 255

/-- The number of bytes that a path has to stay below. -/
def maxPathLength : Nat := 4096

/-- The location that a name stands for within a directory. There need not be anything. -/
def child (location : Location) (name : String) : Except Fault Location :=
  if name = "." then .ok location
  else if name = ".." then .ok location.dropLast
  else if maxNameLength < name.utf8ByteSize then .error .nameTooLong
  else .ok (location ++ [name])

/-- Follows names to the location of the last one. There need not be anything at this location, but
there has to be a directory wherever a name follows. -/
def follow (tree : FileTree) : (location : Location) → List String → Except Fault Location
  | location, [] => .ok location
  | location, name :: rest =>
    match tree.get? location with
    | none => .error .notFound
    | some (.file _) => .error .notDirectory
    | some .directory =>
      match child location name with
      | .error fault => .error fault
      | .ok next => follow tree next rest

/-- Where a path starts. -/
def start (tree : FileTree) (path : String) : Location :=
  if Path.isAbsolute path then [] else tree.working

/-- The location that a path leads to. There need not be anything. -/
def locate (tree : FileTree) (path : String) : Except Fault Location :=
  if path.toList.contains '\x00' then .error .nulInName
  else if path.isEmpty then .error .notFound
  else if maxPathLength ≤ path.utf8ByteSize then .error .nameTooLong
  else tree.follow (tree.start path) (Path.names path)

/-! ### Operations -/

/-- The bytes of a file. -/
def read (tree : FileTree) (path : String) : Except Fault Bytes :=
  match tree.locate path with
  | .error fault => .error fault
  | .ok location =>
    match tree.get? location with
    | none => .error .notFound
    | some .directory => .error .isDirectory
    | some (.file content) => .ok content

/-- The bytes of a file that holds a text. -/
def readText (tree : FileTree) (path : String) : Except Fault Bytes :=
  match tree.read path with
  | .error fault => .error fault
  | .ok content =>
    match Utf8.decode content with
    | .ok _ => .ok content
    | .error _ => .error .notText

/-- Writes a file, which may exist already. -/
def write (path : String) (content : Bytes) (tree : FileTree) : Except Fault FileTree :=
  match tree.locate path with
  | .error fault => .error fault
  | .ok location =>
    match tree.get? location with
    | some .directory => .error .isDirectory
    | _ => .ok (tree.put location (.file content))

/-- Removes a file. -/
def remove (path : String) (tree : FileTree) : Except Fault FileTree :=
  match tree.locate path with
  | .error fault => .error fault
  | .ok location =>
    match tree.get? location with
    | none => .error .notFound
    | some .directory => .error .isDirectory
    | some (.file _) => .ok (tree.erase location)

/-- Gives a file another path, in place of the file that may be there. -/
def rename (old new : String) (tree : FileTree) : Except Fault FileTree :=
  match tree.locate old with
  | .error fault => .error fault
  | .ok source =>
    match tree.locate new with
    | .error fault => .error fault
    | .ok target =>
      match tree.get? source, tree.get? target with
      | none, _ => .error .notFound
      | some .directory, _ | _, some .directory => .error .isDirectory
      | some (.file content), _ => .ok ((tree.erase source).put target (.file content))

/-- Makes the directories of the given names, one within the other, as far as there are none. A file
in the place of the last one is in the way as a file, and one before it as no directory. -/
def makeFrom : (location : Location) → List String → FileTree → Except Fault Unit × FileTree
  | _, [], tree => (.ok (), tree)
  | location, name :: rest, tree =>
    match child location name with
    | .error fault => (.error fault, tree)
    | .ok next =>
      match tree.get? next with
      | some .directory => makeFrom next rest tree
      | some (.file _) => (.error (if rest.isEmpty then .exists else .notDirectory), tree)
      | none => makeFrom next rest (tree.put next .directory)

/-- Makes a directory and all directories above it, as far as there are none. The ones that could be
made stay if another one could not. -/
def makeDirectories (path : String) (tree : FileTree) : Except Fault Unit × FileTree :=
  if path.toList.contains '\x00' then (.error .nulInName, tree)
  else if maxPathLength ≤ path.utf8ByteSize then (.error .nameTooLong, tree)
  else if tree.isDirectoryAt (tree.start path) then
    makeFrom (tree.start path) (Path.names path) tree
  else (.error .notFound, tree)

/-! ### Two trees -/

/-- The files of a tree that another tree does not have with the same content. -/
def filesWritten (before after : FileTree) : List (Location × Bytes) :=
  after.files.filter fun (location, content) => before.files.lookup location ≠ some content

/-- The locations of the files that another tree does not have any more. -/
def filesGone (before after : FileTree) : List Location :=
  (before.files.filter fun (location, _) => (after.files.lookup location).isNone).map Prod.fst

end FileTree

end NetworkIntent
