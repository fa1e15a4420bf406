import NetworkIntent.CommandLine.Run
import Std.Time.DateTime.Timestamp

/-!
# The program

Runs the command that the arguments ask for on the files of a disk. The files that the command may
need are read into a tree before it runs, and what it changes in the tree is written back after it.

There is no way to the web from here: a command that needs a service reports that there is no reply.

## Main definitions

* `Disk.load`: the tree with what is on the disk below some paths.
* `Disk.save`: writing to the disk what differs between two trees.
* `main`: the program.
-/

set_option autoImplicit false

namespace NetworkIntent.Disk

/-- The path of a location. -/
def pathOf (location : Location) : String :=
  "/" ++ "/".intercalate location

/-- Puts what is at a location of the disk into a tree, and of a directory also what is below it up
to a depth. -/
def loadFrom : (depth : Nat) → Location → FileTree → IO FileTree
  | depth, location, tree => do
    let .ok path ← (IO.FS.realPath (pathOf location)).toBaseIO | return tree
    if ← path.isDir then
      let tree := if location.isEmpty then tree else tree.put location .directory
      match depth with
      | 0 => return tree
      | depth + 1 =>
        let entries ← path.readDir
        entries.foldlM (fun tree entry => loadFrom depth (location ++ [entry.fileName]) tree) tree
    else
      let content ← IO.FS.readBinFile path
      return tree.put location (.file content.toList)

/-- How many directories one within the other are read. -/
def maxDepth : Nat := 64

/-- Follows names from a location of the disk. What is on the way is put into a tree, and at the end
also what is below. -/
def loadPath : Location → List String → FileTree → IO FileTree
  | location, [], tree => loadFrom maxDepth location tree
  | location, name :: rest, tree => do
    let .ok next := FileTree.child location name | return tree
    loadPath next rest (← loadFrom 0 next tree)

/-- The tree with what is on the disk below some paths. -/
def load (paths : List String) : IO FileTree := do
  let working := (← IO.currentDir).toString
  let start := { (FileTree.empty.makeDirectories working).2 with working := Path.names working }
  paths.foldlM (fun tree path => loadPath (tree.start path) (Path.names path) tree) start

/-- Writes a file beside its path and renames it into place. -/
def write (path : String) (content : Bytes) : IO Unit := do
  let staging := Store.stagingOf path
  IO.FS.writeBinFile staging ⟨content.toArray⟩
  IO.FS.rename staging path

/-- Writes to the disk what differs between two trees. -/
def save (before after : FileTree) : IO Unit := do
  for (location, content) in before.filesWritten after do
    IO.FS.createDirAll (pathOf location.dropLast)
    write (pathOf location) content
  for location in before.filesGone after do
    IO.FS.removeFile (pathOf location)

end NetworkIntent.Disk

open NetworkIntent in
/-- Runs the command that the arguments ask for, and gives its status. -/
def main (arguments : List String) : IO UInt32 := do
  let environment : Environment ← Environment.names.filterMapM fun name => do
    return (← IO.getEnv name).map (name, ·)
  let paths := match CommandLine.read arguments with
    | .run invocation => CommandLine.paths invocation environment
    | _ => []
  let before ← Disk.load paths
  let seconds := (← Std.Time.Timestamp.now).toSecondsSinceUnixEpoch.val
  let (exit, after, _) :=
    CommandLine.run (Http.Network.silent Unit) environment seconds arguments (before, ())
  Disk.save before after
  (← IO.getStdout).putStr exit.output
  (← IO.getStderr).putStr exit.errors
  return exit.code.toUInt32
