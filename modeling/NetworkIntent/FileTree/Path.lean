import NetworkIntent.Text.Utf8

/-!
# Paths

A path names a file by the directories that lead to it. It is a text of names between slashes, and
starts at the top of the tree if it starts with a slash, and else at the working directory.

## Main definitions

* `Path.join`: a path within a directory.
* `Path.names`: the names of a path.
* `Path.withSuffix`: the sibling of a file whose name goes on with a suffix.
-/

set_option autoImplicit false

namespace NetworkIntent.Path

/-- Whether a path starts at the top of the tree. -/
def isAbsolute (path : String) : Bool :=
  path.toList.head? = some '/'

/-- The path of a file within a directory. A path from the top of the tree stays as it is. -/
def join (directory path : String) : String :=
  if isAbsolute path ∨ directory.isEmpty then path
  else if directory.toList.getLast? = some '/' then directory ++ path
  else directory ++ "/" ++ path

/-- The parts of a text between slashes. -/
def splitSlashes : List Char → List (List Char)
  | [] => [[]]
  | c :: rest =>
    if c = '/' then [] :: splitSlashes rest
    else
      match splitSlashes rest with
      | part :: parts => (c :: part) :: parts
      | [] => [[c]]

/-- The last of the parts of a text between slashes. -/
def lastPart (cs : List Char) : List Char :=
  (splitSlashes cs).getLast?.getD []

/-- The names of a path. A path that ends in a slash leads to a directory, which is also what the
name of a single point does, so it has this name at the end. -/
def names (path : String) : List String :=
  let parts := splitSlashes path.toList
  let listed := (parts.filter (!·.isEmpty)).map String.ofList
  if parts.getLast? = some [] ∧ !listed.isEmpty then listed ++ ["."] else listed

/-- The sibling of a file whose name goes on with a suffix. -/
def withSuffix (path suffix : String) : String :=
  path ++ suffix

end NetworkIntent.Path
