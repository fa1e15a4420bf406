import NetworkIntent.Publication.VersionControl
import NetworkIntent.Table

/-!
# A repository in memory

Version control over a table of files, without separate branches. It counts the merge requests and
can be told to fail certain requests; a request that fails changes nothing. All requests are listed.

## Main definitions

* `Repository`: the files and what has been requested.
* `Repository.Failures`: the requests that fail.
* `Repository.control`: the version control over a repository.
-/

set_option autoImplicit false

namespace NetworkIntent

/-- A request to a repository. -/
inductive Repository.Request where
  | createBranch (branch source : String)
  | getFile (path branch : String)
  | saveFile (commit : FileCommit)
  | createMergeRequest (request : MergeRequest)
  deriving DecidableEq, Repr

/-- Files under their paths, the number of merge requests that were opened, and all requests. -/
structure Repository where
  files : Table String
  opened : Nat
  requests : List Repository.Request
  deriving DecidableEq, Repr

namespace Repository

/-- The requests that fail: the one for a branch, those for a path, and the one to merge. -/
structure Failures where
  branch : Option VersionControl.Fault
  get : Table VersionControl.Fault
  save : Table VersionControl.Fault
  request : Option VersionControl.Fault
  deriving DecidableEq, Repr

/-- No request fails. -/
def Failures.none : Failures :=
  ⟨.none, [], [], .none⟩

/-- Lists a request and answers it, unless it fails. -/
def answer {α : Type} (request : Request) (failure : Option VersionControl.Fault)
    (answer : Repository → α × Repository) : Action Repository VersionControl.Fault α :=
  .step fun repository =>
    let repository := { repository with requests := repository.requests ++ [request] }
    match failure with
    | some fault => (.error fault, repository)
    | none =>
      let (a, repository) := answer repository
      (.ok a, repository)

/-- The version control over a repository. -/
def control (failures : Failures) : VersionControl Repository where
  createBranch branch source :=
    answer (.createBranch branch source) failures.branch fun repository => ((), repository)
  getFile path branch :=
    answer (.getFile path branch) (Table.get? path failures.get) fun repository =>
      (Table.get? path repository.files, repository)
  saveFile commit :=
    answer (.saveFile commit) (Table.get? commit.path failures.save) fun repository =>
      ((), { repository with files := Table.insert commit.path commit.content repository.files })
  createMergeRequest request :=
    answer (.createMergeRequest request) failures.request fun repository =>
      (⟨"opened", some (UInt64.ofNat (repository.opened + 1)), none⟩,
        { repository with opened := repository.opened + 1 })

end Repository

end NetworkIntent
