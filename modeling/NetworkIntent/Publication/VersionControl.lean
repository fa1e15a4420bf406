import NetworkIntent.Action

/-!
# Version control

What a publication asks of the system that keeps the files of an intent: a branch, the files on it,
commits of single files, and a merge request.

## Main definitions

* `VersionControl`: the requests.
* `VersionControl.Fault`: why a request fails.
* `FileCommit`, `MergeRequest`, `MergeRequestState`: what is sent and answered.
-/

set_option autoImplicit false

namespace NetworkIntent

/-- Whether a commit creates its file or replaces the content of the file. -/
inductive CommitAction where
  | create
  | update
  deriving DecidableEq, Repr

/-- The name of an action. -/
def CommitAction.name : CommitAction → String
  | .create => "create"
  | .update => "update"

/-- A commit of one file on a branch. -/
structure FileCommit where
  branch : String
  path : String
  content : String
  message : String
  authorName : String
  authorEmail : String
  action : CommitAction
  deriving DecidableEq, Repr

/-- The wish to merge a branch into another one. -/
structure MergeRequest where
  sourceBranch : String
  targetBranch : String
  title : String
  removeSourceBranch : Bool
  deriving DecidableEq, Repr

/-- What is known about a merge request: its state, its number in the project and its page. -/
structure MergeRequestState where
  state : String
  number : Option UInt64
  page : Option String
  deriving DecidableEq, Repr

namespace VersionControl

/-- Why a request fails. -/
inductive Fault where
  /-- The system could not be reached. -/
  | unreachable (reason : String)
  /-- The system refused. -/
  | status (code : Nat) (body : String)
  /-- The answer cannot be read. -/
  | malformed (reason : String)
  deriving DecidableEq, Repr

/-- The description of a fault. -/
def Fault.message : Fault → String
  | .unreachable reason => s!"Version control transport error: {reason}"
  | .status code body => s!"Version control returned {code}: {body}"
  | .malformed reason => s!"Unexpected version control response: {reason}"

end VersionControl

/-- The requests to a version control system. -/
structure VersionControl (σ : Type) where
  /-- Creates a branch at the tip of another one. -/
  createBranch : (branch source : String) → Action σ VersionControl.Fault Unit
  /-- The content of a file on a branch, if there is the file. -/
  getFile : (path branch : String) → Action σ VersionControl.Fault (Option String)
  /-- Commits a file. -/
  saveFile : FileCommit → Action σ VersionControl.Fault Unit
  /-- Opens a merge request. -/
  createMergeRequest : MergeRequest → Action σ VersionControl.Fault MergeRequestState

end NetworkIntent
