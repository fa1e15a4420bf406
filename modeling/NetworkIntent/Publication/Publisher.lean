import NetworkIntent.Calendar
import NetworkIntent.Publication.Lifecycle
import NetworkIntent.Publication.Rendering
import NetworkIntent.Publication.VersionControl
import NetworkIntent.Settings

/-!
# Publishing an intent

A publication proposes the collections of an intent as changes of two files: on a branch of its own
it commits the files that differ, and then it asks for the branch to be merged. The branch is named
after the minute of the publication.

Files are rendered before the first request, and the first request that fails ends the publication.
Every publication is accompanied by its lifecycle.

## Main definitions

* `Publication.branchName`: the name of a branch.
* `Publication.Fault`, `Publication.Failure`: why a publication fails, and how far it came.
* `Publication.Outcome`: what a publication did.
* `Publisher`: the settings of publications, and `Publisher.publish` a publication.
-/

set_option autoImplicit false

namespace NetworkIntent

namespace Publication

/-- The name of the branch of a publication at an instant. -/
def branchName (start : String) (seconds : Int) : String :=
  start ++ String.ofList (Calendar.minuteOf seconds).stamp

/-- Why a publication fails. -/
inductive Fault where
  | render (document reason : String)
  | createBranch (branch : String) (cause : VersionControl.Fault)
  | fetch (path branch : String) (cause : VersionControl.Fault)
  | save (path branch : String) (cause : VersionControl.Fault)
  | openRequest (branch : String) (cause : VersionControl.Fault)
  | lifecycle (refusal : Refusal)
  deriving DecidableEq, Repr

/-- What lies behind a fault, if it is not told by the fault alone. -/
def Fault.cause? : Fault → Option String
  | .render .. => none
  | .createBranch _ cause | .fetch _ _ cause | .save _ _ cause | .openRequest _ cause =>
    some cause.message
  | .lifecycle refusal => some refusal.message

/-- The description of a fault. -/
def Fault.message : Fault → String
  | .render document reason => s!"Cannot render {document} document: {reason}"
  | .createBranch branch cause => s!"Failed to create branch {branch}: {cause.message}"
  | .fetch path branch cause => s!"Failed to fetch {path} on {branch}: {cause.message}"
  | .save path branch cause => s!"Failed to commit {path} on {branch}: {cause.message}"
  | .openRequest branch cause => s!"Failed to open merge request for {branch}: {cause.message}"
  | .lifecycle refusal => s!"Publish lifecycle error: {refusal.message}"

/-- A publication that failed: the stage that it had reached, the cause, and all its steps. -/
structure Failure where
  stage : Stage
  cause : Fault
  history : List Transition
  deriving DecidableEq, Repr

/-- The description of a failed publication. -/
def Failure.message (failure : Failure) : String :=
  s!"Publication failed at stage {failure.stage.name}: {failure.cause.message}"

/-- What a publication did: the branch, the paths that were committed and those that were found
unchanged, the merge request, and all steps. -/
structure Outcome where
  branch : String
  committed : List String
  unchanged : List String
  request : MergeRequestState
  history : List Transition
  deriving DecidableEq, Repr

/-- A file to be published. -/
structure File where
  path : String
  content : String
  message : String
  deriving DecidableEq, Repr

end Publication

open Publication

/-- The settings of publications, and the paths of the two files. -/
structure Publisher where
  settings : PublisherSettings
  sitePath : String
  vpnPath : String
  deriving DecidableEq, Repr

namespace Publisher

variable {σ : Type}

/-- A publisher of files at the usual paths. -/
def new (settings : PublisherSettings) : Publisher :=
  ⟨settings, defaultSitePath, defaultVpnPath⟩

/-- The files of a publication, in the order in which they are committed. -/
def files (publisher : Publisher) (siteDocument vpnDocument : Json) :
    Except Fault (List File) := do
  let render (collection : Collection) (document : Json) : Except Fault String :=
    (renderCollection collection document).mapError (.render (documentName collection))
  let sites ← render .sites siteDocument
  let vpns ← render .vpns vpnDocument
  return [⟨publisher.sitePath, sites, publisher.settings.siteMessage⟩,
    ⟨publisher.vpnPath, vpns, publisher.settings.vpnMessage⟩]

/-- Records a step of a publication. -/
def record (step : Step) : Action (Lifecycle × σ) Fault Unit :=
  .step fun (lifecycle, state) =>
    match lifecycle.advance step with
    | (.ok _, lifecycle) => (.ok (), lifecycle, state)
    | (.error refusal, lifecycle) => (.error (.lifecycle refusal), lifecycle, state)

/-- Makes a request to version control on behalf of a publication. -/
def request {α : Type} (tell : VersionControl.Fault → Fault)
    (action : Action σ VersionControl.Fault α) : Action (Lifecycle × σ) Fault α :=
  .step fun (lifecycle, state) =>
    let (result, state) := action.perform state
    (result.mapError tell, lifecycle, state)

/-- The commit of a file, if the file differs from what is on the branch. -/
def commitOf? (settings : PublisherSettings) (branch : String) (file : File) :
    (current : Option String) → Option FileCommit
  | some content =>
    if content = file.content then none
    else some ⟨branch, file.path, file.content, file.message, settings.authorName,
      settings.authorEmail, .update⟩
  | none => some ⟨branch, file.path, file.content, file.message, settings.authorName,
      settings.authorEmail, .create⟩

/-- Commits the files that differ from what is on a branch. The result tells the paths that were
committed and those that were found unchanged. -/
def stage (publisher : Publisher) (control : VersionControl σ) (branch : String) :
    List File → Action (Lifecycle × σ) Fault (List String × List String)
  | [] => return ([], [])
  | file :: rest => do
    let current ← request (.fetch file.path branch) (control.getFile file.path branch)
    match commitOf? publisher.settings branch file current with
    | none =>
      let (committed, unchanged) ← stage publisher control branch rest
      return (committed, file.path :: unchanged)
    | some commit =>
      request (.save file.path branch) (control.saveFile commit)
      let (committed, unchanged) ← stage publisher control branch rest
      return (file.path :: committed, unchanged)

/-- The merge request for a branch. -/
def mergeRequest (settings : PublisherSettings) (branch : String) : MergeRequest :=
  ⟨branch, settings.trunk, branch, true⟩

/-- The requests of a publication with its steps. -/
def run (publisher : Publisher) (control : VersionControl σ) (seconds : Int)
    (siteDocument vpnDocument : Json) :
    Action (Lifecycle × σ) Fault (List Transition → Outcome) := do
  let files ← Action.ofExcept (publisher.files siteDocument vpnDocument)
  let branch := branchName publisher.settings.branchPrefix seconds
  request (.createBranch branch) (control.createBranch branch publisher.settings.trunk)
  record (.createBranch branch)
  let (committed, unchanged) ← publisher.stage control branch files
  record (.stageFiles committed.length unchanged.length)
  let state ← request (.openRequest branch)
    (control.createMergeRequest (mergeRequest publisher.settings branch))
  record (.openRequest state.state)
  record .finish
  return fun history => ⟨branch, committed, unchanged, state, history⟩

/-- The failure of a publication, which is aborted unless it is over already. -/
def fail (lifecycle : Lifecycle) (cause : Fault) : Failure :=
  let (_, aborted) := lifecycle.advance (.abort cause.message)
  ⟨lifecycle.stage, cause, aborted.history⟩

/-- Publishes the documents of sites and VPNs at an instant. -/
def publish (publisher : Publisher) (control : VersionControl σ) (seconds : Int)
    (siteDocument vpnDocument : Json) : Action σ Failure Outcome :=
  .step fun state =>
    match (publisher.run control seconds siteDocument vpnDocument).perform
        (Lifecycle.new .idle, state) with
    | (.ok outcome, lifecycle, state) => (.ok (outcome lifecycle.history), state)
    | (.error cause, lifecycle, state) => (.error (fail lifecycle cause), state)

end Publisher

end NetworkIntent
