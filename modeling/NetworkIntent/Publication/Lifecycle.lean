import NetworkIntent.Json.Decoder

/-!
# The life of a publication

A publication creates a branch, stages its files, opens a merge request and is done; it may be
aborted before it is. Each step takes it from one stage to the next, and no other step is accepted.
The accepted steps are recorded.

## Main definitions

* `Stage`, `Step`: where a publication stands, and what happens to it.
* `Stage.advance`: the stage after a step, or why the step is not accepted.
* `Lifecycle`: a publication with its accepted steps, and `Lifecycle.advance` for it.
-/

set_option autoImplicit false

namespace NetworkIntent.Publication

/-- Where a publication stands. -/
inductive Stage where
  | idle
  | branchCreated
  | filesStaged
  | requestOpened
  | done
  | failed
  deriving DecidableEq, Repr

namespace Stage

/-- The name of a stage. -/
def name : Stage → String
  | .idle => "Idle"
  | .branchCreated => "BranchCreated"
  | .filesStaged => "FilesStaged"
  | .requestOpened => "RequestOpened"
  | .done => "Done"
  | .failed => "Failed"

/-- All stages. -/
def all : List Stage :=
  [.idle, .branchCreated, .filesStaged, .requestOpened, .done, .failed]

/-- Whether nothing can happen any more. -/
def isFinal : Stage → Bool
  | .done | .failed => true
  | _ => false

/-- Reads a stage from a document. -/
def decoder : Json.Decoder Stage :=
  .ofNames (all.map fun stage => (stage.name, stage))

/-- The document of a stage. -/
def toJson (stage : Stage) : Json :=
  .str stage.name

end Stage

/-- What happens to a publication. -/
inductive Step where
  /-- A branch was created. -/
  | createBranch (branch : String)
  /-- So many files were committed, and so many found unchanged. -/
  | stageFiles (committed unchanged : Nat)
  /-- A merge request was opened and is in some state. -/
  | openRequest (state : String)
  /-- Nothing is left to do. -/
  | finish
  /-- It was given up. -/
  | abort (reason : String)
  deriving DecidableEq, Repr

namespace Step

/-- The names of all steps. -/
def names : List String :=
  ["CreateBranch", "StageFiles", "OpenRequest", "Finish", "Abort"]

/-- Reads the payload of a step, which is an object of the given fields. -/
def ofPayload {α : Type} (record : Json.Record α) : Option Json → Except Json.Mismatch α
  | some (.obj fields) => record.ofFields fields
  | some document => .error (.ofType document "struct variant")
  | none => .error (.type "unit variant" "struct variant")

/-- Reads a step from a document. -/
def ofJson (document : Json) : Except Json.Mismatch Step := do
  let (name, payload) ← Json.Decoder.variant document
  match name with
  | "CreateBranch" => .createBranch <$> ofPayload (.required "branch" .text) payload
  | "StageFiles" =>
    ofPayload ((Json.Record.pure stageFiles)
      |>.more (.required "committed" .size)
      |>.more (.required "unchanged" .size)) payload
  | "OpenRequest" => .openRequest <$> ofPayload (.required "state" .text) payload
  | "Finish" =>
    match payload.getD .null with
    | .null => return .finish
    | other => throw (.ofType other "unit")
  | "Abort" => .abort <$> ofPayload (.required "reason" .text) payload
  | other => throw (.unknownVariant other names)

/-- Reads a step. -/
def decoder : Json.Decoder Step :=
  .ofDocument ofJson

/-- The document of a step. -/
def toJson : Step → Json
  | .createBranch branch => .obj [("CreateBranch", .obj [("branch", .str branch)])]
  | .stageFiles committed unchanged =>
    .obj [("StageFiles", .obj [("committed", .int committed), ("unchanged", .int unchanged)])]
  | .openRequest state => .obj [("OpenRequest", .obj [("state", .str state)])]
  | .finish => .str "Finish"
  | .abort reason => .obj [("Abort", .obj [("reason", .str reason)])]

/-- A step as it appears in a message. -/
def outline : Step → String
  | .createBranch branch => s!"CreateBranch \x7b branch: {quoted branch} \x7d"
  | .stageFiles committed unchanged =>
    s!"StageFiles \x7b committed: {committed}, unchanged: {unchanged} \x7d"
  | .openRequest state => s!"OpenRequest \x7b state: {quoted state} \x7d"
  | .finish => "Finish"
  | .abort reason => s!"Abort \x7b reason: {quoted reason} \x7d"

end Step

/-- What comes with an accepted step. -/
structure Notice where
  warnings : List String
  isFinal : Bool
  deriving DecidableEq, Repr

/-- Why a step is not accepted. -/
inductive Refusal where
  /-- The stage takes other steps. -/
  | unexpected (stage : Stage) (step : Step)
  /-- The stage takes no step at all. -/
  | final (stage : Stage)
  deriving DecidableEq, Repr

/-- The description of a refusal. -/
def Refusal.message : Refusal → String
  | .unexpected stage step => s!"Invalid transition from {stage.name} on {step.outline}"
  | .final stage => s!"State {stage.name} is terminal"

/-- The warning about a publication that changes nothing. -/
def nothingCommitted : String :=
  "No intent file changed; merge request will be empty"

/-- The stage after a step. -/
def Stage.advance (stage : Stage) (step : Step) : Except Refusal (Stage × Notice) :=
  if stage.isFinal then .error (.final stage)
  else
    match stage, step with
    | .idle, .createBranch _ => .ok (.branchCreated, ⟨[], false⟩)
    | .branchCreated, .stageFiles committed _ =>
      .ok (.filesStaged, ⟨if committed = 0 then [nothingCommitted] else [], false⟩)
    | .filesStaged, .openRequest _ => .ok (.requestOpened, ⟨[], false⟩)
    | .requestOpened, .finish => .ok (.done, ⟨[], true⟩)
    | _, .abort reason => .ok (.failed, ⟨[reason], true⟩)
    | _, _ => .error (.unexpected stage step)

/-- An accepted step with the stages before and after it. The time at which it was accepted is left
out: it comes from a clock, and nothing is decided by it. -/
structure Transition where
  start : Stage
  finish : Stage
  step : Step
  deriving DecidableEq, Repr

/-- The document of a transition. -/
def Transition.toJson (transition : Transition) : Json :=
  .ofEntries [("from", transition.start.toJson), ("to", transition.finish.toJson),
    ("input", transition.step.toJson)]

/-- A publication: its stage, and its accepted steps from the first to the last. -/
structure Lifecycle where
  stage : Stage
  history : List Transition
  deriving DecidableEq, Repr

namespace Lifecycle

/-- A publication to which nothing has happened yet. -/
def new (stage : Stage) : Lifecycle :=
  ⟨stage, []⟩

/-- A publication after a step. A step that is not accepted changes nothing. -/
def advance (step : Step) (lifecycle : Lifecycle) : Except Refusal Notice × Lifecycle :=
  match lifecycle.stage.advance step with
  | .error refusal => (.error refusal, lifecycle)
  | .ok (stage, notice) =>
    (.ok notice, ⟨stage, lifecycle.history ++ [⟨lifecycle.stage, stage, step⟩]⟩)

end Lifecycle

end NetworkIntent.Publication
