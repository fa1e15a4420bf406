import Mathlib.Tactic.Simps.Basic
import NetworkIntent.Proofs.Recording

/-!
# Transcripts of publications

A transcript lists the calls that a publication makes to version control, each with its answer and
the states of version control before and after it. It is kept by asking through a clerk, who writes
down what is asked and answered and changes nothing else.

Whatever version control answers, a publication can only go in a few ways. They are listed once,
state by state and call by call, as the rules of `Staging` and `Course`; what is to be known about
all publications is proved by cases of these rules.

## Main definitions

* `Call`: a request to version control with its answer and the states around it.
* `VersionControl.transcribed`: a version control system with a clerk before it.
* `Publisher.transcript`: the calls of a publication.
* `Publisher.Staging`: the ways in which the staging of files can go.
* `Publisher.Course`: the ways in which a publication of rendered files can go.

## Main results

* `Publisher.mirrors_publish_transcribed`: a transcribed publication is the publication itself.
* `Publisher.course_of_files`: every publication of rendered files goes in one of these ways.
-/

set_option autoImplicit false

namespace NetworkIntent

open Publication Repository

variable {σ α : Type}

/-! ## Clerks -/

/-- What version control answers to a request that does not fail. -/
inductive VersionControl.Answer where
  | done
  | content (current : Option String)
  | opened (state : MergeRequestState)
  deriving DecidableEq, Repr

/-- A request to version control with its answer, and the states of version control before and
after it. -/
structure Call (σ : Type) where
  request : Request
  answer : Except VersionControl.Fault VersionControl.Answer
  before : σ
  after : σ

/-- What a clerk keeps beside the state of version control: the calls, the last one at the end. -/
abbrev Transcribed (σ : Type) := List (Call σ) × σ

/-- Has a request answered and writes the call down. -/
def Action.transcribing (request : Request) (tell : α → VersionControl.Answer)
    (answer : Action σ VersionControl.Fault α) :
    Action (Transcribed σ) VersionControl.Fault α :=
  .step fun (calls, s) =>
    let (result, t) := answer.perform s
    (result, calls ++ [⟨request, result.map tell, s, t⟩], t)

namespace VersionControl

/-- A version control system with a clerk before it. -/
@[simps]
def transcribed (control : VersionControl σ) : VersionControl (Transcribed σ) where
  createBranch branch source :=
    (control.createBranch branch source).transcribing (.createBranch branch source)
      fun _ => .done
  getFile path branch := (control.getFile path branch).transcribing (.getFile path branch) .content
  saveFile commit := (control.saveFile commit).transcribing (.saveFile commit) fun _ => .done
  createMergeRequest request :=
    (control.createMergeRequest request).transcribing (.createMergeRequest request) .opened

/-- With the clerk left out, a version control system with a clerk before it is itself. -/
theorem mirrors_transcribed (control : VersionControl σ) :
    Mirrors Prod.snd control.transcribed control :=
  ⟨fun _ _ _ => rfl, fun _ _ _ => rfl, fun _ _ => rfl, fun _ _ => rfl⟩

end VersionControl

namespace Publisher

variable (publisher : Publisher) (control : VersionControl σ)

/-- With the clerk left out, a transcribed publication is the publication itself. -/
theorem mirrors_publish_transcribed (seconds : Int) (sites vpns : Json) :
    Action.Mirrors Prod.snd (publisher.publish control.transcribed seconds sites vpns)
      (publisher.publish control seconds sites vpns) :=
  publisher.mirrors_publish control.mirrors_transcribed seconds sites vpns

/-- The calls that a publication makes from a state of version control on, from the first to the
last. -/
def transcript (seconds : Int) (sites vpns : Json) (s : σ) : List (Call σ) :=
  ((publisher.publish control.transcribed seconds sites vpns).perform ([], s)).2.1

/-! ## Steps of a publication -/

/-- A request through a clerk is written down with its answer, and does not touch the lifecycle. -/
theorem perform_request_transcribing (tell : VersionControl.Fault → Fault) (asked : Request)
    (told : α → VersionControl.Answer) (answer : Action σ VersionControl.Fault α)
    (lifecycle : Lifecycle) (calls : List (Call σ)) (s : σ) :
    (request tell (answer.transcribing asked told)).perform (lifecycle, calls, s) =
      ((answer.perform s).1.mapError tell, lifecycle,
        calls ++ [⟨asked, (answer.perform s).1.map told, s, (answer.perform s).2⟩],
        (answer.perform s).2) :=
  rfl

/-- An accepted step is added to the history of a publication. -/
theorem perform_record_of_advance {stage next : Stage} {step : Step} {notice : Notice}
    (h : stage.advance step = .ok (next, notice)) (history : List Transition) (s : σ) :
    (record step : Action (Lifecycle × σ) Fault Unit).perform (⟨stage, history⟩, s) =
      (.ok (), ⟨next, history ++ [⟨stage, next, step⟩]⟩, s) := by
  simp only [record, Action.perform_step, Lifecycle.advance, h]

/-- The failure of a publication at a stage: its history ends with being given up. -/
def failureAt (stage : Stage) (history : List Transition) (cause : Fault) : Failure :=
  ⟨stage, cause, history ++ [⟨stage, .failed, .abort cause.message⟩]⟩

/-- A publication that is not over yet is given up. -/
theorem fail_eq_failureAt {stage : Stage} (h : stage.isFinal = false)
    (history : List Transition) (cause : Fault) :
    fail ⟨stage, history⟩ cause = failureAt stage history cause := by
  cases stage <;> first | rfl | cases h

/-! ## Staging files -/

/-- The commit of a file of which the branch has the given content. -/
def commitFor (settings : PublisherSettings) (branch : String) (file : File)
    (current : Option String) : FileCommit :=
  ⟨branch, file.path, file.content, file.message, settings.authorName, settings.authorEmail,
    if current = none then .create else .update⟩

/-- A file is committed unless the branch has its content already. -/
theorem commitOf?_eq (settings : PublisherSettings) (branch : String) (file : File)
    (current : Option String) :
    commitOf? settings branch file current =
      if current = some file.content then none
      else some (commitFor settings branch file current) := by
  cases current with
  | none => rfl
  | some content => simp [commitOf?, commitFor]

/-- The ways in which the staging of files can go: the calls from a state of version control on,
the result, and the state at the end. Each file is fetched, and committed unless the branch has its
content already; the first call that fails ends the staging. -/
inductive Staging (publisher : Publisher) (control : VersionControl σ) (branch : String) :
    σ → List File → List (Call σ) → Except Fault (List String × List String) → σ → Prop where
  | nil (s : σ) : Staging publisher control branch s [] [] (.ok ([], [])) s
  | unfetched {s t : σ} {file : File} {rest : List File} {fault : VersionControl.Fault}
      (hget : (control.getFile file.path branch).perform s = (.error fault, t)) :
      Staging publisher control branch s (file :: rest)
        [⟨.getFile file.path branch, .error fault, s, t⟩]
        (.error (.fetch file.path branch fault)) t
  | unchanged {s t u : σ} {file : File} {rest : List File} {calls : List (Call σ)}
      {result : Except Fault (List String × List String)}
      (hget : (control.getFile file.path branch).perform s = (.ok (some file.content), t))
      (hrest : Staging publisher control branch t rest calls result u) :
      Staging publisher control branch s (file :: rest)
        (⟨.getFile file.path branch, .ok (.content (some file.content)), s, t⟩ :: calls)
        (result.map fun (committed, unchanged) => (committed, file.path :: unchanged)) u
  | unsaved {s t u : σ} {file : File} {rest : List File} {current : Option String}
      {fault : VersionControl.Fault}
      (hget : (control.getFile file.path branch).perform s = (.ok current, t))
      (hdiffers : current ≠ some file.content)
      (hsave : (control.saveFile (commitFor publisher.settings branch file current)).perform t =
        (.error fault, u)) :
      Staging publisher control branch s (file :: rest)
        [⟨.getFile file.path branch, .ok (.content current), s, t⟩,
          ⟨.saveFile (commitFor publisher.settings branch file current), .error fault, t, u⟩]
        (.error (.save file.path branch fault)) u
  | saved {s t u v : σ} {file : File} {rest : List File} {current : Option String}
      {calls : List (Call σ)} {result : Except Fault (List String × List String)}
      (hget : (control.getFile file.path branch).perform s = (.ok current, t))
      (hdiffers : current ≠ some file.content)
      (hsave : (control.saveFile (commitFor publisher.settings branch file current)).perform t =
        (.ok (), u))
      (hrest : Staging publisher control branch u rest calls result v) :
      Staging publisher control branch s (file :: rest)
        (⟨.getFile file.path branch, .ok (.content current), s, t⟩ ::
          ⟨.saveFile (commitFor publisher.settings branch file current), .ok .done, t, u⟩ :: calls)
        (result.map fun (committed, unchanged) => (file.path :: committed, unchanged)) v

/-- Staging through a clerk goes in one of the listed ways and does not touch the lifecycle.

**Proof sketch.** Induction on the files. The file that comes first is fetched, and if the branch
does not have its content it is saved; unless one of these calls fails, the rest follows from the
state that they leave. -/
theorem exists_staging (branch : String) (files : List File) (lifecycle : Lifecycle)
    (calls : List (Call σ)) (s : σ) :
    ∃ new result t, (publisher.stage control.transcribed branch files).perform
        (lifecycle, calls, s) = (result, lifecycle, calls ++ new, t) ∧
      publisher.Staging control branch s files new result t := by
  induction files generalizing calls s with
  | nil => exact ⟨[], _, s, by simp [stage], .nil s⟩
  | cons file rest ih =>
    unfold stage
    rw [Action.perform_bind]
    simp only [VersionControl.transcribed_getFile, perform_request_transcribing]
    rcases hget : (control.getFile file.path branch).perform s with ⟨fault | current, t⟩
    · exact ⟨_, _, t, rfl, .unfetched hget⟩
    simp only [Except.mapError, Except.map, commitOf?_eq]
    by_cases hcurrent : current = some file.content
    · subst hcurrent
      obtain ⟨new, result, u, hrest, hstaging⟩ := ih
        (calls ++ [⟨.getFile file.path branch, .ok (.content (some file.content)), s, t⟩]) t
      refine ⟨_, _, u, ?_, .unchanged hget hstaging⟩
      rw [if_pos rfl, Action.perform_bind, hrest]
      cases result <;> simp [Except.map]
    · rw [if_neg hcurrent, Action.perform_bind]
      simp only [VersionControl.transcribed_saveFile, perform_request_transcribing]
      rcases hsave : (control.saveFile (commitFor publisher.settings branch file current)).perform t
        with ⟨fault | _, u⟩
      · exact ⟨_, _, u, by simp [Except.mapError, Except.map], .unsaved hget hcurrent hsave⟩
      obtain ⟨new, result, v, hrest, hstaging⟩ := ih
        (calls ++ [⟨.getFile file.path branch, .ok (.content current), s, t⟩,
          ⟨.saveFile (commitFor publisher.settings branch file current), .ok .done, t, u⟩]) u
      refine ⟨_, _, v, ?_, .saved hget hcurrent hsave hstaging⟩
      simp only [Except.mapError, Except.map, List.append_assoc, List.cons_append, List.nil_append]
      rw [Action.perform_bind, hrest]
      cases result <;> simp

/-! ## The whole publication -/

/-- The steps of a publication that commits and leaves unchanged so many files and opens a merge
request in some state. -/
def completeHistory (branch : String) (committed unchanged : Nat) (state : String) :
    List Transition :=
  [⟨.idle, .branchCreated, .createBranch branch⟩,
    ⟨.branchCreated, .filesStaged, .stageFiles committed unchanged⟩,
    ⟨.filesStaged, .requestOpened, .openRequest state⟩,
    ⟨.requestOpened, .done, .finish⟩]

/-- The ways in which the publication of rendered files on a branch can go: its calls from a state
of version control on, its result, and the state at the end. -/
inductive Course (publisher : Publisher) (control : VersionControl σ) (branch : String)
    (files : List File) : σ → List (Call σ) → Except Failure Outcome → σ → Prop where
  | noBranch {s t : σ} {fault : VersionControl.Fault}
      (hbranch : (control.createBranch branch publisher.settings.trunk).perform s =
        (.error fault, t)) :
      Course publisher control branch files s
        [⟨.createBranch branch publisher.settings.trunk, .error fault, s, t⟩]
        (.error (failureAt .idle [] (.createBranch branch fault))) t
  | unstaged {s t u : σ} {calls : List (Call σ)} {cause : Fault}
      (hbranch : (control.createBranch branch publisher.settings.trunk).perform s = (.ok (), t))
      (hstaging : publisher.Staging control branch t files calls (.error cause) u) :
      Course publisher control branch files s
        (⟨.createBranch branch publisher.settings.trunk, .ok .done, s, t⟩ :: calls)
        (.error (failureAt .branchCreated
          [⟨.idle, .branchCreated, .createBranch branch⟩] cause)) u
  | unopened {s t u v : σ} {calls : List (Call σ)} {committed unchanged : List String}
      {fault : VersionControl.Fault}
      (hbranch : (control.createBranch branch publisher.settings.trunk).perform s = (.ok (), t))
      (hstaging : publisher.Staging control branch t files calls (.ok (committed, unchanged)) u)
      (hopen : (control.createMergeRequest (mergeRequest publisher.settings branch)).perform u =
        (.error fault, v)) :
      Course publisher control branch files s
        (⟨.createBranch branch publisher.settings.trunk, .ok .done, s, t⟩ :: calls ++
          [⟨.createMergeRequest (mergeRequest publisher.settings branch), .error fault, u, v⟩])
        (.error (failureAt .filesStaged
          [⟨.idle, .branchCreated, .createBranch branch⟩,
            ⟨.branchCreated, .filesStaged, .stageFiles committed.length unchanged.length⟩]
          (.openRequest branch fault))) v
  | done {s t u v : σ} {calls : List (Call σ)} {committed unchanged : List String}
      {state : MergeRequestState}
      (hbranch : (control.createBranch branch publisher.settings.trunk).perform s = (.ok (), t))
      (hstaging : publisher.Staging control branch t files calls (.ok (committed, unchanged)) u)
      (hopen : (control.createMergeRequest (mergeRequest publisher.settings branch)).perform u =
        (.ok state, v)) :
      Course publisher control branch files s
        (⟨.createBranch branch publisher.settings.trunk, .ok .done, s, t⟩ :: calls ++
          [⟨.createMergeRequest (mergeRequest publisher.settings branch), .ok (.opened state),
            u, v⟩])
        (.ok ⟨branch, committed, unchanged, state,
          completeHistory branch committed.length unchanged.length state.state⟩) v

/-- Without rendered files no call is made, and the publication is given up before it starts. -/
theorem perform_publish_of_files_error (seconds : Int) {sites vpns : Json} {cause : Fault}
    (h : publisher.files sites vpns = .error cause) (s : σ) :
    (publisher.publish control seconds sites vpns).perform s =
      (.error (failureAt .idle [] cause), s) := by
  simp only [publish, Action.perform_step, run, h, Action.ofExcept_error_bind,
    Action.perform_ofExcept, Lifecycle.new]
  rw [fail_eq_failureAt rfl]

/-- **The courses of a publication**: once its files are rendered, a publication goes in one of the
listed ways, whatever version control answers.

**Proof sketch.** The calls are followed one after the other. Each of them fails, which ends the
publication at the stage that it has reached, or it succeeds, and the step that is recorded next is
accepted at this stage. The files are staged as in `exists_staging`. -/
theorem course_of_files (seconds : Int) {sites vpns : Json} {files : List File}
    (h : publisher.files sites vpns = .ok files) (s : σ) :
    publisher.Course control (branchName publisher.settings.branchPrefix seconds) files s
      (publisher.transcript control seconds sites vpns s)
      ((publisher.publish control seconds sites vpns).perform s).1
      ((publisher.publish control seconds sites vpns).perform s).2 := by
  have hmirror := publisher.mirrors_publish_transcribed control seconds sites vpns ([], s)
  rw [hmirror, transcript]
  simp only [publish, Action.perform_step, run, h, Action.ofExcept_ok_bind, Lifecycle.new]
  generalize branchName publisher.settings.branchPrefix seconds = branch
  rw [Action.perform_bind]
  simp only [VersionControl.transcribed_createBranch, perform_request_transcribing]
  rcases hbranch : (control.createBranch branch publisher.settings.trunk).perform s with
    ⟨fault | _, t⟩
  · exact .noBranch hbranch
  simp only [Except.mapError, Except.map, List.nil_append]
  rw [Action.perform_bind, perform_record_of_advance rfl]
  dsimp only
  obtain ⟨calls, result, u, hstage, hstaging⟩ := publisher.exists_staging control branch files
    ⟨.branchCreated, [⟨.idle, .branchCreated, .createBranch branch⟩]⟩
    [⟨.createBranch branch publisher.settings.trunk, .ok .done, s, t⟩] t
  rw [List.nil_append, Action.perform_bind, hstage]
  rcases result with cause | ⟨committed, unchanged⟩
  · exact .unstaged hbranch hstaging
  dsimp only
  rw [Action.perform_bind, perform_record_of_advance rfl]
  dsimp only
  rw [Action.perform_bind]
  simp only [VersionControl.transcribed_createMergeRequest, perform_request_transcribing]
  rcases hopen : (control.createMergeRequest (mergeRequest publisher.settings branch)).perform u
    with ⟨fault | state, v⟩
  · exact .unopened hbranch hstaging hopen
  simp only [Except.mapError, Except.map]
  rw [Action.perform_bind, perform_record_of_advance rfl]
  dsimp only
  rw [Action.perform_bind, perform_record_of_advance rfl]
  exact .done hbranch hstaging hopen

end Publisher

end NetworkIntent
