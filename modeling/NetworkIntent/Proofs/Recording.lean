import NetworkIntent.Compilation
import NetworkIntent.Proofs.Action
import NetworkIntent.Publication.Repository

/-!
# Recorded publications

Any version control system can be asked through a recorder, which lists each request before it is
answered. A recorded publication does and results in the same as the publication itself, so the
list tells which requests a publication makes, whatever the answers are.

## Main definitions

* `VersionControl.Mirrors`: a version control system answers like another one.
* `VersionControl.recorded`: a version control system with a recorder before it.
* `Compiler.publishRecorded`: the publication of an intent through a recorder.
* `Compiler.publishRequests`: the requests that a publication of an intent makes.

## Main results

* `Publisher.mirrors_publish`: where version control answers alike, publications are alike.
* `Compiler.mirrors_publishRecorded`: a recorded publication is the publication itself.
* `Publisher.appends_publish`: a publication only requests commits of its own files.
-/

set_option autoImplicit false

namespace NetworkIntent

open Publication Repository

variable {σ ε α : Type}

/-! ## Recorders -/

/-- What a recorder keeps beside the state of whoever answers: the requests, the last one at the
end. -/
abbrev Recorded (σ : Type) := List Request × σ

/-- Lists a request and has it answered. -/
def Action.recording (request : Request) (answer : Action σ ε α) : Action (Recorded σ) ε α :=
  .step fun (requests, s) =>
    let (result, s) := answer.perform s
    (result, requests ++ [request], s)

/-- A version control system with a recorder before it. -/
def VersionControl.recorded (control : VersionControl σ) : VersionControl (Recorded σ) where
  createBranch branch source :=
    (control.createBranch branch source).recording (.createBranch branch source)
  getFile path branch := (control.getFile path branch).recording (.getFile path branch)
  saveFile commit := (control.saveFile commit).recording (.saveFile commit)
  createMergeRequest request :=
    (control.createMergeRequest request).recording (.createMergeRequest request)

/-- A source of an intent beside a further state, which it does not touch. -/
def IntentSource.beside {τ : Type} (source : IntentSource σ) : IntentSource (τ × σ) where
  siteDocument tree := (source.siteDocument tree).beside
  vpnDocument tree := (source.vpnDocument tree).beside

/-- The documents of a source beside a further state are read as they are without it. -/
theorem IntentSource.beside_documents {τ : Type} (source : IntentSource σ) (tree : FileTree) :
    source.beside.documents tree = (source.documents tree).beside (τ := τ) := by
  unfold documents
  rw [Action.beside_bind]
  congr 1
  funext sites
  rw [Action.beside_bind]
  rfl

/-- Seen through a view of its state, a version control system answers like another one. -/
structure VersionControl.Mirrors {τ : Type} (view : τ → σ) (control : VersionControl τ)
    (image : VersionControl σ) : Prop where
  createBranch : ∀ branch source, Action.Mirrors view (control.createBranch branch source)
    (image.createBranch branch source)
  getFile : ∀ path branch, Action.Mirrors view (control.getFile path branch)
    (image.getFile path branch)
  saveFile : ∀ commit, Action.Mirrors view (control.saveFile commit) (image.saveFile commit)
  createMergeRequest : ∀ request, Action.Mirrors view (control.createMergeRequest request)
    (image.createMergeRequest request)

/-- With the recorder left out, a version control system with a recorder before it is itself. -/
theorem VersionControl.mirrors_recorded (control : VersionControl σ) :
    Mirrors Prod.snd control.recorded control :=
  ⟨fun _ _ _ => rfl, fun _ _ _ => rfl, fun _ _ => rfl, fun _ _ => rfl⟩

/-! ## Publications through a recorder -/

namespace Publisher

/-! ### What is done -/

section Mirrors

variable {τ : Type} {view : τ → σ} (publisher : Publisher) {control : VersionControl τ}
  {image : VersionControl σ}

private theorem mirrors_record (view : τ → σ) (step : Step) :
    Action.Mirrors (Prod.map id view) (record step : Action (Lifecycle × τ) Fault Unit)
      (record step) := by
  intro ⟨lifecycle, t⟩
  simp only [record, Action.perform_step, Prod.map_apply, id_eq]
  rcases lifecycle.advance step with ⟨_ | _, _⟩ <;> rfl

private theorem mirrors_request (tell : VersionControl.Fault → Fault)
    {action : Action τ VersionControl.Fault α} {other : Action σ VersionControl.Fault α}
    (h : Action.Mirrors view action other) :
    Action.Mirrors (Prod.map id view) (request tell action) (request tell other) := by
  intro ⟨lifecycle, t⟩
  simp only [request, Action.perform_step, Prod.map_apply, id_eq, h t]

private theorem mirrors_stage (h : control.Mirrors view image) (branch : String)
    (files : List File) :
    Action.Mirrors (Prod.map id view) (publisher.stage control branch files)
      (publisher.stage image branch files) := by
  induction files with
  | nil => exact .pure _ _
  | cons file rest ih =>
    refine .bind (mirrors_request _ (h.getFile _ _)) fun current => ?_
    split
    · exact .bind ih fun _ => .pure _ _
    · exact .bind (mirrors_request _ (h.saveFile _)) fun _ => .bind ih fun _ => .pure _ _

private theorem mirrors_run (h : control.Mirrors view image) (seconds : Int)
    (sites vpns : Json) :
    Action.Mirrors (Prod.map id view) (publisher.run control seconds sites vpns)
      (publisher.run image seconds sites vpns) :=
  .bind (.ofExcept _ _) fun _ =>
    .bind (mirrors_request _ (h.createBranch _ _)) fun _ =>
    .bind (mirrors_record _ _) fun _ =>
    .bind (mirrors_stage publisher h _ _) fun _ =>
    .bind (mirrors_record _ _) fun _ =>
    .bind (mirrors_request _ (h.createMergeRequest _)) fun _ =>
    .bind (mirrors_record _ _) fun _ =>
    .bind (mirrors_record _ _) fun _ => .pure _ _

/-- Publications are alike where version control systems answer alike. -/
theorem mirrors_publish (h : control.Mirrors view image) (seconds : Int) (sites vpns : Json) :
    Action.Mirrors view (publisher.publish control seconds sites vpns)
      (publisher.publish image seconds sites vpns) := by
  intro t
  have hrun := mirrors_run publisher h seconds sites vpns (.new .idle, t)
  simp only [Prod.map_apply, id_eq] at hrun
  simp only [publish, Action.perform_step, hrun]
  rcases (publisher.run control seconds sites vpns).perform (.new .idle, t) with ⟨_ | _, _, _⟩ <;>
    rfl

end Mirrors

variable (publisher : Publisher) (control : VersionControl σ)

/-- The requests that are listed while a publication runs. -/
private def listed : Lifecycle × Recorded σ → List Request
  | (_, requests, _) => requests

/-! ### What is committed -/

/-- A request, if it is a commit at all, commits one of the files that could be rendered. -/
def CommitsOneOf (rendered : Except Fault (List File)) (asked : Request) : Prop :=
  ∀ commit, asked = .saveFile commit →
    ∃ files, rendered = .ok files ∧
      ∃ file ∈ files, commit.path = file.path ∧ commit.content = file.content

/-- Whatever is committed of a file has its path and content. -/
theorem commitOf?_eq_some {settings : PublisherSettings} {branch : String} {file : File}
    {current : Option String} {commit : FileCommit}
    (h : commitOf? settings branch file current = some commit) :
    commit.path = file.path ∧ commit.content = file.content := by
  unfold commitOf? at h
  split at h
  · split at h
    · simp at h
    · cases h
      exact ⟨rfl, rfl⟩
  · cases h
    exact ⟨rfl, rfl⟩

private theorem appends_request {P : Request → Prop} {asked : Request} (h : P asked)
    (tell : VersionControl.Fault → Fault) (answer : Action σ VersionControl.Fault α) :
    Action.Appends listed P (request tell (answer.recording asked)) :=
  fun _ => ⟨[asked], rfl, by simpa using h⟩

private theorem appends_record (P : Request → Prop) (step : Step) :
    Action.Appends listed P (record step : Action (Lifecycle × Recorded σ) Fault Unit) := by
  intro ⟨lifecycle, requests, s⟩
  refine ⟨[], ?_, by simp⟩
  simp only [record, Action.perform_step]
  rcases lifecycle.advance step with ⟨_ | _, _⟩ <;> simp [listed]

/-- Staging files only commits some of them. -/
private theorem appends_stage (branch : String) {all files : List File} (h : files ⊆ all) :
    Action.Appends listed (CommitsOneOf (.ok all))
      (publisher.stage control.recorded branch files) := by
  induction files with
  | nil => exact .pure _ _ _
  | cons file rest ih =>
    obtain ⟨hfile, hrest⟩ := List.cons_subset.mp h
    refine .bind (appends_request (by simp [CommitsOneOf]) _ _) fun current => ?_
    split
    · exact .bind (ih hrest) fun _ => .pure _ _ _
    · next commit hcommit =>
      have hone : CommitsOneOf (.ok all) (.saveFile commit) := by
        rintro _ ⟨⟩
        exact ⟨all, rfl, file, hfile, commitOf?_eq_some hcommit⟩
      exact .bind (appends_request hone _ _) fun _ => .bind (ih hrest) fun _ => .pure _ _ _

private theorem appends_run (seconds : Int) (sites vpns : Json) :
    Action.Appends listed (CommitsOneOf (publisher.files sites vpns))
      (publisher.run control.recorded seconds sites vpns) := by
  unfold run
  cases publisher.files sites vpns with
  | error fault => exact .ofExcept _ _ _
  | ok files =>
    simp only [Action.ofExcept_ok_bind]
    exact .bind (appends_request (by simp [CommitsOneOf]) _ _) fun _ =>
      .bind (appends_record _ _) fun _ =>
      .bind (appends_stage publisher control _ (List.Subset.refl files)) fun _ =>
      .bind (appends_record _ _) fun _ =>
      .bind (appends_request (by simp [CommitsOneOf]) _ _) fun _ =>
      .bind (appends_record _ _) fun _ =>
      .bind (appends_record _ _) fun _ => .pure _ _ _

/-- **A publication only commits its own files**, whatever version control answers: every commit
that it requests has the path and the content of one of them. -/
theorem appends_publish (seconds : Int) (sites vpns : Json) :
    Action.Appends Prod.fst (CommitsOneOf (publisher.files sites vpns))
      (publisher.publish control.recorded seconds sites vpns) := by
  intro ⟨requests, s⟩
  obtain ⟨new, hnew, hP⟩ := appends_run publisher control seconds sites vpns
    (.new .idle, requests, s)
  refine ⟨new, ?_, hP⟩
  simp only [publish, Action.perform_step]
  rcases hp : (publisher.run control.recorded seconds sites vpns).perform
    (.new .idle, requests, s) with ⟨_ | _, _, _, _⟩ <;> simpa [hp, listed] using hnew

end Publisher

namespace Compiler

variable (compiler : Compiler) (source : IntentSource σ) (publisher : Publisher)
  (control : VersionControl σ) (seconds : Int)

/-- The publication of an intent through a recorder. -/
def publishRecorded : Run (Recorded σ) Outcome :=
  compiler.publish source.beside publisher control.recorded seconds

/-- The requests that a publication of an intent makes, from the first to the last. -/
def publishRequests (tree : FileTree) (state : σ) : List Request :=
  ((publishRecorded compiler source publisher control seconds).perform (tree, [], state)).2.2.1

/-- The files and the state of whoever answers, without the recorder. -/
def withoutRecorder : FileTree × Recorded σ → FileTree × σ
  | (tree, _, s) => (tree, s)

private theorem mirrors_onFiles (tell : ε → Compilation.Fault) (look : FileTree → Except ε α) :
    Action.Mirrors withoutRecorder (onFiles tell look : Run (Recorded σ) α) (onFiles tell look) :=
  fun _ => rfl

private theorem mirrors_asking {question : FileTree → Action (Recorded σ) ε α}
    {image : FileTree → Action σ ε α} (tell : ε → Compilation.Fault)
    (h : ∀ tree, Action.Mirrors Prod.snd (question tree) (image tree)) :
    Action.Mirrors withoutRecorder (asking tell question) (asking tell image) := by
  intro ⟨tree, requests, s⟩
  have ht := h tree (requests, s)
  simp only [asking, Action.perform_step, withoutRecorder, ht]

/-- **With the recorder left out, the recorded publication of an intent is its publication**: it has
the same result and leaves the same files and the same state. -/
theorem mirrors_publishRecorded :
    Action.Mirrors withoutRecorder (publishRecorded compiler source publisher control seconds)
      (compiler.publish source publisher control seconds) :=
  .bind (mirrors_asking _ fun tree =>
      source.beside_documents tree ▸ Action.mirrors_beside (source.documents tree)) fun _ =>
    .bind (mirrors_onFiles _ _) fun _ =>
    mirrors_asking _ fun _ => publisher.mirrors_publish control.mirrors_recorded seconds _ _

end Compiler

end NetworkIntent
