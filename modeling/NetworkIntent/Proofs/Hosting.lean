import Mathlib.Logic.Function.Basic
import NetworkIntent.Proofs.Conversation
import NetworkIntent.Proofs.Table

/-!
# Publications to a host of files

What a publication does is settled as soon as it is known which files its branch holds, provided
that version control answers as a host of files: it gives the files that it holds, it holds the
files that it is given, and it refuses nothing. The publication then follows its plan to the end,
and its outcome and its requests can be told from the files alone.

The second file is fetched after the first one was committed. If both had the same path, the second
one would be found with the content of the first one; so the paths have to be different.

## Main definitions

* `Publication.Contents`: what a branch holds at its paths.
* `VersionControl.View`: how a state of version control is looked at.
* `VersionControl.Hosts`: version control answers as a host of files.

## Main results

* `Publisher.perform_publish_of_hosts`: what a publication to a host of files does.
* `Repository.hosts_control`: a repository in memory is a host of files.
-/

set_option autoImplicit false

namespace NetworkIntent

open Publication Repository

variable {σ ρ α : Type}

/-! ## Hosts -/

namespace Publication

/-- What a branch holds at its paths: the content of a file, or nothing where there is no file. -/
abbrev Contents := String → Option String

/-- What a branch holds after some files have been written, one after the other. -/
def Contents.write (contents : Contents) (files : List File) : Contents :=
  files.foldl (fun contents file => Function.update contents file.path (some file.content)) contents

/-- The files to be published, with what a branch holds at their paths. -/
def Contents.visits (contents : Contents) (files : List File) : List Visit :=
  files.map fun file => ⟨file, contents file.path⟩

/-- Writing a file that is there already changes nothing. -/
theorem Contents.update_of_eq {contents : Contents} {file : File}
    (h : contents file.path = some file.content) :
    Function.update contents file.path (some file.content) = contents := by
  rw [← h, Function.update_eq_self]

/-- Files at other paths are found as they were before a file was written. -/
theorem Contents.visits_update (contents : Contents) {file : File} {files : List File}
    (h : file.path ∉ files.map File.path) :
    visits (Function.update contents file.path (some file.content)) files =
      contents.visits files := by
  refine List.map_congr_left fun other hother => ?_
  have hne : other.path ≠ file.path := fun heq => h (heq ▸ List.mem_map_of_mem hother)
  rw [Function.update_of_ne hne]

end Publication

namespace VersionControl

/-- How a state of version control is looked at: which files it may hold, which requests it lists,
and how a request is told in the list. -/
structure View (σ ρ : Type) where
  holds : σ → Contents → Prop
  log : σ → List ρ
  tell : Request → ρ

/-- From a state on, an action has a result with a property, lists a request, and leaves a state
that holds some files. -/
def View.Answers (view : View σ ρ) (action : Action σ Fault α) (request : Request) (s : σ)
    (P : α → Prop) (contents : Contents) : Prop :=
  ∃ a t, action.perform s = (.ok a, t) ∧ P a ∧ view.log t = view.log s ++ [view.tell request] ∧
    view.holds t contents

/-- Version control answers as a host of files to what a publication on a branch requests: it gives
the files that it holds, it holds the files that it is given, and it opens the merge request. -/
structure Hosts (control : VersionControl σ) (view : View σ ρ) (settings : PublisherSettings)
    (branch : String) (files : List File) : Prop where
  createBranch : ∀ s contents, view.holds s contents →
    view.Answers (control.createBranch branch settings.trunk)
      (.createBranch branch settings.trunk) s (fun _ => True) contents
  getFile : ∀ file ∈ files, ∀ s contents, view.holds s contents →
    view.Answers (control.getFile file.path branch) (.getFile file.path branch) s
      (· = contents file.path) contents
  saveFile : ∀ file ∈ files, ∀ s contents, view.holds s contents →
    view.Answers (control.saveFile (Publisher.commitFor settings branch file (contents file.path)))
      (.saveFile (Publisher.commitFor settings branch file (contents file.path))) s (fun _ => True)
      (Function.update contents file.path (some file.content))
  createMergeRequest : ∀ s contents, view.holds s contents →
    view.Answers (control.createMergeRequest (Publisher.mergeRequest settings branch))
      (.createMergeRequest (Publisher.mergeRequest settings branch)) s (·.state = "opened") contents

/-- Fewer files are hosted, too. -/
theorem Hosts.mono {control : VersionControl σ} {view : View σ ρ} {settings : PublisherSettings}
    {branch : String} {files fewer : List File} (h : control.Hosts view settings branch files)
    (hfewer : fewer ⊆ files) : control.Hosts view settings branch fewer where
  createBranch := h.createBranch
  getFile file hfile := h.getFile file (hfewer hfile)
  saveFile file hfile := h.saveFile file (hfewer hfile)
  createMergeRequest := h.createMergeRequest

end VersionControl

/-! ## Publications -/

namespace Publisher

open VersionControl (View)

variable (publisher : Publisher) {control : VersionControl σ} {view : View σ ρ} {branch : String}
  {files : List File} {contents : Contents} {s : σ}

/-- The files of a publication are at the two paths of the publisher. -/
theorem map_path_of_files {sites vpns : Json} (h : publisher.files sites vpns = .ok files) :
    files.map File.path = [publisher.sitePath, publisher.vpnPath] := by
  rw [files_eq] at h
  split at h
  · cases h
  · cases h
  · cases h
    rfl

/-- A request that is answered does not touch the lifecycle. -/
theorem perform_request_of_ok {action : Action σ VersionControl.Fault α} {a : α} {t : σ}
    (h : action.perform s = (.ok a, t)) (tell : VersionControl.Fault → Fault)
    (lifecycle : Lifecycle) :
    (request tell action).perform (lifecycle, s) = (.ok a, lifecycle, t) := by
  simp only [request, Action.perform_step, h]
  rfl

/-- Staging visits the files in their order, and the host holds them afterwards.

**Proof sketch.** Induction on the files. The first one is fetched, and saved if the host does not
hold it; in both cases the host holds it afterwards, and the others are found as before. -/
theorem perform_stage_of_hosts (h : control.Hosts view publisher.settings branch files)
    (hpaths : (files.map File.path).Nodup) (hs : view.holds s contents) (lifecycle : Lifecycle) :
    ∃ t, (publisher.stage control branch files).perform (lifecycle, s) =
        (.ok (Visit.committed (contents.visits files), Visit.unchanged (contents.visits files)),
          lifecycle, t) ∧
      view.log t = view.log s ++ ((contents.visits files).flatMap
        (Visit.planned publisher.settings branch)).map (fun planned => view.tell planned.1) ∧
      view.holds t (contents.write files) := by
  induction files generalizing contents s with
  | nil => exact ⟨s, rfl, by simp [Contents.visits], hs⟩
  | cons file rest ih =>
    obtain ⟨hfile, hrest⟩ := List.nodup_cons.mp hpaths
    have hhosts := h.mono (List.subset_cons_self file rest)
    obtain ⟨_, t, hget, rfl, hlog, ht⟩ := h.getFile file List.mem_cons_self s contents hs
    have hvisits : contents.visits (file :: rest) =
        ⟨file, contents file.path⟩ :: contents.visits rest := rfl
    unfold stage
    rw [Action.perform_bind_ok (perform_request_of_ok hget _ lifecycle), commitOf?_eq, hvisits]
    by_cases hcurrent : contents file.path = some file.content
    · obtain ⟨u, hstage, hlog', hu⟩ := ih hhosts hrest ht
      refine ⟨u, ?_, ?_, ?_⟩
      · rw [if_pos hcurrent]
        dsimp only
        rw [Action.perform_bind_ok hstage]
        simp [Visit.committed, Visit.unchanged, hcurrent]
      · rw [hlog', hlog]
        simp [Visit.planned, hcurrent]
      · rw [Contents.write, List.foldl_cons, Contents.update_of_eq hcurrent]
        exact hu
    · obtain ⟨⟨⟩, u, hsave, -, hlog', hu⟩ := h.saveFile file List.mem_cons_self t contents ht
      obtain ⟨v, hstage, hlog'', hv⟩ := ih hhosts hrest hu
      rw [Contents.visits_update contents hfile] at hstage hlog''
      refine ⟨v, ?_, ?_, hv⟩
      · rw [if_neg hcurrent]
        dsimp only
        rw [Action.perform_bind_ok (perform_request_of_ok hsave _ lifecycle),
          Action.perform_bind_ok hstage]
        simp [Visit.committed, Visit.unchanged, hcurrent]
      · rw [hlog'', hlog', hlog]
        simp [Visit.planned, hcurrent]

/-- **A publication to a host of files follows its plan to the end**: its outcome and the requests
that it makes are told by the files that the host holds before, and the host holds the published
files afterwards. -/
theorem perform_publish_of_hosts {seconds : Int} {sites vpns : Json}
    (hfiles : publisher.files sites vpns = .ok files)
    (h : control.Hosts view publisher.settings (branchName publisher.settings.branchPrefix seconds)
      files)
    (hpaths : (files.map File.path).Nodup) (hs : view.holds s contents) :
    ∃ (state : MergeRequestState) (t : σ), state.state = "opened" ∧
      (publisher.publish control seconds sites vpns).perform s =
        (.ok ⟨branchName publisher.settings.branchPrefix seconds,
          Visit.committed (contents.visits files), Visit.unchanged (contents.visits files), state,
          completeHistory (branchName publisher.settings.branchPrefix seconds)
            (Visit.committed (contents.visits files)).length
            (Visit.unchanged (contents.visits files)).length "opened"⟩, t) ∧
      view.log t = view.log s ++
        (publisher.plan (branchName publisher.settings.branchPrefix seconds)
          (contents.visits files) state).map (fun planned => view.tell planned.1) ∧
      view.holds t (contents.write files) := by
  simp only [publish, Action.perform_step, run, hfiles, Action.ofExcept_ok_bind, Lifecycle.new]
  revert h
  generalize branchName publisher.settings.branchPrefix seconds = branch
  intro h
  obtain ⟨⟨⟩, t, hbranch, -, hlog, ht⟩ := h.createBranch s contents hs
  obtain ⟨u, hstage, hlog', hu⟩ := publisher.perform_stage_of_hosts h hpaths ht
    ⟨.branchCreated, [⟨.idle, .branchCreated, .createBranch branch⟩]⟩
  obtain ⟨state, v, hopen, hstate, hlog'', hv⟩ := h.createMergeRequest u _ hu
  refine ⟨state, v, hstate, ?_, ?_, hv⟩
  · rw [Action.perform_bind_ok (perform_request_of_ok hbranch _ _),
      Action.perform_bind_ok (perform_record_of_advance rfl _ _), List.nil_append,
      Action.perform_bind_ok hstage]
    dsimp only
    rw [Action.perform_bind_ok (perform_record_of_advance rfl _ _),
      Action.perform_bind_ok (perform_request_of_ok hopen _ _),
      Action.perform_bind_ok (perform_record_of_advance rfl _ _),
      Action.perform_bind_ok (perform_record_of_advance rfl _ _), ← hstate]
    rfl
  · rw [hlog'', hlog', hlog]
    simp [plan]

end Publisher

/-! ## Repositories in memory -/

namespace Repository

/-- A repository in memory holds the files of its table and lists the requests as they are. -/
def view : VersionControl.View Repository Request where
  holds repository contents := contents = fun path => Table.get? path repository.files
  log := requests
  tell request := request

/-- **A repository in memory is a host of files**, if it is not told to fail. -/
theorem hosts_control (settings : PublisherSettings) (branch : String) (files : List File) :
    (control .none).Hosts view settings branch files where
  createBranch := by
    rintro repository _ rfl
    exact ⟨(), _, rfl, trivial, rfl, rfl⟩
  getFile := by
    rintro file - repository _ rfl
    exact ⟨_, _, rfl, rfl, rfl, rfl⟩
  saveFile := by
    rintro file - repository _ rfl
    refine ⟨(), _, rfl, trivial, rfl, ?_⟩
    funext path
    change _ = Table.get? path (Table.insert file.path file.content repository.files)
    rw [Function.update_apply, Table.get?_insert]
    simp only [eq_comm]
  createMergeRequest := by
    rintro repository _ rfl
    exact ⟨_, _, rfl, rfl, rfl, rfl⟩

end Repository

end NetworkIntent
