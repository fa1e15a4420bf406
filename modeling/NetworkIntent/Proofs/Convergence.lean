import NetworkIntent.Proofs.Conversation
import NetworkIntent.Proofs.Table

/-!
# Convergence of publications

Publications are attempted one after the other against a repository in memory, with any documents
and with any of their requests failing. Whatever has happened before, an attempt only commits what
changes a file, and one that succeeds leaves both files with the collections of its documents. So a
publication that is repeated commits nothing.

## Main definitions

* `Confined`: calls to a repository that leave all files but some alone and commit real changes.
* `Publication.Attempt`, `Publication.Run`: a publication that is attempted, and what happened.
* `Publisher.attemptAll`: several attempts one after the other.
* `Publisher.Faithful`: a run commits only real changes and tells what it has done.
* `Publisher.Settled`: a run that repeats the one before it commits nothing.

## Main results

* `Publisher.Staging.converges`: staging that succeeds leaves every file with its content.
* `Publisher.publications_converge`: every run of every sequence of attempts is faithful, files at
  other paths never change, and repeated publications commit nothing.
-/

set_option autoImplicit false

namespace NetworkIntent

open Publication

/-- If every file that is visited is there already, the files are only fetched. -/
theorem Publication.Visit.flatMap_planned_of_committed_eq_nil (settings : PublisherSettings)
    (branch : String) {visits : List Visit} (h : Visit.committed visits = []) :
    visits.flatMap (Visit.planned settings branch) = visits.map fun visit =>
      (.getFile visit.file.path branch, .content visit.current) := by
  rw [Visit.committed, List.map_eq_nil_iff, List.filter_eq_nil_iff] at h
  rw [← List.flatMap_pure_eq_map]
  refine List.flatMap_congr fun visit hvisit => ?_
  have hcurrent : visit.current = some visit.file.content := by simpa using h visit hvisit
  rw [Visit.planned, if_pos hcurrent]
  rfl

/-! ## Requests to a repository -/

namespace Repository

variable {failures : Failures} {repository after : Repository}

/-- Creating a branch changes no file and opens no merge request. -/
theorem spec_createBranch {branch source : String} {result : Except VersionControl.Fault Unit}
    (h : ((control failures).createBranch branch source).perform repository = (result, after)) :
    after.files = repository.files ∧ after.opened = repository.opened := by
  simp only [control, answer, Action.perform_step] at h
  split at h <;> cases h <;> exact ⟨rfl, rfl⟩

/-- Fetching a file changes nothing and gives the content of the file. -/
theorem spec_getFile {path branch : String} {result : Except VersionControl.Fault (Option String)}
    (h : ((control failures).getFile path branch).perform repository = (result, after)) :
    after.files = repository.files ∧ after.opened = repository.opened ∧
      ∀ current, result = .ok current → current = Table.get? path repository.files := by
  simp only [control, answer, Action.perform_step] at h
  split at h <;> cases h <;> simp

/-- A commit gives the file its content, and one that fails changes nothing. -/
theorem spec_saveFile {commit : FileCommit} {result : Except VersionControl.Fault Unit}
    (h : ((control failures).saveFile commit).perform repository = (result, after)) :
    after.opened = repository.opened ∧
      match result with
      | .ok () => after.files = Table.insert commit.path commit.content repository.files
      | .error _ => after.files = repository.files := by
  simp only [control, answer, Action.perform_step] at h
  split at h <;> cases h <;> exact ⟨rfl, rfl⟩

/-- Opening a merge request changes no file, and is counted if it succeeds. -/
theorem spec_createMergeRequest {request : MergeRequest}
    {result : Except VersionControl.Fault MergeRequestState}
    (h : ((control failures).createMergeRequest request).perform repository = (result, after)) :
    after.files = repository.files ∧
      ∀ state, result = .ok state → after.opened = repository.opened + 1 := by
  simp only [control, answer, Action.perform_step] at h
  split at h <;> cases h <;> simp

end Repository

/-! ## Calls to a repository -/

/-- If a call is a commit that succeeds, it changes the content at its path, and it is an update
exactly if there was a file before. -/
def Call.CommitsChange (call : Call Repository) : Prop :=
  ∀ commit, call.request = .saveFile commit → call.answer = .ok .done →
    Table.get? commit.path call.after.files = some commit.content ∧
      Table.get? commit.path call.before.files ≠ some commit.content ∧
      (commit.action = .update ↔ Table.get? commit.path call.before.files ≠ none)

/-- Calls from one repository to another only touch files at some paths: all other files stay as
they are throughout, and commits are real changes. -/
structure Confined (paths : List String) (before : Repository) (calls : List (Call Repository))
    (after : Repository) : Prop where
  others : ∀ path ∉ paths,
    (∀ call ∈ calls, Table.get? path call.after.files = Table.get? path before.files) ∧
      Table.get? path after.files = Table.get? path before.files
  commits : ∀ call ∈ calls, call.CommitsChange

namespace Confined

variable {paths more : List String} {before between after : Repository}
  {calls others : List (Call Repository)}

theorem nil (paths : List String) (before : Repository) : Confined paths before [] before :=
  ⟨fun _ _ => ⟨by simp, rfl⟩, by simp⟩

/-- A call that changes no file touches none. -/
theorem of_files_eq (paths : List String) {call : Call Repository}
    (hfiles : call.after.files = before.files)
    (hcommit : ∀ commit, call.request = .saveFile commit → call.answer ≠ .ok .done) :
    Confined paths before [call] call.after :=
  ⟨fun _ _ => ⟨by simp [hfiles], by rw [hfiles]⟩, by
    rw [List.forall_mem_singleton]
    exact fun commit hrequest hanswer => absurd hanswer (hcommit commit hrequest)⟩

/-- Calls may be followed by others. -/
theorem append (h : Confined paths before calls between)
    (h' : Confined paths between others after) : Confined paths before (calls ++ others) after := by
  refine ⟨fun path hpath => ?_, List.forall_mem_append.mpr ⟨h.commits, h'.commits⟩⟩
  obtain ⟨hcalls, hbetween⟩ := h.others path hpath
  obtain ⟨hothers, hafter⟩ := h'.others path hpath
  exact ⟨List.forall_mem_append.mpr
    ⟨hcalls, fun call hcall => (hothers call hcall).trans hbetween⟩, hafter.trans hbetween⟩

/-- More paths may be given than are touched. -/
theorem mono (h : Confined paths before calls after) (hsub : paths ⊆ more) :
    Confined more before calls after :=
  ⟨fun path hpath => h.others path fun hmem => hpath (hsub hmem), h.commits⟩

end Confined

/-! ## Staging in a repository -/

namespace Publisher

variable {publisher : Publisher} {failures : Repository.Failures} {branch : String}

/-- Fetching a file touches none. -/
theorem confined_getFile (paths : List String) {r t : Repository} {path : String}
    {result : Except VersionControl.Fault (Option String)}
    (hget : ((Repository.control failures).getFile path branch).perform r = (result, t)) :
    Confined paths r [⟨.getFile path branch, result.map .content, r, t⟩] t :=
  .of_files_eq paths (Repository.spec_getFile hget).1 fun _ h => by cases h

/-- Fetching a file and then committing it because it differs touches this file alone. -/
theorem confined_getFile_saveFile {settings : PublisherSettings} {r t u : Repository} {file : File}
    {current : Option String} {result : Except VersionControl.Fault Unit}
    (hget : ((Repository.control failures).getFile file.path branch).perform r = (.ok current, t))
    (hdiffers : current ≠ some file.content)
    (hsave : ((Repository.control failures).saveFile
      (commitFor settings branch file current)).perform t = (result, u)) :
    Confined [file.path] r
      [⟨.getFile file.path branch, .ok (.content current), r, t⟩,
        ⟨.saveFile (commitFor settings branch file current), result.map fun _ => .done, t, u⟩]
      u := by
  refine (confined_getFile [file.path] hget).append ?_
  obtain ⟨hfiles, -, hcurrent⟩ := Repository.spec_getFile hget
  obtain ⟨-, hfiles'⟩ := Repository.spec_saveFile hsave
  rcases result with fault | _
  · exact .of_files_eq _ hfiles' fun _ _ h => by cases h
  dsimp only [commitFor] at hfiles'
  refine ⟨fun path hpath => ?_, ?_⟩
  · have hother : file.path ≠ path := fun h => hpath (by simp [h])
    simp [hfiles', Table.get?_insert, hother]
  · rw [List.forall_mem_singleton]
    rintro _ ⟨⟩ -
    dsimp only [commitFor]
    have hbefore : Table.get? file.path t.files = current := by rw [hfiles, ← hcurrent current rfl]
    rw [hbefore, hfiles', Table.get?_insert, if_pos rfl]
    exact ⟨rfl, hdiffers, by by_cases h : current = none <;> simp [h]⟩

/-- Staging only touches the files that are staged.

**Proof sketch.** Induction on the ways in which staging can go. Before a file is committed its
content has been fetched, which tells that it differs and whether it is there at all. -/
theorem Staging.confined {r t : Repository} {files : List File} {calls : List (Call Repository)}
    {result : Except Fault (List String × List String)}
    (h : publisher.Staging (Repository.control failures) branch r files calls result t) :
    Confined (files.map File.path) r calls t := by
  induction h with
  | nil r => exact .nil _ r
  | @unfetched r t file rest fault hget => exact confined_getFile _ hget
  | @unchanged r t u file rest calls result hget hrest ih =>
    exact (confined_getFile _ hget).append (ih.mono (List.subset_cons_self _ _))
  | @unsaved r t u file rest current fault hget hdiffers hsave =>
    exact (confined_getFile_saveFile hget hdiffers hsave).mono (by simp)
  | @saved r t u v file rest current calls result hget hdiffers hsave hrest ih =>
    exact ((confined_getFile_saveFile hget hdiffers hsave).mono (by simp)).append
      (ih.mono (List.subset_cons_self _ _))

/-- Staging opens no merge request. -/
theorem Staging.opened_eq {r t : Repository} {files : List File} {calls : List (Call Repository)}
    {result : Except Fault (List String × List String)}
    (h : publisher.Staging (Repository.control failures) branch r files calls result t) :
    t.opened = r.opened := by
  induction h with
  | nil => rfl
  | unfetched hget => exact (Repository.spec_getFile hget).2.1
  | unchanged hget _ ih => exact ih.trans (Repository.spec_getFile hget).2.1
  | unsaved hget _ hsave =>
    exact (Repository.spec_saveFile hsave).1.trans (Repository.spec_getFile hget).2.1
  | saved hget _ hsave _ ih =>
    exact ih.trans ((Repository.spec_saveFile hsave).1.trans (Repository.spec_getFile hget).2.1)

/-- The files that differ from what a repository has at their paths. -/
def differing (repository : Repository) (files : List File) : List File :=
  files.filter fun file => Table.get? file.path repository.files ≠ some file.content

/-- The files whose content a repository has at their paths. -/
def settled (repository : Repository) (files : List File) : List File :=
  files.filter fun file => Table.get? file.path repository.files = some file.content

/-- Which files differ depends on what there is at their paths only. -/
theorem differing_congr {repository other : Repository} {files : List File}
    (h : ∀ file ∈ files,
      Table.get? file.path repository.files = Table.get? file.path other.files) :
    differing repository files = differing other files :=
  List.filter_congr fun file hfile => by rw [h file hfile]

/-- Which files are settled depends on what there is at their paths only. -/
theorem settled_congr {repository other : Repository} {files : List File}
    (h : ∀ file ∈ files,
      Table.get? file.path repository.files = Table.get? file.path other.files) :
    settled repository files = settled other files :=
  List.filter_congr fun file hfile => by rw [h file hfile]

/-- Staging that succeeds leaves every file with its content, and tells which ones differed.

**Proof sketch.** Induction on the ways in which staging can go. The files that follow have other
paths, so they find what was there at the beginning, and they leave the file that comes first as it
is. -/
theorem Staging.converges {r t : Repository} {files : List File}
    {calls : List (Call Repository)} {result : Except Fault (List String × List String)}
    (h : publisher.Staging (Repository.control failures) branch r files calls result t)
    (hpaths : (files.map File.path).Nodup) {committed kept : List String}
    (hresult : result = .ok (committed, kept)) :
    (∀ file ∈ files, Table.get? file.path t.files = some file.content) ∧
      committed = (differing r files).map File.path ∧ kept = (settled r files).map File.path := by
  induction h generalizing committed kept with
  | nil r =>
    cases hresult
    exact ⟨by simp, rfl, rfl⟩
  | unfetched | unsaved => cases hresult
  | @unchanged r t u file rest calls result hget hrest ih =>
    obtain ⟨hfiles, -, hcurrent⟩ := Repository.spec_getFile hget
    have hfile := hcurrent _ rfl
    obtain ⟨hnotin, hrestPaths⟩ := List.nodup_cons.mp hpaths
    rcases result with _ | ⟨committed, kept⟩
    · cases hresult
    cases hresult
    obtain ⟨hafter, rfl, rfl⟩ := ih hrestPaths rfl
    have hsame : ∀ other ∈ rest, Table.get? other.path t.files = Table.get? other.path r.files :=
      fun _ _ => by rw [hfiles]
    refine ⟨List.forall_mem_cons.mpr ⟨?_, hafter⟩, ?_, ?_⟩
    · rw [(hrest.confined.others _ hnotin).2, hfiles, ← hfile]
    · rw [differing_congr hsame, differing, differing, List.filter_cons_of_neg (by simp [← hfile])]
    · rw [settled_congr hsame, settled, settled, List.filter_cons_of_pos (by simp [← hfile]),
        List.map_cons]
  | @saved r t u v file rest current calls result hget hdiffers hsave hrest ih =>
    obtain ⟨hfiles, -, hcurrent⟩ := Repository.spec_getFile hget
    have hfile := hcurrent _ rfl
    obtain ⟨-, hfiles'⟩ := Repository.spec_saveFile hsave
    dsimp only [commitFor] at hfiles'
    obtain ⟨hnotin, hrestPaths⟩ := List.nodup_cons.mp hpaths
    rcases result with _ | ⟨committed, kept⟩
    · cases hresult
    cases hresult
    obtain ⟨hafter, rfl, rfl⟩ := ih hrestPaths rfl
    have hsame : ∀ other ∈ rest, Table.get? other.path u.files = Table.get? other.path r.files := by
      intro other hother
      have hpath : file.path ≠ other.path := fun h => hnotin (h ▸ List.mem_map_of_mem hother)
      rw [hfiles', Table.get?_insert, if_neg hpath, hfiles]
    rw [hfile] at hdiffers
    refine ⟨List.forall_mem_cons.mpr ⟨?_, hafter⟩, ?_, ?_⟩
    · rw [(hrest.confined.others _ hnotin).2, hfiles', Table.get?_insert, if_pos rfl]
    · rw [differing_congr hsame, differing, differing,
        List.filter_cons_of_pos (by simpa using hdiffers), List.map_cons]
    · rw [settled_congr hsame, settled, settled,
        List.filter_cons_of_neg (by simpa using hdiffers)]

/-! ## Publications in a repository -/

/-- Whatever course a publication takes, it only touches its own files. -/
theorem Course.confined {r t : Repository} {files : List File} {calls : List (Call Repository)}
    {result : Except Failure Outcome}
    (h : publisher.Course (Repository.control failures) branch files r calls result t) :
    Confined (files.map File.path) r calls t := by
  have hcreate {t : Repository} {result : Except VersionControl.Fault Unit}
      (hbranch : ((Repository.control failures).createBranch branch
        publisher.settings.trunk).perform r = (result, t)) :
      Confined (files.map File.path) r [⟨.createBranch branch publisher.settings.trunk,
        result.map fun _ => .done, r, t⟩] t :=
    .of_files_eq _ (Repository.spec_createBranch hbranch).1 fun _ h => by cases h
  have hrequest {u v : Repository} {result : Except VersionControl.Fault MergeRequestState}
      (hopen : ((Repository.control failures).createMergeRequest
        (mergeRequest publisher.settings branch)).perform u = (result, v)) :
      Confined (files.map File.path) u [⟨.createMergeRequest
        (mergeRequest publisher.settings branch), result.map .opened, u, v⟩] v :=
    .of_files_eq _ (Repository.spec_createMergeRequest hopen).1 fun _ h => by cases h
  cases h with
  | noBranch hbranch => exact hcreate hbranch
  | unstaged hbranch hstaging => exact (hcreate hbranch).append hstaging.confined
  | unopened hbranch hstaging hopen | done hbranch hstaging hopen =>
    exact ((hcreate hbranch).append hstaging.confined).append (hrequest hopen)

/-- A publication that succeeds leaves every file with its content, tells which ones differed, and
opens one merge request. -/
theorem Course.converges {r t : Repository} {files : List File} {calls : List (Call Repository)}
    {outcome : Outcome}
    (h : publisher.Course (Repository.control failures) branch files r calls (.ok outcome) t)
    (hpaths : (files.map File.path).Nodup) :
    (∀ file ∈ files, Table.get? file.path t.files = some file.content) ∧
      outcome.committed = (differing r files).map File.path ∧
      outcome.unchanged = (settled r files).map File.path ∧ t.opened = r.opened + 1 := by
  cases h with
  | @done s u v calls committed kept state hbranch hstaging hopen =>
    obtain ⟨hfiles, hopened⟩ := Repository.spec_createBranch hbranch
    obtain ⟨hfiles', hopened'⟩ := Repository.spec_createMergeRequest hopen
    obtain ⟨hafter, hcommitted, hkept⟩ := hstaging.converges hpaths rfl
    have hsame : ∀ file ∈ files, Table.get? file.path s.files = Table.get? file.path r.files :=
      fun _ _ => by rw [hfiles]
    exact ⟨by simpa only [hfiles'] using hafter, by rw [hcommitted, differing_congr hsame],
      by rw [hkept, settled_congr hsame],
      by rw [hopened' state rfl, hstaging.opened_eq, hopened]⟩

/-- A publication that commits nothing only creates the branch, fetches the files and opens the
merge request. -/
theorem Course.requests_of_committed_eq_nil {r t : Repository} {files : List File}
    {calls : List (Call Repository)} {outcome : Outcome}
    (h : publisher.Course (Repository.control failures) branch files r calls (.ok outcome) t)
    (hnone : outcome.committed = []) :
    calls.map Call.request =
      .createBranch outcome.branch publisher.settings.trunk ::
        files.map (fun file => .getFile file.path outcome.branch) ++
        [.createMergeRequest (mergeRequest publisher.settings outcome.branch)] := by
  obtain ⟨visits, rfl, state, hcalls, rfl⟩ := h.exists_agrees
  have hplanned := Visit.flatMap_planned_of_committed_eq_nil publisher.settings branch hnone
  have hrequests := congrArg (List.map Prod.fst) hcalls
  simpa [Call.exchange, answered, Function.comp_def, plan, hplanned] using hrequests

end Publisher

/-! ## Sequences of publications -/

namespace Publication

/-- A publication that is attempted: the time, the documents, and the requests that fail. -/
structure Attempt where
  seconds : Int
  sites : Json
  vpns : Json
  failures : Repository.Failures
  deriving DecidableEq

/-- What happened when a publication was attempted. -/
structure Run where
  attempt : Attempt
  before : Repository
  calls : List (Call Repository)
  result : Except Failure Outcome
  after : Repository

end Publication

namespace Publisher

/-- What happens when a publication is attempted. -/
def attempt (publisher : Publisher) (repository : Repository) (attempt : Attempt) : Run :=
  let control := Repository.control attempt.failures
  let (result, after) :=
    (publisher.publish control attempt.seconds attempt.sites attempt.vpns).perform repository
  ⟨attempt, repository,
    publisher.transcript control attempt.seconds attempt.sites attempt.vpns repository, result,
    after⟩

@[simp] theorem attempt_attempt (publisher : Publisher) (repository : Repository)
    (attempt : Attempt) : (publisher.attempt repository attempt).attempt = attempt := rfl

/-- What happens when publications are attempted one after the other. -/
def attemptAll (publisher : Publisher) (repository : Repository) : List Attempt → List Run
  | [] => []
  | attempt :: rest =>
    let run := publisher.attempt repository attempt
    run :: publisher.attemptAll run.after rest

variable (publisher : Publisher)

/-- The files of a publication with some texts of the collections. -/
def filesOf (siteText vpnText : String) : List File :=
  [⟨publisher.sitePath, siteText, publisher.settings.siteMessage⟩,
    ⟨publisher.vpnPath, vpnText, publisher.settings.vpnMessage⟩]

/-- An attempt does nothing at all, or it takes one of the courses of a publication of the
collections of its documents. -/
theorem attempt_cases (repository : Repository) (attempt : Attempt) :
    (∃ failure, publisher.attempt repository attempt =
      ⟨attempt, repository, [], .error failure, repository⟩) ∨
    ∃ siteText vpnText branch, renderCollection .sites attempt.sites = .ok siteText ∧
      renderCollection .vpns attempt.vpns = .ok vpnText ∧
      publisher.Course (Repository.control attempt.failures) branch
        (publisher.filesOf siteText vpnText) repository
        (publisher.attempt repository attempt).calls
        (publisher.attempt repository attempt).result
        (publisher.attempt repository attempt).after := by
  have hfiles := publisher.files_eq attempt.sites attempt.vpns
  rcases hrendered : publisher.files attempt.sites attempt.vpns with cause | files
  · refine .inl ⟨failureAt .idle [] cause, ?_⟩
    simp only [Publisher.attempt, transcript, perform_publish_of_files_error _ _ _ hrendered]
  · refine .inr ?_
    rw [hrendered] at hfiles
    split at hfiles
    · cases hfiles
    · cases hfiles
    · next siteText vpnText hsites hvpns =>
      cases hfiles
      exact ⟨siteText, vpnText, _, hsites, hvpns,
        publisher.course_of_files _ attempt.seconds hrendered repository⟩

/-- A run leaves other files alone and only commits real changes. If it succeeds, the files are
the collections of its documents afterwards, it tells which of them differed before, and one merge
request more has been opened. -/
structure Faithful (run : Run) : Prop where
  confined : Confined [publisher.sitePath, publisher.vpnPath] run.before run.calls run.after
  converged : ∀ outcome, run.result = .ok outcome →
    ∃ siteText vpnText, renderCollection .sites run.attempt.sites = .ok siteText ∧
      renderCollection .vpns run.attempt.vpns = .ok vpnText ∧
      let files := publisher.filesOf siteText vpnText
      (∀ file ∈ files, Table.get? file.path run.after.files = some file.content) ∧
        outcome.committed = (differing run.before files).map File.path ∧
        outcome.unchanged = (settled run.before files).map File.path ∧
        run.after.opened = run.before.opened + 1

/-- A run that succeeds with the documents of the run before, which succeeded as well, finds both
files unchanged. It commits nothing and opens one merge request. -/
def Settled (first second : Run) : Prop :=
  ∀ outcome again, first.result = .ok outcome → second.result = .ok again →
    second.attempt.sites = first.attempt.sites → second.attempt.vpns = first.attempt.vpns →
    again.committed = [] ∧ again.unchanged = [publisher.sitePath, publisher.vpnPath] ∧
      second.after.opened = second.before.opened + 1 ∧
      second.calls.map Call.request =
        [.createBranch again.branch publisher.settings.trunk,
          .getFile publisher.sitePath again.branch, .getFile publisher.vpnPath again.branch,
          .createMergeRequest (mergeRequest publisher.settings again.branch)]

variable {publisher}

theorem nodup_paths (hpaths : publisher.sitePath ≠ publisher.vpnPath) (siteText vpnText : String) :
    ((publisher.filesOf siteText vpnText).map File.path).Nodup := by
  simp [filesOf, hpaths]

/-- Every attempt is faithful. -/
theorem faithful_attempt (hpaths : publisher.sitePath ≠ publisher.vpnPath)
    (repository : Repository) (attempt : Attempt) :
    publisher.Faithful (publisher.attempt repository attempt) := by
  obtain ⟨failure, hrun⟩ | ⟨siteText, vpnText, branch, hsites, hvpns, hcourse⟩ :=
    publisher.attempt_cases repository attempt
  · rw [hrun]
    exact ⟨.nil _ _, fun _ h => by cases h⟩
  · refine ⟨hcourse.confined, fun outcome hresult => ⟨siteText, vpnText, hsites, hvpns, ?_⟩⟩
    rw [hresult] at hcourse
    exact hcourse.converges (nodup_paths hpaths siteText vpnText)

/-- Attempts that follow each other commit nothing if they succeed with the same documents. -/
theorem settled_attempt (hpaths : publisher.sitePath ≠ publisher.vpnPath)
    (repository : Repository) (first second : Attempt) :
    publisher.Settled (publisher.attempt repository first)
      (publisher.attempt (publisher.attempt repository first).after second) := by
  intro outcome again hfirst hsecond hsites hvpns
  obtain ⟨siteText, vpnText, hsite, hvpn, hafter, -⟩ :=
    (faithful_attempt hpaths repository first).converged outcome hfirst
  obtain ⟨failure, hrun⟩ | ⟨siteText', vpnText', branch, hsite', hvpn', hcourse⟩ :=
    publisher.attempt_cases (publisher.attempt repository first).after second
  · rw [hrun] at hsecond
    cases hsecond
  simp only [attempt_attempt] at hsites hvpns hsite hvpn
  rw [hsites, hsite] at hsite'
  rw [hvpns, hvpn] at hvpn'
  cases hsite'
  cases hvpn'
  rw [hsecond] at hcourse
  obtain ⟨-, hcommitted, hkept, hopened⟩ := hcourse.converges (nodup_paths hpaths siteText vpnText)
  have hnone : again.committed = [] := by
    rw [hcommitted, List.map_eq_nil_iff, differing, List.filter_eq_nil_iff]
    intro file hfile
    simp [hafter file hfile]
  refine ⟨hnone, ?_, hopened, hcourse.requests_of_committed_eq_nil hnone⟩
  rw [hkept, settled, List.filter_eq_self.mpr fun file hfile => by simp [hafter file hfile]]
  rfl

/-- **Publications converge and only commit real changes**: in every sequence of attempts every run
is faithful, files at other paths are what they were at the very beginning, and a run that repeats
the one before it commits nothing.

**Proof sketch.** Induction on the attempts, from any repository. A run keeps other files, so what
holds of the rest of the sequence holds of the repository before the run as well, and the first two
runs follow each other. -/
theorem publications_converge (publisher : Publisher)
    (hpaths : publisher.sitePath ≠ publisher.vpnPath) (repository : Repository)
    (attempts : List Attempt) :
    let runs := publisher.attemptAll repository attempts
    (∀ run ∈ runs, publisher.Faithful run ∧
      ∀ path ∉ [publisher.sitePath, publisher.vpnPath],
        (∀ call ∈ run.calls, Table.get? path call.after.files = Table.get? path repository.files) ∧
          Table.get? path run.after.files = Table.get? path repository.files) ∧
      runs.IsChain publisher.Settled := by
  induction attempts generalizing repository with
  | nil => simp [attemptAll]
  | cons first rest ih =>
    have hfirst := faithful_attempt hpaths repository first
    obtain ⟨hruns, hchain⟩ := ih (publisher.attempt repository first).after
    refine ⟨List.forall_mem_cons.mpr ⟨⟨hfirst, hfirst.confined.others⟩, fun run hrun => ?_⟩, ?_⟩
    · refine ⟨(hruns run hrun).1, fun path hpath => ?_⟩
      have hkept := (hfirst.confined.others path hpath).2
      obtain ⟨hcalls, hafter⟩ := (hruns run hrun).2 path hpath
      exact ⟨fun call hcall => (hcalls call hcall).trans hkept, hafter.trans hkept⟩
    · cases rest with
      | nil => exact .singleton _
      | cons second rest =>
        exact .cons_cons (settled_attempt hpaths repository first second) hchain

/-- A publication of two empty collections with some of its requests failing. -/
def emptyAttempt (failures : Repository.Failures) : Attempt :=
  ⟨0, .obj [("site-service:sites", .arr [])], .obj [("vpn-service:vpns", .arr [])], failures⟩

/-- If the second file cannot be committed at first, the next publication commits this file only,
and the one after that nothing. -/
theorem publications_converge_after_failure :
    let publisher := Publisher.new .default
    let runs := publisher.attemptAll ⟨[], 0, []⟩
      [emptyAttempt ⟨none, [], [("services/vpns.json", .unreachable "timed out")], none⟩,
        emptyAttempt .none, emptyAttempt .none]
    (∀ run ∈ runs, publisher.Faithful run) ∧ runs.IsChain publisher.Settled ∧
      runs.map (fun run => run.result.toOption.map Outcome.committed) =
        [none, some ["services/vpns.json"], some []] := by
  intro publisher runs
  obtain ⟨hruns, hchain⟩ := publications_converge publisher (by decide) ⟨[], 0, []⟩
    [emptyAttempt ⟨none, [], [("services/vpns.json", .unreachable "timed out")], none⟩,
      emptyAttempt .none, emptyAttempt .none]
  exact ⟨fun run hrun => (hruns run hrun).1, hchain, by decide +kernel⟩

end Publisher

end NetworkIntent
