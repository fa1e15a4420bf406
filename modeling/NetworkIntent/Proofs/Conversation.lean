import NetworkIntent.Proofs.Transcript

/-!
# The conversation of a publication

The requests that a publication makes depend on the answers: a file is committed only if it is
absent or has another text. For given answers the whole conversation is planned, and a publication
follows its plan to the end or up to the first request that fails. What it tells about itself, its
result, its stage and its history, agrees with how far the conversation went.

## Main definitions

* `Publication.Visit`: a file with what the branch has at its path.
* `Publisher.plan`: the conversation of a publication that succeeds, given the answers.
* `Publication.BreaksOff`: a conversation follows a plan up to a request that fails.

## Main results

* `Publisher.conversation_of_publish`: conversation, result, stage and history agree, whatever
  version control answers.
-/

set_option autoImplicit false

namespace NetworkIntent

open Publication Repository

variable {σ : Type}

/-! ## Plans -/

/-- A request with its answer. -/
def Call.exchange (call : Call σ) :
    Request × Except VersionControl.Fault VersionControl.Answer :=
  (call.request, call.answer)

namespace Publication

/-- A request with an answer to it that is no failure. -/
abbrev Planned := Request × VersionControl.Answer

/-- A request that is answered as planned. -/
def answered (planned : Planned) : Request × Except VersionControl.Fault VersionControl.Answer :=
  (planned.1, .ok planned.2)

/-- A conversation follows a plan up to a request that fails, which is the last one. -/
def BreaksOff (plan : List Planned)
    (exchanges : List (Request × Except VersionControl.Fault VersionControl.Answer))
    (request : Request) (fault : VersionControl.Fault) : Prop :=
  ∃ done answer rest, plan = done ++ (request, answer) :: rest ∧
    exchanges = done.map answered ++ [(request, .error fault)]

/-- A conversation that breaks off may have begun earlier, and the plan may go on. -/
theorem BreaksOff.extend {plan : List Planned}
    {exchanges : List (Request × Except VersionControl.Fault VersionControl.Answer)}
    {request : Request} {fault : VersionControl.Fault} (h : BreaksOff plan exchanges request fault)
    (before after : List Planned) :
    BreaksOff (before ++ plan ++ after) (before.map answered ++ exchanges) request fault := by
  obtain ⟨done, answer, rest, rfl, rfl⟩ := h
  exact ⟨before ++ done, answer, rest ++ after, by simp, by simp⟩

/-- A file to be published, and what the branch has at its path. -/
structure Visit where
  file : File
  current : Option String
  deriving DecidableEq

namespace Visit

/-- The requests for a file: it is fetched, and then committed if it is absent or differs. -/
def planned (settings : PublisherSettings) (branch : String) (visit : Visit) : List Planned :=
  (.getFile visit.file.path branch, .content visit.current) ::
    if visit.current = some visit.file.content then []
    else [(.saveFile (Publisher.commitFor settings branch visit.file visit.current), .done)]

/-- The paths of the files that are absent or differ. -/
def committed (visits : List Visit) : List String :=
  (visits.filter fun visit => visit.current ≠ some visit.file.content).map (·.file.path)

/-- The paths of the files that are there already. -/
def unchanged (visits : List Visit) : List String :=
  (visits.filter fun visit => visit.current = some visit.file.content).map (·.file.path)

/-- Every file is either committed or left unchanged. -/
theorem length_committed_add_length_unchanged (visits : List Visit) :
    (committed visits).length + (unchanged visits).length = visits.length := by
  induction visits with
  | nil => rfl
  | cons visit rest ih =>
    by_cases h : visit.current = some visit.file.content <;>
      simp [committed, unchanged, h] at ih ⊢ <;> omega

end Visit

/-- The fault of a publication one of whose requests fails. -/
def faultOf (fault : VersionControl.Fault) : Request → Fault
  | .createBranch branch _ => .createBranch branch fault
  | .getFile path branch => .fetch path branch fault
  | .saveFile commit => .save commit.path commit.branch fault
  | .createMergeRequest request => .openRequest request.sourceBranch fault

/-- The stage at which a publication meets a fault. The lifecycle itself is never at fault. -/
def Fault.stage? : Fault → Option Stage
  | .render .. | .createBranch .. => some .idle
  | .fetch .. | .save .. => some .branchCreated
  | .openRequest .. => some .filesStaged
  | .lifecycle _ => none

end Publication

namespace Publisher

variable (publisher : Publisher) (control : VersionControl σ)

/-- The conversation of a publication that succeeds: the branch is created, one file after the other
is visited, and the merge request is opened. -/
def plan (branch : String) (visits : List Visit) (state : MergeRequestState) : List Planned :=
  (.createBranch branch publisher.settings.trunk, .done) ::
    visits.flatMap (Visit.planned publisher.settings branch) ++
    [(.createMergeRequest (mergeRequest publisher.settings branch), .opened state)]

/-- The files of a publication are the two rendered collections, unless one of them cannot be
rendered. -/
theorem files_eq (sites vpns : Json) :
    publisher.files sites vpns =
      match renderCollection .sites sites, renderCollection .vpns vpns with
      | .error reason, _ => .error (.render "site" reason)
      | .ok _, .error reason => .error (.render "vpn" reason)
      | .ok siteText, .ok vpnText =>
        .ok [⟨publisher.sitePath, siteText, publisher.settings.siteMessage⟩,
          ⟨publisher.vpnPath, vpnText, publisher.settings.vpnMessage⟩] := by
  unfold files
  rcases hsites : renderCollection .sites sites with reason | siteText
  · simp only [hsites]
    rfl
  · rcases hvpns : renderCollection .vpns vpns with reason | vpnText <;>
      simp only [hsites, hvpns] <;> rfl

variable {publisher} {control}

/-- The result of staging agrees with the conversation about the files: it was held as planned and
the result tells all files, or it broke off and the result tells the request that failed. -/
def StagedAs (settings : PublisherSettings) (branch : String) (visits : List Visit)
    (exchanges : List (Request × Except VersionControl.Fault VersionControl.Answer)) :
    Except Fault (List String × List String) → Prop
  | .ok paths =>
    exchanges = (visits.flatMap (Visit.planned settings branch)).map answered ∧
      paths = (Visit.committed visits, Visit.unchanged visits)
  | .error cause =>
    ∃ request fault,
      BreaksOff (visits.flatMap (Visit.planned settings branch)) exchanges request fault ∧
        cause = faultOf fault request ∧ cause.stage? = some .branchCreated

/-- Another file may be visited before, after which its path is told too. -/
theorem StagedAs.cons {settings : PublisherSettings} {branch : String} {visits : List Visit}
    {exchanges : List (Request × Except VersionControl.Fault VersionControl.Answer)}
    {result : Except Fault (List String × List String)}
    (h : StagedAs settings branch visits exchanges result) (visit : Visit)
    (tell : List String × List String → List String × List String)
    (htell : tell (Visit.committed visits, Visit.unchanged visits) =
      (Visit.committed (visit :: visits), Visit.unchanged (visit :: visits))) :
    StagedAs settings branch (visit :: visits)
      ((visit.planned settings branch).map answered ++ exchanges) (result.map tell) := by
  rcases result with cause | paths
  · obtain ⟨request, fault, hbreaks, hcause⟩ := h
    have hlonger := hbreaks.extend (visit.planned settings branch) []
    exact ⟨request, fault, by simpa using hlonger, hcause⟩
  · obtain ⟨rfl, rfl⟩ := h
    exact ⟨by simp, htell⟩

/-- Staging follows the plan for its files to the end or up to a request that fails.

**Proof sketch.** Induction on the ways in which staging can go. A file is visited with the content
that it was found to have; files that are not reached may have any. -/
theorem Staging.exists_visits {branch : String} {s t : σ} {files : List File}
    {calls : List (Call σ)} {result : Except Fault (List String × List String)}
    (h : publisher.Staging control branch s files calls result t) :
    ∃ visits : List Visit, visits.map Visit.file = files ∧
      StagedAs publisher.settings branch visits (calls.map Call.exchange) result := by
  induction h with
  | nil s => exact ⟨[], rfl, rfl, rfl⟩
  | @unfetched s t file rest fault hget =>
    refine ⟨⟨file, none⟩ :: rest.map (⟨·, none⟩), by simp [Function.comp_def], ?_⟩
    exact ⟨_, fault, ⟨[], _, _, rfl, rfl⟩, rfl, rfl⟩
  | @unchanged s t u file rest calls result hget hrest ih =>
    obtain ⟨visits, rfl, hstaged⟩ := ih
    refine ⟨⟨file, some file.content⟩ :: visits, rfl, ?_⟩
    have hcons := hstaged.cons ⟨file, some file.content⟩
      (fun told => (told.1, file.path :: told.2))
      (by simp [Visit.committed, Visit.unchanged])
    simpa [Visit.planned, answered, Call.exchange] using hcons
  | @unsaved s t u file rest current fault hget hdiffers hsave =>
    have hplanned : Visit.planned publisher.settings branch ⟨file, current⟩ =
        [(.getFile file.path branch, .content current),
          (.saveFile (commitFor publisher.settings branch file current), .done)] := by
      rw [Visit.planned, if_neg hdiffers]
    refine ⟨⟨file, current⟩ :: rest.map (⟨·, none⟩), by simp [Function.comp_def], ?_⟩
    exact ⟨_, fault, ⟨[(.getFile file.path branch, .content current)], .done,
      (rest.map (⟨·, none⟩)).flatMap (Visit.planned publisher.settings branch),
      by rw [List.flatMap_cons, hplanned]; rfl, rfl⟩, rfl, rfl⟩
  | @saved s t u v file rest current calls result hget hdiffers hsave hrest ih =>
    obtain ⟨visits, rfl, hstaged⟩ := ih
    refine ⟨⟨file, current⟩ :: visits, rfl, ?_⟩
    have hcons := hstaged.cons ⟨file, current⟩
      (fun told => (file.path :: told.1, told.2))
      (by simp [Visit.committed, Visit.unchanged, hdiffers])
    simpa [Visit.planned, answered, Call.exchange, hdiffers] using hcons

/-- What a publication tells about itself agrees with its conversation: the whole plan was followed,
and the outcome and all its steps are told; or the conversation broke off, and the failure tells the
request that failed, the stage at which requests of this kind fail, and the steps up to this stage
with the abortion after them. -/
def Agrees (publisher : Publisher) (branch : String) (visits : List Visit)
    (state : MergeRequestState)
    (exchanges : List (Request × Except VersionControl.Fault VersionControl.Answer)) :
    Except Failure Outcome → Prop
  | .ok outcome =>
    exchanges = (publisher.plan branch visits state).map answered ∧
      outcome = ⟨branch, Visit.committed visits, Visit.unchanged visits, state,
        completeHistory branch (Visit.committed visits).length (Visit.unchanged visits).length
          state.state⟩
  | .error failure =>
    ∃ request fault, BreaksOff (publisher.plan branch visits state) exchanges request fault ∧
      failure.cause = faultOf fault request ∧ failure.cause.stage? = some failure.stage ∧
      failure.history =
        (completeHistory branch (Visit.committed visits).length (Visit.unchanged visits).length
          state.state).takeWhile (·.start ≠ failure.stage) ++
        [⟨failure.stage, .failed, .abort failure.cause.message⟩]

/-- Whatever course a publication takes, what it tells agrees with its conversation. -/
theorem Course.exists_agrees {branch : String} {s t : σ} {files : List File}
    {calls : List (Call σ)} {result : Except Failure Outcome}
    (h : publisher.Course control branch files s calls result t) :
    ∃ visits : List Visit, visits.map Visit.file = files ∧
      ∃ state, publisher.Agrees branch visits state (calls.map Call.exchange) result := by
  cases h with
  | @noBranch t fault hbranch =>
    refine ⟨files.map (⟨·, none⟩), by simp [Function.comp_def], ⟨"", none, none⟩, ?_⟩
    exact ⟨_, fault, ⟨[], _, _, rfl, rfl⟩, rfl, rfl, rfl⟩
  | @unstaged t u calls cause hbranch hstaging =>
    obtain ⟨visits, hfiles, request, fault, hbreaks, hcause, hstage⟩ := hstaging.exists_visits
    refine ⟨visits, hfiles, ⟨"", none, none⟩, request, fault, ?_, hcause, hstage, rfl⟩
    exact hbreaks.extend [(.createBranch branch publisher.settings.trunk, .done)] _
  | @unopened t u v calls committed kept fault hbranch hstaging hopen =>
    obtain ⟨visits, hfiles, hcalls, hpaths⟩ := hstaging.exists_visits
    obtain ⟨rfl, rfl⟩ := Prod.mk.inj hpaths
    refine ⟨visits, hfiles, ⟨"", none, none⟩, _, fault, ⟨_, _, [], rfl, ?_⟩, rfl, rfl, rfl⟩
    simp [Call.exchange, answered, hcalls]
  | @done t u v calls committed kept state hbranch hstaging hopen =>
    obtain ⟨visits, hfiles, hcalls, hpaths⟩ := hstaging.exists_visits
    obtain ⟨rfl, rfl⟩ := Prod.mk.inj hpaths
    refine ⟨visits, hfiles, state, ?_, rfl⟩
    simp [plan, Call.exchange, answered, hcalls]

/-- **Conversation, result, stage and history agree**, whatever version control answers. If a
document cannot be rendered no request is made. Otherwise there are answers to all requests with
which the publication follows its plan: it creates the branch, visits the site file and then the
VPN file, and opens the merge request, or it breaks off at the first request that fails.

**Proof sketch.** A publication without rendered files is given up at once, and any other one takes
one of the courses of `course_of_files`, all of which agree with their conversations. -/
theorem conversation_of_publish (publisher : Publisher) (control : VersionControl σ)
    (seconds : Int) (sites vpns : Json) (s : σ) :
    let exchanges := (publisher.transcript control seconds sites vpns s).map Call.exchange
    let result := ((publisher.publish control seconds sites vpns).perform s).1
    match renderCollection .sites sites, renderCollection .vpns vpns with
    | .error reason, _ =>
      exchanges = [] ∧ result = .error (failureAt .idle [] (.render "site" reason))
    | .ok _, .error reason =>
      exchanges = [] ∧ result = .error (failureAt .idle [] (.render "vpn" reason))
    | .ok siteText, .ok vpnText =>
      ∃ siteCurrent vpnCurrent state,
        let visits : List Visit :=
          [⟨⟨publisher.sitePath, siteText, publisher.settings.siteMessage⟩, siteCurrent⟩,
            ⟨⟨publisher.vpnPath, vpnText, publisher.settings.vpnMessage⟩, vpnCurrent⟩]
        (Visit.committed visits).length + (Visit.unchanged visits).length = 2 ∧
          publisher.Agrees (branchName publisher.settings.branchPrefix seconds) visits state
            exchanges result := by
  have hfiles := publisher.files_eq sites vpns
  rcases hsites : renderCollection .sites sites with reason | siteText
  · simp only [hsites] at hfiles
    simp only [transcript, perform_publish_of_files_error _ _ _ hfiles, List.map_nil, true_and]
  rcases hvpns : renderCollection .vpns vpns with reason | vpnText
  · simp only [hsites, hvpns] at hfiles
    simp only [transcript, perform_publish_of_files_error _ _ _ hfiles, List.map_nil, true_and]
  simp only [hsites, hvpns] at hfiles
  obtain ⟨visits, hvisits, state, hagrees⟩ :=
    (publisher.course_of_files control seconds hfiles s).exists_agrees
  obtain ⟨⟨_, siteCurrent⟩, rest, rfl, rfl, hrest⟩ := List.map_eq_cons_iff.mp hvisits
  obtain ⟨⟨_, vpnCurrent⟩, rest, rfl, rfl, hnil⟩ := List.map_eq_cons_iff.mp hrest
  obtain rfl := List.map_eq_nil_iff.mp hnil
  exact ⟨siteCurrent, vpnCurrent, state, Visit.length_committed_add_length_unchanged _, hagrees⟩

end Publisher

end NetworkIntent
