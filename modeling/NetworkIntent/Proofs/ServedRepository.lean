import NetworkIntent.Proofs.Hosting
import NetworkIntent.Proofs.Pointwise
import NetworkIntent.Proofs.ServedFiles

/-!
# Publications to a service

A service that keeps the files of a project answers by what it sees: it tells of the files that it
holds, and after a commit it holds the content that stands in the body of the request. Read by the
rules of the project, such a service is a host of files. So a publication does there what it does to
a repository in memory that holds the same files, and the messages that reach the service can be
listed beforehand, with their addresses and bodies.

Nothing is said about paths whose files have one address, as the paths `.` and the empty one: where
they differ, no service tells of both.

## Main definitions

* `Http.Network.recorded`: a network that lists the requests that are sent.
* `GitLab.Serves`: a service answers as one that keeps files.
* `GitLab.Reachable`: requests can be sent to the service.
* `GitLab.conversation`: the messages that reach the service.

## Main results

* `GitLab.hosts_control`: a service that keeps files is a host of files.
* `GitLab.publish_agrees`: publications to the service and to a repository in memory agree.
-/

set_option autoImplicit false

namespace NetworkIntent

open Publication

variable {σ α : Type}

/-- A network with a recorder before it, which lists each request that is sent. -/
def Http.Network.recorded (network : Http.Network σ) : Http.Network (List Http.Request × σ) where
  send request := .step fun (requests, s) =>
    let (result, t) := (network.send request).perform s
    (result, requests ++ [request], t)
  patience := fun (_, s) => network.patience s

namespace GitLab

/-! ## Services -/

/-- From a state on, a request has a reply with a property, after which the service holds some
files. -/
def Answers (network : Http.Network σ) (holds : σ → Contents → Prop) (request : Http.Request)
    (s : σ) (P : Http.Reply → Prop) (contents : Contents) : Prop :=
  ∃ reply t, (network.send request).perform s = (.ok reply, t) ∧ P reply ∧ holds t contents

/-- A service answers as one that keeps files to what it is asked about a branch and the files at
some paths: it creates the branch, it tells of the files that it holds, it holds the content that
stands in the body of a commit, and it opens the merge request. A file that is absent is created,
and one that is there is replaced. -/
structure Serves (project : GitLab) (network : Http.Network σ) (holds : σ → Contents → Prop)
    (trunk branch : String) (paths : List String) : Prop where
  createBranch : ∀ {request s contents}, holds s contents →
    project.Asks .post ["repository", "branches"] [("branch", branch), ("ref", trunk)] request →
    Answers network holds request s (·.isSuccess = true) contents
  getFile : ∀ {path}, path ∈ paths → ∀ {request s contents}, holds s contents →
    project.Asks .get ["repository", "files", path] [("ref", branch)] request →
    Answers network holds request s (ShowsFile · (contents path)) contents
  saveFile : ∀ {path}, path ∈ paths → ∀ {request s contents}, holds s contents →
    project.Asks (if contents path = none then .post else .put) ["repository", "files", path] []
      request →
    ∀ {fields content}, Bears request fields → CommitFields fields branch content →
    Answers network holds request s (·.isSuccess = true)
      (Function.update contents path (some content))
  createMergeRequest : ∀ {request s contents}, holds s contents →
    project.Asks .post ["merge_requests"] [] request →
    ∀ {fields}, Bears request fields → ProposalFields fields branch trunk →
    Answers network holds request s ShowsOpened contents

/-- The requests about a branch and the files at some paths can be sent. -/
structure Reachable (project : GitLab) (trunk branch : String) (paths : List String) : Prop where
  createBranch : Http.Sendable (project.resourceAddress ["repository", "branches"])
    (some [("branch", branch), ("ref", trunk)])
  getFile : ∀ path ∈ paths, Http.Sendable (project.resourceAddress ["repository", "files", path])
    (some [("ref", branch)])
  saveFile : ∀ path ∈ paths,
    Http.Sendable (project.resourceAddress ["repository", "files", path]) none
  createMergeRequest : Http.Sendable (project.resourceAddress ["merge_requests"]) none

variable {project : GitLab} {network : Http.Network σ} {holds : σ → Contents → Prop}

/-- How the recorded requests to a service are looked at. -/
def view (project : GitLab) (holds : σ → Contents → Prop) :
    VersionControl.View (List Http.Request × σ) (Except Http.Fault Http.Request) where
  holds := fun (_, s) contents => holds s contents
  log := fun (requests, _) => requests.map .ok
  tell := project.requestFor

/-- A request that is made is recorded and has its reply. -/
theorem perform_send_recorded {request : Except Http.Fault Http.Request} {sent : Http.Request}
    {reply : Http.Reply} {s t : σ} (hrequest : request = .ok sent)
    (hsend : (network.send sent).perform s = (.ok reply, t)) (requests : List Http.Request) :
    (send network.recorded request).perform (requests, s) =
      (.ok reply, requests ++ [sent], t) := by
  subst hrequest
  change (((network.recorded.send sent).perform (requests, s)).1.mapError _,
    ((network.recorded.send sent).perform (requests, s)).2) = _
  rw [Http.Network.recorded, Action.perform_step]
  dsimp only
  rw [hsend]
  rfl

/-- What is made of the reply to a request is the answer of the service. -/
theorem Answers.viewed {sent : Http.Request} {s : σ} {P : Http.Reply → Prop} {contents : Contents}
    (h : Answers network holds sent s P contents) {request : Repository.Request}
    (hrequest : project.requestFor request = .ok sent)
    {next : Http.Reply → Action (List Http.Request × σ) VersionControl.Fault α} {Q : α → Prop}
    (hnext : ∀ reply, P reply → ∃ a, Q a ∧ ∀ state, (next reply).perform state = (.ok a, state))
    (requests : List Http.Request) :
    (project.view holds).Answers
      (send network.recorded (project.requestFor request) >>= next) request (requests, s) Q
      contents := by
  obtain ⟨reply, t, hsend, hP, ht⟩ := h
  obtain ⟨a, hQ, ha⟩ := hnext reply hP
  refine ⟨a, (requests ++ [sent], t), ?_, hQ, ?_, ht⟩
  · rw [Action.perform_bind_ok (perform_send_recorded hrequest hsend requests), ha]
  · simp [view, hrequest]

/-- Nothing more is made of a reply than that it tells success. -/
theorem perform_check {reply : Http.Reply} (h : reply.isSuccess = true) (s : σ) :
    (do let _ ← Action.ofExcept (check reply); return () :
      Action σ VersionControl.Fault Unit).perform s = (.ok (), s) := by
  rw [check, if_pos h]
  rfl

/-- A commit is sent as the request for it. -/
theorem control_saveFile (network : Http.Network σ) (commit : FileCommit) :
    (project.control network).saveFile commit =
      send network (project.requestFor (.saveFile commit)) >>= fun reply => do
        let _ ← Action.ofExcept (check reply)
        return () := by
  obtain ⟨branch, path, content, message, authorName, authorEmail, action⟩ := commit
  cases action <;> rfl

/-- **A service that keeps files is a host of files**, if requests can be sent to it. -/
theorem hosts_control {settings : PublisherSettings} {branch : String} {paths : List String}
    {files : List File} (h : project.Serves network holds settings.trunk branch paths)
    (hreach : project.Reachable settings.trunk branch paths)
    (hpaths : ∀ file ∈ files, file.path ∈ paths) :
    (project.control network.recorded).Hosts (project.view holds) settings branch files where
  createBranch := by
    rintro ⟨requests, s⟩ contents hs
    obtain ⟨sent, hsent⟩ := project.exists_requestFor (.createBranch branch settings.trunk)
      hreach.createBranch
    have hanswers := h.createBranch hs (sentAs_of_requestFor hsent).asks
    refine hanswers.viewed hsent (fun reply hreply => ?_) requests
    exact ⟨(), trivial, perform_check hreply⟩
  getFile := by
    rintro file hfile ⟨requests, s⟩ contents hs
    have hpath := hpaths file hfile
    obtain ⟨sent, hsent⟩ := project.exists_requestFor (.getFile file.path branch)
      (hreach.getFile file.path hpath)
    have hanswers := h.getFile hpath hs (sentAs_of_requestFor hsent).asks
    refine hanswers.viewed hsent (fun reply hreply => ?_) requests
    exact ⟨_, rfl, fun state => by rw [contentOf_of_showsFile hreply]; rfl⟩
  saveFile := by
    rintro file hfile ⟨requests, s⟩ contents hs
    have hpath := hpaths file hfile
    obtain ⟨sent, hsent⟩ := project.exists_requestFor
      (.saveFile (Publisher.commitFor settings branch file (contents file.path)))
      (hreach.saveFile file.path hpath)
    have hmessage := sentAs_of_requestFor hsent
    obtain ⟨fields, hbears, hfields⟩ := commitFields_of_sentAs hmessage
    have hmethod : (messageFor (.saveFile
        (Publisher.commitFor settings branch file (contents file.path)))).method =
        if contents file.path = none then .post else .put := by
      cases hcurrent : contents file.path <;> rfl
    have hanswers := h.saveFile hpath hs (hmethod ▸ hmessage.asks) hbears hfields
    rw [control_saveFile]
    refine hanswers.viewed hsent (fun reply hreply => ?_) requests
    exact ⟨(), trivial, perform_check hreply⟩
  createMergeRequest := by
    rintro ⟨requests, s⟩ contents hs
    obtain ⟨sent, hsent⟩ := project.exists_requestFor
      (.createMergeRequest (Publisher.mergeRequest settings branch)) hreach.createMergeRequest
    have hmessage := sentAs_of_requestFor hsent
    obtain ⟨fields, hbears, hfields⟩ := proposalFields_of_sentAs hmessage
    have hanswers := h.createMergeRequest hs hmessage.asks hbears hfields
    refine hanswers.viewed hsent (fun reply hreply => ?_) requests
    obtain ⟨opened, hopened, hstate⟩ := valueOf_of_showsOpened hreply
    exact ⟨opened, hstate, fun state => by rw [hopened]; rfl⟩

/-! ## The conversation -/

/-- The messages about a file: it is asked for, and it is committed if it is absent or differs, with
its text in the body. -/
def visitMessages (settings : PublisherSettings) (branch : String) (visit : Visit) :
    List Message :=
  ⟨.get, ["repository", "files", visit.file.path], some [("ref", branch)], none⟩ ::
    if visit.current = some visit.file.content then []
    else [⟨if visit.current = none then .post else .put, ["repository", "files", visit.file.path],
      none, some (.obj [("branch", .str branch), ("content", .str visit.file.content),
        ("commit_message", .str visit.file.message), ("author_name", .str settings.authorName),
        ("author_email", .str settings.authorEmail), ("encoding", .str "text")])⟩]

/-- The messages of a publication on a branch, of which it is known what it has at the paths of the
files: the branch is created, one file after the other is visited, and the merge request is
opened. -/
def conversation (settings : PublisherSettings) (branch : String) (visits : List Visit) :
    List Message :=
  ⟨.post, ["repository", "branches"], some [("branch", branch), ("ref", settings.trunk)], none⟩ ::
    visits.flatMap (visitMessages settings branch) ++
    [⟨.post, ["merge_requests"], none,
      some (.obj [("source_branch", .str branch), ("target_branch", .str settings.trunk),
        ("title", .str branch), ("remove_source_branch", .bool true)])⟩]

/-- What is planned for a file are the messages about it. -/
theorem map_messageFor_planned (settings : PublisherSettings) (branch : String) (visit : Visit) :
    (visit.planned settings branch).map (fun planned => messageFor planned.1) =
      visitMessages settings branch visit := by
  obtain ⟨file, current⟩ := visit
  simp only [Visit.planned, visitMessages, List.map_cons, messageFor]
  by_cases hcurrent : current = some file.content
  · rw [if_pos hcurrent, if_pos hcurrent]
    rfl
  · rw [if_neg hcurrent, if_neg hcurrent]
    cases current <;> rfl

/-- What is planned for a publication are the messages of the conversation. -/
theorem map_messageFor_plan (publisher : Publisher) (branch : String) (visits : List Visit)
    (state : MergeRequestState) :
    (publisher.plan branch visits state).map (fun planned => messageFor planned.1) =
      conversation publisher.settings branch visits := by
  simp only [Publisher.plan, List.map_append, List.map_cons, List.map_nil, List.map_flatMap,
    map_messageFor_planned]
  rfl

/-- Requests that are made as planned are the messages that are planned. -/
theorem sentAs_of_map_requestFor {requests : List Http.Request} {plan : List Planned}
    (h : requests.map .ok = plan.map fun planned => project.requestFor planned.1) :
    List.Forall₂ (Message.SentAs project) (plan.map fun planned => messageFor planned.1)
      requests := by
  have hmade := map_eq_map_iff_forall₂.mp h
  refine List.forall₂_map_left_iff.mpr (hmade.flip.imp ?_)
  intro planned sent hsent
  exact sentAs_of_requestFor hsent.symm

/-- Requests have the methods and the bodies of the messages that they are. -/
theorem map_body_of_sentAs {messages : List Message} {requests : List Http.Request}
    (h : List.Forall₂ (Message.SentAs project) messages requests) :
    requests.map (fun request => (request.method, request.body)) =
      messages.map fun message => (message.method, message.document.map (·.render .line)) := by
  refine map_eq_map_iff_forall₂.mpr (h.flip.imp ?_)
  intro request message hsent
  rw [hsent.method, hsent.body]

end GitLab

/-! ## Agreement -/

/-- What an outcome tells of a publication itself: the branch, the paths that were committed and
those that were found unchanged, and all steps. -/
def Publication.Outcome.account (outcome : Outcome) :
    String × List String × List String × List Transition :=
  (outcome.branch, outcome.committed, outcome.unchanged, outcome.history)

namespace GitLab

section Agreement

variable {project : GitLab} {network : Http.Network σ} {holds : σ → Contents → Prop}
  {publisher : Publisher} {seconds : Int} {sites vpns : Json}

/-- Without rendered files neither publication begins. -/
theorem publish_agrees_of_files_error (project : GitLab) (network : Http.Network σ)
    {cause : Publication.Fault} (hfiles : publisher.files sites vpns = .error cause)
    (repository : Repository) (s : σ) :
    let served :=
      (publisher.publish (project.control network.recorded) seconds sites vpns).perform ([], s)
    let kept := (publisher.publish (Repository.control .none) seconds sites vpns).perform repository
    served.1.map Outcome.account = kept.1.map Outcome.account ∧ served.1.isOk = false ∧
      served.2.1 = [] := by
  intro served kept
  have hserved : served = (.error (Publisher.failureAt .idle [] cause), [], s) :=
    publisher.perform_publish_of_files_error _ seconds hfiles ([], s)
  have hkept : kept = (.error (Publisher.failureAt .idle [] cause), repository) :=
    publisher.perform_publish_of_files_error _ seconds hfiles repository
  rw [hserved, hkept]
  exact ⟨rfl, rfl, rfl⟩

/-- With rendered files both publications do what is told by the files that are there. -/
theorem publish_agrees_of_files {files : List File}
    (hfiles : publisher.files sites vpns = .ok files)
    (hpaths : publisher.sitePath ≠ publisher.vpnPath)
    (hreach : project.Reachable publisher.settings.trunk
      (branchName publisher.settings.branchPrefix seconds) [publisher.sitePath, publisher.vpnPath])
    (hserves : project.Serves network holds publisher.settings.trunk
      (branchName publisher.settings.branchPrefix seconds) [publisher.sitePath, publisher.vpnPath])
    (repository : Repository) {s : σ}
    (hs : holds s fun path => Table.get? path repository.files) :
    let branch := branchName publisher.settings.branchPrefix seconds
    let served :=
      (publisher.publish (project.control network.recorded) seconds sites vpns).perform ([], s)
    let kept := (publisher.publish (Repository.control .none) seconds sites vpns).perform repository
    let visits := files.map fun file => ⟨file, Table.get? file.path repository.files⟩
    served.1.map Outcome.account = kept.1.map Outcome.account ∧
      served.1.map Outcome.account =
        .ok (branch, Visit.committed visits, Visit.unchanged visits,
          Publisher.completeHistory branch (Visit.committed visits).length
            (Visit.unchanged visits).length "opened") ∧
      List.Forall₂ (Message.SentAs project) (conversation publisher.settings branch visits)
        served.2.1 ∧
      holds served.2.2 fun path => Table.get? path kept.2.files := by
  intro branch served kept visits
  have hpath := publisher.map_path_of_files hfiles
  have hnodup : (files.map File.path).Nodup := by
    rw [hpath]
    simpa using hpaths
  have hmem : ∀ file ∈ files, file.path ∈ [publisher.sitePath, publisher.vpnPath] := by
    intro file hfile
    rw [← hpath]
    exact List.mem_map_of_mem hfile
  let contents : Contents := fun path => Table.get? path repository.files
  obtain ⟨state, ⟨requests, t⟩, -, hserved, hlog, ht⟩ :=
    publisher.perform_publish_of_hosts hfiles (hosts_control hserves hreach hmem) hnodup
      (show (project.view holds).holds ([], s) contents from hs)
  obtain ⟨state', after, -, hkept, -, hafter⟩ :=
    publisher.perform_publish_of_hosts hfiles
      (Repository.hosts_control publisher.settings branch files) hnodup
      (show Repository.view.holds repository contents from rfl)
  have hheld : contents.write files = fun path => Table.get? path after.files := hafter
  simp only [view, List.map_nil, List.nil_append] at hlog
  have hsent := sentAs_of_map_requestFor hlog
  rw [map_messageFor_plan] at hsent
  rw [show served = _ from hserved, show kept = _ from hkept]
  refine ⟨rfl, rfl, hsent, ?_⟩
  rw [← hheld]
  exact ht

end Agreement

/-- **Publications to a service and to a repository in memory agree**, if both have the same files,
the service answers as one that keeps files, and requests can be sent to it. With documents that can
be rendered, both tell the same branch, the same committed and unchanged paths and the same steps,
and both have the same files afterwards. The service gets exactly the messages of the conversation:
for the branch, for each rendered file in turn, which is asked for and committed if it is absent or
differs, and for the merge request. Where a document cannot be rendered, both fail with the same
failure, and the service gets no request.

**Proof sketch.** Without rendered files neither publication begins. With them, both the service and
the repository are hosts of files, and what a publication to a host does is told by the files that
it holds. The requests that are made are the messages planned for them. -/
theorem publish_agrees (project : GitLab) (network : Http.Network σ) (publisher : Publisher)
    (hpaths : publisher.sitePath ≠ publisher.vpnPath) (seconds : Int) (sites vpns : Json)
    {holds : σ → Contents → Prop}
    (hreach : project.Reachable publisher.settings.trunk
      (branchName publisher.settings.branchPrefix seconds) [publisher.sitePath, publisher.vpnPath])
    (hserves : project.Serves network holds publisher.settings.trunk
      (branchName publisher.settings.branchPrefix seconds) [publisher.sitePath, publisher.vpnPath])
    (repository : Repository) {s : σ}
    (hs : holds s fun path => Table.get? path repository.files) :
    let branch := branchName publisher.settings.branchPrefix seconds
    let served :=
      (publisher.publish (project.control network.recorded) seconds sites vpns).perform ([], s)
    let kept := (publisher.publish (Repository.control .none) seconds sites vpns).perform repository
    served.1.map Outcome.account = kept.1.map Outcome.account ∧
      match renderCollection .sites sites, renderCollection .vpns vpns with
      | .ok siteText, .ok vpnText =>
        let files : List File := [⟨publisher.sitePath, siteText, publisher.settings.siteMessage⟩,
          ⟨publisher.vpnPath, vpnText, publisher.settings.vpnMessage⟩]
        let visits := files.map fun file => ⟨file, Table.get? file.path repository.files⟩
        served.1.map Outcome.account =
            .ok (branch, Visit.committed visits, Visit.unchanged visits,
              Publisher.completeHistory branch (Visit.committed visits).length
                (Visit.unchanged visits).length "opened") ∧
          List.Forall₂ (Message.SentAs project) (conversation publisher.settings branch visits)
            served.2.1 ∧
          holds served.2.2 fun path => Table.get? path kept.2.files
      | _, _ => served.1.isOk = false ∧ served.2.1 = [] := by
  have hfiles := publisher.files_eq sites vpns
  rcases hsites : renderCollection .sites sites with reason | siteText
  · rw [hsites] at hfiles
    exact publish_agrees_of_files_error project network hfiles repository s
  · rcases hvpns : renderCollection .vpns vpns with reason | vpnText
    · rw [hsites, hvpns] at hfiles
      exact publish_agrees_of_files_error project network hfiles repository s
    · rw [hsites, hvpns] at hfiles
      exact publish_agrees_of_files hfiles hpaths hreach hserves repository hs

/-! ### A project with one of two files -/

section OneFile

/-- A project. -/
def oneFileProject : GitLab :=
  ⟨⟨"http://[::1]", "token", "netops/services", defaultSitePath, defaultVpnPath, 30⟩⟩

/-- The branch of a publication at the beginning of the era. -/
def oneFileBranch : String := branchName PublisherSettings.default.branchPrefix 0

/-- The text of the file of sites that is published. -/
def oneFileSites : String := "\x7b\n    \"site-service:sites\": []\n\x7d"

/-- The text of the file of VPNs that is published. -/
def oneFileVpns : String := "\x7b\n    \"vpn-service:vpns\": []\n\x7d"

/-- The paths of the files, by the paths in their addresses. -/
def oneFileRoutes : List (String × String) :=
  [("/api/v4/projects/netops%2Fservices/repository/files/services%2Fsites.json", defaultSitePath),
    ("/api/v4/projects/netops%2Fservices/repository/files/services%2Fvpns.json", defaultVpnPath)]

/-- The entries that tell of a text, whose characters end in a line break. -/
def oneFileFields (text : String) : Fields :=
  [("file_name", .str "services.json"), ("encoding", .str "base64"),
    ("content", .str (String.ofList (StoredFile.characters text ++ ['\n'])))]

/-- The entries that tell of a merge request. -/
def oneFileOpened : Fields :=
  [("iid", .int 1), ("state", .str "opened"), ("web_url", .null)]

/-- What the service answers to a request about a file or about none, and the files that it has
then. The content of a commit is read from the body. -/
def oneFileAnswer (file? : Option String) (method : Http.Method) (body : Option String)
    (files : Table String) : Http.Reply × Table String :=
  let object (fields : Fields) : Http.Reply := ⟨200, Utf8.ofString ((Json.obj fields).render .line)⟩
  match file? with
  | none => (object oneFileOpened, files)
  | some file =>
    if method = .get then
      match Table.get? file files with
      | none => (⟨404, []⟩, files)
      | some text => (object (oneFileFields text), files)
    else
      match StoredFile.decoder.parse (Utf8.ofString (body.getD "")) with
      | .error _ => (⟨400, []⟩, files)
      | .ok commit => (object [], Table.insert file commit.content files)

/-- The service with this project. -/
def oneFileNetwork : Http.Network (Table String) where
  send request := .step fun files =>
    let (reply, after) := oneFileAnswer (oneFileRoutes.lookup request.url.path) request.method
      request.body files
    (.ok reply, after)
  patience _ := 0

/-- What the service holds. -/
def oneFileHolds (files : Table String) (contents : Contents) : Prop :=
  contents = fun path => Table.get? path files

/-- A request is about the file to whose address it goes. -/
theorem lookup_of_asks {method : Http.Method} {resource : List String}
    {pairs : List (String × String)} {request : Http.Request}
    (h : oneFileProject.Asks method resource pairs request) :
    oneFileRoutes.lookup request.url.path =
      (Url.read? (oneFileProject.resourceAddress resource)).bind
        fun url => oneFileRoutes.lookup url.path := by
  obtain ⟨url, hread, hgoes⟩ := h.address
  rw [hread, hgoes.path]
  rfl

/-- A request has the answer to what it is about. -/
theorem answers_oneFile {request : Http.Request} {file? : Option String} {method : Http.Method}
    {body : Option String} {files after : Table String} {reply : Http.Reply}
    {P : Http.Reply → Prop} (hfile : oneFileRoutes.lookup request.url.path = file?)
    (hmethod : request.method = method) (hbody : request.body = body)
    (hanswer : oneFileAnswer file? method body files = (reply, after)) (hP : P reply) :
    Answers oneFileNetwork oneFileHolds request files P fun path => Table.get? path after := by
  refine ⟨reply, after, ?_, hP, rfl⟩
  rw [oneFileNetwork, Action.perform_step, hfile, hmethod, hbody, hanswer]

/-- The service tells of the files that it holds. -/
theorem showsFile_oneFile (file : String) (body : Option String) (files : Table String) :
    ∃ reply, oneFileAnswer (some file) .get body files = (reply, files) ∧
      ShowsFile reply (Table.get? file files) := by
  rw [oneFileAnswer]
  dsimp only
  rw [if_pos rfl]
  cases Table.get? file files with
  | none => exact ⟨_, rfl, rfl⟩
  | some text =>
    have hcarries : StoredFile.Carries
        (String.ofList (StoredFile.characters text ++ ['\n'])) text := by
      rw [StoredFile.carries_iff, String.toList_ofList, dropBlanks, List.filter_append]
      change dropBlanks _ ++ [] = _
      rw [StoredFile.dropBlanks_characters, List.append_nil]
    have hwhole : (Json.obj (oneFileFields text)).Whole := by
      simp [oneFileFields, Json.Whole, Json.WholeFields]
    have hfields : FileFields (oneFileFields text) text :=
      ⟨⟨_, by simp [oneFileFields, Json.given], hcarries⟩, by simp [oneFileFields, Json.given]⟩
    have hspells := Json.spellsWhole_render .line hwhole
    exact ⟨_, rfl, rfl, oneFileFields text, hfields, by simpa only using hspells⟩

/-- The service holds what stands in the body of a commit. -/
theorem answer_oneFile_of_bears {request : Http.Request} {fields : Fields} {branch content : String}
    (hbears : Bears request fields) (hfields : CommitFields fields branch content) (file : String)
    {method : Http.Method} (hmethod : method ≠ .get) (files : Table String) :
    ∃ reply, oneFileAnswer (some file) method request.body files =
      (reply, Table.insert file content files) ∧ reply.isSuccess = true := by
  obtain ⟨text, hbody, hspells⟩ := hbears.body
  have hparse : StoredFile.decoder.parse (Utf8.ofString text) = .ok ⟨content, "text"⟩ :=
    scans_storedFile.parse (by decide) ⟨fields, rfl, hfields.content, hfields.encoding⟩ hspells
  rw [oneFileAnswer]
  dsimp only
  rw [if_neg hmethod, hbody, Option.getD_some, hparse]
  exact ⟨_, rfl, rfl⟩

/-- The service answers as one that keeps files. -/
theorem serves_oneFile : oneFileProject.Serves oneFileNetwork oneFileHolds "main" oneFileBranch
    [defaultSitePath, defaultVpnPath] := by
  have hfile : ∀ file ∈ [defaultSitePath, defaultVpnPath],
      ((Url.read? (oneFileProject.resourceAddress ["repository", "files", file])).bind
        fun url => oneFileRoutes.lookup url.path) = some file := by decide +kernel
  refine ⟨?_, ?_, ?_, ?_⟩
  · rintro request files _ rfl hasks
    have hnone : oneFileRoutes.lookup request.url.path = none :=
      (lookup_of_asks hasks).trans (by decide +kernel)
    exact answers_oneFile hnone hasks.method rfl rfl rfl
  · rintro file hmem request files _ rfl hasks
    obtain ⟨reply, hanswer, hshows⟩ := showsFile_oneFile file request.body files
    exact answers_oneFile ((lookup_of_asks hasks).trans (hfile file hmem)) hasks.method rfl hanswer
      hshows
  · rintro file hmem request files _ rfl hasks fields content hbears hfields
    have hmethod : (if Table.get? file files = none then Http.Method.post else .put) ≠ .get := by
      split <;> decide
    obtain ⟨reply, hanswer, hsuccess⟩ :=
      answer_oneFile_of_bears hbears hfields file hmethod files
    have hinserted : Function.update (fun path => Table.get? path files) file (some content) =
        fun path => Table.get? path (Table.insert file content files) := by
      funext path
      rw [Function.update_apply, Table.get?_insert]
      simp only [eq_comm]
    rw [hinserted]
    exact answers_oneFile ((lookup_of_asks hasks).trans (hfile file hmem)) hasks.method rfl hanswer
      hsuccess
  · rintro request files _ rfl hasks fields - -
    have hnone : oneFileRoutes.lookup request.url.path = none :=
      (lookup_of_asks hasks).trans (by decide +kernel)
    refine answers_oneFile hnone hasks.method rfl rfl ⟨rfl, oneFileOpened, ⟨"opened", some 1, none⟩,
      ⟨rfl, .inl rfl, .inl rfl⟩, rfl, Json.spellsWhole_render .line (by decide)⟩

/-- Requests can be sent to the service. -/
theorem reachable_oneFile : oneFileProject.Reachable "main" oneFileBranch
    [defaultSitePath, defaultVpnPath] :=
  ⟨by decide +kernel, by decide +kernel, by decide +kernel, by decide +kernel⟩

/-- The files that are published, with what the project has of them. -/
def oneFileVisits : List Visit :=
  [⟨⟨defaultSitePath, oneFileSites, PublisherSettings.default.siteMessage⟩, none⟩,
    ⟨⟨defaultVpnPath, oneFileVpns, PublisherSettings.default.vpnMessage⟩, some oneFileVpns⟩]

/-- The file of sites is committed, the file of VPNs is found unchanged, and the service gets five
requests: for the branch, for both files in turn with a commit of the first one, and for the merge
request. Afterwards it holds the file of sites. -/
theorem publish_agrees_oneFile :
    let publisher := Publisher.new .default
    let sites : Json := .obj [("site-service:sites", .arr [])]
    let vpns : Json := .obj [("vpn-service:vpns", .arr [])]
    let repository : Repository := ⟨[(defaultVpnPath, oneFileVpns)], 0, []⟩
    let served := (publisher.publish (oneFileProject.control oneFileNetwork.recorded) 0 sites
      vpns).perform ([], repository.files)
    publisher.sitePath ≠ publisher.vpnPath ∧
      oneFileProject.Reachable publisher.settings.trunk oneFileBranch
        [publisher.sitePath, publisher.vpnPath] ∧
      oneFileProject.Serves oneFileNetwork oneFileHolds publisher.settings.trunk oneFileBranch
        [publisher.sitePath, publisher.vpnPath] ∧
      oneFileHolds repository.files (fun path => Table.get? path repository.files) ∧
      served.1.map Outcome.account =
        .ok (oneFileBranch, [defaultSitePath], [defaultVpnPath],
          Publisher.completeHistory oneFileBranch 1 1 "opened") ∧
      served.2.1.map (fun request => (request.method, request.body)) =
        [(.post, none), (.get, none),
          (.post, some ((Json.obj [("branch", .str oneFileBranch), ("content", .str oneFileSites),
            ("commit_message", .str publisher.settings.siteMessage),
            ("author_name", .str publisher.settings.authorName),
            ("author_email", .str publisher.settings.authorEmail),
            ("encoding", .str "text")]).render .line)),
          (.get, none),
          (.post, some ((Json.obj [("source_branch", .str oneFileBranch),
            ("target_branch", .str "main"), ("title", .str oneFileBranch),
            ("remove_source_branch", .bool true)]).render .line))] ∧
      Table.get? defaultSitePath served.2.2 = some oneFileSites := by
  intro publisher sites vpns repository served
  have hpaths : publisher.sitePath ≠ publisher.vpnPath := by decide
  have hholds : oneFileHolds repository.files fun path => Table.get? path repository.files := rfl
  have hsites : renderCollection .sites sites = .ok oneFileSites := by decide +kernel
  have hvpns : renderCollection .vpns vpns = .ok oneFileVpns := by decide +kernel
  obtain ⟨-, hagrees⟩ := publish_agrees oneFileProject oneFileNetwork publisher hpaths 0 sites vpns
    reachable_oneFile serves_oneFile repository hholds
  rw [hsites, hvpns] at hagrees
  obtain ⟨haccount, hmessages, hafter⟩ := hagrees
  have hvisits : ([⟨publisher.sitePath, oneFileSites, publisher.settings.siteMessage⟩,
      ⟨publisher.vpnPath, oneFileVpns, publisher.settings.vpnMessage⟩].map fun file : File =>
        (⟨file, Table.get? file.path repository.files⟩ : Visit)) = oneFileVisits := by
    decide +kernel
  have hsettings : publisher.settings = PublisherSettings.default := rfl
  have htrunk : PublisherSettings.default.trunk = "main" := rfl
  have hbranch : branchName publisher.settings.branchPrefix 0 = oneFileBranch := rfl
  have hcommitted : Visit.committed oneFileVisits = [defaultSitePath] := by decide +kernel
  have hunchanged : Visit.unchanged oneFileVisits = [defaultVpnPath] := by decide +kernel
  simp only [hvisits, hbranch, hcommitted, hunchanged] at haccount hmessages
  have hkept : Table.get? defaultSitePath ((publisher.publish (Repository.control .none) 0 sites
      vpns).perform repository).2.files = some oneFileSites := by decide +kernel
  have hserved : served = (publisher.publish (oneFileProject.control oneFileNetwork.recorded) 0
    sites vpns).perform ([], repository.files) := rfl
  rw [hserved]
  refine ⟨hpaths, reachable_oneFile, serves_oneFile, hholds, ?_, ?_, ?_⟩
  · exact haccount
  · refine (map_body_of_sentAs hmessages).trans ?_
    simp [conversation, oneFileVisits, visitMessages, hsettings, htrunk]
  · exact (congrFun hafter defaultSitePath).symm.trans hkept

end OneFile

end GitLab

end NetworkIntent
