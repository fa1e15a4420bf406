import NetworkIntent.Proofs.Json.Scanned
import NetworkIntent.Proofs.Request
import NetworkIntent.Proofs.StoredFile
import NetworkIntent.Publication.Repository

/-!
# Files that a service keeps

What goes to a service that keeps the files of a project, and what comes back. A message asks for a
resource of the project, with pairs in the query of the address or with a document in the body. A
service sees requests only: it looks at the method, the address, the token and the value that the
body spells, and not at how the request was made. What it answers is told by the files alone: that
there is no file, or an object with the bytes of the file in Base64, where blanks may stand anywhere
among the characters and where other entries may stand beside it.

## Main definitions

* `GitLab.Message`, `GitLab.Message.SentAs`: what goes to the service, and the requests that are it.
* `GitLab.Asks`, `GitLab.Bears`: what a service sees in a request.
* `GitLab.CommitFields`, `GitLab.ProposalFields`: the documents of commits and of merge requests.
* `GitLab.ShowsFile`, `GitLab.ShowsOpened`: the replies that tell of a file and of an open merge
  request.

## Main results

* `GitLab.sentAs_of_requestFor`: the request that is made for version control is the message for it.
* `GitLab.Message.SentAs.asks`, `GitLab.Message.SentAs.bears`: what a service sees in a message.
* `GitLab.contentOf_of_showsFile`, `GitLab.valueOf_of_showsOpened`: what is read from the replies.
-/

set_option autoImplicit false

namespace NetworkIntent.GitLab

open Json (Record Decoder given SpellsWhole)

variable {α : Type}

/-! ## Messages -/

/-- The address of a resource of a project. Its parts stand one after the other, each after a slash
and with everything encoded that could delimit parts. -/
def resourceAddress (project : GitLab) (resource : List String) : String :=
  Url.trimSlashes project.settings.baseUrl ++
    String.join ((["api", "v4", "projects", project.settings.project] ++ resource).map fun part =>
      "/" ++ Percent.component part)

/-- What goes to the service: a method, the parts of a resource, and the pairs of the query or the
document of the body. -/
structure Message where
  method : Http.Method
  resource : List String
  pairs : Option (List (String × String))
  document : Option Json

/-- A request is a message. It goes to the address of the resource with the pairs in its query, its
headers are the token, the kinds of replies that are accepted and, with a document, the type of the
document, and its body is the document on one line. -/
structure Message.SentAs (project : GitLab) (message : Message) (request : Http.Request) :
    Prop where
  method : request.method = message.method
  address : ∃ url, Url.read? (project.resourceAddress message.resource) = some url ∧
    request.url.GoesTo url (message.pairs.getD []) ∧
    request.headers = Http.headersTo url
      (("private-token", project.settings.token) :: ("accept", "*/*") ::
        if message.document.isSome then [("content-type", "application/json")] else [])
  body : request.body = message.document.map (·.render .line)

/-- What a request to version control is sent as. -/
def messageFor : Repository.Request → Message
  | .createBranch branch source =>
    ⟨.post, ["repository", "branches"], some [("branch", branch), ("ref", source)], none⟩
  | .getFile path branch => ⟨.get, ["repository", "files", path], some [("ref", branch)], none⟩
  | .saveFile commit =>
    ⟨if commit.action = .create then .post else .put, ["repository", "files", commit.path], none,
      some (.obj [("branch", .str commit.branch), ("content", .str commit.content),
        ("commit_message", .str commit.message), ("author_name", .str commit.authorName),
        ("author_email", .str commit.authorEmail), ("encoding", .str "text")])⟩
  | .createMergeRequest request =>
    ⟨.post, ["merge_requests"], none,
      some (.obj [("source_branch", .str request.sourceBranch),
        ("target_branch", .str request.targetBranch), ("title", .str request.title),
        ("remove_source_branch", .bool request.removeSourceBranch)])⟩

/-- The request that is made for a request to version control. -/
def requestFor (project : GitLab) : Repository.Request → Except Http.Fault Http.Request
  | .createBranch branch source =>
    project.plain .post (project.addressOf "/repository/branches")
      [("branch", branch), ("ref", source)]
  | .getFile path branch => project.plain .get (project.fileAddress path) [("ref", branch)]
  | .saveFile commit =>
    project.withDocument (if commit.action = .create then .post else .put)
      (project.fileAddress commit.path) (commitDocument commit)
  | .createMergeRequest request =>
    project.withDocument .post (project.addressOf "/merge_requests") (mergeRequestDocument request)

/-- The address of a part of the project is that of a resource. -/
theorem addressOf_eq_resourceAddress (project : GitLab) {part : String} {resource : List String}
    (hpart : part = String.join (resource.map fun part => "/" ++ Percent.component part)) :
    project.addressOf part = project.resourceAddress resource := by
  have hstart : String.join (["api", "v4", "projects"].map fun part =>
      "/" ++ Percent.component part) ++ "/" = "/api/v4/projects/" := by decide +kernel
  rw [addressOf, resourceAddress, hpart, ← hstart]
  simp [String.append_assoc]

/-- The address of a file is that of a resource. -/
theorem fileAddress_eq_resourceAddress (project : GitLab) (path : String) :
    project.fileAddress path = project.resourceAddress ["repository", "files", path] := by
  have hstart : "/repository/files/" = "/" ++ Percent.component "repository" ++
      ("/" ++ Percent.component "files") ++ "/" := by decide +kernel
  refine project.addressOf_eq_resourceAddress ?_
  rw [hstart]
  simp [String.append_assoc]

/-- The request for version control is made from the parts of the message. -/
theorem requestFor_eq (project : GitLab) (request : Repository.Request) :
    project.requestFor request =
      Http.request (messageFor request).method
        (project.resourceAddress (messageFor request).resource) (messageFor request).pairs
        (("private-token", project.settings.token) :: ("accept", "*/*") ::
          if (messageFor request).document.isSome then [("content-type", "application/json")]
          else [])
        ((messageFor request).document.map (·.render .line)) := by
  cases request with
  | createBranch branch source =>
    have haddress : project.addressOf "/repository/branches" =
        project.resourceAddress ["repository", "branches"] :=
      project.addressOf_eq_resourceAddress (by decide +kernel)
    rw [requestFor, haddress]
    rfl
  | getFile path branch =>
    rw [requestFor, fileAddress_eq_resourceAddress]
    rfl
  | saveFile commit =>
    rw [requestFor, fileAddress_eq_resourceAddress]
    rfl
  | createMergeRequest request =>
    have haddress : project.addressOf "/merge_requests" =
        project.resourceAddress ["merge_requests"] :=
      project.addressOf_eq_resourceAddress (by decide +kernel)
    rw [requestFor, haddress]
    rfl

variable {project : GitLab} {message : Message} {request : Repository.Request}
  {sent : Http.Request}

/-- **The request that is made for version control is the message for it.** -/
theorem sentAs_of_requestFor (h : project.requestFor request = .ok sent) :
    (messageFor request).SentAs project sent := by
  rw [requestFor_eq] at h
  obtain ⟨url, hread, -, -, rfl⟩ := Http.request_eq_ok_iff.mp h
  exact ⟨rfl, ⟨url, hread, Url.goesTo_asked _ url, rfl⟩, rfl⟩

/-- A request is made if requests can be sent to the address of the resource. -/
theorem exists_requestFor (project : GitLab) (request : Repository.Request)
    (h : Http.Sendable (project.resourceAddress (messageFor request).resource)
      (messageFor request).pairs) : ∃ sent, project.requestFor request = .ok sent := by
  rw [requestFor_eq]
  exact h.exists_request

/-! ## What a service sees -/

/-- A service sees in a request that it is asked for a resource of the project, with the method and
the pairs, by someone who has the token. -/
structure Asks (project : GitLab) (method : Http.Method) (resource : List String)
    (pairs : List (String × String)) (request : Http.Request) : Prop where
  method : request.method = method
  address : ∃ url, Url.read? (project.resourceAddress resource) = some url ∧
    request.url.GoesTo url pairs
  token : ("private-token", project.settings.token) ∈ request.headers

/-- A service sees an object in the body of a request. -/
structure Bears (request : Http.Request) (fields : Fields) : Prop where
  type : ("content-type", "application/json") ∈ request.headers
  body : ∃ text, request.body = some text ∧ SpellsWhole (.obj fields) (Utf8.ofString text)

/-- The fields of a commit on a branch: the content of the file as it is, and some message. -/
structure CommitFields (fields : Fields) (branch content : String) : Prop where
  branch : given ["branch"] fields = [.str branch]
  content : given ["content"] fields = [.str content]
  encoding : given ["encoding"] fields = [.str "text"]
  message : ∃ message, given ["commit_message"] fields = [.str message]

/-- The fields of a merge request for a branch, with some title. -/
structure ProposalFields (fields : Fields) (source target : String) : Prop where
  source : given ["source_branch"] fields = [.str source]
  target : given ["target_branch"] fields = [.str target]
  title : ∃ title, given ["title"] fields = [.str title]

/-- **A service sees what it is asked for in the request that is a message.** -/
theorem Message.SentAs.asks (h : message.SentAs project sent) :
    project.Asks message.method message.resource (message.pairs.getD []) sent := by
  obtain ⟨url, hread, hgoes, hheaders⟩ := h.address
  refine ⟨h.method, ⟨url, hread, hgoes⟩, ?_⟩
  rw [hheaders]
  exact (Http.mem_headersTo_iff url (by decide)).mpr List.mem_cons_self

/-- **A service sees the document of a message in the request that is it.** -/
theorem Message.SentAs.bears (h : message.SentAs project sent) {fields : Fields}
    (hdocument : message.document = some (.obj fields)) (hwhole : (Json.obj fields).Whole) :
    Bears sent fields := by
  obtain ⟨url, -, -, hheaders⟩ := h.address
  refine ⟨?_, (Json.obj fields).render .line, ?_, Json.spellsWhole_render .line hwhole⟩
  · rw [hheaders, hdocument]
    exact (Http.mem_headersTo_iff url (by decide)).mpr (by simp)
  · rw [h.body, hdocument]
    rfl

/-- The document of a commit tells the content of the file. -/
theorem commitFields_of_sentAs {commit : FileCommit}
    (h : (messageFor (.saveFile commit)).SentAs project sent) :
    ∃ fields, Bears sent fields ∧ CommitFields fields commit.branch commit.content := by
  refine ⟨_, h.bears rfl (by simp [Json.Whole, Json.WholeFields]), rfl, rfl, rfl, _, rfl⟩

/-- The document of a merge request tells its branches. -/
theorem proposalFields_of_sentAs {proposal : MergeRequest}
    (h : (messageFor (.createMergeRequest proposal)).SentAs project sent) :
    ∃ fields, Bears sent fields ∧
      ProposalFields fields proposal.sourceBranch proposal.targetBranch := by
  refine ⟨_, h.bears rfl (by simp [Json.Whole, Json.WholeFields]), rfl, rfl, _, rfl⟩

/-! ## What a service answers -/

/-- The fields that tell of a file: its text in characters of Base64, among which there may be any
blanks. -/
structure FileFields (fields : Fields) (text : String) : Prop where
  content : ∃ content, given ["content"] fields = [.str content] ∧ StoredFile.Carries content text
  encoding : given ["encoding"] fields = [.str "base64"]

/-- The replies that tell what there is at a path. -/
def ShowsFile (reply : Http.Reply) : Option String → Prop
  | none => reply.status = 404
  | some text => reply.isSuccess = true ∧
      ∃ fields, FileFields fields text ∧ SpellsWhole (.obj fields) reply.body

/-- The fields that tell of a merge request, whose number and page may be null or left out. -/
structure MergeRequestFields (fields : Fields) (opened : MergeRequestState) : Prop where
  state : given ["state"] fields = [.str opened.state]
  number : (given ["iid"] fields = [opened.number.elim .null (.int ·.toNat)]) ∨
    given ["iid"] fields = [] ∧ opened.number = none
  page : (given ["web_url"] fields = [opened.page.elim .null .str]) ∨
    given ["web_url"] fields = [] ∧ opened.page = none

/-- The replies that tell of an open merge request. -/
def ShowsOpened (reply : Http.Reply) : Prop :=
  reply.isSuccess = true ∧ ∃ fields opened, MergeRequestFields fields opened ∧
    opened.state = "opened" ∧ SpellsWhole (.obj fields) reply.body

/-! ## What is read from the answers -/

/-- A field that may be null or left out is scanned from what may be given for it. -/
theorem nullableField {key : String} {fields : Fields} {o : Option α} {show_ : α → Json}
    (h : (given [key] fields = [o.elim .null show_]) ∨ given [key] fields = [] ∧ o = none) :
    (∃ document, given [key] fields = [document] ∧
        o.elim (document = .null) (document = show_ ·)) ∨
      given [key] fields = [] ∧ some none = some o := by
  rcases h with h | ⟨h, rfl⟩
  · refine .inl ⟨_, h, ?_⟩
    cases o <;> rfl
  · exact .inr ⟨h, rfl⟩

/-- A file is scanned from the fields that tell of it. -/
theorem scans_storedFile : StoredFile.decoder.Scans 1 fun document file =>
    ∃ fields, document = .obj fields ∧ given ["content"] fields = [.str file.content] ∧
      given ["encoding"] fields = [.str file.encoding] := by
  have hrecord := ((Record.Scans.pure 0 StoredFile.mk).more
    (.field Decoder.Scans.text "content" none [])).more
    (.field Decoder.Scans.text "encoding" (some "") [])
  refine (hrecord.decoder (by decide) "struct RepositoryFile").imp ?_
  rintro document file ⟨fields, rfl, hcontent, hencoding⟩
  exact ⟨fields, rfl, _, _, ⟨_, _, rfl, .inl ⟨_, hcontent, rfl⟩, rfl⟩,
    .inl ⟨_, hencoding, rfl⟩, rfl⟩

/-- A merge request is scanned from the fields that tell of it. -/
theorem scans_mergeRequest : stateDecoder.Scans 1 fun document opened =>
    ∃ fields, document = .obj fields ∧ MergeRequestFields fields opened := by
  have hnumber : (Decoder.nullable .uint64).Scans 0 fun document o =>
      o.elim (document = .null) (document = .int ·.toNat) :=
    Decoder.Scans.uint64.nullable (by simp) fun n => by simp [Json.Decoder.uint64_eq_ok_iff]
  have hrecord := (((Record.Scans.pure 0 MergeRequestState.mk).more
    (.field Decoder.Scans.text "state" none [])).more
    (.field hnumber "iid" (some none) [])).more
    (.field Decoder.Scans.nullableText "web_url" (some none) [])
  refine (hrecord.decoder (by decide) "struct MergeRequestResponse").imp ?_
  rintro document opened ⟨fields, rfl, h⟩
  exact ⟨fields, rfl, _, _, ⟨_, _, ⟨_, _, rfl, .inl ⟨_, h.state, rfl⟩, rfl⟩,
    nullableField h.number, rfl⟩, nullableField h.page, rfl⟩

/-- The value of a reply that tells success is the one that is read from its body. -/
theorem valueOf_of_parse {decoder : Decoder α} {reply : Http.Reply} {a : α}
    (hsuccess : reply.isSuccess = true) (hparse : decoder.parse reply.body = .ok a) :
    valueOf decoder reply = .ok a := by
  rw [valueOf, check, if_pos hsuccess]
  dsimp only
  rw [Http.Reply.decode, hparse]
  rfl

/-- **A file is read from the replies that tell of it**, and so is that there is none. -/
theorem contentOf_of_showsFile {reply : Http.Reply} {current : Option String}
    (h : ShowsFile reply current) : contentOf reply = .ok current := by
  cases current with
  | none => exact if_pos h
  | some text =>
    obtain ⟨hsuccess, fields, ⟨⟨content, hcontent, hcarries⟩, hencoding⟩, hbody⟩ := h
    have hfound : reply.status ≠ 404 := by
      intro hstatus
      simp [Http.Reply.isSuccess, hstatus] at hsuccess
    have hparse : StoredFile.decoder.parse reply.body = .ok ⟨content, "base64"⟩ :=
      scans_storedFile.parse (by decide) ⟨fields, rfl, hcontent, hencoding⟩ hbody
    rw [contentOf, if_neg hfound, valueOf_of_parse hsuccess hparse]
    change some <$> StoredFile.decode _ = _
    rw [StoredFile.decode_eq_ok_iff.mpr hcarries]
    rfl

/-- **An open merge request is read from the replies that tell of it.** -/
theorem valueOf_of_showsOpened {reply : Http.Reply} (h : ShowsOpened reply) :
    ∃ opened, valueOf stateDecoder reply = .ok opened ∧ opened.state = "opened" := by
  obtain ⟨hsuccess, fields, opened, hfields, hstate, hbody⟩ := h
  have hparse := scans_mergeRequest.parse (by decide) ⟨fields, rfl, hfields⟩ hbody
  exact ⟨opened, valueOf_of_parse hsuccess hparse, hstate⟩

end NetworkIntent.GitLab
