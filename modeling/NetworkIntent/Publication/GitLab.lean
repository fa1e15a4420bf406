import NetworkIntent.Http.Message
import NetworkIntent.Publication.VersionControl
import NetworkIntent.Settings
import NetworkIntent.Text.Base64
import NetworkIntent.Text.Blank

/-!
# Version control on the web

A project on a service that takes the requests of a publication. The project and the path of a file
are single parts of the address of the file, so everything in them that could delimit parts is
encoded.

## Main definitions

* `GitLab`: a project, by the settings of the service.
* `GitLab.connect`: the project, if its settings can be used.
* `GitLab.fileAddress`: the address of a file.
* `GitLab.StoredFile.decode`: the text of a file that the service gives.
* `GitLab.control`: the version control of a project.
-/

set_option autoImplicit false

namespace NetworkIntent

/-- A project on a service. -/
structure GitLab where
  settings : GitLabSettings
  deriving DecidableEq, Repr

namespace GitLab

open Json (Record Decoder)

/-! ### Files -/

/-- A file as the service gives it. -/
structure StoredFile where
  content : String
  encoding : String
  deriving DecidableEq, Repr

namespace StoredFile

/-- Reads a file. -/
def decoder : Decoder StoredFile :=
  ((Record.pure StoredFile.mk)
    |>.more (.required "content" .text)
    |>.more (.withDefault "encoding" .text "")).decoder "struct RepositoryFile"

/-- The text of a file, whose bytes may be written as characters with blanks among them. -/
def decode (file : StoredFile) : Except VersionControl.Fault String :=
  if file.encoding ≠ "base64" then .ok file.content
  else
    match Base64.decode (Utf8.encode (dropBlanks file.content.toList)) with
    | .error fault => .error (.malformed s!"file content is not base64: {fault.message}")
    | .ok bytes =>
      match Utf8.decode bytes with
      | .error fault => .error (.malformed s!"file content is not UTF-8: {fault.message}")
      | .ok cs => .ok (String.ofList cs)

end StoredFile

/-- Reads what is known about a merge request. -/
def stateDecoder : Decoder MergeRequestState :=
  ((Record.pure MergeRequestState.mk)
    |>.more (.required "state" .text)
    |>.more (.optional "iid" .uint64)
    |>.more (.optional "web_url" .text)).decoder "struct MergeRequestResponse"

/-! ### Requests -/

/-- The project, if its token can be sent. -/
def connect (settings : GitLabSettings) : Except VersionControl.Fault GitLab :=
  if Http.isHeaderValue settings.token then .ok ⟨settings⟩
  else .error (.unreachable s!"Invalid private token: {Http.noHeaderValue}")

/-- The address of a part of the project. -/
def addressOf (project : GitLab) (part : String) : String :=
  Url.trimSlashes project.settings.baseUrl ++ "/api/v4/projects/"
    ++ Percent.component project.settings.project ++ part

/-- The address of a file. -/
def fileAddress (project : GitLab) (path : String) : String :=
  project.addressOf ("/repository/files/" ++ Percent.component path)

/-- The headers of every request. -/
def headers (project : GitLab) : List (String × String) :=
  [("private-token", project.settings.token), ("accept", Http.acceptAnything)]

/-- A request without a body. -/
def plain (project : GitLab) (method : Http.Method) (address : String)
    (pairs : List (String × String)) : Except Http.Fault Http.Request :=
  Http.request method address (some pairs) project.headers none

/-- A request whose body is a document. -/
def withDocument (project : GitLab) (method : Http.Method) (address : String)
    (document : Json) : Except Http.Fault Http.Request :=
  Http.request method address none (project.headers ++ Http.documentHeaders)
    (some (document.render .line))

/-- The body of a commit. -/
def commitDocument (commit : FileCommit) : Json :=
  .obj [("branch", .str commit.branch), ("content", .str commit.content),
    ("commit_message", .str commit.message), ("author_name", .str commit.authorName),
    ("author_email", .str commit.authorEmail), ("encoding", .str "text")]

/-- The body of a merge request. -/
def mergeRequestDocument (request : MergeRequest) : Json :=
  .obj [("source_branch", .str request.sourceBranch),
    ("target_branch", .str request.targetBranch), ("title", .str request.title),
    ("remove_source_branch", .bool request.removeSourceBranch)]

variable {σ : Type}

/-- Sends a request. -/
def send (network : Http.Network σ) (request : Except Http.Fault Http.Request) :
    Action σ VersionControl.Fault Http.Reply :=
  (network.ask request).mapFailure fun fault =>
    .unreachable s!"GitLab API error: {fault.message}"

/-- Requires that a reply tells success. -/
def check (reply : Http.Reply) : Except VersionControl.Fault Http.Reply :=
  if reply.isSuccess then .ok reply else .error (.status reply.status reply.text)

/-- The value that a reply of success holds. -/
def valueOf {α : Type} (decoder : Decoder α) (reply : Http.Reply) :
    Except VersionControl.Fault α :=
  match check reply with
  | .error fault => .error fault
  | .ok reply => (reply.decode decoder).mapError fun fault => .malformed fault.message

/-- The content of the file that a reply holds, where the status may tell that there is none. -/
def contentOf (reply : Http.Reply) : Except VersionControl.Fault (Option String) :=
  if reply.status = 404 then .ok none
  else (valueOf StoredFile.decoder reply).bind fun file => some <$> file.decode

/-- The version control of a project. -/
def control (project : GitLab) (network : Http.Network σ) : VersionControl σ where
  createBranch branch source := do
    let reply ← send network (project.plain .post (project.addressOf "/repository/branches")
      [("branch", branch), ("ref", source)])
    let _ ← Action.ofExcept (check reply)
    return ()
  getFile path branch := do
    let reply ← send network (project.plain .get (project.fileAddress path) [("ref", branch)])
    Action.ofExcept (contentOf reply)
  saveFile commit := do
    let method := match commit.action with
      | .create => Http.Method.post
      | .update => .put
    let reply ← send network
      (project.withDocument method (project.fileAddress commit.path) (commitDocument commit))
    let _ ← Action.ofExcept (check reply)
    return ()
  createMergeRequest request := do
    let reply ← send network (project.withDocument .post (project.addressOf "/merge_requests")
      (mergeRequestDocument request))
    Action.ofExcept (valueOf stateDecoder reply)

end GitLab

end NetworkIntent
