import NetworkIntent.Action
import NetworkIntent.Http.Url
import NetworkIntent.Json.Decoder
import NetworkIntent.Text.Base64

/-!
# Requests and replies

What is exchanged with a host of the web. A request that cannot be made or sent, and a reply that
cannot be read, are told apart only by a short description.

## Main definitions

* `Http.Request`, `Http.Reply`: what is sent and answered.
* `Http.Fault`: why there is no readable reply.
* `Http.Network`, `Http.Network.silent`: whoever takes requests, and nobody.
* `Http.request`, `Http.Reply.decode`: making a request from the text of an address, and reading the
  value that a reply holds.
* `Http.headersTo`: the headers of a request, with the credentials of its address.
-/

set_option autoImplicit false

namespace NetworkIntent.Http

/-- The methods of requests. -/
inductive Method where
  | get
  | post
  | put
  deriving DecidableEq, Repr

/-- The name of a method. -/
def Method.name : Method → String
  | .get => "GET"
  | .post => "POST"
  | .put => "PUT"

/-- A request: its method, the address, the headers with their values, and the body. -/
structure Request where
  method : Method
  url : Url
  headers : List (String × String)
  body : Option String
  deriving DecidableEq, Repr

/-- A reply: its status and its body. -/
structure Reply where
  status : Nat
  body : Bytes
  deriving DecidableEq, Repr

/-- Why there is no readable reply. -/
inductive Fault where
  /-- The text is no address. -/
  | noAddress
  /-- Requests cannot be sent to an address of this kind. -/
  | noHost (address : String)
  /-- There was no reply from the address. -/
  | noReply (address : String)
  /-- The body of the reply holds something else. -/
  | unreadable
  deriving DecidableEq, Repr

/-- The description of a fault. -/
def Fault.message : Fault → String
  | .noAddress => "builder error"
  | .noHost address => s!"builder error for url ({address})"
  | .noReply address => s!"error sending request for url ({address})"
  | .unreadable => "error decoding response body"

/-! ### Status codes -/

/-- The reasons of the registered status codes. -/
def reasons : List (Nat × String) :=
  [(100, "Continue"), (101, "Switching Protocols"), (102, "Processing"), (200, "OK"),
    (201, "Created"), (202, "Accepted"), (203, "Non Authoritative Information"),
    (204, "No Content"), (205, "Reset Content"), (206, "Partial Content"), (207, "Multi-Status"),
    (208, "Already Reported"), (226, "IM Used"), (300, "Multiple Choices"),
    (301, "Moved Permanently"), (302, "Found"), (303, "See Other"), (304, "Not Modified"),
    (305, "Use Proxy"), (307, "Temporary Redirect"), (308, "Permanent Redirect"),
    (400, "Bad Request"), (401, "Unauthorized"), (402, "Payment Required"), (403, "Forbidden"),
    (404, "Not Found"), (405, "Method Not Allowed"), (406, "Not Acceptable"),
    (407, "Proxy Authentication Required"), (408, "Request Timeout"), (409, "Conflict"),
    (410, "Gone"), (411, "Length Required"), (412, "Precondition Failed"),
    (413, "Payload Too Large"), (414, "URI Too Long"), (415, "Unsupported Media Type"),
    (416, "Range Not Satisfiable"), (417, "Expectation Failed"), (418, "I'm a teapot"),
    (421, "Misdirected Request"), (422, "Unprocessable Entity"), (423, "Locked"),
    (424, "Failed Dependency"), (425, "Too Early"), (426, "Upgrade Required"),
    (428, "Precondition Required"), (429, "Too Many Requests"),
    (431, "Request Header Fields Too Large"), (451, "Unavailable For Legal Reasons"),
    (500, "Internal Server Error"), (501, "Not Implemented"), (502, "Bad Gateway"),
    (503, "Service Unavailable"), (504, "Gateway Timeout"), (505, "HTTP Version Not Supported"),
    (506, "Variant Also Negotiates"), (507, "Insufficient Storage"), (508, "Loop Detected"),
    (510, "Not Extended"), (511, "Network Authentication Required")]

/-- A status code with its reason. -/
def statusText (status : Nat) : String :=
  let reason := (reasons.lookup status).getD "<unknown status code>"
  s!"{status} {reason}"

namespace Reply

/-- Whether a reply tells success. -/
def isSuccess (reply : Reply) : Bool :=
  200 ≤ reply.status && reply.status < 300

/-- The body as a text, without a byte order mark. -/
def text (reply : Reply) : String :=
  match reply.body with
  | 0xEF :: 0xBB :: 0xBF :: rest => Utf8.repair rest
  | body => Utf8.repair body

/-- The value that the body holds. -/
def decode {α : Type} (reply : Reply) (decoder : Json.Decoder α) : Except Fault α :=
  (decoder.parse reply.body).mapError fun _ => .unreadable

end Reply

/-! ### Headers -/

/-- Whether a text can be the value of a header: it has no control but the tab. -/
def isHeaderValue (value : String) : Bool :=
  value.toList.all fun c => c = '\t' || (0x20 ≤ c.toNat && c.toNat ≠ 0x7F)

/-- What is said of a text that cannot be the value of a header. -/
def noHeaderValue : String := "failed to parse header value"

/-- The value of the header that accepts replies of any kind. -/
def acceptAnything : String := "*/*"

/-- The headers of a request whose body is a document. -/
def documentHeaders : List (String × String) :=
  [("content-type", "application/json")]

/-- The value of the header that sends the name and the password of a user. A password that cannot be
read is left out. -/
def basicAuthorization (credentials : Credentials) : String :=
  let read (text : String) : String := (Utf8.toString? (Percent.decode text.toList)).getD ""
  let encoded := Base64.encode
    (Utf8.ofString (read credentials.user ++ ":" ++ read credentials.password))
  "Basic " ++ String.ofList (encoded.map fun b => Char.ofNat b.toNat)

/-- The headers of a request to an address. Credentials in the address are sent in a header, which
takes the place of one that would be sent otherwise. -/
def headersTo (url : Url) (headers : List (String × String)) : List (String × String) :=
  match url.authority with
  | none => headers
  | some authority =>
    if authority.credentials.areReadable then
      ("authorization", basicAuthorization authority.credentials)
        :: headers.filter (·.1 ≠ "authorization")
    else headers

/-! ### Requests -/

/-- Makes a request to the address that a text stands for, where pairs may be added to the query. The
credentials of the address are not sent as a part of it. -/
def request (method : Method) (address : String) (pairs : Option (List (String × String)))
    (headers : List (String × String)) (body : Option String) : Except Fault Request :=
  match Url.read? address with
  | none => .error .noAddress
  | some url =>
    if url.host?.isNone then .error (.noHost url.text)
    else
      let headers := headersTo url headers
      let url := url.withoutCredentials
      let url := match pairs with
        | none => url
        | some pairs => url.addQuery pairs
      if url.isWeb then .ok ⟨method, url, headers, body⟩ else .error (.noHost url.text)

/-- Whoever takes requests. Some replies ask for another request; `patience` is the greatest number
of them that is worth following. -/
structure Network (σ : Type) where
  send : Request → Action σ Fault Reply
  patience : σ → Nat

/-- The network in which nobody replies. -/
def Network.silent (σ : Type) : Network σ where
  send request := .ofExcept (.error (.noReply request.url.text))
  patience _ := 0

/-- Makes a request and sends it. -/
def Network.ask {σ : Type} (network : Network σ) (request : Except Fault Request) :
    Action σ Fault Reply := do
  let request ← Action.ofExcept request
  network.send request

end NetworkIntent.Http
