import NetworkIntent.Http.Message

/-!
# A scripted server

A server at one address that gives prepared replies, one to each request, and lists the requests
that it gets. When no reply is left, it says so. A server that does not listen gets no requests, and
neither does one at another address.

## Main definitions

* `Http.Script`: a server with its prepared replies.
* `Http.Script.network`: the network in which there is only this server.
-/

set_option autoImplicit false

namespace NetworkIntent.Http

/-- What a server does with a request. -/
inductive Turn where
  /-- It gives a reply. -/
  | reply (reply : Reply)
  /-- It closes the connection. -/
  | drop
  deriving DecidableEq, Repr

/-- A server: its address, whether it listens, what it does with the next requests, and the requests
that it got. -/
structure Script where
  address : Url
  listening : Bool
  turns : List Turn
  requests : List Request
  deriving DecidableEq, Repr

namespace Script

/-- The reply when none is left. -/
def exhausted : Reply :=
  ⟨599, Utf8.ofString "unscripted"⟩

/-- Whether a request reaches a server. -/
def isReached (script : Script) (request : Request) : Bool :=
  script.listening && request.url.scheme = script.address.scheme
    && request.url.authority = script.address.authority

/-- Sends a request to a server. -/
def send (request : Request) (script : Script) : Except Fault Reply × Script :=
  if script.isReached request then
    let requests := script.requests ++ [request]
    match script.turns with
    | [] => (.ok exhausted, { script with requests })
    | .reply reply :: turns => (.ok reply, { script with turns, requests })
    | .drop :: turns => (.error (.noReply request.url.text), { script with turns, requests })
  else (.error (.noReply request.url.text), script)

/-- The network in which there is only one server. A chain of replies that ask for more requests
ends when no reply is left. -/
def network : Network Script where
  send request := .step (send request)
  patience script := script.turns.length + 1

end Script

end NetworkIntent.Http
