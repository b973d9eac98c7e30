import RemoteConfig.Http

/-!
# Scripted servers

Servers whose answers are fixed in advance: each address has a list of
responses, each request to it takes the next one, and the last one repeats.
Requests that reach a server are noted.  No server can be reached over an
encrypted connection.
-/

namespace RemoteConfig

/-- What a scripted server does on one request. -/
inductive ScriptedResponse where
  | answer (status : Nat) (mediaType : Option String) (body : List UInt8)
  /-- The connection is closed. -/
  | drop
  /-- Nothing comes. -/
  | hang
  deriving Repr, DecidableEq

/-- Servers with fixed answers, and the requests that reached them. -/
structure ScriptedServers where
  /-- The responses still to come, by address. -/
  routes : List (String × List ScriptedResponse)
  log : List Request := []

namespace ScriptedServers

/-- The address under which a request is looked up: without user name,
password and fragment. -/
def address (url : Url) : String :=
  url.withoutUserInfo.withoutFragment.text

/-- The next response of a list, and the list after it; the last one stays. -/
def takeNext : List ScriptedResponse → ScriptedResponse × List ScriptedResponse
  | [] => (.drop, [])
  | [r] => (r, [r])
  | r :: rest => (r, rest)

/-- Takes the next response for an address. -/
def takeRoute (uri : String) : List (String × List ScriptedResponse) →
    ScriptedResponse × List (String × List ScriptedResponse)
  | [] => (.drop, [])
  | (k, responses) :: rest =>
    if k = uri then
      let (r, left) := takeNext responses
      (r, (k, left) :: rest)
    else
      let (r, routes) := takeRoute uri rest
      (r, (k, responses) :: routes)

/-- Answers with these statuses have no body. -/
def isBodiless (status : Nat) : Bool :=
  status = 204 || status = 304

/-- What a response is on the side of the client. -/
def replyOf : ScriptedResponse → Reply
  | .answer status mediaType body => .answer status mediaType (if isBodiless status then [] else body)
  | .drop => .broken "connection closed before message completed"
  | .hang => .silence

/-- How scripted servers reply. -/
def net : Servers ScriptedServers where
  reply request s :=
    if request.url.scheme = "https" then
      (.broken "error trying to connect: unexpected eof while tunneling", s)
    else
      let (response, routes) := takeRoute (address request.url) s.routes
      (replyOf response, { routes, log := s.log ++ [request] })

end ScriptedServers

end RemoteConfig
