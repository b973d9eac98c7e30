import RemoteConfig.Environment.Reader
import RemoteConfig.Failure
import RemoteConfig.Options
import RemoteConfig.Text.Base64
import RemoteConfig.Text.Charset
import RemoteConfig.Url.Reader

/-!
# Requests

One request to one server: the headers that it carries, how it is sent, and
what its answer means.  Servers are anything that replies to requests, with a
state of their own that may change with each of them.
-/

namespace RemoteConfig

/-- A user name and a password. -/
structure Credentials where
  username : String
  password : Option String := none
  deriving Repr, DecidableEq

/-! ## Headers -/

namespace Header

/-- A character of a header's name. -/
def isNameChar (c : Char) : Bool :=
  Text.Charset.isTokenChar c

/-- The greatest length of a header's name. -/
def nameBound : Nat := 65535

/-- The name of a header, in small letters. -/
def name? (s : String) : Option String :=
  let cs := s.toList
  if cs.isEmpty || !cs.all isNameChar || nameBound < cs.length then none else some (Text.fold s)

/-- A header's value holds no control characters except tabs. -/
def isValue (s : String) : Bool :=
  s.toList.all fun c => (0x20 ≤ c.toNat && c.toNat ≠ 0x7F) || c = '\t'

/-- Puts a header into a list ordered by name, then value. -/
def insert (header : String × String) : List (String × String) → List (String × String)
  | [] => [header]
  | h :: rest =>
    if header.1 < h.1 || (header.1 = h.1 && header.2 < h.2) then header :: h :: rest
    else h :: insert header rest

/-- The value of the header for a user name and a password. -/
def basic (c : Credentials) : String :=
  "Basic " ++ Text.base64 (Text.bytes (c.username ++ ":" ++ c.password.getD ""))

end Header

/-- The header with the token of a server. -/
def tokenHeader : String := "x-config-token"

/-- Adds a header from the options, unless its name or value is malformed. -/
def addCustomHeader (headers : TextMap String) (name value : String) : TextMap String :=
  match Header.name? name with
  | some name => if Header.isValue value then headers.insert name value else headers
  | none => headers

/-- The headers before the custom ones: what is accepted, and the token. -/
def standardHeaders (o : ClientOptions) : TextMap String :=
  let accept := TextMap.empty.insert "accept" "application/json"
  match o.token with
  | some token => if Header.isValue token then accept.insert tokenHeader token else accept
  | none => accept

/-- The headers of every request.  Custom ones replace others of their name,
and later ones earlier ones. -/
def ClientOptions.requestHeaders (o : ClientOptions) : TextMap String :=
  o.headers.toList.foldl (fun hs p => addCustomHeader hs p.1 p.2) (standardHeaders o)

/-! ## Requests and replies -/

/-- A request as it is sent. -/
structure Request where
  url : Url
  /-- The headers in the order of their names, then values. -/
  headers : List (String × String)
  deriving Repr, DecidableEq

/-- What becomes of a request. -/
inductive Reply where
  /-- A complete answer. -/
  | answer (status : Nat) (mediaType : Option String) (body : List UInt8)
  /-- The connection breaks. -/
  | broken (reason : String)
  /-- Nothing comes for as long as one waits. -/
  | silence
  deriving Repr, DecidableEq

/-- Servers with a state `σ`. -/
structure Servers (σ : Type) where
  reply : Request → σ → Reply × σ

/-- What a request determined. -/
inductive FetchOutcome where
  /-- A status of success, with an environment unless the body was empty. -/
  | success (status : Nat) (environment : Option Environment)
  /-- The server has no such environment. -/
  | notFound
  | failed (failure : FetchFailure)
  deriving Repr, DecidableEq

/-- The label under which an outcome is counted. -/
def FetchOutcome.label : FetchOutcome → String
  | success _ (some _) => "success"
  | success _ none => "no_content"
  | notFound => "not_found"
  | failed f => f.label

/-- Why a body is no environment. -/
def faultReason : Json.Fault → String
  | .ended => "the document ends early"
  | .malformed => "the document is not well formed"
  | .mismatched => "the document has another shape"

/-- What a status and a body mean. -/
def classify (status : Nat) (body : String) : FetchOutcome :=
  if status = 404 then .notFound
  else if status < 200 || 299 < status then .failed (.status status)
  else if status = 204 || Text.allBlank body then .success status none
  else
    match Environment.ofJson body with
    | .ok e => .success status (some e)
    | .error fault => .failed (.parse (faultReason fault))

/-! ## Fetching -/

/-- What all requests of a client have in common. -/
structure HttpClient where
  timeout : Duration
  headers : TextMap String
  deriving Repr, DecidableEq

def HttpClient.ofOptions (o : ClientOptions) : HttpClient where
  timeout := o.requestTimeout
  headers := o.requestHeaders

/-- User name and password of a URL, decoded, if there are any and the user
name is a text. -/
def Url.credentials? (url : Url) : Option Credentials :=
  match Text.ofBytes? (Url.decode url.username.toList) with
  | none => none
  | some username =>
    let password := url.password.bind fun p => Text.ofBytes? (Url.decode p.toList)
    if username.isEmpty && password.isNone then none else some { username, password }

namespace HttpClient

/-- The values of the header that authorizes: a custom one stands in place of
the URL's own credentials, and explicit credentials come on top. -/
def authorizations (c : HttpClient) (url : Url) (explicit : Option Credentials) : List String :=
  let own := match c.headers.get? "authorization" with
    | some value => [value]
    | none => (url.credentials?.map Header.basic).toList
  own ++ (explicit.map Header.basic).toList

/-- The request for a URL. -/
def request (c : HttpClient) (url : Url) (explicit : Option Credentials) : Request :=
  let plain := c.headers.toList.filter (·.1 ≠ "authorization")
  let withAuth := (c.authorizations url explicit).foldl
    (fun hs v => Header.insert ("authorization", v) hs) plain
  let headers :=
    if c.headers.contains "host" then withAuth else Header.insert ("host", url.hostText) withAuth
  let url := if url.credentials?.isSome then url.withoutUserInfo else url
  { url, headers }

/-- The failure of a request whose connection broke. -/
def brokenFailure (url : Url) (reason : String) : FetchFailure :=
  .transport ("error sending request for url (" ++ url.text ++ "): " ++ reason)

/-- The failure of a request that cannot be sent. -/
def unsendable (url : Url) : FetchFailure :=
  .transport ("builder error for url (" ++ url.text ++ "): URL scheme is not allowed")

/-- What a reply means; nothing if it never comes. -/
def outcome? (url : Url) : Reply → Option FetchOutcome
  | .answer status mediaType body =>
    some (classify status (Text.Charset.messageText mediaType body))
  | .broken reason => some (.failed (brokenFailure url reason))
  | .silence => none

/-- Sends one request.  `none` is a request that gets no answer; it is the
caller's to say whether it timed out or was given up. -/
def send {σ : Type} (c : HttpClient) (servers : Servers σ) (uri : String)
    (explicit : Option Credentials) (s : σ) : Option FetchOutcome × σ :=
  match Url.read uri with
  | .error fault => (some (.failed (.invalidUri uri fault.message)), s)
  | .ok url =>
    if url.scheme = "http" || url.scheme = "https" then
      let request := c.request url explicit
      let (reply, s) := servers.reply request s
      (outcome? request.url reply, s)
    else (some (.failed (unsendable url)), s)

/-- The outcome of a request that was waited for in vain. -/
def timedOut (c : HttpClient) : FetchOutcome :=
  .failed (.timeout c.timeout)

end HttpClient

end RemoteConfig
