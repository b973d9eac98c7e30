import RemoteConfig.Duration
import RemoteConfig.Text.Split
import RemoteConfig.TextMap

/-!
# Client options

What a client is told before it asks anything: the application and profile it
asks for, the servers and labels it tries, how it authenticates, and how it
retries, polls and reports its health.  The defaults are those of a client
that is told nothing.
-/

namespace RemoteConfig

/-- How failed loads are repeated. -/
structure RetryOptions where
  /-- Failed loads are repeated at all. -/
  enabled : Bool := false
  /-- The first pause between attempts, in milliseconds. -/
  initialInterval : UInt64 := 1000
  /-- The longest pause, in milliseconds. -/
  maxInterval : UInt64 := 2000
  /-- The factor between one pause and the next. -/
  multiplier : Double := Decimal.toDouble false 11 (-1)
  /-- How many attempts there may be, the first one included. -/
  maxAttempts : UInt32 := 6
  deriving Repr, DecidableEq

/-- Whether servers are looked up in a registry. -/
structure DiscoveryOptions where
  enabled : Bool := false
  /-- The name of the configuration server in the registry. -/
  serviceId : String := "configserver"
  deriving Repr, DecidableEq

/-- How health is reported. -/
structure HealthOptions where
  enabled : Bool := true
  /-- How long a fetched environment is reused, in milliseconds. -/
  timeToLive : UInt64 := 300000
  deriving Repr, DecidableEq

/-- The options of a client. -/
structure ClientOptions where
  /-- The client asks servers at all. -/
  enabled : Bool := true
  /-- Failed loads are errors, and not loads of nothing. -/
  failFast : Bool := false
  /-- The application that is asked for. -/
  name : String := "application"
  /-- The profile that is asked for. -/
  env : String := "Production"
  /-- Labels, separated by commas, tried in order. -/
  label : Option String := none
  /-- Base addresses of servers, separated by commas, tried in order. -/
  uri : String := "http://localhost:8888"
  username : Option String := none
  password : Option String := none
  /-- A token that is sent in a header of its own. -/
  token : Option String := none
  /-- How long one request may take, in milliseconds. -/
  timeout : UInt64 := 60000
  /-- The pause between polls in milliseconds, or zero for no polling. -/
  pollingInterval : UInt64 := 0
  /-- Certificates of servers are checked. -/
  validateCertificates : Bool := true
  retry : RetryOptions := {}
  discovery : DiscoveryOptions := {}
  health : HealthOptions := {}
  /-- Headers that are sent with every request. -/
  headers : TextMap String := .empty
  deriving Repr, DecidableEq

namespace ClientOptions

/-- The base addresses in the order in which they are tried. -/
def uris (o : ClientOptions) : List String :=
  Text.commaItems o.uri

/-- The labels in the order in which they are tried. -/
def labels (o : ClientOptions) : List String :=
  match o.label with
  | some l => Text.commaItems l
  | none => []

/-- How long one request may take. -/
def requestTimeout (o : ClientOptions) : Duration :=
  .ofMillis o.timeout.toNat

/-- The pause between polls, if there is polling. -/
def pollingPause? (o : ClientOptions) : Option Duration :=
  if o.pollingInterval = 0 then none else some (.ofMillis o.pollingInterval.toNat)

end ClientOptions

end RemoteConfig
