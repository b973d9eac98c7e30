import RemoteConfig.Options.Issue
import RemoteConfig.Options
import RemoteConfig.Number.Shortest
import RemoteConfig.Url.Reader

/-!
# Rules for options

What makes options unusable, and what makes them suspicious: the rules about
the connection, then those about retries, then those about discovery.
-/

namespace RemoteConfig.ClientOptions

/-- An issue, if a condition holds. -/
def issueIf (condition : Bool) (issue : Issue) : List Issue :=
  if condition then [issue] else []

/-- The schemes of servers that can be asked. -/
def isServerScheme (scheme : String) : Bool :=
  scheme = "http" || scheme = "https"

/-- The issues with one base address. -/
def uriIssues (index : Nat) (uri : String) : List Issue :=
  let key := "uri[" ++ Decimal.text index ++ "]"
  match Url.read uri with
  | .ok url =>
    issueIf (!isServerScheme url.scheme)
      ⟨.error, key, "Unsupported scheme '" ++ url.scheme ++ "' in '" ++ uri ++ "'", none⟩
  | .error fault =>
    [⟨.error, key, "'" ++ uri ++ "' is not an absolute uri: " ++ fault.message, none⟩]

/-- The issues with base addresses, counted from `index`. -/
def urisIssues (index : Nat) : List String → List Issue
  | [] => []
  | u :: us => uriIssues index u ++ urisIssues (index + 1) us

/-- The issues with the connection. -/
def connectionIssues (o : ClientOptions) : List Issue :=
  issueIf (Text.allBlank o.name) ⟨.error, "name", "Application name must not be empty", none⟩ ++
  issueIf (Text.allBlank o.env) ⟨.error, "env", "Profile must not be empty", none⟩ ++
  issueIf (o.uris.isEmpty && !o.discovery.enabled)
    ⟨.error, "uri", "No config server uri configured",
      some "Set uri, e.g. http://localhost:8888"⟩ ++
  urisIssues 0 o.uris ++
  issueIf (o.timeout == 0) ⟨.error, "timeout", "Timeout must be greater than zero", none⟩ ++
  issueIf (!o.validateCertificates)
    ⟨.warning, "validateCertificates", "TLS certificate validation is disabled", none⟩ ++
  issueIf (o.token.isSome && (o.username.isSome || o.password.isSome))
    ⟨.warning, "token", "Both a token and basic credentials are configured; both will be sent",
      some "Use either token or username/password"⟩

/-- One as a double. -/
def unitFactor : Double := .ofNat 1

/-- The issues with retries. -/
def retryIssues (r : RetryOptions) : List Issue :=
  issueIf (!r.multiplier.isFinite || r.multiplier.lt unitFactor)
    ⟨.error, "retry.multiplier",
      "Multiplier " ++ Decimal.doubleText .plain r.multiplier ++ " would shrink the backoff",
      some "Multiplier must be at least 1.0"⟩ ++
  issueIf (r.maxAttempts == 0)
    ⟨.error, "retry.maxAttempts", "Max attempts must be at least 1", none⟩ ++
  issueIf (r.maxInterval < r.initialInterval)
    ⟨.error, "retry.initialInterval",
      "Initial interval " ++ Decimal.text r.initialInterval.toNat ++ "ms exceeds max interval " ++
        Decimal.text r.maxInterval.toNat ++ "ms", none⟩

/-- The issues with discovery. -/
def discoveryIssues (d : DiscoveryOptions) : List Issue :=
  issueIf (d.enabled && Text.allBlank d.serviceId)
    ⟨.error, "discovery.serviceId", "Service id is required when discovery is enabled", none⟩

/-- All issues with a set of options. -/
def validate (o : ClientOptions) : Report :=
  ⟨o.connectionIssues ++ retryIssues o.retry ++ discoveryIssues o.discovery⟩

end RemoteConfig.ClientOptions
