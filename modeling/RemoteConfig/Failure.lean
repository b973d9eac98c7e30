import RemoteConfig.Duration
import RemoteConfig.Text.Split

/-!
# Failures

Why one server could not supply an environment, and why a load ended in an
error, with the wording of each.
-/

namespace RemoteConfig

/-- Why one request did not supply an environment. -/
inductive FetchFailure where
  /-- The address is no URL that can be asked. -/
  | invalidUri (uri reason : String)
  /-- No answer came in time. -/
  | timeout (limit : Duration)
  /-- No complete answer came. -/
  | transport (reason : String)
  /-- The answer has a status of failure. -/
  | status (code : Nat)
  /-- The answer is no environment. -/
  | parse (reason : String)
  deriving Repr, DecidableEq

/-- The label under which a failure is counted. -/
def FetchFailure.label : FetchFailure → String
  | invalidUri .. => "invalid_uri"
  | timeout _ => "timeout"
  | transport _ => "transport"
  | status _ => "error_status"
  | parse _ => "parse"

/-- The wording of a failure. -/
def FetchFailure.message : FetchFailure → String
  | invalidUri uri reason => "invalid uri '" ++ uri ++ "': " ++ reason
  | timeout limit => "request timed out after " ++ limit.text
  | transport reason => "transport failure: " ++ reason
  | status code => "server responded with status " ++ Decimal.text code
  | parse reason => "malformed environment body: " ++ reason

/-- The failure of one candidate of a walk. -/
structure CandidateFailure where
  /-- The address that was asked, without user name and password. -/
  uri : String
  failure : FetchFailure
  deriving Repr, DecidableEq

/-- The wording of a candidate's failure. -/
def CandidateFailure.message (f : CandidateFailure) : String :=
  f.uri ++ " (" ++ f.failure.message ++ ")"

/-- Why a load ended in an error. -/
inductive LoadError where
  /-- Every candidate failed. -/
  | exhausted (failures : List CandidateFailure)
  /-- The servers have nothing for this application and profile. -/
  | notLocated (name profile : String)
  | cancelled
  /-- The caller cannot wait for the load that is under way. -/
  | blockingUnsupported
  /-- The counters cannot be written. -/
  | metrics (reason : String)
  deriving Repr, DecidableEq

/-- The load was cancelled, which is no failure. -/
def LoadError.isCancelled : LoadError → Bool
  | cancelled => true
  | _ => false

/-- The wording of the failures of a walk. -/
def failuresMessage (failures : List CandidateFailure) : String :=
  if failures.isEmpty then "no candidates were tried"
  else Text.join "; " (failures.map (·.message))

/-- The wording of a load's error. -/
def LoadError.message : LoadError → String
  | exhausted failures =>
    "Could not locate PropertySource, fail fast property is set, failing: " ++
      failuresMessage failures
  | notLocated name profile =>
    "Could not locate PropertySource for '" ++ name ++ "/" ++ profile ++
      "', fail fast property is set, failing"
  | cancelled => "configuration load was cancelled"
  | blockingUnsupported =>
    "blocking load is not possible on a current-thread runtime while another load is in flight"
  | metrics reason => "failed to set up metrics: Prometheus encoding failed: " ++ reason

end RemoteConfig
