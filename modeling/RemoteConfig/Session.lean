import RemoteConfig.Cancellation
import RemoteConfig.Http
import RemoteConfig.Metrics

/-!
# Sessions

What one load works with while it runs: the servers as they are now, the
counters, and how far the load has come, which decides when a cancellation
takes effect.
-/

namespace RemoteConfig

/-- A load under way. -/
structure Session (σ : Type) where
  servers : σ
  metrics : Metrics
  cancellation : Cancellation := .never
  progress : Progress := {}

namespace Session

variable {σ : Type}

/-- The load looks whether it was cancelled. -/
def isCancelled (s : Session σ) : Bool :=
  s.cancellation.shows s.progress

def beginAttempt (s : Session σ) : Session σ :=
  { s with progress := s.progress.step }

/-- Counts a request, or a candidate that was refused. -/
def recordRequest (s : Session σ) (label : String) : Session σ :=
  { s with metrics := s.metrics.recordRequest label, progress := s.progress.step }

def recordWalkExhausted (s : Session σ) : Session σ :=
  { s with metrics := s.metrics.recordWalkExhausted, progress := s.progress.step }

/-- Waits for what becomes of a request, which is nothing if it gets no answer.
It may be given up if it was sent, and times out without an answer otherwise. -/
def await (client : HttpClient) (isSent : Bool) (outcome : Option FetchOutcome) (s : Session σ) :
    Except LoadError FetchOutcome × Session σ :=
  if isSent && s.cancellation.endsRequest s.progress outcome.isNone then (.error .cancelled, s)
  else
    match outcome with
    | some outcome => (.ok outcome, s)
    | none => (.ok client.timedOut, { s with progress := s.progress.silence })

/-- Fetches from one address. -/
def fetch (net : Servers σ) (client : HttpClient) (uri : String) (explicit : Option Credentials)
    (s : Session σ) : Except LoadError FetchOutcome × Session σ :=
  let (outcome, servers) := client.send net uri explicit s.servers
  { s with servers }.await client (Url.read uri).isOk outcome

/-- Pauses between two attempts; false if the load is cancelled meanwhile. -/
def pause (s : Session σ) : Bool × Session σ :=
  (!s.cancellation.endsPause s.progress, { s with progress := s.progress.pause })

end Session

end RemoteConfig
