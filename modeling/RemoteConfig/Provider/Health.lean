import RemoteConfig.Provider

/-!
# Health

A provider is healthy if its most recent fetch located an environment with
property sources.  A fetch is reused for a time, and then repeated without
touching the store.
-/

namespace RemoteConfig

/-- How healthy a provider is. -/
inductive HealthStatus where
  | up
  | down
  | unknown
  deriving Repr, DecidableEq

/-- The label of a status. -/
def HealthStatus.label : HealthStatus → String
  | up => "UP"
  | down => "DOWN"
  | unknown => "UNKNOWN"

/-- A detail of a report. -/
inductive HealthDetail where
  | text (s : String)
  | texts (items : List String)
  /-- The time of the fetch that the report is about. -/
  | fetchTime
  deriving Repr, DecidableEq

/-- A status with details by name, in the order of the names. -/
structure HealthReport where
  status : HealthStatus
  details : List (String × HealthDetail)
  deriving Repr, DecidableEq

namespace Provider

variable {σ : Type}

/-- The report on a fetch. -/
def fetchReport : Option Environment → HealthReport
  | some e =>
    if e.propertySources.isEmpty then nothingLocated
    else ⟨.up, [("lastFetched", .fetchTime), ("propertySources", .texts e.sourceNames)]⟩
  | none => nothingLocated
where
  /-- The report on a fetch that located nothing. -/
  nothingLocated : HealthReport :=
    ⟨.down, [("lastFetched", .fetchTime), ("reason", .text "no property sources located")]⟩

/-- How long a fetch is reused. -/
def timeToLive (p : Provider) : Duration :=
  .ofMillis p.options.health.timeToLive.toNat

/-- The most recent fetch, if it is young enough, at its age. -/
def reusableFetch (p : Provider) (age : Duration) : Option (Option Environment) :=
  if age.nanos < p.timeToLive.nanos then p.lastFetch else none

/-- The report on a provider whose most recent fetch, if any, has the given
age. -/
def health (net : Servers σ) (age : Duration) (cancellation : Cancellation) (p : Provider)
    (servers : σ) : HealthReport × Provider × σ :=
  if !p.options.health.enabled then
    (⟨.unknown, [("reason", .text "health check disabled")]⟩, p, servers)
  else if !p.options.enabled then
    (⟨.unknown, [("reason", .text "config server client disabled")]⟩, p, servers)
  else
    match p.reusableFetch age with
    | some fetch => (fetchReport fetch, p, servers)
    | none =>
      match p.load net false cancellation servers with
      | (.error e, p, servers) => (⟨.down, [("error", .text e.message)]⟩, p, servers)
      | (.ok _, p, servers) =>
        match p.lastFetch with
        | some fetch => (fetchReport fetch, p, servers)
        | none => (⟨.unknown, []⟩, p, servers)

end Provider

end RemoteConfig
