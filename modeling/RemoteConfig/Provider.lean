import RemoteConfig.Discovery
import RemoteConfig.Options.Pairs
import RemoteConfig.Retry
import RemoteConfig.Store
import RemoteConfig.Text.Quoted

/-!
# Providers

A provider loads environments into a store and reads from it.  It is built
from options, which stay in the store whatever is loaded.  A load resolves the
base addresses, runs attempts, and publishes what was found; `load` is the
whole of it.  Loads run one at a time.
-/

namespace RemoteConfig

/-- How polling stands. -/
inductive PollerState where
  | notStarted
  | running
  | stopped
  deriving Repr, DecidableEq

/-- A provider. -/
structure Provider where
  options : ClientOptions
  client : HttpClient
  locator : Option Locator := none
  store : Store
  metrics : Metrics
  /-- What the most recent completed load located, if there was one. -/
  lastFetch : Option (Option Environment) := none
  /-- Polling was started. -/
  polling : Bool := false
  /-- The provider was stopped. -/
  stopped : Bool := false
  /-- The questions put to the registry so far. -/
  lookups : List LocatorCall := []

namespace Provider

variable {σ : Type}

/-- A provider whose store holds its options. -/
def ofOptions (options : ClientOptions) (locator : Option Locator := none) : Provider :=
  let initial := ({} : Snapshot).setAll options.toPairs
  { options, locator
    client := .ofOptions options
    store := { snapshot := initial }
    metrics := ({} : Metrics).setKeys initial.size }

/-- The current snapshot. -/
def snapshot (p : Provider) : Snapshot :=
  p.store.snapshot

/-- The credentials of the options, if there is a user name. -/
def credentials (p : Provider) : Option Credentials :=
  p.options.username.map fun username => { username, password := p.options.password }

/-- What the walks of the provider have in common. -/
def walker (p : Provider) : Walker where
  client := p.client
  name := p.options.name
  profile := p.options.env
  credentials := p.credentials

/-- What a developer is shown of the provider. -/
def summary (p : Provider) : String :=
  "ConfigServerProvider \x7b name: " ++ Text.quoted p.options.name ++
    ", env: " ++ Text.quoted p.options.env ++ ", uri: " ++ Text.quoted p.options.uri ++
    ", keys: " ++ Decimal.text p.snapshot.size ++ " \x7d"

/-- Sets the options in the store again. -/
def addClientOptions (p : Provider) : Provider :=
  let (diff, store) := p.store.update fun current =>
    ((({} : Snapshot).setAll current.pairs).setAll p.options.toPairs).withLoaded current.loaded
  let p := { p with store }
  if diff.isEmpty then p else { p with metrics := p.metrics.setKeys store.snapshot.size }

/-! ## Loads -/

/-- What a load gives: an environment or nothing. -/
abbrev LoadResult := Except LoadError (Option Environment)

def recordLoad (p : Provider) (label : String) : Provider :=
  { p with metrics := p.metrics.recordLoad label }

def fetched (p : Provider) (e : Option Environment) : Provider :=
  { p with lastFetch := some e }

/-- The snapshot for an environment: the options win over it. -/
def snapshotFor (o : ClientOptions) (e : Environment) : Snapshot :=
  (({} : Snapshot).merge e).setAll o.toPairs

/-- Publishes an environment. -/
def publish (p : Provider) (e : Environment) : Provider :=
  let next := snapshotFor p.options e
  let (diff, store) := p.store.replace next
  let p := { p with store }
  if diff.isEmpty then p else { p with metrics := p.metrics.recordReload next.size }

/-- What the end of the attempts does to the provider. -/
def conclude (p : Provider) (update : Bool) :
    Except LoadError WalkOutcome → LoadResult × Provider
  | .ok (.found e) =>
    let p := p.fetched (some e)
    let p := if update then p.publish e else p
    (.ok (some e), p.recordLoad "ok")
  | .ok .noContent =>
    let p := p.fetched none
    if p.options.failFast then
      (.error (.notLocated p.options.name p.options.env), p.recordLoad "failed")
    else (.ok none, p.recordLoad "empty")
  | .ok (.exhausted _) => (.ok none, (p.fetched none).recordLoad "failed")
  | .error e => (.error e, p.recordLoad (if e.isCancelled then "cancelled" else "failed"))

/-- The session of a load. -/
def session (p : Provider) (cancellation : Cancellation) (servers : σ) : Session σ :=
  { servers, cancellation, metrics := p.metrics }

/-- A load of the provider that nothing keeps waiting. -/
def loadNow (net : Servers σ) (update : Bool) (cancellation : Cancellation) (p : Provider)
    (servers : σ) : LoadResult × Provider × σ :=
  let (bases, calls) := Discovery.baseUris p.locator p.options.discovery.enabled
    p.options.discovery.serviceId p.options.uris
  let attempts := Attempts.ofWalk p.walker net bases p.options.labels
  let (located, s) :=
    attempts.run p.options.retry p.options.failFast (p.session cancellation servers)
  let p := { p with metrics := s.metrics, lookups := p.lookups ++ calls }
  let (result, p) := p.conclude update located
  (result, p, s.servers)

/-- Loads the environment.  With `update` the store is replaced by it.  A
disabled client loads nothing, and a load that was cancelled before it starts
does nothing. -/
def load (net : Servers σ) (update : Bool) (cancellation : Cancellation) (p : Provider)
    (servers : σ) : LoadResult × Provider × σ :=
  if !p.options.enabled then (.ok none, p, servers)
  else if cancellation = .atStart then (.error .cancelled, p, servers)
  else p.loadNow net update cancellation servers

/-! ## Polling -/

/-- How polling stands. -/
def pollerState (p : Provider) : PollerState :=
  if p.stopped then .stopped else if p.polling then .running else .notStarted

/-- Starts polling, where it can run at all and the options ask for it; it
starts only once. -/
def startPolling (p : Provider) (hasRuntime : Bool) : Bool × Provider :=
  if p.options.pollingPause?.isSome && p.options.enabled && !p.stopped && !p.polling && hasRuntime
  then (true, { p with polling := true })
  else (false, p)

/-- Loads, and starts polling unless the load was an error. -/
def attach (net : Servers σ) (p : Provider) (servers : σ) :
    Except LoadError Unit × Provider × σ :=
  match p.load net true (if p.stopped then .atStart else .never) servers with
  | (.error e, p, servers) => (.error e, p, servers)
  | (.ok _, p, servers) => (.ok (), (p.startPolling true).2, servers)

/-- One poll: a load whose result is dropped.  Nothing without polling. -/
def poll (net : Servers σ) (p : Provider) (servers : σ) : Option (Provider × σ) :=
  if p.pollerState = .running then some (p.loadNow net true .never servers).2 else none

/-- Stops polling for good. -/
def stop (p : Provider) : Provider :=
  { p with stopped := true }

end Provider

end RemoteConfig
