import RemoteConfig.Provider

/-!
# Loads that overlap

Loads run one at a time: one that finds another under way waits for it, and
may be cancelled while it waits.  A caller that blocks the only thread of its
runtime cannot wait.  In all of these the first load is under way and waits
for its first answer when the second one comes.
-/

namespace RemoteConfig

/-- Where a blocking caller runs. -/
inductive Runtime where
  | none
  | currentThread
  | multiThread
  deriving Repr, DecidableEq

namespace Provider

variable {σ : Type}

/-- A load whose caller blocks, while another load is under way if `busy`.
On the only thread of a runtime that other load could never end. -/
def loadBlocking (net : Servers σ) (runtime : Runtime) (busy : Bool) (p : Provider)
    (servers : σ) : Except LoadError Unit × Provider × σ :=
  if runtime = .currentThread && p.options.enabled && busy then
    (.error .blockingUnsupported, p, servers)
  else
    let (result, p, servers) := p.load net true .never servers
    (result.map fun _ => (), p, servers)

/-- The first of two overlapping loads is under way when the second comes:
it waits for an answer unless the client is disabled. -/
def isPending (p : Provider) : Bool :=
  p.options.enabled

/-- Two loads, the second of which waits for the first. -/
structure LoadPair where
  first : LoadResult
  second : LoadResult

/-- A second load waits for the first to end. -/
def loadBehind (net : Servers σ) (p : Provider) (servers : σ) : LoadPair × Provider × σ :=
  let (first, p, servers) := p.load net true .never servers
  let (second, p, servers) := p.load net true .never servers
  (⟨first, second⟩, p, servers)

/-- A second load is cancelled while it waits for the first.  It leaves at once, and
the first goes on; among callers with a lock this is one of their schedules, by
`exists_run_eq_cancelBehind`. -/
def cancelBehind (net : Servers σ) (p : Provider) (servers : σ) : LoadPair × Provider × σ :=
  let (second, p, servers) := p.load net true .atStart servers
  let (first, p, servers) := p.load net true .never servers
  (⟨first, second⟩, p, servers)

/-- A caller blocks the only thread while the first load is under way. -/
def blockBehind (net : Servers σ) (p : Provider) (servers : σ) :
    (LoadResult × Except LoadError Unit) × Provider × σ :=
  let (second, p, servers) := p.loadBlocking net .currentThread p.isPending servers
  let (first, p, servers) := p.load net true .never servers
  ((first, second), p, servers)

/-- Polling is stopped while a poll waits for the first load: the poll gives
up, and the load goes on. -/
def stopBehind (net : Servers σ) (p : Provider) (servers : σ) : LoadResult × Provider × σ :=
  p.stop.load net true .never servers

/-- Polling is stopped while a poll waits for an answer: stopping waits for
the end of the poll.  The first component says whether there was a poll. -/
def stopDuringPoll (net : Servers σ) (p : Provider) (servers : σ) : Bool × Provider × σ :=
  match p.poll net servers with
  | some (p, servers) => (true, p.stop, servers)
  | none => (false, p.stop, servers)

end Provider

end RemoteConfig
