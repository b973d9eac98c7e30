import RemoteConfig.Provider.Health
import RemoteConfig.Provider.Overlap
import RemoteConfig.Provider.Plan

/-!
# Concurrent callers

Any number of callers share a provider, and a lock lets their loads in one at
a time.  A caller that has acquired the lock follows the plan of its load and
then releases it.  Between any two of its moves others may move.

* `Caller.move?` is what a caller does in one move.
* `System.step` is one step of all callers together, and `System.run` follows
  a schedule.  The schedule says who calls, who moves, who is cancelled and what
  the servers answer.
-/

namespace RemoteConfig

open Provider (LoadResult)

/-! ## Callers -/

/-- How a caller comes to load. -/
inductive CallKind where
  | load (update : Bool)
  | loadBlocking (runtime : Runtime)
  /-- A health check, with the age of the most recent fetch. -/
  | health (age : Duration)
  | poll
  deriving Repr, DecidableEq

namespace CallKind

/-- The load is to replace the store. -/
def update : CallKind → Bool
  | load update => update
  | loadBlocking _ | poll => true
  | health _ => false

/-- The call needs a load. -/
def needsLoad (p : Provider) : CallKind → Bool
  | load _ | loadBlocking _ => p.options.enabled
  | health age => p.options.health.enabled && p.options.enabled && (p.reusableFetch age).isNone
  | poll => p.pollerState = .running

/-- What a load returns that is not needed.  Health checks and polls then do
not load. -/
def unneeded? : CallKind → Option LoadResult
  | load _ | loadBlocking _ => some (.ok none)
  | health _ | poll => none

/-- The caller can be cancelled while it waits for the lock. -/
def canLeave : CallKind → Bool
  | load _ | health _ | poll => true
  | loadBlocking _ => false

/-- What a load returns that was cancelled before it started.  A poll is then
left out. -/
def left? : CallKind → Option LoadResult
  | poll => none
  | load _ | loadBlocking _ | health _ => some (.error .cancelled)

/-- The caller can be cancelled when its load has started.  A poll runs to its
end. -/
def canStop : CallKind → Bool
  | load _ | health _ => true
  | loadBlocking _ | poll => false

end CallKind

/-- How far a caller has come. -/
inductive Stage where
  | arrived
  /-- Waits for the lock. -/
  | waiting
  /-- Has returned without having had the lock, with the result of a load if
  there was to be one. -/
  | dismissed (result : Option LoadResult)
  /-- Has this plan left. -/
  | running (plan : LoadPlan)
  /-- Waits for the answer to a request. -/
  | asking (request : Request) (next : FetchOutcome → LoadPlan)
  /-- Waits for the end of a pause. -/
  | pausing (next : LoadPlan)
  /-- The load is over, and the lock is still held. -/
  | concluded (result : LoadResult)
  | returned (result : LoadResult)

/-- The caller has returned, with a load or without. -/
def Stage.isOver : Stage → Bool
  | dismissed _ | returned _ => true
  | _ => false

/-- A caller. -/
structure Caller where
  kind : CallKind
  stage : Stage := .arrived
  isCancelled : Bool := false

/-! ## Moves -/

/-- Something that is noted of a load. -/
inductive Work where
  | sends (request : Request)
  | takes (step : LoadStep)
  deriving Repr, DecidableEq

/-- What a caller does that others can see. -/
inductive Deed where
  | acquires
  | works (work : Work)
  | publishes (snapshot : Snapshot)
  | releases
  deriving Repr, DecidableEq

namespace Deed

def request? : Deed → Option Request
  | works (.sends request) => some request
  | _ => none

def snapshot? : Deed → Option Snapshot
  | publishes snapshot => some snapshot
  | _ => none

end Deed

/-- A move of a caller: where it leads the caller, and what becomes of the
provider. -/
structure Move where
  stage : Stage
  provider : Provider
  deed : Option Deed := none

/-- A move that takes a step of a load, which is counted at once. -/
def Move.taking (p : Provider) (step : LoadStep) (stage : Stage) : Move where
  stage
  provider := { p with metrics := p.metrics.noteStep p.client step }
  deed := some (.works (.takes step))

/-- The provider when base addresses have been resolved for a load. -/
def Provider.resolved (p : Provider) : Provider :=
  { p with
    lookups := p.lookups ++ (Discovery.baseUris p.locator p.options.discovery.enabled
      p.options.discovery.serviceId p.options.uris).2 }

/-- The snapshot that has been published between two states of a provider. -/
def Provider.published? (before behind : Provider) : Option Snapshot :=
  if behind.store.publications = before.store.publications then none else some behind.snapshot

namespace LoadPlan

/-- All that is left to a load that was cancelled. -/
def cancelled : LoadPlan :=
  .ends (.error .cancelled)

/-- The next move of a load.  At the end the results are published. -/
def move (p : Provider) (update : Bool) : LoadPlan → Move
  | ends located =>
    let concluded := p.conclude update located
    ⟨.concluded concluded.1, concluded.2, (p.published? concluded.2).map .publishes⟩
  | attempt number next => .taking p (.attempt number) (.running next)
  | refuse f next => .taking p (.refused f) (.running next)
  | ask request next => ⟨.asking request next, p, some (.works (.sends request))⟩
  | walked outcome next => .taking p (.walked outcome) (.running next)
  | pause length next => .taking p (.paused length) (.pausing next)

end LoadPlan

/-- What makes a caller move. -/
inductive Cue where
  /-- The caller goes on.  A pause is over. -/
  | proceed
  /-- What became of its request. -/
  | answer (reply : Reply)
  /-- The caller takes note in a wait that it was cancelled. -/
  | giveUp
  deriving Repr, DecidableEq

/-- The move of a caller, if it can make one.  A cancelled caller gives up when
it waits for the lock, also if the lock is free.  In the other waits it may also
come to the end of the wait first.  A look and what it lets pass are one move. -/
def Caller.move? (p : Provider) (isFree : Bool) (c : Caller) (cue : Cue) : Option Move :=
  match c.stage, cue with
  | .arrived, .proceed =>
    some ⟨if c.kind.needsLoad p then .waiting else .dismissed c.kind.unneeded?, p, none⟩
  | .waiting, .proceed =>
    if c.isCancelled && c.kind.canLeave then some ⟨.dismissed c.kind.left?, p, none⟩
    else if isFree then some ⟨.running p.plan, p.resolved, some .acquires⟩
    else if c.kind = .loadBlocking .currentThread then
      some ⟨.dismissed (some (.error .blockingUnsupported)), p, none⟩
    else none
  | .running plan, .proceed =>
    if c.isCancelled && c.kind.canStop && plan.isCheckpoint then
      some ⟨.running .cancelled, p, none⟩
    else some (plan.move p c.kind.update)
  | .asking request next, .answer reply =>
    some (.taking p (.asked request reply) (.running (next (p.client.outcome request reply))))
  | .asking request _, .giveUp =>
    if c.isCancelled && c.kind.canStop then
      some (.taking p (.interrupted request .silence) (.running .cancelled))
    else none
  | .pausing next, .proceed => some ⟨.running next, p, none⟩
  | .pausing _, .giveUp =>
    if c.isCancelled && c.kind.canStop then some ⟨.running .cancelled, p, none⟩ else none
  | .concluded result, .proceed => some ⟨.returned result, p, some .releases⟩
  | _, _ => none

/-! ## All callers -/

/-- Callers that share a provider. -/
structure System where
  provider : Provider
  callers : List Caller := []
  /-- The caller that holds the lock. -/
  holder : Option Nat := none
  /-- What callers have done, in order. -/
  history : List (Nat × Deed) := []

/-- Something that happens to callers.  Cancelling a poll is stopping the
poller. -/
inductive Action where
  | call (kind : CallKind)
  | cancel (caller : Nat)
  | cue (caller : Nat) (cue : Cue)
  deriving Repr, DecidableEq

/-- Who holds the lock behind a move of a caller. -/
def Move.holder (m : Move) (caller : Nat) (before : Option Nat) : Option Nat :=
  match m.deed with
  | some .acquires => some caller
  | some .releases => none
  | _ => before

namespace System

/-- Makes a move of a caller. -/
def perform (s : System) (i : Nat) (c : Caller) (m : Move) : System where
  provider := m.provider
  callers := s.callers.set i { c with stage := m.stage }
  holder := m.holder i s.holder
  history := s.history ++ m.deed.toList.map (i, ·)

/-- One step.  What cannot happen changes nothing. -/
def step (s : System) : Action → System
  | .call kind => { s with callers := s.callers ++ [{ kind }] }
  | .cancel i =>
    { s with callers := s.callers.modify i fun c => { c with isCancelled := true } }
  | .cue i cue =>
    match s.callers[i]? with
    | some c => (c.move? s.provider s.holder.isNone cue).elim s (s.perform i c)
    | none => s

/-- Follows a schedule. -/
def run (s : System) (schedule : List Action) : System :=
  schedule.foldl step s

/-! ## What the history tells -/

variable (s : System)

/-- A caller is between acquiring the lock and releasing it. -/
def IsInside (i : Nat) : Prop :=
  (i, .acquires) ∈ s.history ∧ (i, .releases) ∉ s.history

/-- The requests that were sent, with their senders. -/
def requests : List (Nat × Request) :=
  s.history.filterMap fun e => e.2.request?.map (e.1, ·)

/-- Who acquired the lock, in order. -/
def acquirers : List Nat :=
  s.history.filterMap fun e => if e.2 = .acquires then some e.1 else none

/-- The snapshots that were published, with their publishers. -/
def publications : List (Nat × Snapshot) :=
  s.history.filterMap fun e => e.2.snapshot?.map (e.1, ·)

end System

end RemoteConfig
