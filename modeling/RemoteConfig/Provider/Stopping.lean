import RemoteConfig.Provider.Callers

/-!
# Stopping the poll loop

Polling is a loop of its own.  It waits for the next tick, and a tick is a poll:
a caller of the provider that waits for the lock, loads, and releases the lock.
Any number of callers stop the provider.  Each of them cancels the loop, and
then waits for its end if it obtains the handle of the loop, which can be taken
once.  Between any two of these steps others may take theirs.

* `PollingSystem.step` is one step of all together, and `PollingSystem.run`
  follows a schedule.
* `PollingSystem.pollDeeds` is what polls have done that others can see.
-/

namespace RemoteConfig

/-- Where the poll loop is. -/
inductive PollLoop where
  | notStarted
  /-- It waits for the next tick. -/
  | waiting
  /-- A tick is in flight, which is the poll of this caller. -/
  | ticking (caller : Nat)
  | ended
  deriving Repr, DecidableEq

/-- How far someone has come who stops a provider. -/
inductive Stopper where
  | arrived
  /-- Has cancelled the loop, and is about to take its handle. -/
  | cancelled
  /-- Has taken the handle, and waits for the end of the loop. -/
  | joining
  | returned
  deriving Repr, DecidableEq

/-- A provider with its callers, its poll loop, and those who stop it. -/
structure PollingSystem where
  system : System
  loop : PollLoop := .notStarted
  /-- The loop was started, and nobody has taken its handle. -/
  hasHandle : Bool := false
  stoppers : List Stopper := []

/-- Something that happens to a provider that polls. -/
inductive PollingAction where
  /-- Something happens to a caller.  Only the loop calls for polls, and only a
  stop cancels them. -/
  | caller (action : Action)
  | start (hasRuntime : Bool)
  /-- A tick has elapsed. -/
  | tick
  /-- The loop takes note that its tick is over. -/
  | finish
  /-- The loop takes note that it was cancelled. -/
  | quit
  /-- Someone comes to stop the provider. -/
  | stop
  /-- The one who came in this place to stop the provider goes on. -/
  | goOn (place : Nat)
  deriving Repr, DecidableEq

namespace PollingSystem

def ofProvider (p : Provider) : PollingSystem :=
  { system := { provider := p } }

/-- Callers may do this without the loop or a stop. -/
def admits (s : PollingSystem) : Action → Bool
  | .call kind => kind ≠ .poll
  | .cancel i => s.loop ≠ .ticking i
  | .cue .. => true

/-- The poll of this caller is over. -/
def isOver (s : PollingSystem) (i : Nat) : Bool :=
  s.system.callers[i]?.all (·.stage.isOver)

/-- The caller polls. -/
def isPoll (s : PollingSystem) (i : Nat) : Bool :=
  s.system.callers[i]?.any (·.kind = .poll)

/-- Cancels the loop for good.  A tick in flight takes note while it waits for
the lock, and no later. -/
def cancel (s : PollingSystem) : PollingSystem :=
  let system := { s.system with provider := s.system.provider.stop }
  match s.loop with
  | .ticking i => { s with system := system.step (.cancel i) }
  | _ => { s with system }

/-- One who stops the provider goes on. -/
def goOn (s : PollingSystem) (place : Nat) : PollingSystem :=
  match s.stoppers[place]? with
  | some .arrived => { s.cancel with stoppers := s.stoppers.set place .cancelled }
  | some .cancelled =>
    if s.hasHandle then
      { s with hasHandle := false, stoppers := s.stoppers.set place .joining }
    else { s with stoppers := s.stoppers.set place .returned }
  | some .joining =>
    if s.loop = .ended then { s with stoppers := s.stoppers.set place .returned } else s
  | some .returned | none => s

/-- One step.  What cannot happen changes nothing.  A loop that was cancelled may
still be given a tick, whose poll then returns at once. -/
def step (s : PollingSystem) : PollingAction → PollingSystem
  | .caller action => if s.admits action then { s with system := s.system.step action } else s
  | .start hasRuntime =>
    let (started, provider) := s.system.provider.startPolling hasRuntime
    if started then
      { s with system := { s.system with provider }, loop := .waiting, hasHandle := true }
    else s
  | .tick =>
    if s.loop = .waiting then
      { s with system := s.system.step (.call .poll), loop := .ticking s.system.callers.length }
    else s
  | .finish =>
    match s.loop with
    | .ticking i => if s.isOver i then { s with loop := .waiting } else s
    | _ => s
  | .quit =>
    if s.loop = .waiting ∧ s.system.provider.stopped = true then { s with loop := .ended } else s
  | .stop => { s with stoppers := s.stoppers ++ [.arrived] }
  | .goOn place => s.goOn place

/-- Follows a schedule. -/
def run (s : PollingSystem) (schedule : List PollingAction) : PollingSystem :=
  schedule.foldl step s

/-- A tick is in flight. -/
def isTicking (s : PollingSystem) : Bool :=
  match s.loop with
  | .ticking _ => true
  | _ => false

/-- What polls have done, in order. -/
def pollDeeds (s : PollingSystem) : List (Nat × Deed) :=
  s.system.history.filter fun e => s.isPoll e.1

end PollingSystem

end RemoteConfig
