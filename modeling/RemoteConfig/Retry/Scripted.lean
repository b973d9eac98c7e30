import RemoteConfig.Retry

/-!
# Scripted attempts

Attempts whose results are fixed in advance, on a clock that moves only in
pauses and counts whole milliseconds.  A cancellation takes effect at a set
time, or when an attempt asks for it.
-/

namespace RemoteConfig

/-- An attempt with a fixed result. -/
inductive ScriptedAttempt where
  | ends (result : Except LoadError WalkOutcome)
  /-- Cancels the load, and ends exhausted without any failure. -/
  | cancels

/-- A run of scripted attempts. -/
structure Rehearsal where
  /-- The attempts still to come; the last one repeats. -/
  script : List ScriptedAttempt
  /-- When the load is cancelled, in milliseconds. -/
  cancelAt : Option Nat := none
  cancelled : Bool := false
  /-- The time in milliseconds. -/
  clock : Nat := 0
  /-- The attempts begun so far, with their times. -/
  begun : List (UInt32 × Nat) := []
  metrics : Metrics := {}

namespace Rehearsal

/-- The next attempt, and the script after it. -/
def takeNext : List ScriptedAttempt → ScriptedAttempt × List ScriptedAttempt
  | [] => (.ends (.ok (.exhausted [])), [])
  | [a] => (a, [a])
  | a :: rest => (a, rest)

def attempt (number : UInt32) (r : Rehearsal) : Except LoadError WalkOutcome × Rehearsal :=
  let (next, script) := takeNext r.script
  let r := { r with script, begun := r.begun ++ [(number, r.clock)] }
  match next with
  | .ends result => (result, r)
  | .cancels => (.ok (.exhausted []), { r with cancelled := true })

/-- Whole milliseconds that cover a length of time. -/
def ceilMillis (d : Duration) : Nat :=
  (d.nanos + 999999) / 1000000

def pause (length : Duration) (r : Rehearsal) : Bool × Rehearsal :=
  let finish := r.clock + ceilMillis length
  if r.cancelled then (false, r)
  else
    match r.cancelAt with
    | some t =>
      if t < finish then (false, { r with cancelled := true, clock := t })
      else (true, { r with clock := finish })
    | none => (true, { r with clock := finish })

/-- The attempts of a script. -/
def attempts : Attempts Rehearsal where
  isCancelled r := r.cancelled
  attempt := attempt
  exhausted r := { r with metrics := r.metrics.recordWalkExhausted }
  pause := pause

/-- A run of a script; one that is cancelled at time zero is cancelled before
it starts. -/
def start (script : List ScriptedAttempt) (cancelAt : Option Nat) : Rehearsal where
  script := script
  cancelAt := cancelAt
  cancelled := cancelAt = some 0

/-- Runs a script to its end. -/
def run (script : List ScriptedAttempt) (cancelAt : Option Nat) (o : RetryOptions)
    (failFast : Bool) : Except LoadError WalkOutcome × Rehearsal :=
  attempts.run o failFast (start script cancelAt)

end Rehearsal

end RemoteConfig
