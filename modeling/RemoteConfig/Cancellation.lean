/-!
# Cancellation

Where a load takes note that its caller has given up.  It looks before each
attempt and before each candidate.  It also takes note while it waits: for the
lock, for the answer to a request, or for the end of a pause.

A wait that is over at the moment of the cancellation may also come to its end.
The load then goes on to its next look, or returns as if nobody had given up.
-/

namespace RemoteConfig

/-- How far a load has come. -/
structure Progress where
  /-- What has happened so far: attempts that began, candidates that were refused
  or asked, walks that ended, and pauses. -/
  steps : Nat := 0
  /-- The requests among them that got no answer. -/
  silences : Nat := 0
  pauses : Nat := 0
  deriving Repr, DecidableEq

namespace Progress

def step (g : Progress) : Progress :=
  { g with steps := g.steps + 1 }

/-- A request gets no answer; the step is counted by `step`. -/
def silence (g : Progress) : Progress :=
  { g with silences := g.silences + 1 }

def pause (g : Progress) : Progress :=
  { g with steps := g.steps + 1, pauses := g.pauses + 1 }

end Progress

/-- Where a load takes note of its cancellation. -/
inductive Cancellation where
  | never
  /-- Before the load starts. -/
  | atStart
  /-- At the first look behind so many steps. -/
  | behind (steps : Nat)
  /-- In the step behind so many others, if that is a request or a pause.  An
  answer to the request is dropped. -/
  | within (steps : Nat)
  /-- While the given request that gets no answer is waited for, counted from
  one; the request would time out otherwise. -/
  | duringSilence (request : Nat)
  /-- During the given pause between attempts, counted from one. -/
  | duringPause (pause : Nat)
  deriving Repr, DecidableEq

namespace Cancellation

variable (c : Cancellation) (g : Progress)

/-- A look shows that the load was cancelled. -/
def shows : Bool :=
  match c with
  | atStart => true
  | behind steps => steps ≤ g.steps
  | _ => false

/-- The request that is sent next is given up. -/
def endsRequest (isSilent : Bool) : Bool :=
  c = .within g.steps || (isSilent && c = .duringSilence (g.silences + 1))

/-- The pause that comes next is cut short. -/
def endsPause : Bool :=
  c = .within g.steps || c = .duringPause (g.pauses + 1)

@[simp] theorem shows_never : never.shows g = false := rfl

@[simp] theorem endsRequest_never (isSilent : Bool) : never.endsRequest g isSilent = false := by
  simp [endsRequest]

@[simp] theorem endsPause_never : never.endsPause g = false := by
  simp [endsPause]

end Cancellation

end RemoteConfig
