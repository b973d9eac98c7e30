import RemoteConfig.Options
import RemoteConfig.Walk

/-!
# Retries

Attempts at a load are repeated while they end exhausted and the options allow
another one, with a pause before each repetition that grows from one to the
next.  `Backoff` is the count of attempts and the length of the next pause;
`run` is the loop over attempts, for any `Attempts`.
-/

namespace RemoteConfig

/-! ## Pauses -/

/-- The attempts begun so far and the pause that comes next. -/
structure Backoff where
  attempt : UInt32
  interval : Duration
  maxInterval : Duration
  multiplier : Double
  maxAttempts : UInt32
  deriving Repr, DecidableEq

namespace Backoff

/-- The start of a load.  Without retries there is one attempt. -/
def start (o : RetryOptions) : Backoff where
  attempt := 0
  interval := .ofMillis o.initialInterval.toNat
  maxInterval := .ofMillis o.maxInterval.toNat
  multiplier := o.multiplier
  maxAttempts := if o.enabled then (if o.maxAttempts = 0 then 1 else o.maxAttempts) else 1

/-- Begins an attempt. -/
def begin (b : Backoff) : Backoff :=
  { b with attempt := b.attempt + 1 }

/-- Another attempt is allowed. -/
def canRetry (b : Backoff) : Bool :=
  b.attempt < b.maxAttempts

/-- The pause before the next attempt. -/
def delay (b : Backoff) : Duration :=
  b.interval.min b.maxInterval

/-- The factor between pauses: at least one, and one if it is no number. -/
def factor (b : Backoff) : Double :=
  if b.multiplier.isFinite then b.multiplier.max (.ofNat 1) else .ofNat 1

/-- The next interval in seconds, at most the longest one. -/
def grownSeconds (b : Backoff) : Double :=
  ((b.interval.toSeconds.mul b.factor).min b.maxInterval.toSeconds).max .zero

/-- The interval after a pause. -/
def grownInterval (b : Backoff) : Duration :=
  (Duration.ofSeconds? b.grownSeconds).getD .zero

def withInterval (b : Backoff) (interval : Duration) : Backoff :=
  { b with interval }

/-- The state after a pause. -/
def grow (b : Backoff) : Backoff :=
  b.withInterval b.grownInterval

theorem attempt_begin (b : Backoff) : b.begin.attempt = b.attempt + 1 := rfl

theorem maxAttempts_begin (b : Backoff) : b.begin.maxAttempts = b.maxAttempts := rfl

theorem attempt_withInterval (b : Backoff) (d : Duration) :
    (b.withInterval d).attempt = b.attempt := rfl

theorem maxAttempts_withInterval (b : Backoff) (d : Duration) :
    (b.withInterval d).maxAttempts = b.maxAttempts := rfl

theorem attempt_grow (b : Backoff) : b.grow.attempt = b.attempt :=
  attempt_withInterval b _

theorem maxAttempts_grow (b : Backoff) : b.grow.maxAttempts = b.maxAttempts :=
  maxAttempts_withInterval b _

theorem canRetry_iff (b : Backoff) : b.canRetry ↔ b.attempt.toNat < b.maxAttempts.toNat := by
  simp [canRetry, UInt32.lt_iff_toNat_lt]

theorem canRetry_grow {b : Backoff} (left : b.canRetry) : b.grow.canRetry := by
  rw [canRetry_iff, attempt_grow, maxAttempts_grow, ← canRetry_iff]
  exact left

/-- An attempt that was left is one less afterwards. -/
theorem attemptsLeft_begin {b : Backoff} (left : b.canRetry) :
    b.begin.maxAttempts.toNat - b.begin.attempt.toNat <
      b.maxAttempts.toNat - b.attempt.toNat := by
  have small := (canRetry_iff b).1 left
  have bound := b.maxAttempts.toNat_lt
  rw [attempt_begin, maxAttempts_begin, UInt32.toNat_add]
  simp only [UInt32.reduceToNat]
  omega

/-- There is always a first attempt. -/
theorem start_canRetry (o : RetryOptions) : (start o).canRetry := by
  rw [canRetry_iff]
  show (0 : UInt32).toNat < (if o.enabled then (if o.maxAttempts = 0 then 1 else o.maxAttempts)
    else 1 : UInt32).toNat
  split
  · split
    · decide
    · rename_i h
      have : o.maxAttempts.toNat ≠ 0 := fun h0 => h (UInt32.toNat_inj.1 h0)
      simp only [UInt32.reduceToNat]
      omega
  · decide

end Backoff

/-! ## The loop -/

/-- Attempts, and pauses between them, on a state `σ`. -/
structure Attempts (σ : Type) where
  /-- The whole load has been cancelled. -/
  isCancelled : σ → Bool
  /-- The attempt of a number. -/
  attempt : UInt32 → σ → Except LoadError WalkOutcome × σ
  /-- Takes note of an exhausted attempt. -/
  exhausted : σ → σ
  /-- Pauses; false if the load is cancelled meanwhile. -/
  pause : Duration → σ → Bool × σ

namespace Attempts

variable {σ : Type}

/-- The end of a load whose last attempt was exhausted. -/
def giveUp (failFast : Bool) (failures : List CandidateFailure) : Except LoadError WalkOutcome :=
  if failFast then .error (.exhausted failures) else .ok (.exhausted failures)

/-- Runs attempts until one of them is not exhausted or none is left. -/
def runFrom (a : Attempts σ) (failFast : Bool) (b : Backoff) (_left : b.canRetry) (s : σ) :
    Except LoadError WalkOutcome × σ :=
  if a.isCancelled s then (.error .cancelled, s)
  else
    match a.attempt b.begin.attempt s with
    | (.ok (.exhausted failures), s) =>
      let s := a.exhausted s
      if more : b.begin.canRetry then
        match a.pause b.begin.delay s with
        | (false, s) => (.error .cancelled, s)
        | (true, s) => runFrom a failFast b.begin.grow (Backoff.canRetry_grow more) s
      else (giveUp failFast failures, s)
    | located => located
termination_by b.maxAttempts.toNat - b.attempt.toNat
decreasing_by
  rw [Backoff.attempt_grow, Backoff.maxAttempts_grow]
  exact Backoff.attemptsLeft_begin _left

/-- Runs the attempts that the options allow. -/
def run (a : Attempts σ) (o : RetryOptions) (failFast : Bool) (s : σ) :
    Except LoadError WalkOutcome × σ :=
  a.runFrom failFast (.start o) (Backoff.start_canRetry o) s

/-- The attempts of a session: one walk each. -/
def ofWalk (w : Walker) (net : Servers σ) (bases labels : List String) :
    Attempts (Session σ) where
  isCancelled := Session.isCancelled
  attempt _ s := w.walk net bases labels s.beginAttempt
  exhausted := Session.recordWalkExhausted
  pause _ := Session.pause

end Attempts

end RemoteConfig
