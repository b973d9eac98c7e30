import Mathlib.Logic.Function.Iterate
import RemoteConfig.Retry

/-!
# The course of retries

A load that nobody cancels is fixed by the results of its attempts and by the
options.  `run_ofResults` says what it does with any results, and in which
order: which attempts it makes, how long it pauses between them, how many
exhausted walks it counts and how it ends.

* `Attempts.ofResults` are attempts whose results are given in advance, and
  `Tape` is what they note.
* `course` is the written form of such a load, and `Backoff.delayAt` the pauses
  that the options ask for.
* `runFrom_ofResults` is the induction.  It starts in the middle of a load,
  where some attempts are behind.
-/

namespace RemoteConfig

/-! ## Pauses -/

namespace Backoff

/-- The pauses from a state on, counted from zero. -/
def delayAt (b : Backoff) (n : Nat) : Duration :=
  (grow^[n] b).delay

theorem delayAt_zero (b : Backoff) : b.delayAt 0 = b.delay := rfl

theorem delayAt_succ (b : Backoff) (n : Nat) : b.delayAt (n + 1) = b.grow.delayAt n := by
  unfold delayAt
  rw [Function.iterate_succ_apply]

theorem factor_begin (b : Backoff) : b.begin.factor = b.factor := by
  unfold factor begin
  rfl

/-- The steps are taken one by one: unfolding all of them at once would
compute with doubles. -/
theorem grownInterval_begin (b : Backoff) : b.begin.grownInterval = b.grownInterval := by
  unfold grownInterval grownSeconds
  rw [factor_begin]
  unfold begin
  with_reducible rfl

theorem withInterval_begin (b : Backoff) (d : Duration) :
    b.begin.withInterval d = (b.withInterval d).begin := rfl

theorem grow_begin (b : Backoff) : b.begin.grow = b.grow.begin := by
  unfold grow
  rw [grownInterval_begin, withInterval_begin]

/-- Beginning an attempt does not change the pauses. -/
theorem delayAt_begin (b : Backoff) (n : Nat) : b.begin.delayAt n = b.delayAt n := by
  induction n generalizing b with
  | zero => rfl
  | succ n ih => rw [delayAt_succ, grow_begin, ih, ← delayAt_succ]

/-- What is left of the pauses after the first one and another attempt. -/
theorem delayAt_begin_grow (b : Backoff) (n : Nat) :
    b.begin.grow.delayAt n = b.delayAt (n + 1) := by
  rw [grow_begin, delayAt_begin, ← delayAt_succ]

/-- A state in which an attempt is left counts it without overflow. -/
theorem toNat_attempt_begin {b : Backoff} (left : b.canRetry) :
    b.begin.attempt.toNat = b.attempt.toNat + 1 := by
  have hsmall := (canRetry_iff b).1 left
  have hbound := b.maxAttempts.toNat_lt
  rw [attempt_begin, UInt32.toNat_add]
  simp only [UInt32.reduceToNat]
  omega

/-- The induction on the attempts that are left. -/
theorem induction_left {motive : (b : Backoff) → b.canRetry → Prop}
    (step : ∀ b left, (∀ more : b.begin.canRetry, motive b.begin.grow (@canRetry_grow b.begin more)) →
      motive b left) (b : Backoff) (left : b.canRetry) : motive b left :=
  step b left fun more => induction_left step b.begin.grow (@canRetry_grow b.begin more)
termination_by b.maxAttempts.toNat - b.attempt.toNat
decreasing_by
  rw [attempt_grow, maxAttempts_grow]
  exact attemptsLeft_begin left

end Backoff

/-- How many attempts the options allow. -/
def RetryOptions.attemptLimit (o : RetryOptions) : Nat :=
  if o.enabled then max 1 o.maxAttempts.toNat else 1

theorem Backoff.toNat_maxAttempts_start (o : RetryOptions) :
    (Backoff.start o).maxAttempts.toNat = o.attemptLimit := by
  unfold Backoff.start RetryOptions.attemptLimit
  by_cases henabled : o.enabled
  · by_cases hzero : o.maxAttempts = 0
    · simp [henabled, hzero]
    · have : o.maxAttempts.toNat ≠ 0 := fun h => hzero (UInt32.toNat_inj.1 h)
      simp only [henabled, hzero, if_true, if_false]
      omega
  · simp [henabled]

/-! ## Attempts with given results -/

/-- What happens in a load besides the attempts' own work. -/
inductive RetryEvent where
  /-- An attempt begins, under this number. -/
  | attempt (number : Nat)
  | pause (length : Duration)
  deriving Repr, DecidableEq

/-- What attempts with given results note. -/
structure Tape where
  /-- How many attempts were made. -/
  begun : Nat := 0
  events : List RetryEvent := []
  metrics : Metrics

/-- The result of an attempt after which another one may follow. -/
def isExhausted : Except LoadError WalkOutcome → Bool
  | .ok (.exhausted _) => true
  | _ => false

theorem isExhausted_iff {result : Except LoadError WalkOutcome} :
    isExhausted result ↔ ∃ failures, result = .ok (.exhausted failures) := by
  rcases result with e | ⟨e | _ | failures⟩ <;> simp [isExhausted]

/-- The result of a load whose last attempt had this result. -/
def ending (failFast : Bool) : Except LoadError WalkOutcome → Except LoadError WalkOutcome
  | .ok (.exhausted failures) =>
    if failFast then .error (.exhausted failures) else .ok (.exhausted failures)
  | result => result

/-- Some attempts with pauses between them.  `first` attempts are behind, and
`delay i` is the pause behind attempt `i + 1`. -/
def course (delay : Nat → Duration) (first : Nat) : Nat → List RetryEvent
  | 0 => []
  | 1 => [.attempt (first + 1)]
  | n + 2 => .attempt (first + 1) :: .pause (delay first) :: course delay (first + 1) (n + 1)

/-- How many of `count` attempts are exhausted, with `first` attempts behind. -/
def countExhausted (results : Nat → Except LoadError WalkOutcome) (first count : Nat) : Nat :=
  (List.range' (first + 1) count).countP fun i => isExhausted (results i)

namespace Attempts

/-- Attempts of which the `i`-th, counted from one, has the result `results i`.
They are never cancelled. -/
def ofResults (results : Nat → Except LoadError WalkOutcome) : Attempts Tape where
  isCancelled _ := false
  attempt number t :=
    (results (t.begun + 1),
      { t with begun := t.begun + 1, events := t.events ++ [.attempt number.toNat] })
  exhausted t := { t with metrics := t.metrics.recordWalkExhausted }
  pause length t := (true, { t with events := t.events ++ [.pause length] })

/-- One turn of the loop over attempts: an attempt that is exhausted is counted,
and repeated after a pause if one is left. -/
theorem runFrom_ofResults_step (results : Nat → Except LoadError WalkOutcome) (failFast : Bool)
    {b : Backoff} (left : b.canRetry) (t : Tape) :
    ∃ t', t' = { t with begun := t.begun + 1
                        events := t.events ++ [.attempt (b.attempt.toNat + 1)] } ∧
      (ofResults results).runFrom failFast b left t =
        match results (t.begun + 1) with
        | .ok (.exhausted failures) =>
          if more : b.begin.canRetry then
            (ofResults results).runFrom failFast b.begin.grow (Backoff.canRetry_grow more)
              { t' with events := t'.events ++ [.pause b.delay]
                        metrics := t.metrics.recordWalkExhausted }
          else
            (giveUp failFast failures, { t' with metrics := t.metrics.recordWalkExhausted })
        | result => (result, t') := by
  refine ⟨_, rfl, ?_⟩
  rw [runFrom]
  simp only [ofResults, Backoff.toNat_attempt_begin left]
  cases results (t.begun + 1) with
  | error e => rfl
  | ok outcome => cases outcome <;> rfl

/-- A load in the middle of its course.  The induction is on the attempts that
are left. -/
theorem runFrom_ofResults (results : Nat → Except LoadError WalkOutcome) (failFast : Bool)
    {delay : Nat → Duration} {limit : Nat} {b : Backoff} (left : b.canRetry) (t : Tape)
    (hattempt : b.attempt.toNat = t.begun) (hlimit : b.maxAttempts.toNat = limit)
    (hdelay : ∀ n, b.delayAt n = delay (t.begun + n)) :
    ∃ n, t.begun + n + 1 ≤ limit ∧
      (∀ i, t.begun < i → i < t.begun + n + 1 → isExhausted (results i)) ∧
      (isExhausted (results (t.begun + n + 1)) → t.begun + n + 1 = limit) ∧
      (ofResults results).runFrom failFast b left t =
        (ending failFast (results (t.begun + n + 1)),
          { begun := t.begun + n + 1
            events := t.events ++ course delay t.begun (n + 1)
            metrics :=
              { t.metrics with
                walksExhausted :=
                  t.metrics.walksExhausted + countExhausted results t.begun (n + 1) } }) := by
  induction hleft : limit - t.begun generalizing b t with
  | zero =>
    have := (Backoff.canRetry_iff b).1 left
    omega
  | succ k ih =>
    have hsmall := (Backoff.canRetry_iff b).1 left
    have hnext := Backoff.toNat_attempt_begin left
    obtain ⟨t', rfl, hrun⟩ :=
      runFrom_ofResults_step results failFast left t
    rw [hrun]
    cases hresult : isExhausted (results (t.begun + 1)) with
    | false =>
      -- The attempt ends the load.
      refine ⟨0, by omega, fun i _ _ => by omega, fun h => by simp [hresult] at h, ?_⟩
      have hcount : countExhausted results t.begun 1 = 0 := by
        simp [countExhausted, hresult]
      rw [hcount]
      rcases hr : results (t.begun + 1) with e | ⟨e | _ | failures⟩
      · simp [ending, course, hattempt]
      · simp [ending, course, hattempt]
      · simp [ending, course, hattempt]
      · simp [isExhausted, hr] at hresult
    | true =>
      obtain ⟨failures, hr⟩ := isExhausted_iff.1 hresult
      simp only [hr]
      by_cases more : b.begin.canRetry
      · -- Another attempt follows.
        rw [dif_pos more]
        have hpause : b.delay = delay t.begun := by
          rw [← Backoff.delayAt_zero, hdelay, Nat.add_zero]
        have hnextDelay (n : Nat) : b.begin.grow.delayAt n = delay (t.begun + 1 + n) := by
          rw [Backoff.delayAt_begin_grow, hdelay, Nat.add_assoc, Nat.add_comm 1]
        obtain ⟨n, hmade, hbefore, hlast, heq⟩ :=
          ih (b := b.begin.grow) (Backoff.canRetry_grow more)
            { begun := t.begun + 1
              events := t.events ++ [.attempt (b.attempt.toNat + 1)] ++ [.pause b.delay]
              metrics := t.metrics.recordWalkExhausted }
            (by rw [Backoff.attempt_grow, hnext, hattempt])
            (by rw [Backoff.maxAttempts_grow, Backoff.maxAttempts_begin]; exact hlimit)
            hnextDelay (by simp only; omega)
        simp only at hmade hbefore hlast heq
        have hindex : t.begun + 1 + n + 1 = t.begun + (n + 1) + 1 := by omega
        rw [hindex] at hmade hbefore hlast heq
        refine ⟨n + 1, hmade, ?_, hlast, ?_⟩
        · intro i hlow hhigh
          by_cases hi : i = t.begun + 1
          · rw [hi]
            exact hresult
          · exact hbefore i (by omega) hhigh
        · have hcourse : course delay t.begun (n + 1 + 1) =
              .attempt (b.attempt.toNat + 1) :: .pause b.delay ::
                course delay (t.begun + 1) (n + 1) := by
            rw [course, hattempt, hpause]
          have hcount : countExhausted results t.begun (n + 1 + 1) =
              countExhausted results (t.begun + 1) (n + 1) + 1 := by
            simp [countExhausted, List.range'_succ, hresult]
          rw [heq, hcourse, hcount]
          simp [Metrics.recordWalkExhausted, Nat.add_assoc, Nat.add_comm 1]
      · -- No attempt is left.
        rw [dif_neg more]
        have hend : t.begun + 0 + 1 = limit := by
          rw [Backoff.canRetry_iff, hnext, Backoff.maxAttempts_begin] at more
          omega
        refine ⟨0, by omega, fun i _ _ => by omega, fun _ => hend, ?_⟩
        have hcount : countExhausted results t.begun 1 = 1 := by
          simp [countExhausted, hresult]
        simp [ending, giveUp, course, hcount, hr, hattempt, Metrics.recordWalkExhausted]

/-- What a load that is never cancelled does.  It makes attempts until one is
not exhausted, or until as many were made as the options allow.  The result is
that of the last attempt, and an exhausted one is an error under fail-fast.
The attempts are numbered from one, with the pauses of the options between
them, the number of an attempt never overflows, and every exhausted attempt is
counted. -/
theorem run_ofResults (o : RetryOptions) (failFast : Bool)
    (results : Nat → Except LoadError WalkOutcome) (m : Metrics) :
    ∃ made, 1 ≤ made ∧ made ≤ o.attemptLimit ∧ o.attemptLimit < UInt32.size ∧
      (∀ i, 1 ≤ i → i < made → isExhausted (results i)) ∧
      (isExhausted (results made) → made = o.attemptLimit) ∧
      (ofResults results).run o failFast { metrics := m } =
        (ending failFast (results made),
          { begun := made
            events := course (Backoff.start o).delayAt 0 made
            metrics :=
              { m with walksExhausted := m.walksExhausted + countExhausted results 0 made } }) := by
  obtain ⟨n, hmade, hbefore, hlast, heq⟩ :=
    runFrom_ofResults results failFast (Backoff.start_canRetry o)
      { metrics := m } rfl (Backoff.toNat_maxAttempts_start o)
      (fun n => by rw [Nat.zero_add])
  simp only [Nat.zero_add, List.nil_append] at hmade hbefore hlast heq
  have hbound := (Backoff.start o).maxAttempts.toNat_lt
  rw [Backoff.toNat_maxAttempts_start] at hbound
  exact ⟨n + 1, by omega, hmade, hbound, fun i hi => hbefore i (by omega), hlast, heq⟩

end Attempts

end RemoteConfig
