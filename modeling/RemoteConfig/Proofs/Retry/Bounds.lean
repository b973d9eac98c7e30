import Mathlib.Algebra.Order.BigOperators.Group.List
import RemoteConfig.Proofs.Duration
import RemoteConfig.Proofs.Provider.Timeline
import RemoteConfig.Proofs.Retry.Backoff
import RemoteConfig.Proofs.Retry.Course

/-!
# Bounds of pauses

Whatever the options are, the next interval is a length, no pause is longer than
the longest one, and a load pauses once less often than it may attempt.

* `Backoff.grownSeconds_eq` computes the next interval in seconds, and
  `Backoff.Arises.isInRange` is the invariant that it needs.
* `Attempts.paced` are attempts that note their pauses.  `pauses_runFrom` says which
  pauses those are, by induction on the attempts that are left.
* `pauses_bounded` is the result.
-/

namespace RemoteConfig

open Double (one roundUnits)

namespace Backoff

variable {o : RetryOptions} {b : Backoff}

/-! ## The next interval -/

theorem interval_withInterval (b : Backoff) (d : Duration) : (b.withInterval d).interval = d := rfl

theorem interval_grow (b : Backoff) : b.grow.interval = b.grownInterval :=
  interval_withInterval b _

theorem maxInterval_withInterval (b : Backoff) (d : Duration) :
    (b.withInterval d).maxInterval = b.maxInterval := rfl

theorem maxInterval_grow (b : Backoff) : b.grow.maxInterval = b.maxInterval :=
  maxInterval_withInterval b _

/-- The factor is a number from one on, whatever was asked for. -/
theorem exists_factor (b : Backoff) : ∃ f, b.factor = .finite false f ∧ one ≤ f := by
  unfold factor
  split
  · exact Double.exists_max_one ‹_›
  · exact ⟨one, Double.ofNat_one, Nat.le_refl _⟩

/-- The next interval in seconds is a finite number.  A product out of range does not
stand out: it is cut to the longest interval as any other. -/
theorem grownSeconds_eq {f : Nat} (hfactor : b.factor = .finite false f)
    (hinterval : b.interval.IsInRange) (hmax : b.maxInterval.IsInRange) :
    b.grownSeconds =
      .finite false (min (roundUnits (b.interval.units * f) one) b.maxInterval.units) := by
  have hlongest : b.maxInterval.units < Double.overflow :=
    Double.lt_overflow (by decide) (Duration.units_le hmax)
  unfold grownSeconds
  rw [hfactor, Duration.toSeconds_eq hinterval, Duration.toSeconds_eq hmax, Double.mul,
    bne_self_eq_false, Double.min_ofUnits hlongest]
  exact (Double.IsUnsigned.finite _).max_zero

theorem grownInterval_eq {f : Nat} (hfactor : b.factor = .finite false f)
    (hinterval : b.interval.IsInRange) (hmax : b.maxInterval.IsInRange) :
    b.grownInterval =
      .nearest (min (roundUnits (b.interval.units * f) one) b.maxInterval.units) := by
  have hle : min (roundUnits (b.interval.units * f) one) b.maxInterval.units ≤ 2 ^ 55 * one :=
    Nat.le_trans (Nat.min_le_right _ _) (Duration.units_le hmax)
  rw [grownInterval, grownSeconds_eq hfactor hinterval hmax,
    Duration.ofSeconds?_eq (Duration.lt_size hle), Option.getD_some]

/-- Intervals stay in range: they start as milliseconds of 64 bits, and what they grow
to is at most the longest one. -/
theorem Arises.isInRange (h : Arises o b) : b.interval.IsInRange ∧ b.maxInterval.IsInRange := by
  have hmax {b : Backoff} (h : Arises o b) : b.maxInterval.IsInRange := by
    rw [h.holdsOptions.maxInterval]
    exact Duration.isInRange_ofMillis _
  refine ⟨?_, hmax h⟩
  induction h with
  | start => exact Duration.isInRange_ofMillis _
  | begin _ ih => exact ih
  | @grow b h ih =>
    obtain ⟨f, hfactor, -⟩ := b.exists_factor
    rw [interval_grow, grownInterval_eq hfactor ih (hmax h)]
    exact Duration.isInRange_nearest
      (Nat.le_trans (Nat.min_le_right _ _) (Duration.units_le (hmax h)))

/-- Growing never meets a number that is no length. -/
theorem Arises.exists_grownSeconds (h : Arises o b) :
    ∃ units, b.grownSeconds = .finite false units ∧ units < UInt64.size * one ∧
      Duration.ofSeconds? b.grownSeconds = some b.grownInterval := by
  obtain ⟨hinterval, hmax⟩ := h.isInRange
  obtain ⟨f, hfactor, -⟩ := b.exists_factor
  have hsize : min (roundUnits (b.interval.units * f) one) b.maxInterval.units <
      UInt64.size * one :=
    Duration.lt_size (Nat.le_trans (Nat.min_le_right _ _) (Duration.units_le hmax))
  refine ⟨_, grownSeconds_eq hfactor hinterval hmax, hsize, ?_⟩
  rw [grownSeconds_eq hfactor hinterval hmax, Duration.ofSeconds?_eq hsize,
    grownInterval_eq hfactor hinterval hmax]

/-! ## Single pauses -/

theorem nanos_delay (b : Backoff) : b.delay.nanos = min b.interval.nanos b.maxInterval.nanos := by
  unfold delay Duration.min
  split <;> omega

theorem Arises.delay_le (h : Arises o b) :
    b.delay.nanos ≤ (Duration.ofMillis o.maxInterval.toNat).nanos := by
  rw [nanos_delay, h.holdsOptions.maxInterval]
  exact Nat.min_le_right _ _

theorem arises_iterate (o : RetryOptions) (n : Nat) : Arises o (grow^[n] (start o)) := by
  induction n with
  | zero => exact .start
  | succ n ih =>
    rw [Function.iterate_succ_apply']
    exact .grow ih

end Backoff

/-! ## All pauses of a load -/

namespace Attempts

variable {σ : Type} (a : Attempts σ)

/-- Attempts that note how long they pause. -/
def paced : Attempts (σ × List Duration) where
  isCancelled s := a.isCancelled s.1
  attempt number s :=
    let (result, inner) := a.attempt number s.1
    (result, inner, s.2)
  exhausted s := (a.exhausted s.1, s.2)
  pause length s :=
    let (goesOn, inner) := a.pause length s.1
    (goesOn, inner, s.2 ++ [length])

/-- The pauses of a load. -/
def pauses (o : RetryOptions) (failFast : Bool) (s : σ) : List Duration :=
  (a.paced.run o failFast (s, [])).2.2

theorem paced_lifts : Lifts Prod.fst a.paced a where
  isCancelled _ := rfl
  attempt _ _ := rfl
  exhausted _ := rfl
  pause _ _ := rfl

/-- The notes change nothing else. -/
theorem run_paced (o : RetryOptions) (failFast : Bool) (s : σ) :
    a.run o failFast s = Prod.map id Prod.fst (a.paced.run o failFast (s, [])) :=
  a.paced_lifts.runFrom failFast (Backoff.start_canRetry o) (s, [])

variable {a}

theorem attempt_paced {number : UInt32} {s s' : σ} {result : Except LoadError WalkOutcome}
    (h : a.attempt number s = (result, s')) (log : List Duration) :
    a.paced.attempt number (s, log) = (result, s', log) := by
  simp only [paced, h]

theorem pause_paced {length : Duration} {s s' : σ} {goesOn : Bool}
    (h : a.pause length s = (goesOn, s')) (log : List Duration) :
    a.paced.pause length (s, log) = (goesOn, s', log ++ [length]) := by
  simp only [paced, h]

theorem exhausted_paced (s : σ) (log : List Duration) :
    a.paced.exhausted (s, log) = (a.exhausted s, log) := rfl

variable (a)

/-- A load pauses as the options say, once less often than it attempts.  The induction
is on the attempts that are left. -/
theorem pauses_runFrom (failFast : Bool) {b : Backoff} (left : b.canRetry) (s : σ)
    (log : List Duration) :
    ∃ n, b.attempt.toNat + n + 1 ≤ b.maxAttempts.toNat ∧
      (a.paced.runFrom failFast b left (s, log)).2.2 = log ++ (List.range n).map b.delayAt := by
  induction b, left using Backoff.induction_left generalizing s log with
  | step b left ih =>
    have hleft := (Backoff.canRetry_iff b).1 left
    -- The load ends without another pause.
    have hends : ∃ n, b.attempt.toNat + n + 1 ≤ b.maxAttempts.toNat ∧
        log = log ++ (List.range n).map b.delayAt := ⟨0, by omega, by simp⟩
    rw [runFrom]
    split
    · exact hends
    · rcases hattempt : a.attempt b.begin.attempt s with ⟨e | e | _ | failures, s'⟩
      · rw [attempt_paced hattempt]
        exact hends
      · rw [attempt_paced hattempt]
        exact hends
      · rw [attempt_paced hattempt]
        exact hends
      · rw [attempt_paced hattempt]
        simp only [exhausted_paced]
        split
        · rename_i more
          have hmore := (Backoff.canRetry_iff _).1 more
          rw [Backoff.toNat_attempt_begin left, Backoff.maxAttempts_begin] at hmore
          rcases hpause : a.pause b.begin.delay (a.exhausted s') with ⟨_ | _, s''⟩
          · rw [pause_paced hpause]
            exact ⟨1, by omega, rfl⟩
          · rw [pause_paced hpause]
            obtain ⟨n, hn, hlog⟩ := ih more s'' (log ++ [b.begin.delay])
            rw [Backoff.attempt_grow, Backoff.maxAttempts_grow, Backoff.toNat_attempt_begin left,
              Backoff.maxAttempts_begin] at hn
            have hrest : (List.range (n + 1)).map b.delayAt =
                b.begin.delay :: (List.range n).map b.begin.grow.delayAt := by
              rw [List.range_succ_eq_map, List.map_cons, List.map_map]
              congr 1
              exact List.map_congr_left fun i _ => (b.delayAt_begin_grow i).symm
            refine ⟨n + 1, by omega, hlog.trans ?_⟩
            rw [hrest, List.append_assoc]
            rfl
        · exact hends

/-- Which pauses a load makes. -/
theorem exists_pauses (o : RetryOptions) (failFast : Bool) (s : σ) :
    ∃ n, n + 1 ≤ o.attemptLimit ∧
      a.pauses o failFast s = (List.range n).map (Backoff.start o).delayAt := by
  obtain ⟨n, hn, hlog⟩ := a.pauses_runFrom failFast (Backoff.start_canRetry o) s []
  have hfirst : (Backoff.start o).attempt.toNat = 0 := rfl
  rw [Backoff.toNat_maxAttempts_start, hfirst, Nat.zero_add] at hn
  exact ⟨n, hn, hlog⟩

/-- All pauses of a load together. -/
theorem sum_pauses_le (o : RetryOptions) (failFast : Bool) (s : σ) :
    ((a.pauses o failFast s).map Duration.nanos).sum ≤
      (o.attemptLimit - 1) * (Duration.ofMillis o.maxInterval.toNat).nanos := by
  obtain ⟨n, hn, hpauses⟩ := a.exists_pauses o failFast s
  have heach : ∀ nanos ∈ (a.pauses o failFast s).map Duration.nanos,
      nanos ≤ (Duration.ofMillis o.maxInterval.toNat).nanos := by
    intro nanos hmem
    rw [hpauses, List.map_map] at hmem
    obtain ⟨i, -, rfl⟩ := List.mem_map.1 hmem
    exact (Backoff.arises_iterate o i).delay_le
  have hlength : ((a.pauses o failFast s).map Duration.nanos).length = n := by
    rw [hpauses, List.length_map, List.length_map, List.length_range]
  calc ((a.pauses o failFast s).map Duration.nanos).sum
    _ ≤ n * (Duration.ofMillis o.maxInterval.toNat).nanos := by
      rw [← hlength]
      exact List.sum_le_card_nsmul _ _ heach
    _ ≤ (o.attemptLimit - 1) * (Duration.ofMillis o.maxInterval.toNat).nanos :=
      Nat.mul_le_mul_right _ (by omega)

end Attempts

/-- Whatever is asked for, and after any number of steps, the next interval is a
length: what is read as seconds is finite, not negative and in range.  The first pause
is the shorter one of both intervals, and no pause is longer than the longest interval.
A load pauses less often than it may attempt, so its pauses together are at most as many
of the longest as there are attempts but one. -/
theorem pauses_bounded (o : RetryOptions) :
    (∀ b, Backoff.Arises o b →
      ∃ units, b.grownSeconds = .finite false units ∧ units < UInt64.size * one ∧
        Duration.ofSeconds? b.grownSeconds = some b.grownInterval) ∧
    (Backoff.start o).delay = .ofMillis (min o.initialInterval.toNat o.maxInterval.toNat) ∧
    (∀ b, Backoff.Arises o b → b.delay.nanos ≤ (Duration.ofMillis o.maxInterval.toNat).nanos) ∧
    ∀ (σ : Type) (a : Attempts σ) (failFast : Bool) (s : σ),
      a.run o failFast s = Prod.map id Prod.fst (a.paced.run o failFast (s, [])) ∧
      (∃ n, n + 1 ≤ o.attemptLimit ∧
        a.pauses o failFast s = (List.range n).map (Backoff.start o).delayAt) ∧
      ((a.pauses o failFast s).map Duration.nanos).sum ≤
        (o.attemptLimit - 1) * (Duration.ofMillis o.maxInterval.toNat).nanos := by
  refine ⟨fun b h => h.exists_grownSeconds, Backoff.delay_start_eq o, fun b h => h.delay_le, ?_⟩
  intro σ a failFast s
  exact ⟨a.run_paced o failFast s, a.exists_pauses o failFast s, a.sum_pauses_le o failFast s⟩

end RemoteConfig
