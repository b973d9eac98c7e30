import RemoteConfig.Proofs.Number.Sign
import RemoteConfig.Proofs.Options.Validation
import RemoteConfig.Retry

/-!
# Retries as they were asked for

A backoff is safe for any options, because it corrects some: it makes at least
one attempt, no pause gets shorter, and no interval is negative.  Options that
can be followed exactly are not corrected.

* `Backoff.Arises` are the states of a load, and `HoldsOptions` what they keep of
  the options.
* `followsOptions_of_arises` says what the corrections then come to.
-/

namespace RemoteConfig

/-! ## Lengths in seconds -/

theorem Duration.isPositive_nanosPerSecond : (Double.ofNat nanosPerSecond).IsPositive := by
  have hunits : Double.ofNat nanosPerSecond = .finite false (nanosPerSecond * Double.one) := by
    decide +kernel
  rw [hunits]
  exact .intro _ (Nat.mul_pos (by decide) Decimal.one_pos)

theorem Duration.isUnsigned_toSeconds (d : Duration) : d.toSeconds.IsUnsigned := by
  have hwhole := Double.isUnsigned_ofNat (d.nanos / nanosPerSecond)
  have hfraction := Double.isUnsigned_ofNat (d.nanos % nanosPerSecond)
  unfold toSeconds
  exact hwhole.add (hfraction.div isPositive_nanosPerSecond)

namespace Backoff

variable {o : RetryOptions} {b : Backoff}

/-! ## States of a load -/

/-- The states that a load goes through. -/
inductive Arises (o : RetryOptions) : Backoff → Prop where
  | start : Arises o (.start o)
  | begin {b : Backoff} (h : Arises o b) : Arises o b.begin
  | grow {b : Backoff} (h : Arises o b) : Arises o b.grow

/-- What a state keeps of the options. -/
structure HoldsOptions (o : RetryOptions) (b : Backoff) : Prop where
  maxAttempts : b.maxAttempts = (start o).maxAttempts
  multiplier : b.multiplier = o.multiplier
  maxInterval : b.maxInterval = .ofMillis o.maxInterval.toNat

theorem Arises.holdsOptions (h : Arises o b) : HoldsOptions o b := by
  induction h with
  | start => exact ⟨rfl, rfl, rfl⟩
  | begin _ ih => exact ⟨ih.maxAttempts, ih.multiplier, ih.maxInterval⟩
  | @grow b _ ih =>
    -- Growing sets the interval, whose value is left alone here.
    obtain ⟨interval, hgrow⟩ : ∃ interval, b.grow = b.withInterval interval := ⟨_, rfl⟩
    rw [hgrow]
    exact ⟨ih.maxAttempts, ih.multiplier, ih.maxInterval⟩

/-! ## Options that are followed -/

/-- A state does what the options say, to the letter: how many attempts there may
be, and how the pause grows. -/
structure FollowsOptions (o : RetryOptions) (b : Backoff) : Prop where
  maxAttempts : b.maxAttempts = o.maxAttempts
  factor : b.factor = o.multiplier
  grownSeconds : b.grownSeconds =
    (b.interval.toSeconds.mul o.multiplier).min (Duration.ofMillis o.maxInterval.toNat).toSeconds

theorem factor_of_isExact (h : HoldsOptions o b) (hexact : o.IsExact) :
    b.factor = o.multiplier := by
  have hnumber : o.multiplier ≠ .nan := by
    intro hnan
    have hfinite := hexact.finite
    rw [hnan] at hfinite
    cases hfinite
  unfold factor
  rw [h.multiplier, if_pos hexact.finite]
  exact Double.max_eq_left hnumber (Double.isUnsigned_ofNat 1).ne_nan hexact.growing

theorem followsOptions_of_arises (h : Arises o b) (henabled : o.enabled = true)
    (hexact : o.IsExact) : FollowsOptions o b := by
  have hholds := h.holdsOptions
  have hfactor := factor_of_isExact hholds hexact
  have hpositive := Double.isPositive_of_not_lt hexact.finite hexact.growing
  refine ⟨?_, hfactor, ?_⟩
  · rw [hholds.maxAttempts, start, if_pos henabled, if_neg hexact.attempts]
  · have hproduct := b.interval.isUnsigned_toSeconds.mul hpositive
    have hlongest := (Duration.ofMillis o.maxInterval.toNat).isUnsigned_toSeconds
    unfold grownSeconds
    rw [hfactor, hholds.maxInterval]
    exact (hproduct.min hlongest).max_zero

/-! ## The first pause -/

theorem delay_start_eq (o : RetryOptions) :
    (start o).delay = .ofMillis (min o.initialInterval.toNat o.maxInterval.toNat) := by
  show Duration.min (.ofMillis o.initialInterval.toNat) (.ofMillis o.maxInterval.toNat) = _
  unfold Duration.min Duration.ofMillis
  simp only
  split
  · rw [Nat.min_eq_right (by omega)]
  · rw [Nat.min_eq_left (by omega)]

/-- The first pause is the initial interval, which no other interval cuts. -/
theorem delay_start (hexact : o.IsExact) :
    (start o).begin.delay = .ofMillis o.initialInterval.toNat := by
  have hle : o.initialInterval.toNat ≤ o.maxInterval.toNat :=
    UInt64.le_iff_toNat_le.1 hexact.interval
  have hfirst := delay_start_eq o
  rw [Nat.min_eq_left hle] at hfirst
  exact hfirst

end Backoff

end RemoteConfig
