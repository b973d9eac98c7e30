import RemoteConfig.Proofs.Number.Numeral
import RemoteConfig.Proofs.Retry.Bounds

/-!
# Growth of pauses

An interval is written in seconds, multiplied and read back before each pause but
the first one.  What has been read from seconds once is not changed by being
written and read again, so from the second pause on no pause is shorter than the
one before.  The initial interval has not been read from seconds, and if it is longer
than 2 ^ 23 seconds, the second pause may be a nanosecond shorter than the first.

* `Duration.le_nearest_mul` says that a factor above one makes up for what is lost.
* `Backoff.IsGrown` are intervals that were read from seconds, and
  `Arises.interval_le_grow` says that such intervals do not get shorter.
* `Arises.interval_le_grow_iff` says when any other interval gets shorter, which is
  what `neverShrink_iff` and `isKept_iff` come to.
* `pauses_grow` is the result, and `pauses_shrink` a pause that is shorter.
-/

namespace RemoteConfig

open Double (one roundUnits IsOnGrid)

/-! ## Products of lengths -/

namespace Duration

variable {d : Duration} {f : Nat}

/-- Multiplying by one or more does not make a length shorter than it is read back. -/
theorem nearest_units_le (d : Duration) (hf : one ≤ f) :
    (nearest d.units).nanos ≤ (nearest (roundUnits (d.units * f) one)).nanos :=
  nearest_mono (Double.le_roundUnits_mul d.isOnGrid_units hf)

/-- Multiplying by more than one does not make a length shorter than it was: it makes
up for what is lost by writing the length in seconds. -/
theorem le_nearest_mul (d : Duration) (hgrid : IsOnGrid f) (hf : one < f) :
    d.nanos ≤ (nearest (roundUnits (d.units * f) one)).nanos := by
  have hproduct : d.units ≤ roundUnits (d.units * f) one :=
    Double.le_roundUnits_mul d.isOnGrid_units (Nat.le_of_lt hf)
  by_cases hlong : d.nanos ≤ 2 ^ 23 * nanosPerSecond
  · calc d.nanos
      _ = (nearest d.units).nanos := by rw [nearest_units hlong]
      _ ≤ _ := nearest_mono hproduct
  · have hunits : 2 ^ 23 * one ≤ d.units := by
      rw [← units_whole (Double.isOnGrid_two_pow_mul_one 23)]
      exact units_mono (Nat.le_of_not_le hlong)
    by_contra hshorter
    have hbits : 2 ^ 52 ≤ d.units := by
      have hone := Double.two_pow_le_one
      omega
    -- Writing the product in seconds again would give less than the product.
    have hread : (nearest (roundUnits (d.units * f) one)).units = roundUnits (d.units * f) one :=
      units_nearest (Double.isOnGrid_roundUnits Decimal.one_pos) (Nat.le_trans hunits hproduct)
    have hless := units_mono (Nat.le_of_not_le hshorter)
    rw [hread] at hless
    exact Nat.not_lt_of_le hless (Double.lt_roundUnits_mul d.isOnGrid_units hbits hgrid hf)

end Duration

namespace Backoff

variable {o : RetryOptions} {b : Backoff}

/-! ## Intervals that were read from seconds -/

/-- The interval was read from seconds, of which there are no more than in the longest
one. -/
def IsGrown (b : Backoff) : Prop :=
  ∃ units, IsOnGrid units ∧ units ≤ b.maxInterval.units ∧ b.interval = .nearest units

theorem Arises.interval_grow (h : Arises o b) {f : Nat} (hfactor : b.factor = .finite false f) :
    b.grow.interval =
      .nearest (min (roundUnits (b.interval.units * f) one) b.maxInterval.units) := by
  obtain ⟨hinterval, hmax⟩ := h.isInRange
  rw [Backoff.interval_grow, grownInterval_eq hfactor hinterval hmax]

theorem Arises.isGrown_grow (h : Arises o b) : b.grow.IsGrown := by
  obtain ⟨f, hfactor, -⟩ := b.exists_factor
  refine ⟨_, ?_, ?_, h.interval_grow hfactor⟩
  · exact (Double.isOnGrid_roundUnits Decimal.one_pos).min b.maxInterval.isOnGrid_units
  · rw [maxInterval_grow]
    exact Nat.min_le_right _ _

/-- Such intervals do not get shorter. -/
theorem Arises.interval_le_grow (h : Arises o b) (hgrown : b.IsGrown) :
    b.interval.nanos ≤ b.grow.interval.nanos := by
  obtain ⟨units, hgrid, hlongest, hinterval⟩ := hgrown
  obtain ⟨f, hfactor, hf⟩ := b.exists_factor
  rw [h.interval_grow hfactor, Duration.le_nearest_min_iff]
  constructor
  · calc b.interval.nanos
      _ = (Duration.nearest b.interval.units).nanos := by
        rw [hinterval, Duration.nearest_units_nearest hgrid]
      _ ≤ _ := Duration.nearest_units_le b.interval hf
  · rw [hinterval]
    exact Duration.nearest_mono hlongest

/-! ## The first step -/

/-- An interval gets shorter exactly if what bounds the next one is read back as less:
the interval itself if it is not multiplied, and the longest one otherwise. -/
theorem Arises.interval_le_grow_iff (h : Arises o b) (hexact : o.IsExact)
    (hmultiplier : o.multiplier.IsRepresentable)
    (hle : b.interval.nanos ≤ b.maxInterval.nanos) :
    b.interval.nanos ≤ b.grow.interval.nanos ↔
      b.interval.nanos ≤
        (if o.multiplier = .ofNat 1 then b.interval else b.maxInterval).throughSeconds.nanos := by
  obtain ⟨hinterval, hmax⟩ := h.isInRange
  obtain ⟨f, hfactor, hf⟩ := b.exists_factor
  have hvalue : o.multiplier = .finite false f := by
    rw [← hfactor, factor_of_isExact h.holdsOptions hexact]
  rw [h.interval_grow hfactor, Duration.le_nearest_min_iff, Double.ofNat_one, hvalue]
  by_cases hone : f = one
  · have hproduct : roundUnits (b.interval.units * f) one = b.interval.units := by
      rw [hone, Double.roundUnits_mul_self Decimal.one_pos b.interval.isOnGrid_units]
    rw [if_pos (by rw [hone]), Duration.throughSeconds_eq hinterval, hproduct]
    constructor
    · exact And.left
    · intro hread
      exact ⟨hread, Nat.le_trans hread (Duration.nearest_mono (Duration.units_mono hle))⟩
  · have hgrid : IsOnGrid f := by
      rw [hvalue] at hmultiplier
      exact hmultiplier.1
    have hgreater : one < f := Nat.lt_of_le_of_ne hf (Ne.symm hone)
    have hother : Double.finite false f ≠ .finite false one := by
      simpa using hone
    rw [if_neg hother, Duration.throughSeconds_eq hmax]
    constructor
    · exact And.right
    · exact fun hread => ⟨b.interval.le_nearest_mul hgrid hgreater, hread⟩

/-- The longest interval is reached again from itself exactly if it is not shorter when
it is read back. -/
theorem Arises.maxInterval_le_grow_iff (h : Arises o b) (heq : b.interval = b.maxInterval) :
    b.maxInterval.nanos ≤ b.grow.interval.nanos ↔
      b.maxInterval.nanos ≤ b.maxInterval.throughSeconds.nanos := by
  obtain ⟨f, hfactor, hf⟩ := b.exists_factor
  rw [h.interval_grow hfactor, Duration.le_nearest_min_iff, heq,
    Duration.throughSeconds_eq h.isInRange.2]
  constructor
  · exact And.right
  · exact fun hread => ⟨Nat.le_trans hread (b.maxInterval.nearest_units_le hf), hread⟩

/-! ## Pauses -/

theorem delay_le_grow (hinterval : b.interval.nanos ≤ b.grow.interval.nanos) :
    b.delay.nanos ≤ b.grow.delay.nanos := by
  rw [nanos_delay, nanos_delay, maxInterval_grow]
  omega

/-- A pause is the longest one exactly if the interval is at least that long. -/
theorem delay_eq_maxInterval_iff (b : Backoff) :
    b.delay = b.maxInterval ↔ b.maxInterval.nanos ≤ b.interval.nanos := by
  constructor
  · intro heq
    have hnanos := congrArg Duration.nanos heq
    rw [nanos_delay] at hnanos
    omega
  · intro hle
    have hnanos := b.nanos_delay
    rw [Nat.min_eq_right hle] at hnanos
    exact congrArg Duration.mk hnanos

section Delays

variable (o : RetryOptions)

theorem delayAt_start_succ (n : Nat) :
    (start o).delayAt (n + 1) = (grow^[n] (start o)).grow.delay := by
  unfold delayAt
  rw [Function.iterate_succ_apply']

/-- After a pause, the interval does not get shorter any more. -/
theorem interval_iterate_le (n : Nat) :
    (grow^[n + 1] (start o)).interval.nanos ≤ (grow^[n + 2] (start o)).interval.nanos := by
  have hgrown : (grow^[n + 1] (start o)).IsGrown := by
    rw [Function.iterate_succ_apply']
    exact (arises_iterate o n).isGrown_grow
  rw [Function.iterate_succ_apply' grow (n + 1)]
  exact (arises_iterate o (n + 1)).interval_le_grow hgrown

/-- From the second pause on, no pause is shorter than the one before. -/
theorem delayAt_le_succ (n : Nat) :
    ((start o).delayAt (n + 1)).nanos ≤ ((start o).delayAt (n + 2)).nanos := by
  rw [delayAt_start_succ o (n + 1)]
  refine delay_le_grow ?_
  rw [← Function.iterate_succ_apply' grow]
  exact interval_iterate_le o n

/-- A pause is the longest one exactly if the interval behind it is at least that long. -/
theorem delayAt_eq_iff (n : Nat) :
    (start o).delayAt n = .ofMillis o.maxInterval.toNat ↔
      (Duration.ofMillis o.maxInterval.toNat).nanos ≤ (grow^[n] (start o)).interval.nanos := by
  rw [← (arises_iterate o n).holdsOptions.maxInterval]
  exact delay_eq_maxInterval_iff _

end Delays

end Backoff

/-! ## Whole courses -/

namespace Duration

/-- No length is shorter than the one before. -/
def NeverShrink (lengths : Nat → Duration) : Prop :=
  ∀ n, (lengths n).nanos ≤ (lengths (n + 1)).nanos

/-- Once a length is reached, it is kept. -/
def IsKept (longest : Duration) (lengths : Nat → Duration) : Prop :=
  ∀ n, lengths n = longest → ∀ m, n ≤ m → lengths m = longest

end Duration

namespace Backoff

variable {o : RetryOptions}

/-- Only the second pause can be shorter than the one before. -/
theorem neverShrink_iff (hexact : o.IsExact) (hmultiplier : o.multiplier.IsRepresentable) :
    Duration.NeverShrink (start o).delayAt ↔
      (Duration.ofMillis o.initialInterval.toNat).nanos ≤
        (Duration.ofMillis (if o.multiplier = .ofNat 1 then o.initialInterval
          else o.maxInterval).toNat).throughSeconds.nanos := by
  have hle : (start o).interval.nanos ≤ (start o).maxInterval.nanos :=
    Nat.mul_le_mul_right 1000000 (UInt64.le_iff_toNat_le.1 hexact.interval)
  have hfirst := Arises.start.interval_le_grow_iff hexact hmultiplier hle
  have hceiling : (if o.multiplier = .ofNat 1 then (start o).interval else (start o).maxInterval) =
      .ofMillis (if o.multiplier = .ofNat 1 then o.initialInterval else o.maxInterval).toNat := by
    split
    · rfl
    · rfl
  rw [hceiling] at hfirst
  refine Iff.trans ⟨?_, ?_⟩ hfirst
  · intro hgrow
    have hstep := hgrow 0
    rw [delayAt_zero, delayAt_start_succ, Function.iterate_zero_apply, nanos_delay,
      nanos_delay] at hstep
    omega
  · intro hstep n
    cases n with
    | zero =>
      rw [delayAt_zero, delayAt_start_succ]
      exact delay_le_grow hstep
    | succ n => exact delayAt_le_succ o n

/-- Only the first pause can be the longest one and be followed by a shorter one. -/
theorem isKept_iff (hexact : o.IsExact) :
    Duration.IsKept (.ofMillis o.maxInterval.toNat) (start o).delayAt ↔
      (o.initialInterval = o.maxInterval →
        (Duration.ofMillis o.maxInterval.toNat).nanos ≤
          (Duration.ofMillis o.maxInterval.toNat).throughSeconds.nanos) := by
  have hstart (hsame : o.initialInterval = o.maxInterval) :
      (Duration.ofMillis o.maxInterval.toNat).nanos ≤ (start o).grow.interval.nanos ↔
        (Duration.ofMillis o.maxInterval.toNat).nanos ≤
          (Duration.ofMillis o.maxInterval.toNat).throughSeconds.nanos := by
    have heq : (start o).interval = (start o).maxInterval := by
      show Duration.ofMillis o.initialInterval.toNat = .ofMillis o.maxInterval.toNat
      rw [hsame]
    exact Arises.start.maxInterval_le_grow_iff heq
  constructor
  · intro hkept hsame
    have hfirst : (start o).delayAt 0 = .ofMillis o.maxInterval.toNat := by
      rw [delayAt_eq_iff, ← hsame]
      exact Nat.le_refl _
    exact (hstart hsame).1 ((delayAt_eq_iff o 1).1 (hkept 0 hfirst 1 (Nat.zero_le 1)))
  · intro hread n hn m hm
    induction m, hm using Nat.le_induction with
    | base => exact hn
    | succ m hm ih =>
      rw [delayAt_eq_iff] at ih ⊢
      cases m with
      | zero =>
        -- The first pause is the longest one only if the initial interval is.
        have hsame : o.initialInterval = o.maxInterval := by
          have hge : o.maxInterval.toNat * 1000000 ≤ o.initialInterval.toNat * 1000000 := ih
          have hle := UInt64.le_iff_toNat_le.1 hexact.interval
          exact UInt64.toNat_inj.1 (by omega)
        exact (hstart hsame).2 (hread hsame)
      | succ m => exact Nat.le_trans ih (interval_iterate_le o m)

/-- Up to 2 ^ 23 seconds, both promises are kept. -/
theorem reads_back_of_le (hexact : o.IsExact) (h : o.initialInterval.toNat ≤ 8388608000) :
    (Duration.ofMillis o.initialInterval.toNat).nanos ≤
        (Duration.ofMillis (if o.multiplier = .ofNat 1 then o.initialInterval
          else o.maxInterval).toNat).throughSeconds.nanos ∧
      (o.initialInterval = o.maxInterval →
        (Duration.ofMillis o.maxInterval.toNat).nanos ≤
          (Duration.ofMillis o.maxInterval.toNat).throughSeconds.nanos) := by
  have hshort : (Duration.ofMillis o.initialInterval.toNat).nanos ≤
      2 ^ 23 * Duration.nanosPerSecond := by
    show o.initialInterval.toNat * 1000000 ≤ 2 ^ 23 * 1000000000
    omega
  have hle : (Duration.ofMillis o.initialInterval.toNat).nanos ≤
      (Duration.ofMillis o.maxInterval.toNat).nanos :=
    Nat.mul_le_mul_right 1000000 (UInt64.le_iff_toNat_le.1 hexact.interval)
  have hread (ms : UInt64) (hms : (Duration.ofMillis o.initialInterval.toNat).nanos ≤
      (Duration.ofMillis ms.toNat).nanos) :
      (Duration.ofMillis o.initialInterval.toNat).nanos ≤
        (Duration.ofMillis ms.toNat).throughSeconds.nanos := by
    rw [Duration.throughSeconds_eq (Duration.isInRange_ofMillis ms)]
    calc (Duration.ofMillis o.initialInterval.toNat).nanos
      _ = (Duration.nearest (Duration.ofMillis o.initialInterval.toNat).units).nanos := by
        rw [Duration.nearest_units hshort]
      _ ≤ _ := Duration.nearest_mono (Duration.units_mono hms)
  constructor
  · split
    · exact hread _ (Nat.le_refl _)
    · exact hread _ hle
  · intro hsame
    rw [← hsame]
    exact hread _ (Nat.le_refl _)

/-- How the pauses of accepted options grow.  From the second one on, no pause is shorter
than the one before.  The second is shorter than the first exactly if what bounds the
next interval (the initial interval if it is not multiplied, and the longest one
otherwise) is read back from seconds as less than the initial interval.  A pause of the
longest interval is followed by a shorter one exactly if the initial interval is the
longest one and is read back as less.  Neither happens up to an initial interval of
2 ^ 23 seconds, which is about 97 days. -/
theorem pauses_grow (haccepted : ClientOptions.retryIssues o = [])
    (hmultiplier : o.multiplier.IsRepresentable) :
    (∀ n, ((start o).delayAt (n + 1)).nanos ≤ ((start o).delayAt (n + 2)).nanos) ∧
    (Duration.NeverShrink (start o).delayAt ↔
      (Duration.ofMillis o.initialInterval.toNat).nanos ≤
        (Duration.ofMillis (if o.multiplier = .ofNat 1 then o.initialInterval
          else o.maxInterval).toNat).throughSeconds.nanos) ∧
    (Duration.IsKept (.ofMillis o.maxInterval.toNat) (start o).delayAt ↔
      (o.initialInterval = o.maxInterval →
        (Duration.ofMillis o.maxInterval.toNat).nanos ≤
          (Duration.ofMillis o.maxInterval.toNat).throughSeconds.nanos)) ∧
    (o.initialInterval.toNat ≤ 8388608000 →
      Duration.NeverShrink (start o).delayAt ∧
        Duration.IsKept (.ofMillis o.maxInterval.toNat) (start o).delayAt) := by
  have hexact : o.IsExact := by
    refine ClientOptions.isExact_of_retryIssues ?_
    rw [haccepted]
    exact fun issue hmem => nomatch hmem
  have hgrowth := neverShrink_iff hexact hmultiplier
  have hkept := isKept_iff hexact
  refine ⟨delayAt_le_succ o, hgrowth, hkept, ?_⟩
  intro hshort
  obtain ⟨hinitial, hlongest⟩ := reads_back_of_le hexact hshort
  exact ⟨hgrowth.2 hinitial, hkept.2 hlongest⟩

/-- Pauses that grow by half, from one second to two. -/
def growingOptions : RetryOptions where
  enabled := true
  multiplier := .div (.ofNat 3) (.ofNat 2)

theorem pauses_grow_by_half :
    ClientOptions.retryIssues growingOptions = [] ∧
      growingOptions.multiplier.IsRepresentable ∧
      Duration.NeverShrink (start growingOptions).delayAt ∧
      Duration.IsKept (.ofMillis growingOptions.maxInterval.toNat)
        (start growingOptions).delayAt := by
  have haccepted : ClientOptions.retryIssues growingOptions = [] := by decide +kernel
  have hshort : growingOptions.initialInterval.toNat ≤ 8388608000 := by decide
  obtain ⟨-, -, -, hboth⟩ := pauses_grow haccepted (by decide +kernel)
  exact ⟨haccepted, by decide +kernel, hboth hshort⟩

/-- Pauses of more than 2 ^ 23 seconds, of which the first is the longest one. -/
def shrinkingOptions : RetryOptions where
  enabled := true
  initialInterval := 8388608006
  maxInterval := 8388608006
  multiplier := .ofNat 2

/-- The second pause is a nanosecond shorter than the first, which was the longest one. -/
theorem pauses_shrink :
    ClientOptions.retryIssues shrinkingOptions = [] ∧
      shrinkingOptions.multiplier.IsRepresentable ∧
      (start shrinkingOptions).delayAt 0 = ⟨8388608006000000⟩ ∧
      (start shrinkingOptions).delayAt 1 = ⟨8388608005999999⟩ ∧
      ¬ Duration.NeverShrink (start shrinkingOptions).delayAt ∧
      ¬ Duration.IsKept (.ofMillis shrinkingOptions.maxInterval.toNat)
        (start shrinkingOptions).delayAt := by
  have hfirst : (start shrinkingOptions).delayAt 0 =
      .ofMillis shrinkingOptions.maxInterval.toNat := by decide +kernel
  refine ⟨by decide +kernel, by decide +kernel, by decide +kernel, by decide +kernel, ?_, ?_⟩
  · intro hgrow
    exact absurd (hgrow 0) (by decide +kernel)
  · intro hkept
    exact absurd (hkept 0 hfirst 1 (by decide)) (by decide +kernel)

end Backoff

end RemoteConfig
