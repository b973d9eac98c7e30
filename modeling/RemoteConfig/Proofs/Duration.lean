import Mathlib.Tactic.Linarith
import RemoteConfig.Duration
import RemoteConfig.Proofs.Number.Order
import RemoteConfig.Proofs.Number.Shortest

/-!
# Lengths of time as seconds

A length is rounded when it is written in seconds, and again when it is read back.

* `Duration.units` are the seconds of a length, in units, and `Duration.nearest` is
  the length that a number of units is read as.  `toSeconds_eq` and `ofSeconds?_eq`
  say that the conversions are these, for lengths in range.
* `units_mono` and `nearest_mono` say that both keep the order.
* `nearest_units` says that no length up to 2 ^ 23 seconds is changed by being
  written and read back, and `units_nearest` that no double from there on is changed
  by being read and written.  Longer lengths are changed: doubles above 2 ^ 23 are
  more than a nanosecond apart.
* `nearest_units_nearest` says that no length is changed that was read from seconds.
-/

namespace RemoteConfig.Duration

open Double (one roundUnits roundQuotient spacing IsOnGrid)

/-! ## Seconds in units -/

/-- A part of a second, in units. -/
def fractionUnits (nanos : Nat) : Nat :=
  roundUnits (nanos * one * one) (nanosPerSecond * one)

/-- The seconds of a length, in units. -/
def units (d : Duration) : Nat :=
  roundUnits (roundUnits (d.nanos / nanosPerSecond * one) 1 +
    fractionUnits (d.nanos % nanosPerSecond)) 1

/-- The seconds before the last rounding: the whole ones and the rounded part. -/
def sumUnits (d : Duration) : Nat :=
  d.nanos / nanosPerSecond * one + fractionUnits (d.nanos % nanosPerSecond)

/-- The length nearest to a number of units. -/
def nearest (units : Nat) : Duration :=
  ⟨roundQuotient (units * nanosPerSecond) one⟩

/-- A length of at most 2 ^ 55 seconds, as every 64-bit number of milliseconds is. -/
def IsInRange (d : Duration) : Prop :=
  d.nanos ≤ 2 ^ 55 * nanosPerSecond

theorem nanosPerSecond_pos : 0 < nanosPerSecond := by
  decide

theorem fractionDen_pos : 0 < nanosPerSecond * one :=
  Nat.mul_pos nanosPerSecond_pos Decimal.one_pos

theorem isInRange_ofMillis (ms : UInt64) : (ofMillis ms.toNat).IsInRange := by
  have hbound := ms.toNat_lt
  show ms.toNat * 1000000 ≤ 2 ^ 55 * 1000000000
  omega

theorem isOnGrid_units (d : Duration) : IsOnGrid d.units :=
  Double.isOnGrid_roundUnits (by decide)

/-- Whole seconds are doubles up to 2 ^ 53. -/
theorem isOnGrid_whole {k : Nat} (hk : k ≤ 2 ^ 53) : IsOnGrid (k * one) := by
  rw [Decimal.one_eq]
  exact Double.isOnGrid_mul_two_pow hk 1074

/-! ## The part of a second -/

/-- The last double below one is a step of 2 ^ -53 below it. -/
theorem exists_step_below_one :
    ∃ step, 0 < step ∧ one = 9007199254740992 * step ∧ IsOnGrid (9007199254740991 * step) := by
  obtain ⟨e, hlarge, he⟩ := Double.exists_one_eq
  have hlast : 9007199254740991 ≤ 2 ^ 53 := by decide
  have hexponent : e = 53 + (e - 53) := by omega
  refine ⟨2 ^ (e - 53), Nat.two_pow_pos _, ?_, Double.isOnGrid_mul_two_pow hlast _⟩
  rw [he, hexponent, Nat.pow_add, Nat.add_sub_cancel_left]

theorem fractionUnits_zero : fractionUnits 0 = 0 := by
  have h : fractionUnits 0 ≤ 0 := by
    refine Double.roundUnits_le fractionDen_pos Double.isOnGrid_zero ?_
    rw [Nat.zero_mul, Nat.zero_mul, Nat.zero_mul]
  omega

theorem fractionUnits_mono {nanos nanos' : Nat} (h : nanos ≤ nanos') :
    fractionUnits nanos ≤ fractionUnits nanos' :=
  Double.roundUnits_mono fractionDen_pos (Nat.mul_le_mul_right _ (Nat.mul_le_mul_right _ h))

variable {nanos : Nat}

/-- A part of a second is not rounded to a whole one. -/
theorem fractionUnits_lt (h : nanos < nanosPerSecond) : fractionUnits nanos < one := by
  obtain ⟨step, hstep, hone, hlast⟩ := exists_step_below_one
  have hle : fractionUnits nanos ≤ 9007199254740991 * step := by
    refine Double.roundUnits_le fractionDen_pos hlast ?_
    rw [← Nat.mul_assoc]
    refine Nat.mul_le_mul_right one ?_
    calc nanos * one
      _ ≤ 999999999 * one := Nat.mul_le_mul_right one (Nat.le_of_lt_succ h)
      _ ≤ 9007199254740991 * step * nanosPerSecond := by
        rw [hone, nanosPerSecond]
        omega
  omega

/-- Rounding a part of a second changes it by at most 2 ^ -54 seconds. -/
theorem fractionUnits_bounds (h : nanos < nanosPerSecond) :
    18014398509481984 * (fractionUnits nanos * nanosPerSecond) ≤
        18014398509481984 * (nanos * one) + nanosPerSecond * one ∧
      18014398509481984 * (nanos * one) ≤
        18014398509481984 * (fractionUnits nanos * nanosPerSecond) + nanosPerSecond * one := by
  have hplace : nanos * one * one / (nanosPerSecond * one) < 2 ^ 0 * one := by
    rw [Nat.div_lt_iff_lt_mul fractionDen_pos, Nat.pow_zero, Nat.one_mul, Nat.mul_comm one]
    refine Nat.mul_lt_mul_of_pos_right ?_ Decimal.one_pos
    exact Nat.mul_lt_mul_of_pos_right h Decimal.one_pos
  have hgap := Double.spacing_mul_le_one rfl hplace
  obtain ⟨hlow, hhigh⟩ :=
    @Double.roundUnits_bounds (nanos * one * one) (nanosPerSecond * one) fractionDen_pos
  change 2 * (fractionUnits nanos * _) ≤ _ at hlow
  change _ ≤ 2 * (fractionUnits nanos * _) + _ at hhigh
  generalize fractionUnits nanos = fraction at hlow hhigh ⊢
  generalize spacing _ = gap at hgap hlow hhigh
  have hscaled : nanosPerSecond * one * (2 ^ 53 * gap) ≤ nanosPerSecond * one * one :=
    Nat.mul_le_mul_left _ hgap
  constructor
  · refine Nat.le_of_mul_le_mul_right ?_ Decimal.one_pos
    linarith
  · refine Nat.le_of_mul_le_mul_right ?_ Decimal.one_pos
    linarith

section

variable (d : Duration)

theorem rest_lt : d.nanos % nanosPerSecond < nanosPerSecond :=
  Nat.mod_lt _ nanosPerSecond_pos

theorem sumUnits_bounds :
    18014398509481984 * (d.sumUnits * nanosPerSecond) ≤
        18014398509481984 * (d.nanos * one) + nanosPerSecond * one ∧
      18014398509481984 * (d.nanos * one) ≤
        18014398509481984 * (d.sumUnits * nanosPerSecond) + nanosPerSecond * one := by
  obtain ⟨hlow, hhigh⟩ := fractionUnits_bounds d.rest_lt
  have hdiv : d.nanos / nanosPerSecond * nanosPerSecond + d.nanos % nanosPerSecond = d.nanos :=
    Nat.div_add_mod' d.nanos nanosPerSecond
  have hnanos : d.nanos * one =
      d.nanos / nanosPerSecond * one * nanosPerSecond + d.nanos % nanosPerSecond * one := by
    rw [Nat.mul_right_comm, ← Nat.add_mul, hdiv]
  unfold sumUnits
  rw [hnanos, Nat.add_mul]
  omega

variable {d}

theorem sumUnits_lt {k : Nat} (h : d.nanos < k * nanosPerSecond) : d.sumUnits < k * one := by
  have hpart := fractionUnits_lt d.rest_lt
  have hwhole : (d.nanos / nanosPerSecond + 1) * one ≤ k * one :=
    Nat.mul_le_mul_right one ((Nat.div_lt_iff_lt_mul nanosPerSecond_pos).2 h)
  rw [Nat.succ_mul] at hwhole
  unfold sumUnits
  omega

theorem units_eq (h : d.nanos / nanosPerSecond ≤ 2 ^ 53) : d.units = roundUnits d.sumUnits 1 := by
  unfold units sumUnits
  rw [Double.roundUnits_self (isOnGrid_whole h)]

end

/-! ## Whole seconds and the order -/

/-- Whole seconds are written as they are. -/
theorem units_whole {k : Nat} (hk : IsOnGrid (k * one)) : units ⟨k * nanosPerSecond⟩ = k * one := by
  unfold units
  simp only
  rw [Nat.mul_div_cancel k nanosPerSecond_pos, Nat.mul_mod_left, fractionUnits_zero,
    Double.roundUnits_self hk, Nat.add_zero, Double.roundUnits_self hk]

/-- From 2 ^ 53 seconds on, the part of a second is lost. -/
theorem units_of_le {d : Duration} (h : 2 ^ 53 ≤ d.nanos / nanosPerSecond) :
    d.units = roundUnits (d.nanos / nanosPerSecond * one) 1 := by
  have hpart : fractionUnits (d.nanos % nanosPerSecond) < one :=
    fractionUnits_lt (Nat.mod_lt _ nanosPerSecond_pos)
  have hplace : 2 ^ 53 * one ≤ roundUnits (d.nanos / nanosPerSecond * one) 1 := by
    refine Double.le_roundUnits Nat.one_pos (isOnGrid_whole (Nat.le_refl _)) ?_
    rw [Nat.mul_one]
    exact Nat.mul_le_mul_right one h
  have hgap := Double.two_pow_mul_one_le (j := 1) (k := 53) rfl hplace
  unfold units
  exact Double.roundUnits_add (Double.isOnGrid_roundUnits Nat.one_pos) (by omega) (by omega)

theorem units_mono {d d' : Duration} (h : d.nanos ≤ d'.nanos) : d.units ≤ d'.units := by
  have hwhole : d.nanos / nanosPerSecond ≤ d'.nanos / nanosPerSecond := Nat.div_le_div_right h
  by_cases hsame : d.nanos / nanosPerSecond = d'.nanos / nanosPerSecond
  · have hdiv := Nat.div_add_mod d.nanos nanosPerSecond
    have hdiv' := Nat.div_add_mod d'.nanos nanosPerSecond
    have hrest : d.nanos % nanosPerSecond ≤ d'.nanos % nanosPerSecond := by
      rw [hsame] at hdiv
      omega
    unfold units
    rw [hsame]
    exact Double.roundUnits_mono Nat.one_pos (Nat.add_le_add_left (fractionUnits_mono hrest) _)
  -- Another whole second makes up for the part of a second, unless it is not counted.
  by_cases hlarge : 2 ^ 53 ≤ d.nanos / nanosPerSecond
  · rw [units_of_le hlarge, units_of_le (Nat.le_trans hlarge hwhole)]
    exact Double.roundUnits_mono Nat.one_pos (Nat.mul_le_mul_right one hwhole)
  · have hpart : fractionUnits (d.nanos % nanosPerSecond) < one :=
      fractionUnits_lt (Nat.mod_lt _ nanosPerSecond_pos)
    unfold units
    refine Double.roundUnits_mono Nat.one_pos ?_
    rw [Double.roundUnits_self (isOnGrid_whole (Nat.le_of_not_le hlarge))]
    calc d.nanos / nanosPerSecond * one + fractionUnits (d.nanos % nanosPerSecond)
      _ ≤ (d.nanos / nanosPerSecond + 1) * one := by
        rw [Nat.succ_mul]
        omega
      _ ≤ roundUnits (d'.nanos / nanosPerSecond * one) 1 := by
        refine Double.le_roundUnits Nat.one_pos (isOnGrid_whole (by omega)) ?_
        rw [Nat.mul_one]
        exact Nat.mul_le_mul_right one (by omega)
      _ ≤ _ := Nat.le_add_right _ _

theorem nanos_nearest (u : Nat) :
    (nearest u).nanos = roundQuotient (u * nanosPerSecond) one := by
  rw [nearest]

/-- Reading changes a number of seconds by at most half a nanosecond. -/
theorem nearest_bounds (u : Nat) :
    2 * ((nearest u).nanos * one) ≤ 2 * (u * nanosPerSecond) + one ∧
      2 * (u * nanosPerSecond) ≤ 2 * ((nearest u).nanos * one) + one := by
  rw [nanos_nearest]
  exact Double.roundQuotient_bounds Decimal.one_pos

theorem nearest_mono {u v : Nat} (h : u ≤ v) : (nearest u).nanos ≤ (nearest v).nanos := by
  rw [nanos_nearest, nanos_nearest]
  exact Double.roundQuotient_mono one (Nat.mul_le_mul_right nanosPerSecond h)

theorem le_nearest_min_iff {n u v : Nat} :
    n ≤ (nearest (Min.min u v)).nanos ↔ n ≤ (nearest u).nanos ∧ n ≤ (nearest v).nanos := by
  rcases Nat.le_total u v with hle | hle
  · have hmono := nearest_mono hle
    rw [Nat.min_eq_left hle]
    omega
  · have hmono := nearest_mono hle
    rw [Nat.min_eq_right hle]
    omega

theorem nearest_whole (k : Nat) : nearest (k * one) = ⟨k * nanosPerSecond⟩ := by
  unfold nearest
  rw [Nat.mul_right_comm, Double.roundQuotient_mul_self Decimal.one_pos]

/-! ## The conversions -/

theorem units_le {d : Duration} (h : d.IsInRange) : d.units ≤ 2 ^ 55 * one := by
  calc d.units
    _ ≤ units ⟨2 ^ 55 * nanosPerSecond⟩ := units_mono h
    _ = 2 ^ 55 * one := units_whole (Double.isOnGrid_two_pow_mul_one 55)

theorem isInRange_nearest {u : Nat} (h : u ≤ 2 ^ 55 * one) : (nearest u).IsInRange := by
  have hle := nearest_mono h
  rw [nearest_whole] at hle
  exact hle

theorem ofNat_eq {n : Nat} (h : n ≤ 2 ^ 53) : Double.ofNat n = .finite false (n * one) := by
  have hround : roundUnits (n * one) 1 = n * one := Double.roundUnits_self (isOnGrid_whole h)
  have hrange : roundUnits (n * one) 1 < Double.overflow := by
    rw [hround]
    exact Double.lt_overflow (by decide) (Nat.mul_le_mul_right one h)
  rw [Double.ofNat, Double.ofUnits_eq false hrange, hround]

theorem div_nanosPerSecond (h : nanos < nanosPerSecond) :
    (Double.ofNat nanos).div (Double.ofNat nanosPerSecond) =
      .finite false (fractionUnits nanos) := by
  have hsmall : nanosPerSecond ≤ 2 ^ 53 := by decide
  have hrange : fractionUnits nanos < Double.overflow := by
    have hlt := fractionUnits_lt h
    exact Double.lt_overflow (k := 1) (by decide) (by omega)
  rw [ofNat_eq (by omega), ofNat_eq hsmall, Double.div, if_neg (Nat.ne_of_gt fractionDen_pos),
    bne_self_eq_false]
  exact Double.ofUnits_eq false hrange

/-- Lengths in range are finite numbers of seconds. -/
theorem toSeconds_eq {d : Duration} (h : d.IsInRange) : d.toSeconds = .finite false d.units := by
  have hwhole : Double.ofNat (d.nanos / nanosPerSecond) =
      .finite false (roundUnits (d.nanos / nanosPerSecond * one) 1) := by
    refine Double.ofUnits_eq false (Double.lt_overflow (k := 55) (by decide) ?_)
    refine Double.roundUnits_le Nat.one_pos (Double.isOnGrid_two_pow_mul_one 55) ?_
    rw [Nat.mul_one]
    exact Nat.mul_le_mul_right one (Nat.div_le_of_le_mul (Nat.mul_comm _ _ ▸ h))
  have hrange : d.units < Double.overflow := Double.lt_overflow (by decide) (units_le h)
  rw [toSeconds, hwhole, div_nanosPerSecond d.rest_lt, Double.add, if_pos rfl]
  exact Double.ofUnits_eq false hrange

/-- Numbers below 2 ^ 64 are lengths. -/
theorem ofSeconds?_eq {u : Nat} (h : u < UInt64.size * one) :
    ofSeconds? (.finite false u) = some (nearest u) := by
  rw [ofSeconds?, Bool.false_and, if_neg Bool.false_ne_true, if_pos h, nearest]

/-- A length that is written in seconds and read back. -/
def throughSeconds (d : Duration) : Duration :=
  (ofSeconds? d.toSeconds).getD .zero

theorem lt_size {u : Nat} (h : u ≤ 2 ^ 55 * one) : u < UInt64.size * one := by
  have hlt : 2 ^ 55 * one < UInt64.size * one :=
    Nat.mul_lt_mul_of_pos_right (by decide) Decimal.one_pos
  exact Nat.lt_of_le_of_lt h hlt

theorem throughSeconds_eq {d : Duration} (h : d.IsInRange) :
    d.throughSeconds = nearest d.units := by
  rw [throughSeconds, toSeconds_eq h, ofSeconds?_eq (lt_size (units_le h)), Option.getD_some]

/-! ## Read back -/

/-- No length up to 2 ^ 23 seconds is changed by being written in seconds and read
back. -/
theorem nearest_units {d : Duration} (h : d.nanos ≤ 2 ^ 23 * nanosPerSecond) :
    nearest d.units = d := by
  rcases Nat.lt_or_eq_of_le h with hlt | heq
  · have hwhole : d.nanos / nanosPerSecond < 2 ^ 23 :=
      (Nat.div_lt_iff_lt_mul nanosPerSecond_pos).2 hlt
    have hgap := Double.spacing_mul_le_one rfl (sumUnits_lt hlt)
    obtain ⟨hlow, hhigh⟩ := d.sumUnits_bounds
    obtain ⟨hbelow, habove⟩ := @Double.roundUnits_bounds d.sumUnits 1 Nat.one_pos
    rw [← units_eq (by omega), Nat.div_one, Nat.mul_one, Nat.one_mul] at hbelow habove
    have hone := Decimal.one_pos
    unfold nearest
    unfold nanosPerSecond at hlow hhigh ⊢
    -- The last rounding changes at most 2 ^ -31 seconds, which is less than half a nanosecond.
    rw [Double.roundQuotient_eq (k := d.nanos) Decimal.one_pos]
    · omega
    · omega
    · omega
  · have hd : d = ⟨2 ^ 23 * nanosPerSecond⟩ := by
      cases d
      exact congrArg Duration.mk heq
    rw [hd, units_whole (isOnGrid_whole (by decide)), nearest_whole]

/-- Doubles from 2 ^ 52 on are whole numbers. -/
theorem lt_of_not_dvd {u : Nat} (hu : IsOnGrid u) (h : ¬ one ∣ u) : u < 2 ^ 52 * one := by
  obtain ⟨e, -, he⟩ := Double.exists_one_eq
  rw [he] at h ⊢
  by_contra hlarge
  refine h (Nat.dvd_trans ?_ hu)
  have hdvd := Double.spacing_dvd_spacing (Nat.le_of_not_lt hlarge)
  rw [← Nat.pow_add, Double.spacing_two_pow, Nat.add_sub_cancel_left] at hdvd
  exact hdvd

/-- Powers of two from one on are whole numbers. -/
theorem below_of_not_dvd {u : Nat} (h : ¬ one ∣ u) (hlarge : one ≤ u) :
    Double.below u = 2 * spacing u := by
  have hne : u ≠ 0 := Nat.ne_of_gt (Nat.lt_of_lt_of_le Decimal.one_pos hlarge)
  obtain ⟨e, -, he⟩ := Double.exists_one_eq
  rw [he] at h hlarge
  unfold Double.below
  refine if_neg ?_
  intro hpower
  simp only [Bool.and_eq_true, decide_eq_true_eq] at hpower
  refine h ?_
  rw [hpower.2]
  exact Nat.pow_dvd_pow 2 ((Nat.le_log2 hne).2 hlarge)

/-- No double from 2 ^ 23 on is changed by being read as seconds and written back. -/
theorem units_nearest {u : Nat} (hu : IsOnGrid u) (h : 2 ^ 23 * one ≤ u) :
    (nearest u).units = u := by
  -- A power of two has doubles below it that are twice as dense, but it is whole.
  by_cases hwhole : one ∣ u
  · obtain ⟨k, hk⟩ := hwhole
    rw [Nat.mul_comm] at hk
    rw [hk] at hu ⊢
    rw [nearest_whole, units_whole hu]
  · have hone := Decimal.one_pos
    have hplace : u < 2 ^ 52 * one := lt_of_not_dvd hu hwhole
    have hgap := Double.two_pow_mul_one_le (j := 0) (k := 23) rfl h
    have hbelow : Double.below u = 2 * spacing u := below_of_not_dvd hwhole (by omega)
    have hnanos : (nearest u).nanos ≤ 2 ^ 52 * nanosPerSecond := by
      have hle := nearest_mono (Nat.le_of_lt hplace)
      rw [nearest_whole] at hle
      exact hle
    have hseconds : (nearest u).nanos / nanosPerSecond ≤ 2 ^ 53 := by
      have hdiv := Nat.div_le_of_le_mul (Nat.mul_comm _ _ ▸ hnanos)
      omega
    obtain ⟨hlow, hhigh⟩ := (nearest u).sumUnits_bounds
    obtain ⟨hfloor, hceil⟩ := nearest_bounds u
    unfold nanosPerSecond at hlow hhigh hfloor hceil
    rw [units_eq hseconds]
    refine Double.roundUnits_of_contains (by omega) hu Nat.one_pos ?_
    refine Double.contains_of_lt (by omega) hu ?_ ?_
    · rw [hbelow]
      omega
    · omega

/-- No length that was read from seconds is changed by being written and read back. -/
theorem nearest_units_nearest {u : Nat} (hu : IsOnGrid u) :
    nearest (nearest u).units = nearest u := by
  by_cases h : 2 ^ 23 * one ≤ u
  · rw [units_nearest hu h]
  · refine nearest_units ?_
    have hle := nearest_mono (Nat.le_of_not_le h)
    rw [nearest_whole] at hle
    exact hle

end RemoteConfig.Duration
