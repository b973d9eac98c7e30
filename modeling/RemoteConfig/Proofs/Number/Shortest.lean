import RemoteConfig.Proofs.Number.Rounding

/-!
# Shortest decimals read back

The search for the shortest decimal of a double ends with one that lies in the
interval of the double, because seventeen digits are always enough: the grid of
the seventeenth digit is finer than the doubles.

A step of the grid `10 ^ exponent` is `stepNum exponent / stepDen exponent`
units, with both parts natural numbers.

* `isSome_onGrid` finds a decimal on every grid that is fine enough, and
  `readsBack_of_onGrid` says that what is found reads back.
* `le_leadingExponent` says that the leading digit is at or below the double.
* `readsBack_shortest` is the result about the search.
-/

namespace RemoteConfig.Decimal

/-! ## Steps of grids -/

/-- The numerator of `10 ^ exponent` in units. -/
def stepNum (exponent : Int) : Nat :=
  if 0 ≤ exponent then 10 ^ exponent.toNat * Double.one else Double.one

/-- The denominator of `10 ^ exponent` in units. -/
def stepDen (exponent : Int) : Nat :=
  if 0 ≤ exponent then 1 else 10 ^ (-exponent).toNat

theorem one_pos : 0 < Double.one := by
  have hpow (n : Nat) : 0 < Nat.pow 2 n := Nat.two_pow_pos n
  exact hpow 1074

theorem stepDen_pos (exponent : Int) : 0 < stepDen exponent := by
  unfold stepDen
  split
  · exact Nat.one_pos
  · exact Nat.pow_pos (by decide)

theorem stepNum_pos (exponent : Int) : 0 < stepNum exponent := by
  unfold stepNum
  split
  · exact Nat.mul_pos (Nat.pow_pos (by decide)) one_pos
  · exact one_pos

theorem quarters_eq (digits : Nat) (exponent : Int) :
    quarters digits exponent = (4 * (digits * stepNum exponent), stepDen exponent) := by
  unfold quarters stepNum stepDen
  split
  · refine Prod.ext ?_ rfl
    change digits * 10 ^ exponent.toNat * (4 * Double.one) = _
    ring
  · refine Prod.ext ?_ rfl
    change digits * (4 * Double.one) = _
    ring

theorem gridNeighbour_eq (units : Nat) (exponent : Int) :
    gridNeighbour units exponent =
      (units * stepDen exponent / stepNum exponent,
        compare (2 * (units * stepDen exponent % stepNum exponent)) (stepNum exponent)) := by
  by_cases h : 0 ≤ exponent
  · simp only [gridNeighbour, stepNum, stepDen, if_pos h, Nat.mul_one]
    rfl
  · simp only [gridNeighbour, stepNum, stepDen, if_neg h]
    rfl

/-- A tenth of a step. -/
theorem step_pred (exponent : Int) :
    stepNum exponent * stepDen (exponent - 1) =
      10 * (stepNum (exponent - 1) * stepDen exponent) := by
  unfold stepNum stepDen
  by_cases hpos : 0 ≤ exponent - 1
  · have hpos' : 0 ≤ exponent := by omega
    have hsucc : exponent.toNat = (exponent - 1).toNat + 1 := by omega
    rw [if_pos hpos, if_pos hpos, if_pos hpos', if_pos hpos', hsucc, Nat.pow_succ]
    ring
  · by_cases hzero : 0 ≤ exponent
    · have hone : (-(exponent - 1)).toNat = 1 := by omega
      have hnil : exponent.toNat = 0 := by omega
      rw [if_neg hpos, if_neg hpos, if_pos hzero, if_pos hzero, hone, hnil]
      ring
    · have hsucc : (-(exponent - 1)).toNat = (-exponent).toNat + 1 := by omega
      rw [if_neg hpos, if_neg hpos, if_neg hzero, if_neg hzero, hsucc, Nat.pow_succ]
      ring

/-- A step many tenths finer. -/
theorem step_sub (exponent : Int) (n : Nat) :
    stepNum exponent * stepDen (exponent - n) =
      10 ^ n * (stepNum (exponent - n) * stepDen exponent) := by
  induction n with
  | zero => simp
  | succ n ih =>
    have hpred : exponent - (n + 1 : Nat) = exponent - n - 1 := by omega
    have hstep := step_pred (exponent - n)
    rw [hpred]
    refine Nat.eq_of_mul_eq_mul_right (stepDen_pos (exponent - n)) ?_
    calc stepNum exponent * stepDen (exponent - n - 1) * stepDen (exponent - n)
      _ = stepNum exponent * stepDen (exponent - n) * stepDen (exponent - n - 1) := by ring
      _ = 10 ^ n * (stepNum (exponent - n) * stepDen (exponent - n - 1)) * stepDen exponent := by
        rw [ih]
        ring
      _ = 10 ^ (n + 1) * (stepNum (exponent - n - 1) * stepDen exponent) *
          stepDen (exponent - n) := by
        rw [hstep]
        ring

/-! ## One grid -/

/-- The decimal `digits * 10 ^ exponent` reads back as `units`. -/
def ReadsBack (units digits : Nat) (exponent : Int) : Prop :=
  (readBack units).contains (4 * (digits * stepNum exponent)) (stepDen exponent) = true

/-- A grid is fine enough for a double if sixteen digits less make a grid whose
step is no greater than the double. -/
def IsFine (units : Nat) (exponent : Int) : Prop :=
  10 ^ 16 * stepNum exponent ≤ units * stepDen exponent

/-- On a grid that is fine enough a step is less than the interval is wide. -/
theorem step_lt_below {units : Nat} {exponent : Int} (hfine : IsFine units exponent) :
    2 * stepNum exponent < Double.below units * stepDen exponent := by
  have hnum := stepNum_pos exponent
  have hgap : Double.spacing units = 2 ^ (units.log2 - 52) := rfl
  unfold IsFine at hfine
  unfold Double.below
  split
  · -- A power of two has doubles closer below it.
    rename_i hpower
    simp only [Bool.and_eq_true, decide_eq_true_eq] at hpower
    have hlog : 52 ≤ units.log2 := by
      by_contra hsmall
      have hzero : units.log2 - 52 = 0 := by omega
      rw [hgap, hzero] at hpower
      exact absurd hpower.1 (by decide)
    have hunits : units * stepDen exponent =
        2 ^ 52 * (Double.spacing units * stepDen exponent) := by
      have hsplit : units = 2 ^ 52 * Double.spacing units := by
        rw [hgap, ← Nat.pow_add, Nat.add_sub_cancel' hlog]
        exact hpower.2
      rw [← Nat.mul_assoc, ← hsplit]
    rw [hunits] at hfine
    omega
  · have hunits : units * stepDen exponent <
        2 ^ 53 * (Double.spacing units * stepDen exponent) := by
      have hsplit : units < 2 ^ 53 * Double.spacing units := by
        calc units
          _ < 2 ^ (units.log2 + 1) := Nat.lt_log2_self
          _ ≤ 2 ^ (53 + (units.log2 - 52)) := Nat.pow_le_pow_right (by decide) (by omega)
          _ = 2 ^ 53 * Double.spacing units := by rw [hgap, Nat.pow_add]
      rw [← Nat.mul_assoc]
      exact Nat.mul_lt_mul_of_pos_right hsplit (stepDen_pos exponent)
    rw [Nat.mul_assoc]
    omega

/-- The search on one grid, by the neighbours that read back. -/
theorem onGrid_eq (tie : Tie) (units : Nat) (exponent : Int) :
    ∃ upper : Bool, onGrid tie units exponent =
      (let d := units * stepDen exponent / stepNum exponent
      match (readBack units).contains (4 * (d * stepNum exponent)) (stepDen exponent),
        (readBack units).contains (4 * ((d + 1) * stepNum exponent)) (stepDen exponent) with
      | true, true => some (if upper then d + 1 else d)
      | true, false => some d
      | false, true => some (d + 1)
      | false, false => none) := by
  unfold onGrid
  simp only [gridNeighbour_eq, quarters_eq]
  exact ⟨_, rfl⟩

/-- What is found reads back. -/
theorem readsBack_of_onGrid {tie : Tie} {units digits : Nat} {exponent : Int}
    (h : onGrid tie units exponent = some digits) : ReadsBack units digits exponent := by
  obtain ⟨upper, hgrid⟩ := onGrid_eq tie units exponent
  rw [hgrid] at h
  simp only at h
  unfold ReadsBack
  split at h <;> rename_i hd hd'
  · obtain rfl := Option.some.inj h
    split
    · exact hd'
    · exact hd
  · obtain rfl := Option.some.inj h
    exact hd
  · obtain rfl := Option.some.inj h
    exact hd'
  · cases h

/-- On a grid that is fine enough there is something to be found: the nearer of
the two neighbours of the double. -/
theorem isSome_onGrid (tie : Tie) {units : Nat} {exponent : Int} (hpos : 0 < units)
    (hdvd : Double.spacing units ∣ units) (hfine : IsFine units exponent) :
    (onGrid tie units exponent).isSome := by
  have hstep := step_lt_below hfine
  have hbelow : Double.below units * stepDen exponent ≤
      2 * (Double.spacing units * stepDen exponent) := by
    rw [← Nat.mul_assoc]
    exact Nat.mul_le_mul_right _ (Double.below_le units)
  obtain ⟨upper, hgrid⟩ := onGrid_eq tie units exponent
  rw [hgrid]
  generalize hd : units * stepDen exponent / stepNum exponent = d
  have hmod : units * stepDen exponent % stepNum exponent < stepNum exponent :=
    Nat.mod_lt _ (stepNum_pos exponent)
  have hdiv : d * stepNum exponent + units * stepDen exponent % stepNum exponent =
      units * stepDen exponent := by
    rw [← hd]
    exact Nat.div_add_mod' _ _
  have hsucc : (d + 1) * stepNum exponent = d * stepNum exponent + stepNum exponent :=
    Nat.succ_mul _ _
  have hnear : (readBack units).contains (4 * (d * stepNum exponent)) (stepDen exponent) = true ∨
      (readBack units).contains (4 * ((d + 1) * stepNum exponent)) (stepDen exponent) = true := by
    by_cases hhalf : 2 * (units * stepDen exponent % stepNum exponent) ≤ stepNum exponent
    · exact Or.inl (Double.contains_of_lt hpos hdvd (by omega) (by omega))
    · exact Or.inr (Double.contains_of_lt hpos hdvd (by omega) (by omega))
  simp only
  rcases hnear with hlower | hupper
  · rw [hlower]
    split <;> simp_all
  · rw [hupper]
    split <;> simp_all

/-! ## All grids -/

/-- If the last grid that is tried is fine enough, what is taken reads back. -/
theorem readsBack_firstGrid (tie : Tie) {units : Nat} (hpos : 0 < units)
    (hdvd : Double.spacing units ∣ units) (fuel : Nat) (exponent : Int)
    (hfine : IsFine units (exponent - fuel)) :
    ReadsBack units (firstGrid tie units (fuel + 1) exponent).1
      (firstGrid tie units (fuel + 1) exponent).2 := by
  induction fuel generalizing exponent with
  | zero =>
    have hsome := isSome_onGrid tie hpos hdvd (by simpa using hfine)
    obtain ⟨digits, hdigits⟩ := Option.isSome_iff_exists.1 hsome
    simp only [firstGrid, hdigits]
    exact readsBack_of_onGrid hdigits
  | succ fuel ih =>
    rw [firstGrid]
    cases hgrid : onGrid tie units exponent with
    | some digits => exact readsBack_of_onGrid hgrid
    | none =>
      have hpred : exponent - (fuel + 1 : Nat) = exponent - 1 - fuel := by omega
      rw [hpred] at hfine
      exact ih (exponent - 1) hfine

/-- A power of ten at or below a double. -/
def IsAtMost (units : Nat) (exponent : Int) : Prop :=
  stepNum exponent ≤ units * stepDen exponent

instance (units : Nat) (exponent : Int) : Decidable (IsAtMost units exponent) :=
  inferInstanceAs (Decidable (_ ≤ _))

theorem leadingExponent_succ (units fuel : Nat) (start : Int) :
    leadingExponent units (fuel + 1) start =
      if IsAtMost units start then start else leadingExponent units fuel (start - 1) := by
  rw [leadingExponent]
  unfold IsAtMost stepNum stepDen
  by_cases h : 0 ≤ start
  · simp only [if_pos h, Nat.mul_one, Nat.pow_eq]
  · simp only [if_neg h, Nat.pow_eq]

/-- The search for the leading digit stops at one that is at or below the
double if it would do so at its last step. -/
theorem le_leadingExponent {units : Nat} (fuel : Nat) (start : Int)
    (h : IsAtMost units (start - fuel)) : IsAtMost units (leadingExponent units fuel start) := by
  induction fuel generalizing start with
  | zero => simpa [leadingExponent] using h
  | succ fuel ih =>
    rw [leadingExponent_succ]
    split
    · assumption
    · have hpred : start - (fuel + 1 : Nat) = start - 1 - fuel := by omega
      rw [hpred] at h
      exact ih (start - 1) h

/-- Sixteen digits after the leading one make a grid that is fine enough. -/
theorem isFine_sub {units : Nat} {exponent : Int} (h : IsAtMost units exponent) :
    IsFine units (exponent - (16 : Nat)) := by
  have hstep := step_sub exponent 16
  have hscaled : stepNum exponent * stepDen (exponent - (16 : Nat)) ≤
      units * stepDen exponent * stepDen (exponent - (16 : Nat)) := Nat.mul_le_mul_right _ h
  unfold IsFine
  refine Nat.le_of_mul_le_mul_right ?_ (stepDen_pos exponent)
  calc 10 ^ 16 * stepNum (exponent - (16 : Nat)) * stepDen exponent
    _ = stepNum exponent * stepDen (exponent - (16 : Nat)) := by rw [hstep, Nat.mul_assoc]
    _ ≤ units * stepDen exponent * stepDen (exponent - (16 : Nat)) := hscaled
    _ = units * stepDen (exponent - (16 : Nat)) * stepDen exponent := by ring

/-! ## The guess of the leading digit -/

/-- Powers of two bases compared through one pair of exponents. -/
theorem pow_le_pow_of_rate {a b s t m k : Nat} (hb : 0 < b) (hs : s ≠ 0)
    (hbase : a ^ s ≤ b ^ t) (h : t * m ≤ s * k) : a ^ m ≤ b ^ k := by
  rw [← Nat.pow_le_pow_iff_left hs]
  calc (a ^ m) ^ s
    _ = (a ^ s) ^ m := by rw [← Nat.pow_mul, ← Nat.pow_mul, Nat.mul_comm]
    _ ≤ (b ^ t) ^ m := Nat.pow_le_pow_left hbase m
    _ = b ^ (t * m) := (Nat.pow_mul b t m).symm
    _ ≤ b ^ (s * k) := Nat.pow_le_pow_right hb h
    _ = (b ^ k) ^ s := by rw [← Nat.pow_mul, Nat.mul_comm]

/-- Ten binary digits make more than three decimal digits. -/
theorem ten_pow_le_two_pow {m k : Nat} (h : 10 * m ≤ 3 * k) : 10 ^ m ≤ 2 ^ k :=
  pow_le_pow_of_rate (by decide) (by decide) (show 10 ^ 3 ≤ 2 ^ 10 by decide) h

/-- Fifty-three binary digits make less than sixteen decimal digits. -/
theorem two_pow_le_ten_pow {m k : Nat} (h : 16 * m ≤ 53 * k) : 2 ^ m ≤ 10 ^ k :=
  pow_le_pow_of_rate (by decide) (by decide) (show 2 ^ 53 ≤ 10 ^ 16 by decide) h

theorem one_eq : Double.one = 2 ^ 1074 := by
  rw [Double.one, Nat.pow_eq]

theorem overflow_eq : Double.overflow = 2 ^ 2098 := by
  rw [Double.overflow, Nat.pow_eq]

theorem overflow_eq_mul : Double.overflow = 2 ^ 1024 * Double.one := by
  rw [overflow_eq, one_eq, ← Nat.pow_add]

/-- The last exponent that the search for the leading digit can reach is low
enough. -/
theorem isAtMost_guess {units : Nat} (hpos : 0 < units) (hlt : units < Double.overflow) :
    IsAtMost units (((units.log2 : Int) - 1074) * 30103 / 100000 + 1 - (4 : Nat)) := by
  have hplace : 2 ^ units.log2 ≤ units := Nat.log2_self_le (by omega)
  have hlog : units.log2 < 2098 := by
    rw [overflow_eq] at hlt
    exact (Nat.log2_lt (by omega)).2 hlt
  generalize units.log2 = L at hplace hlog
  generalize hexp : ((L : Int) - 1074) * 30103 / 100000 + 1 - (4 : Nat) = exponent
  unfold IsAtMost stepNum stepDen
  rw [one_eq]
  split
  · calc 10 ^ exponent.toNat * 2 ^ 1074
      _ ≤ 2 ^ (L - 1074) * 2 ^ 1074 :=
        Nat.mul_le_mul_right _ (ten_pow_le_two_pow (by omega))
      _ = 2 ^ L := by
        rw [← Nat.pow_add]
        congr 1
        omega
      _ ≤ units * 1 := by omega
  · calc 2 ^ 1074
      _ ≤ 2 ^ (L + (1074 - L)) := Nat.pow_le_pow_right (by decide) (by omega)
      _ = 2 ^ L * 2 ^ (1074 - L) := Nat.pow_add 2 L _
      _ ≤ units * 10 ^ (-exponent).toNat :=
        Nat.mul_le_mul hplace (two_pow_le_ten_pow (by omega))

/-! ## Zeros at the end -/

/-- Equal fractions are in the same intervals. -/
theorem contains_congr {r : ReadBack} {n d n' d' : Nat} (hd : 0 < d) (hd' : 0 < d')
    (h : n * d' = n' * d) : r.contains n d = r.contains n' d' := by
  have hle (a : Nat) : a * d ≤ n ↔ a * d' ≤ n' := by
    calc a * d ≤ n
      _ ↔ a * d * d' ≤ n * d' := (Nat.mul_le_mul_right_iff hd').symm
      _ ↔ a * d' * d ≤ n' * d := by rw [h, Nat.mul_right_comm]
      _ ↔ a * d' ≤ n' := Nat.mul_le_mul_right_iff hd
  have hge (a : Nat) : n ≤ a * d ↔ n' ≤ a * d' := by
    calc n ≤ a * d
      _ ↔ n * d' ≤ a * d * d' := (Nat.mul_le_mul_right_iff hd').symm
      _ ↔ n' * d ≤ a * d' * d := by rw [h, Nat.mul_right_comm]
      _ ↔ n' ≤ a * d' := Nat.mul_le_mul_right_iff hd
  unfold ReadBack.contains
  simp only [← Nat.not_le, hle, hge]

/-- Taking one zero away moves the point. -/
theorem readsBack_shift {units digits : Nat} {exponent : Int} :
    ReadsBack units (digits * 10) exponent ↔ ReadsBack units digits (exponent + 1) := by
  have hstep := step_pred (exponent + 1)
  have hpred : exponent + 1 - 1 = exponent := by omega
  rw [hpred] at hstep
  unfold ReadsBack
  rw [contains_congr (stepDen_pos exponent) (stepDen_pos (exponent + 1))]
  calc 4 * (digits * 10 * stepNum exponent) * stepDen (exponent + 1)
    _ = 4 * digits * (10 * (stepNum exponent * stepDen (exponent + 1))) := by ring
    _ = 4 * (digits * stepNum (exponent + 1)) * stepDen exponent := by
      rw [← hstep]
      ring

theorem readsBack_stripZeros {units : Nat} (fuel digits : Nat) (exponent : Int)
    (h : ReadsBack units digits exponent) :
    ReadsBack units (stripZeros fuel digits exponent).1 (stripZeros fuel digits exponent).2 := by
  induction fuel generalizing digits exponent with
  | zero => exact h
  | succ fuel ih =>
    rw [stripZeros]
    split
    · rename_i hzero
      simp only [Bool.and_eq_true, decide_eq_true_eq] at hzero
      refine ih (digits / 10) (exponent + 1) (readsBack_shift.1 ?_)
      have hten : digits / 10 * 10 = digits := by omega
      rw [hten]
      exact h
    · exact h

/-! ## The shortest decimal -/

/-- The shortest decimal of a double reads back as the double. -/
theorem readsBack_shortest (tie : Tie) {units : Nat} (hpos : 0 < units)
    (hunits : Double.IsMagnitude units) :
    ReadsBack units (shortest tie units).1 (shortest tie units).2 := by
  have hlead := le_leadingExponent 4 _ (isAtMost_guess hpos hunits.2)
  have hfirst := readsBack_firstGrid tie hpos hunits.1 16 _ (isFine_sub hlead)
  exact readsBack_stripZeros 20 _ _ hfirst

end RemoteConfig.Decimal
