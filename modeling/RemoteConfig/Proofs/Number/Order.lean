import Mathlib.Tactic.SplitIfs
import RemoteConfig.Proofs.Number.Rounding
import RemoteConfig.Proofs.Number.Shortest

/-!
# Rounding and the order of doubles

Rounding to doubles keeps the order, and it stops at every double that lies on the
way: what is at most a double is rounded to at most that double.

* `roundQuotient_mono` and `roundQuotient_bounds` are about whole numbers.
* `IsOnGrid` says that a number of units is one that doubles have, whether or not
  it is in range.
* `roundUnits_le` and `le_roundUnits` compare with a double, `roundUnits_self` and
  `isOnGrid_roundUnits` say that rounding has nothing more to do on doubles, and
  `roundUnits_mono` is the result.
* `le_roundUnits_mul` and `lt_roundUnits_mul` are about products with one and more.
-/

namespace RemoteConfig.Double

/-! ## Rounding to whole numbers -/

theorem div_le_roundQuotient (num den : Nat) : num / den ≤ roundQuotient num den := by
  unfold roundQuotient
  simp only
  split_ifs <;> omega

theorem roundQuotient_le_succ (num den : Nat) : roundQuotient num den ≤ num / den + 1 := by
  unfold roundQuotient
  simp only
  split_ifs <;> omega

/-- The distance from a quotient to its rounded value is at most one half. -/
theorem roundQuotient_bounds {num den : Nat} (hden : 0 < den) :
    2 * (roundQuotient num den * den) ≤ 2 * num + den ∧
      2 * num ≤ 2 * (roundQuotient num den * den) + den := by
  have hdiv : num / den * den + num % den = num := Nat.div_add_mod' num den
  have hmod : num % den < den := Nat.mod_lt num hden
  have hsucc : (num / den + 1) * den = num / den * den + den := Nat.succ_mul _ _
  unfold roundQuotient
  simp only
  split_ifs
  · omega
  · rw [hsucc]
    omega
  · omega
  · rw [hsucc]
    omega

theorem roundQuotient_mono {num num' : Nat} (den : Nat) (h : num ≤ num') :
    roundQuotient num den ≤ roundQuotient num' den := by
  have hle : num / den ≤ num' / den := Nat.div_le_div_right h
  by_cases hlt : num / den < num' / den
  · calc roundQuotient num den
      _ ≤ num / den + 1 := roundQuotient_le_succ num den
      _ ≤ num' / den := hlt
      _ ≤ roundQuotient num' den := div_le_roundQuotient num' den
  · have hquotient : num' / den = num / den := by omega
    have hdiv := Nat.div_add_mod num den
    have hdiv' := Nat.div_add_mod num' den
    rw [hquotient] at hdiv'
    have hrest : num % den ≤ num' % den := by omega
    unfold roundQuotient
    simp only [hquotient]
    split_ifs <;> omega

theorem roundQuotient_mul_self {den : Nat} (hden : 0 < den) (k : Nat) :
    roundQuotient (k * den) den = k :=
  roundQuotient_eq hden (by omega) (by omega) (by omega)

/-- What is at most a whole number is rounded to at most that number. -/
theorem roundQuotient_le {num den k : Nat} (hden : 0 < den) (h : num ≤ k * den) :
    roundQuotient num den ≤ k := by
  calc roundQuotient num den
    _ ≤ roundQuotient (k * den) den := roundQuotient_mono den h
    _ = k := roundQuotient_mul_self hden k

theorem le_roundQuotient {num den k : Nat} (hden : 0 < den) (h : k * den ≤ num) :
    k ≤ roundQuotient num den := by
  calc k
    _ = roundQuotient (k * den) den := (roundQuotient_mul_self hden k).symm
    _ ≤ roundQuotient num den := roundQuotient_mono den h

/-! ## The grid of doubles -/

/-- A number of units that is a multiple of the spacing at its place. -/
def IsOnGrid (units : Nat) : Prop :=
  spacing units ∣ units

theorem spacing_dvd_spacing {a b : Nat} (h : a ≤ b) : spacing a ∣ spacing b := by
  refine Nat.pow_dvd_pow 2 ?_
  rcases Nat.eq_zero_or_pos a with rfl | hpos
  · simp
  · have hlog : a.log2 ≤ b.log2 :=
      (Nat.le_log2 (by omega)).2 (Nat.le_trans (Nat.log2_self_le (by omega)) h)
    omega

theorem spacing_two_pow (L : Nat) : spacing (2 ^ L) = 2 ^ (L - 52) := by
  refine spacing_eq (Nat.le_refl _) ?_
  exact Nat.pow_lt_pow_right (by decide) (Nat.lt_succ_self L)

theorem le_spacing {a L : Nat} (h : 2 ^ (L + 52) ≤ a) : 2 ^ L ≤ spacing a := by
  have hdvd := spacing_dvd_spacing h
  rw [spacing_two_pow, Nat.add_sub_cancel] at hdvd
  exact Nat.le_of_dvd (spacing_pos a) hdvd

theorem spacing_le {a L : Nat} (h : a < 2 ^ (L + 53)) : spacing a ≤ 2 ^ L := by
  refine Nat.pow_le_pow_right (by decide) ?_
  rcases Nat.eq_zero_or_pos a with rfl | hpos
  · simp
  · have hlog : a.log2 < L + 53 := (Nat.log2_lt (by omega)).2 h
    omega

/-- From 2 ^ 52 units on, doubles have all their 53 bits. -/
theorem two_pow_mul_spacing_le {a : Nat} (h : 2 ^ 52 ≤ a) : 2 ^ 52 * spacing a ≤ a := by
  have hne : a ≠ 0 := by omega
  have hlog : 52 ≤ a.log2 := (Nat.le_log2 hne).2 h
  have hexponent : 52 + (a.log2 - 52) = a.log2 := by omega
  calc 2 ^ 52 * spacing a
    _ = 2 ^ (52 + (a.log2 - 52)) := (Nat.pow_add 2 52 (a.log2 - 52)).symm
    _ = 2 ^ a.log2 := by rw [hexponent]
    _ ≤ a := Nat.log2_self_le hne

/-- Which power it is does not matter in most of what follows. -/
theorem exists_one_eq : ∃ e, 53 ≤ e ∧ one = 2 ^ e :=
  ⟨1074, by decide, Decimal.one_eq⟩

theorem two_pow_le_one : 2 ^ 52 ≤ one := by
  obtain ⟨e, hlarge, he⟩ := exists_one_eq
  rw [he]
  exact Nat.pow_le_pow_right (by decide) (by omega)

theorem two_pow_mul_spacing_one : 2 ^ 52 * spacing one = one := by
  obtain ⟨e, hlarge, he⟩ := exists_one_eq
  have hexponent : 52 + (e - 52) = e := by omega
  rw [he, spacing_two_pow, ← Nat.pow_add 2 52, hexponent]

theorem two_pow_mul_one (k : Nat) : 2 ^ k * one = 2 ^ (k + 1074) := by
  rw [Decimal.one_eq, Nat.pow_add 2 k 1074]

/-- Below `2 ^ k`, doubles are at most `2 ^ -bits` apart. -/
theorem spacing_mul_le_one {a k bits : Nat} (hbits : bits + k = 53) (h : a < 2 ^ k * one) :
    2 ^ bits * spacing a ≤ one := by
  have hexponent : k + 1074 = k + 1021 + 53 := rfl
  have hone : bits + (k + 1021) = 1074 := by rw [← Nat.add_assoc, hbits]
  rw [two_pow_mul_one, hexponent] at h
  calc 2 ^ bits * spacing a
    _ ≤ 2 ^ bits * 2 ^ (k + 1021) := Nat.mul_le_mul_left _ (spacing_le h)
    _ = 2 ^ (bits + (k + 1021)) := (Nat.pow_add 2 bits (k + 1021)).symm
    _ = one := by rw [hone, Decimal.one_eq]

/-- From `2 ^ k` on, doubles are at least `2 ^ (j - bits)` apart. -/
theorem two_pow_mul_one_le {a j k bits : Nat} (hbits : bits + k = 52 + j)
    (h : 2 ^ k * one ≤ a) : 2 ^ j * one ≤ 2 ^ bits * spacing a := by
  have hexponent : k + 1074 = k + 1022 + 52 := rfl
  have hone : bits + (k + 1022) = j + 1074 := by
    rw [← Nat.add_assoc, hbits, Nat.add_comm 52 j, Nat.add_assoc]
  rw [two_pow_mul_one, hexponent] at h
  calc 2 ^ j * one
    _ = 2 ^ (j + 1074) := two_pow_mul_one j
    _ = 2 ^ (bits + (k + 1022)) := by rw [hone]
    _ = 2 ^ bits * 2 ^ (k + 1022) := Nat.pow_add 2 bits (k + 1022)
    _ ≤ 2 ^ bits * spacing a := Nat.mul_le_mul_left _ (le_spacing h)

theorem isOnGrid_two_pow (L : Nat) : IsOnGrid (2 ^ L) := by
  unfold IsOnGrid
  rw [spacing_two_pow]
  exact Nat.pow_dvd_pow 2 (by omega)

theorem isOnGrid_two_pow_mul_one (k : Nat) : IsOnGrid (2 ^ k * one) := by
  rw [two_pow_mul_one]
  exact isOnGrid_two_pow _

theorem isOnGrid_one : IsOnGrid one := by
  obtain ⟨e, -, he⟩ := exists_one_eq
  rw [he]
  exact isOnGrid_two_pow e

theorem isOnGrid_zero : IsOnGrid 0 :=
  Nat.dvd_zero _

theorem IsOnGrid.min {a b : Nat} (ha : IsOnGrid a) (hb : IsOnGrid b) : IsOnGrid (Min.min a b) := by
  rcases Nat.le_total a b with hle | hle
  · rwa [Nat.min_eq_left hle]
  · rwa [Nat.min_eq_right hle]

/-- Numbers of 53 bits are doubles, wherever the bits stand. -/
theorem isOnGrid_mul_two_pow {k : Nat} (hk : k ≤ 2 ^ 53) (e : Nat) : IsOnGrid (k * 2 ^ e) := by
  rcases Nat.lt_or_eq_of_le hk with hlt | rfl
  · refine Nat.dvd_trans ?_ (Nat.dvd_mul_left (2 ^ e) k)
    refine Nat.pow_dvd_pow 2 ?_
    rcases Nat.eq_zero_or_pos k with rfl | hpos
    · simp
    · have hbelow : k * 2 ^ e < 2 ^ (53 + e) := by
        rw [Nat.pow_add]
        exact Nat.mul_lt_mul_of_pos_right hlt (Nat.two_pow_pos e)
      have hne : k * 2 ^ e ≠ 0 := Nat.ne_of_gt (Nat.mul_pos hpos (Nat.two_pow_pos e))
      have hlog := (Nat.log2_lt hne).2 hbelow
      omega
  · rw [← Nat.pow_add]
    exact isOnGrid_two_pow _

/-- The next double is one spacing further. -/
theorem IsOnGrid.add_spacing {units : Nat} (h : IsOnGrid units) (hpos : 0 < units) :
    IsOnGrid (units + spacing units) := by
  obtain ⟨L, k, hplace, htop, hgap, hk⟩ := exists_place hpos h
  rcases Nat.lt_or_eq_of_le htop with hlt | heq
  · have hsame : spacing (units + spacing units) = spacing units := by
      rw [hgap] at hlt ⊢
      exact spacing_eq (by omega) hlt
    unfold IsOnGrid
    rw [hsame]
    exact Nat.dvd_add h (Nat.dvd_refl _)
  · rw [heq]
    exact isOnGrid_two_pow _

variable {num num' den units : Nat}

theorem num_le_of_div_lt {k : Nat} (hden : 0 < den) (h : num / den < k) : num ≤ k * den :=
  Nat.le_of_lt ((Nat.div_lt_iff_lt_mul hden).1 h)

/-- What is at most a double is rounded to at most that double. -/
theorem roundUnits_le (hden : 0 < den) (hunits : IsOnGrid units) (h : num ≤ units * den) :
    roundUnits num den ≤ units := by
  have hplace : num / den ≤ units := Nat.div_le_of_le_mul (by rw [Nat.mul_comm]; exact h)
  have hgap : 0 < spacing (num / den) := spacing_pos _
  obtain ⟨k, hk⟩ := Nat.dvd_trans (spacing_dvd_spacing hplace) hunits
  unfold roundUnits
  simp only
  generalize spacing (num / den) = gap at hgap hk
  have hscaled : units * den = k * (den * gap) := by
    rw [hk]
    ring
  have hround : roundQuotient num (den * gap) ≤ k :=
    roundQuotient_le (Nat.mul_pos hden hgap) (by omega)
  calc roundQuotient num (den * gap) * gap
    _ ≤ k * gap := Nat.mul_le_mul_right gap hround
    _ = units := by rw [hk, Nat.mul_comm]

/-- What is at least a multiple of its spacing is rounded to at least that multiple. -/
theorem le_roundUnits_of_dvd (hden : 0 < den) (hdvd : spacing (num / den) ∣ units)
    (h : units * den ≤ num) : units ≤ roundUnits num den := by
  have hgap : 0 < spacing (num / den) := spacing_pos _
  obtain ⟨k, hk⟩ := hdvd
  unfold roundUnits
  simp only
  generalize spacing (num / den) = gap at hgap hk
  have hscaled : units * den = k * (den * gap) := by
    rw [hk]
    ring
  have hround : k ≤ roundQuotient num (den * gap) :=
    le_roundQuotient (Nat.mul_pos hden hgap) (by omega)
  calc units
    _ = k * gap := by rw [hk, Nat.mul_comm]
    _ ≤ roundQuotient num (den * gap) * gap := Nat.mul_le_mul_right gap hround

/-- What is at least a double is rounded to at least that double. -/
theorem le_roundUnits (hden : 0 < den) (hunits : IsOnGrid units) (h : units * den ≤ num) :
    units ≤ roundUnits num den := by
  have hplace : units ≤ num / den := (Nat.le_div_iff_mul_le hden).2 h
  by_cases hsame : spacing (num / den) = spacing units
  · exact le_roundUnits_of_dvd hden (hsame ▸ hunits) h
  · -- A power of two lies between the double and the quotient.
    have hzero : num / den ≠ 0 := by
      intro h0
      have hunits0 : units = 0 := by omega
      rw [h0, hunits0] at hsame
      exact hsame rfl
    have hlow : 2 ^ (num / den).log2 ≤ num / den := Nat.log2_self_le hzero
    have hless : units < 2 ^ (num / den).log2 := by
      by_contra hnot
      refine hsame ?_
      have hhigh : num / den < 2 ^ ((num / den).log2 + 1) := Nat.lt_log2_self
      rw [spacing_eq hlow hhigh, spacing_eq (Nat.le_of_not_lt hnot) (by omega)]
    calc units
      _ ≤ 2 ^ (num / den).log2 := Nat.le_of_lt hless
      _ ≤ roundUnits num den := by
        refine le_roundUnits_of_dvd hden ?_ ((Nat.le_div_iff_mul_le hden).1 hlow)
        exact Nat.pow_dvd_pow 2 (by omega)

/-- Doubles are rounded to themselves. -/
theorem roundUnits_mul_self (hden : 0 < den) (hunits : IsOnGrid units) :
    roundUnits (units * den) den = units :=
  Nat.le_antisymm (roundUnits_le hden hunits (Nat.le_refl _))
    (le_roundUnits hden hunits (Nat.le_refl _))

theorem roundUnits_self (hunits : IsOnGrid units) : roundUnits units 1 = units := by
  have h : roundUnits (units * 1) 1 = units := roundUnits_mul_self Nat.one_pos hunits
  rwa [Nat.mul_one] at h

/-- Less than half a spacing is lost. -/
theorem roundUnits_add {rest : Nat} (hunits : IsOnGrid units) (hpos : 0 < units)
    (hrest : 2 * rest < spacing units) : roundUnits (units + rest) 1 = units := by
  have hbelow : 0 < below units := by
    have hgap := spacing_pos units
    unfold below
    split <;> omega
  refine roundUnits_of_contains hpos hunits Nat.one_pos ?_
  exact contains_of_lt hpos hunits (by omega) (by omega)

/-- What comes out of rounding is a double, if it is in range. -/
theorem isOnGrid_roundUnits (hden : 0 < den) : IsOnGrid (roundUnits num den) := by
  have hhigh : num / den < 2 ^ ((num / den).log2 + 1) := Nat.lt_log2_self
  have htop : roundUnits num den ≤ 2 ^ ((num / den).log2 + 1) :=
    roundUnits_le hden (isOnGrid_two_pow _) (num_le_of_div_lt hden hhigh)
  have hdvd : spacing (num / den) ∣ roundUnits num den := Nat.dvd_mul_left _ _
  rcases Nat.lt_or_eq_of_le htop with hlt | heq
  · refine Nat.dvd_trans ?_ hdvd
    refine Nat.pow_dvd_pow 2 ?_
    rcases Nat.eq_zero_or_pos (roundUnits num den) with hzero | hpos
    · simp [hzero]
    · have hlog : (roundUnits num den).log2 < (num / den).log2 + 1 :=
        (Nat.log2_lt (by omega)).2 hlt
      omega
  · rw [heq]
    exact isOnGrid_two_pow _

/-- Rounding keeps the order. -/
theorem roundUnits_mono (hden : 0 < den) (h : num ≤ num') :
    roundUnits num den ≤ roundUnits num' den := by
  have hplace : num / den ≤ num' / den := Nat.div_le_div_right h
  by_cases hsame : spacing (num / den) = spacing (num' / den)
  · unfold roundUnits
    simp only [hsame]
    exact Nat.mul_le_mul_right _ (roundQuotient_mono _ h)
  · -- A power of two lies between the two quotients.
    have hhigh : num / den < 2 ^ ((num / den).log2 + 1) := Nat.lt_log2_self
    have hbetween : 2 ^ ((num / den).log2 + 1) ≤ num' / den := by
      by_contra hnot
      refine hsame ?_
      rcases Nat.eq_zero_or_pos (num / den) with hzero | hpos
      · rw [hzero] at hnot ⊢
        rw [spacing_of_lt (by decide), spacing_of_lt]
        have : num' / den < 2 := by simpa using hnot
        omega
      · have hlow : 2 ^ (num / den).log2 ≤ num / den := Nat.log2_self_le (by omega)
        rw [spacing_eq hlow hhigh, spacing_eq (Nat.le_trans hlow hplace) (by omega)]
    calc roundUnits num den
      _ ≤ 2 ^ ((num / den).log2 + 1) :=
        roundUnits_le hden (isOnGrid_two_pow _) (num_le_of_div_lt hden hhigh)
      _ ≤ roundUnits num' den :=
        le_roundUnits hden (isOnGrid_two_pow _) ((Nat.le_div_iff_mul_le hden).1 hbetween)

/-- The distance from a quotient to its rounded value is at most half a spacing. -/
theorem roundUnits_bounds (hden : 0 < den) :
    2 * (roundUnits num den * den) ≤ 2 * num + den * spacing (num / den) ∧
      2 * num ≤ 2 * (roundUnits num den * den) + den * spacing (num / den) := by
  have hgap : 0 < spacing (num / den) := spacing_pos _
  unfold roundUnits
  simp only
  generalize spacing (num / den) = gap at hgap
  have hscaled : roundQuotient num (den * gap) * gap * den =
      roundQuotient num (den * gap) * (den * gap) := by ring
  rw [hscaled]
  exact roundQuotient_bounds (Nat.mul_pos hden hgap)

/-! ## Products -/

/-- Multiplying by one or more makes nothing smaller. -/
theorem le_roundUnits_mul {f : Nat} (hunits : IsOnGrid units) (hf : one ≤ f) :
    units ≤ roundUnits (units * f) one :=
  le_roundUnits Decimal.one_pos hunits (Nat.mul_le_mul_left units hf)

/-- Multiplying by more than one makes every number greater that has all its bits. -/
theorem lt_roundUnits_mul {f : Nat} (hunits : IsOnGrid units) (hlarge : 2 ^ 52 ≤ units)
    (hgrid : IsOnGrid f) (hf : one < f) : units < roundUnits (units * f) one := by
  have hnext : one + spacing one ≤ f :=
    add_le_of_dvd isOnGrid_one
      (Nat.dvd_trans (spacing_dvd_spacing (Nat.le_of_lt hf)) hgrid) hf
  have hstep : spacing units * one ≤ units * spacing one := by
    calc spacing units * one
      _ = spacing units * (2 ^ 52 * spacing one) := by rw [two_pow_mul_spacing_one]
      _ = 2 ^ 52 * spacing units * spacing one := by rw [← Nat.mul_assoc, Nat.mul_comm _ (2 ^ 52)]
      _ ≤ units * spacing one := Nat.mul_le_mul_right _ (two_pow_mul_spacing_le hlarge)
  have hproduct : (units + spacing units) * one ≤ units * f := by
    calc (units + spacing units) * one
      _ = units * one + spacing units * one := Nat.add_mul _ _ _
      _ ≤ units * one + units * spacing one := Nat.add_le_add_left hstep _
      _ = units * (one + spacing one) := (Nat.mul_add _ _ _).symm
      _ ≤ units * f := Nat.mul_le_mul_left units hnext
  calc units
    _ < units + spacing units := Nat.lt_add_of_pos_right (spacing_pos units)
    _ ≤ roundUnits (units * f) one :=
      le_roundUnits Decimal.one_pos (hunits.add_spacing (by omega)) hproduct

/-! ## Results in range -/

theorem lt_overflow {k : Nat} (hk : k < 1024) (h : units ≤ 2 ^ k * one) : units < overflow := by
  obtain ⟨top, htop, hoverflow⟩ : ∃ top, 1024 ≤ top ∧ overflow = 2 ^ top * one :=
    ⟨1024, Nat.le_refl _, Decimal.overflow_eq_mul⟩
  have hlt : 2 ^ k < 2 ^ top := Nat.pow_lt_pow_right (by decide) (Nat.lt_of_lt_of_le hk htop)
  calc units
    _ ≤ 2 ^ k * one := h
    _ < 2 ^ top * one := Nat.mul_lt_mul_of_pos_right hlt Decimal.one_pos
    _ = overflow := hoverflow.symm

theorem ofUnits_eq (negative : Bool) (h : roundUnits num den < overflow) :
    ofUnits negative num den = .finite negative (roundUnits num den) := by
  unfold ofUnits
  exact if_pos h

/-- The smaller of a result and a number in range: a result out of range counts as
what it is before it becomes infinite. -/
theorem min_ofUnits {longest : Nat} (h : longest < overflow) :
    (ofUnits false num den).min (.finite false longest) =
      .finite false (Min.min (roundUnits num den) longest) := by
  have hlt (u : Nat) : (finite false longest).lt (.finite false u) = decide (longest < u) := by
    simp [lt, signedUnits]
  unfold ofUnits
  simp only
  split
  · rw [Double.min, hlt]
    · by_cases hless : longest < roundUnits num den
      · rw [if_pos (decide_eq_true hless), Nat.min_eq_right (Nat.le_of_lt hless)]
      · rw [if_neg (by simpa using hless), Nat.min_eq_left (Nat.le_of_not_lt hless)]
    · exact fun h => nomatch h
    · exact fun h => nomatch h
  · rename_i hlarge
    rw [Nat.min_eq_right (Nat.le_trans (Nat.le_of_lt h) (Nat.le_of_not_lt hlarge))]
    rfl

end RemoteConfig.Double
