import Mathlib.Tactic.Ring
import RemoteConfig.Number.Shortest

/-!
# Rounding to doubles

A quotient is rounded to the nearest multiple of the spacing of doubles at its
place.  All comparisons are between natural numbers: `num / den` lies at most
half a step from `units` if twice the distance of `num` from `units * den` is
at most `den` steps.

* `roundQuotient_eq` says which whole number a quotient is rounded to.
* `IsMagnitude` says which numbers of units are those of doubles.
* `roundUnits_of_contains` is the result: every quotient in the interval of
  `Decimal.readBack` is rounded to the double that the interval belongs to.
-/

namespace RemoteConfig.Double

/-! ## Rounding to whole numbers -/

/-- A quotient is rounded to a number at most one half away, and of two such
numbers to the even one. -/
theorem roundQuotient_eq {num den k : Nat} (hden : 0 < den)
    (hlow : 2 * (k * den) ≤ 2 * num + den) (hhigh : 2 * num ≤ 2 * (k * den) + den)
    (htie : 2 * num = 2 * (k * den) + den ∨ 2 * (k * den) = 2 * num + den → k % 2 = 0) :
    roundQuotient num den = k := by
  have hmod : num % den < den := Nat.mod_lt num hden
  have hdiv : num / den * den + num % den = num := Nat.div_add_mod' num den
  have hle : num / den ≤ k := by
    by_contra hgt
    have hstep : (k + 1) * den ≤ num / den * den := Nat.mul_le_mul_right den (by omega)
    rw [Nat.succ_mul] at hstep
    omega
  have hge : k ≤ num / den + 1 := by
    by_contra hgt
    have hstep : (num / den + 2) * den ≤ k * den := Nat.mul_le_mul_right den (by omega)
    rw [Nat.add_mul] at hstep
    omega
  unfold roundQuotient
  simp only
  obtain hk | hk : k = num / den ∨ k = num / den + 1 := by omega
  · rw [hk] at hlow hhigh htie ⊢
    split
    · rfl
    · rename_i hhalf
      have heven : num / den % 2 = 0 := htie (by omega)
      have hnot : ¬ den < 2 * (num % den) := by omega
      rw [if_neg hnot, if_pos heven]
  · have hsucc : (num / den + 1) * den = num / den * den + den := Nat.succ_mul _ _
    rw [hk, hsucc] at hlow hhigh htie
    rw [hk]
    have hnot : ¬ 2 * (num % den) < den := by omega
    rw [if_neg hnot]
    split
    · rfl
    · rename_i hhalf
      have heven : (num / den + 1) % 2 = 0 := htie (by omega)
      have hodd : ¬ num / den % 2 = 0 := by omega
      rw [if_neg hodd]

/-! ## The spacing of doubles -/

theorem spacing_pos (units : Nat) : 0 < spacing units :=
  Nat.two_pow_pos _

/-- A number of units that some double has. -/
def IsMagnitude (units : Nat) : Prop :=
  spacing units ∣ units ∧ units < overflow

instance (units : Nat) : Decidable (IsMagnitude units) :=
  inferInstanceAs (Decidable (_ ∧ _))

theorem spacing_eq {units L : Nat} (hlow : 2 ^ L ≤ units) (hhigh : units < 2 ^ (L + 1)) :
    spacing units = 2 ^ (L - 52) := by
  have hne : units ≠ 0 := by
    have := Nat.two_pow_pos L
    omega
  have hlog : units.log2 = L := (Nat.log2_eq_iff hne).2 ⟨hlow, hhigh⟩
  rw [spacing, hlog]
  rfl

/-- Between two multiples of a step there is at least one step. -/
theorem add_le_of_dvd {step a b : Nat} (ha : step ∣ a) (hb : step ∣ b) (h : a < b) :
    a + step ≤ b := by
  have := Nat.le_of_dvd (Nat.sub_pos_of_lt h) (Nat.dvd_sub hb ha)
  omega

/-- The place of a double, its spacing, and how many spacings it is. -/
theorem exists_place {units : Nat} (hpos : 0 < units) (hdvd : spacing units ∣ units) :
    ∃ L k, 2 ^ L ≤ units ∧ units + spacing units ≤ 2 ^ (L + 1) ∧
      spacing units = 2 ^ (L - 52) ∧ units = k * spacing units := by
  have hlow : 2 ^ units.log2 ≤ units := Nat.log2_self_le (by omega)
  have hhigh : units < 2 ^ (units.log2 + 1) := Nat.lt_log2_self
  have hgap : spacing units = 2 ^ (units.log2 - 52) := rfl
  have hpow : spacing units ∣ 2 ^ (units.log2 + 1) := by
    rw [hgap]
    exact Nat.pow_dvd_pow 2 (by omega)
  have htop := add_le_of_dvd hdvd hpow hhigh
  obtain ⟨k, hk⟩ := hdvd
  exact ⟨units.log2, k, hlow, htop, hgap, by rw [Nat.mul_comm]; exact hk⟩

theorem spacing_of_lt {units : Nat} (h : units < 2 ^ 53) : spacing units = 1 := by
  have hlog : units.log2 - 52 = 0 := by
    rcases Nat.eq_zero_or_pos units with rfl | hpos
    · rfl
    · have := (Nat.log2_lt (by omega)).2 h
      omega
  rw [spacing, hlog]

/-! ## The interval of a double -/

/-- The distance of the lower end of the interval, in quarters of a unit. -/
def below (units : Nat) : Nat :=
  if 1 < spacing units && units = Nat.pow 2 units.log2 then spacing units else 2 * spacing units

theorem below_le (units : Nat) : below units ≤ 2 * spacing units := by
  unfold below
  split <;> omega

/-- The interval without subtractions.  Its ends belong to it if the double is
even. -/
theorem contains_iff {units num den : Nat} (hpos : 0 < units) (hdvd : spacing units ∣ units) :
    (Decimal.readBack units).contains num den = true ↔
      if units / spacing units % 2 = 0 then
        4 * (units * den) ≤ num + below units * den ∧
        num ≤ 4 * (units * den) + 2 * (spacing units * den)
      else
        4 * (units * den) < num + below units * den ∧
        num < 4 * (units * den) + 2 * (spacing units * den) := by
  have hroom : below units ≤ 4 * units := by
    have h1 := below_le units
    have h2 := Nat.le_of_dvd hpos hdvd
    omega
  have hlow : (4 * units - below units) * den = 4 * (units * den) - below units * den := by
    rw [Nat.sub_mul, Nat.mul_assoc]
  have hhigh : (4 * units + 2 * spacing units) * den =
      4 * (units * den) + 2 * (spacing units * den) := by
    rw [Nat.add_mul, Nat.mul_assoc, Nat.mul_assoc]
  have hroom' : below units * den ≤ 4 * (units * den) := by
    rw [← Nat.mul_assoc]
    exact Nat.mul_le_mul_right den hroom
  change Decimal.ReadBack.contains ⟨4 * units - below units, 4 * units + 2 * spacing units,
    decide (units / spacing units % 2 = 0)⟩ num den = true ↔ _
  unfold Decimal.ReadBack.contains
  simp only [hlow, hhigh, decide_eq_true_eq]
  split
  · simp only [Bool.and_eq_true, decide_eq_true_eq]
    omega
  · simp only [Bool.and_eq_true, decide_eq_true_eq]
    omega

theorem contains_bounds {units num den : Nat} (hpos : 0 < units) (hdvd : spacing units ∣ units)
    (h : (Decimal.readBack units).contains num den = true) :
    4 * (units * den) ≤ num + below units * den ∧
    num ≤ 4 * (units * den) + 2 * (spacing units * den) ∧
    (4 * (units * den) = num + below units * den ∨
      num = 4 * (units * den) + 2 * (spacing units * den) → units / spacing units % 2 = 0) := by
  rw [contains_iff hpos hdvd] at h
  split at h
  · rename_i heven
    exact ⟨h.1, h.2, fun _ => heven⟩
  · exact ⟨by omega, by omega, by omega⟩

/-- What lies inside is in the interval, whether or not the ends are. -/
theorem contains_of_lt {units num den : Nat} (hpos : 0 < units) (hdvd : spacing units ∣ units)
    (hlow : 4 * (units * den) < num + below units * den)
    (hhigh : num < 4 * (units * den) + 2 * (spacing units * den)) :
    (Decimal.readBack units).contains num den = true := by
  rw [contains_iff hpos hdvd]
  split
  · exact ⟨by omega, by omega⟩
  · exact ⟨hlow, hhigh⟩

/-- Rounding at the spacing of the quotient itself. -/
theorem roundUnits_eq {units num den k : Nat} (hden : 0 < den)
    (hunits : units = k * spacing (num / den))
    (hlow : 4 * (units * den) ≤ 4 * num + 2 * (spacing (num / den) * den))
    (hhigh : 4 * num ≤ 4 * (units * den) + 2 * (spacing (num / den) * den))
    (htie : 4 * (units * den) = 4 * num + 2 * (spacing (num / den) * den) ∨
      4 * num = 4 * (units * den) + 2 * (spacing (num / den) * den) → k % 2 = 0) :
    roundUnits num den = units := by
  have hgap := spacing_pos (num / den)
  unfold roundUnits
  generalize spacing (num / den) = gap at *
  have hscaled : units * den = k * (den * gap) := by
    rw [hunits]
    ring
  have hcomm : gap * den = den * gap := Nat.mul_comm _ _
  rw [hscaled, hcomm] at hlow hhigh htie
  have hround : roundQuotient num (den * gap) = k :=
    roundQuotient_eq (Nat.mul_pos hden hgap) (by omega) (by omega) (fun h => htie (by omega))
  simp only [hround]
  exact hunits.symm

theorem two_pow_eq_two_mul {L : Nat} (hL : 0 < L) : 2 ^ L = 2 * 2 ^ (L - 1) := by
  rw [← Nat.pow_succ']
  congr 1
  omega

/-- Just below a power of two, where doubles are twice as dense as above it,
quotients up to half a step away are rounded up to the power. -/
theorem roundUnits_two_pow {L num den : Nat} (hden : 0 < den) (hL : 53 ≤ L)
    (hnum : num < 2 ^ L * den) (hlow : 4 * (2 ^ L * den) ≤ 4 * num + 2 ^ (L - 52) * den) :
    roundUnits num den = 2 ^ L := by
  have htwice : 2 ^ L * den = 2 * (2 ^ (L - 1) * den) := by
    rw [two_pow_eq_two_mul (by omega), Nat.mul_assoc]
  have hstep : 2 ^ (L - 52) * den = 2 * (2 ^ (L - 1 - 52) * den) := by
    have hpred : L - 52 - 1 = L - 1 - 52 := by omega
    rw [two_pow_eq_two_mul (L := L - 52) (by omega), hpred, Nat.mul_assoc]
  have hsmaller : 2 ^ (L - 52) * den ≤ 2 ^ L * den :=
    Nat.mul_le_mul_right den (Nat.pow_le_pow_right (by decide) (by omega))
  have hfloor : 2 ^ (L - 1) ≤ num / den := by
    rw [Nat.le_div_iff_mul_le hden]
    omega
  have hspacing : spacing (num / den) = 2 ^ (L - 1 - 52) := by
    refine spacing_eq hfloor ?_
    have hsucc : L - 1 + 1 = L := by omega
    rw [hsucc, Nat.div_lt_iff_lt_mul hden]
    exact hnum
  -- The power of two is an even number of steps.
  have heven : 2 ^ L = 2 * 2 ^ 52 * 2 ^ (L - 1 - 52) := by
    rw [← Nat.pow_succ', ← Nat.pow_add]
    congr 1
    omega
  refine roundUnits_eq (k := 2 * 2 ^ 52) hden ?_ ?_ ?_ (fun _ => by decide)
  · rw [hspacing]
    exact heven
  · rw [hspacing]
    omega
  · rw [hspacing]
    omega

/-- Every quotient in the interval around a double is rounded to it.  The
interval is given in quarters of a unit. -/
theorem roundUnits_of_contains {units num den : Nat} (hpos : 0 < units)
    (hdvd : spacing units ∣ units) (hden : 0 < den)
    (h : (Decimal.readBack units).contains (4 * num) den = true) : roundUnits num den = units := by
  obtain ⟨L, k, hplace, htop, hgap, hk⟩ := exists_place hpos hdvd
  obtain ⟨hlow, hhigh, htie⟩ := contains_bounds hpos hdvd h
  have hgappos := spacing_pos units
  have hgapden : 0 < spacing units * den := Nat.mul_pos hgappos hden
  have hbelow : below units * den ≤ 2 * (spacing units * den) := by
    rw [← Nat.mul_assoc]
    exact Nat.mul_le_mul_right den (below_le units)
  have heven : units / spacing units = k := Nat.div_eq_of_eq_mul_left hgappos hk
  -- A quotient at the same place as the double.
  have hsame (hspacing : spacing (num / den) = spacing units) : roundUnits num den = units := by
    refine roundUnits_eq hden (hspacing.symm ▸ hk) ?_ ?_ ?_
    · rw [hspacing]
      omega
    · rw [hspacing]
      omega
    · rw [hspacing, ← heven]
      intro hend
      exact htie (by omega)
  have habove : num / den < 2 ^ (L + 1) := by
    have htopden : (units + spacing units) * den ≤ 2 ^ (L + 1) * den :=
      Nat.mul_le_mul_right den htop
    rw [Nat.add_mul] at htopden
    rw [Nat.div_lt_iff_lt_mul hden]
    omega
  by_cases hat : 2 ^ L ≤ num / den
  · exact hsame ((spacing_eq hat habove).trans hgap.symm)
  · have hnum : num < 2 ^ L * den := by
      rw [← Nat.div_lt_iff_lt_mul hden]
      omega
    -- Only a power of two has quotients of a lower place around it.
    have hpower : units = 2 ^ L := by
      by_contra hne
      have hpow : spacing units ∣ 2 ^ L := by
        rw [hgap]
        exact Nat.pow_dvd_pow 2 (by omega)
      have hstep := add_le_of_dvd hpow hdvd (by omega)
      have hstepden : (2 ^ L + spacing units) * den ≤ units * den := Nat.mul_le_mul_right den hstep
      rw [Nat.add_mul] at hstepden
      omega
    by_cases hL : 53 ≤ L
    · have hnear : below units = spacing units := by
        have hfine : 1 < spacing units := by
          rw [hgap]
          exact Nat.one_lt_two_pow (by omega)
        have hlog : units = Nat.pow 2 units.log2 := by
          rw [hpower, Nat.log2_two_pow]
          rfl
        unfold below
        rw [if_pos]
        simp only [Bool.and_eq_true, decide_eq_true_eq]
        exact ⟨hfine, hlog⟩
      rw [hnear, hgap, hpower] at hlow
      rw [hpower]
      exact roundUnits_two_pow hden hL hnum hlow
    · refine hsame ?_
      have hzero : L - 52 = 0 := by omega
      rw [hgap, hzero]
      refine spacing_of_lt ?_
      calc num / den
        _ < 2 ^ L := by omega
        _ ≤ 2 ^ 53 := Nat.pow_le_pow_right (by decide) (by omega)

end RemoteConfig.Double
