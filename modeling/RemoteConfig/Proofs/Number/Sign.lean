import RemoteConfig.Proofs.Number.Shortest

/-!
# Signs of doubles

Numbers that are not negative stay so: sums, quotients by positive numbers, and
products with positive numbers are numbers that are not negative, and the
greater of such a number and zero is the number itself.
-/

namespace RemoteConfig.Double

/-- A number without a minus sign. -/
inductive IsUnsigned : Double → Prop where
  | infinite : IsUnsigned (.infinite false)
  | finite (units : Nat) : IsUnsigned (.finite false units)

/-- A finite number above zero. -/
inductive IsPositive : Double → Prop where
  | intro (units : Nat) (h : 0 < units) : IsPositive (.finite false units)

theorem isUnsigned_ofUnits (num den : Nat) : (ofUnits false num den).IsUnsigned := by
  unfold ofUnits
  simp only
  split
  · exact .finite _
  · exact .infinite

theorem isUnsigned_ofNat (n : Nat) : (ofNat n).IsUnsigned := by
  unfold ofNat
  exact isUnsigned_ofUnits _ _

variable {x y : Double}

theorem IsUnsigned.add (hx : x.IsUnsigned) (hy : y.IsUnsigned) : (x.add y).IsUnsigned := by
  cases hx with
  | infinite => cases hy <;> exact .infinite
  | finite u =>
    cases hy with
    | infinite => exact .infinite
    | finite v =>
      rw [Double.add, if_pos rfl]
      exact isUnsigned_ofUnits _ _

theorem IsUnsigned.div (hx : x.IsUnsigned) (hy : y.IsPositive) : (x.div y).IsUnsigned := by
  obtain ⟨v, hv⟩ := hy
  cases hx with
  | infinite => exact .infinite
  | finite u =>
    rw [Double.div, if_neg (by omega), bne_self_eq_false]
    exact isUnsigned_ofUnits _ _

theorem IsUnsigned.mul (hx : x.IsUnsigned) (hy : y.IsPositive) : (x.mul y).IsUnsigned := by
  obtain ⟨v, hv⟩ := hy
  cases hx with
  | infinite =>
    rw [Double.mul, if_neg (by omega)]
    exact .infinite
  | finite u =>
    rw [Double.mul, bne_self_eq_false]
    exact isUnsigned_ofUnits _ _

theorem IsUnsigned.min (hx : x.IsUnsigned) (hy : y.IsUnsigned) : (x.min y).IsUnsigned := by
  have hcases : x.min y = x ∨ x.min y = y := by
    unfold Double.min
    split
    · exact Or.inr rfl
    · exact Or.inl rfl
    · split
      · exact Or.inr rfl
      · exact Or.inl rfl
  rcases hcases with h | h
  · rw [h]
    exact hx
  · rw [h]
    exact hy

/-- A number that is not less than another one is the greater of both. -/
theorem max_eq_left (hx : x ≠ nan) (hy : y ≠ nan) (hlt : x.lt y = false) : x.max y = x := by
  rw [Double.max]
  · exact if_neg (by simp [hlt])
  · exact hx
  · exact hy

theorem IsUnsigned.lt_zero (hx : x.IsUnsigned) : x.lt zero = false := by
  cases hx with
  | infinite => rfl
  | finite u =>
    simp only [zero, lt, signedUnits, Bool.false_eq_true, if_false, decide_eq_false_iff_not]
    omega

theorem IsUnsigned.ne_nan (hx : x.IsUnsigned) : x ≠ nan := by
  rintro rfl
  cases hx

/-- Nothing that is not negative is raised to zero. -/
theorem IsUnsigned.max_zero (hx : x.IsUnsigned) : x.max zero = x :=
  max_eq_left hx.ne_nan (fun h => nomatch h) hx.lt_zero

theorem ofNat_one : ofNat 1 = finite false one := by
  decide +kernel

/-- Finite numbers that are not less than one are positive. -/
theorem isPositive_of_not_lt (hfinite : x.isFinite = true) (hlt : x.lt (ofNat 1) = false) :
    x.IsPositive := by
  rw [ofNat_one] at hlt
  have hone : 0 < one := Decimal.one_pos
  cases x with
  | nan => cases hfinite
  | infinite s => cases hfinite
  | finite s u =>
    simp only [lt, decide_eq_false_iff_not] at hlt
    cases s with
    | true =>
      simp only [signedUnits, if_true, Bool.false_eq_true, if_false] at hlt
      omega
    | false =>
      simp only [signedUnits, Bool.false_eq_true, if_false] at hlt
      exact .intro u (by omega)

/-- The greater of a finite number and one. -/
theorem exists_max_one (hfinite : x.isFinite = true) :
    ∃ units, x.max (ofNat 1) = .finite false units ∧ one ≤ units := by
  cases hlt : x.lt (ofNat 1) with
  | true =>
    refine ⟨one, ?_, Nat.le_refl _⟩
    rw [ofNat_one] at hlt ⊢
    cases x with
    | nan => cases hfinite
    | infinite s => cases hfinite
    | finite s u =>
      rw [Double.max, if_pos hlt]
      · exact fun h => nomatch h
      · exact fun h => nomatch h
  | false =>
    obtain ⟨u, hu⟩ := isPositive_of_not_lt hfinite hlt
    refine ⟨u, max_eq_left (fun h => nomatch h) (isUnsigned_ofNat 1).ne_nan hlt, ?_⟩
    rw [ofNat_one] at hlt
    simp only [lt, signedUnits, Bool.false_eq_true, if_false, decide_eq_false_iff_not] at hlt
    omega

end RemoteConfig.Double
