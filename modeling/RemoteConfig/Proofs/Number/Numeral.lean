import RemoteConfig.Proofs.Number.Digits
import RemoteConfig.Proofs.Number.Shortest
import RemoteConfig.Text.Blank

/-!
# Numerals read back

Numbers are read back from the texts that they are written as.

* `toDouble_of_readsBack` rounds every decimal in the interval of a double to
  that double.
* `double?_doubleText` is the round trip of doubles: the shortest decimal,
  written out positionally, denotes the double that it was made from.
* `word64?_text` and `word32?_text` are the round trips of natural numbers.
* `double?_trim_doubleText`, `word64?_trim_text` and `word32?_trim_text` are the
  same for texts that are trimmed first.
-/

namespace RemoteConfig

/-! ## Texts without blanks -/

/-- A text without blanks is not shortened. -/
theorem Text.trim_eq_self {s : String} (h : ∀ c ∈ s.toList, isBlank c = false) : trim s = s := by
  have hkeep (cs : List Char) (hcs : ∀ c ∈ cs, isBlank c = false) : cs.dropWhile isBlank = cs := by
    cases cs with
    | nil => rfl
    | cons c cs => simp [hcs c List.mem_cons_self]
  rw [trim, trimChars, hkeep _ h, hkeep _ (fun c hc => h c (List.mem_reverse.1 hc)),
    List.reverse_reverse, String.ofList_toList]

namespace Decimal

/-! ## The number of digits -/

theorem width_eq (n : Nat) : width n = if n < 10 then 1 else width (n / 10) + 1 := by
  unfold width
  rw [Nat.toDigits_eq_if (by decide)]
  split
  · rfl
  · rw [List.length_append]
    rfl

/-- A number lies between the powers of ten around its width. -/
theorem width_bounds {n : Nat} (hn : 0 < n) :
    ∃ k, width n = k + 1 ∧ 10 ^ k ≤ n ∧ n < 10 ^ (k + 1) := by
  induction n using Nat.strongRecOn with
  | ind n ih =>
    rw [width_eq]
    split
    · exact ⟨0, rfl, by omega, by omega⟩
    · obtain ⟨k, hk, hlow, hhigh⟩ := ih (n / 10) (by omega) (by omega)
      refine ⟨k + 1, by rw [hk], ?_, ?_⟩
      · rw [Nat.pow_succ]
        omega
      · rw [Nat.pow_succ]
        omega

/-! ## The place of the leading digit -/

/-- A decimal that reads back is at most twice the double, and at least half of
it. -/
theorem ReadsBack.bounds {units digits : Nat} {exponent : Int} (hpos : 0 < units)
    (hdvd : Double.spacing units ∣ units) (h : ReadsBack units digits exponent) :
    digits * stepNum exponent ≤ 2 * (units * stepDen exponent) ∧
      units * stepDen exponent ≤ 2 * (digits * stepNum exponent) := by
  obtain ⟨hlow, hhigh, -⟩ := Double.contains_bounds hpos hdvd h
  have hgap : Double.spacing units * stepDen exponent ≤ units * stepDen exponent :=
    Nat.mul_le_mul_right _ (Nat.le_of_dvd hpos hdvd)
  have hbelow : Double.below units * stepDen exponent ≤
      2 * (Double.spacing units * stepDen exponent) := by
    rw [← Nat.mul_assoc]
    exact Nat.mul_le_mul_right _ (Double.below_le units)
  exact ⟨by omega, by omega⟩

theorem ReadsBack.digits_pos {units digits : Nat} {exponent : Int} (hpos : 0 < units)
    (hdvd : Double.spacing units ∣ units) (h : ReadsBack units digits exponent) :
    0 < digits := by
  have hlow := (h.bounds hpos hdvd).2
  have hunits : 0 < units * stepDen exponent := Nat.mul_pos hpos (stepDen_pos exponent)
  rcases Nat.eq_zero_or_pos digits with rfl | hdigits
  · omega
  · exact hdigits

/-- No decimal that reads back is too great to be looked at. -/
theorem ReadsBack.leading_le {units digits : Nat} {exponent : Int} (hpos : 0 < units)
    (hunits : Double.IsMagnitude units) (h : ReadsBack units digits exponent) :
    (width digits : Int) + exponent ≤ 310 := by
  obtain ⟨k, hk, hdigits, -⟩ := width_bounds (h.digits_pos hpos hunits.1)
  obtain ⟨hhigh, -⟩ := h.bounds hpos hunits.1
  by_contra hgreat
  have hstep := step_sub (exponent + k) k
  have hsub : exponent + k - k = exponent := by omega
  rw [hsub] at hstep
  have hlead : stepNum (exponent + k) ≤ 2 * units * stepDen (exponent + k) := by
    refine Nat.le_of_mul_le_mul_right ?_ (stepDen_pos exponent)
    calc stepNum (exponent + k) * stepDen exponent
      _ = 10 ^ k * stepNum exponent * stepDen (exponent + k) := by rw [hstep, Nat.mul_assoc]
      _ ≤ digits * stepNum exponent * stepDen (exponent + k) :=
        Nat.mul_le_mul_right _ (Nat.mul_le_mul_right _ hdigits)
      _ ≤ 2 * (units * stepDen exponent) * stepDen (exponent + k) :=
        Nat.mul_le_mul_right _ hhigh
      _ = 2 * units * stepDen (exponent + k) * stepDen exponent := by ring
  have hnonneg : 0 ≤ exponent + k := by omega
  rw [stepNum, stepDen, if_pos hnonneg, if_pos hnonneg] at hlead
  have hsize : units < 2 ^ 1024 * Double.one := overflow_eq_mul ▸ hunits.2
  have htwice (n : Nat) : 2 * 2 ^ n = 2 ^ (n + 1) := Nat.pow_succ'.symm
  have hpower : 2 * 2 ^ 1024 ≤ 10 ^ (exponent + k).toNat := by
    rw [htwice]
    exact two_pow_le_ten_pow (by omega)
  have hscaled : 2 * 2 ^ 1024 * Double.one ≤ 10 ^ (exponent + k).toNat * Double.one :=
    Nat.mul_le_mul_right _ hpower
  rw [Nat.mul_assoc] at hscaled
  omega

/-- No decimal that reads back is too small to be looked at. -/
theorem ReadsBack.le_leading {units digits : Nat} {exponent : Int} (hpos : 0 < units)
    (hdvd : Double.spacing units ∣ units) (h : ReadsBack units digits exponent) :
    -330 ≤ (width digits : Int) + exponent := by
  obtain ⟨k, hk, -, hdigits⟩ := width_bounds (h.digits_pos hpos hdvd)
  obtain ⟨-, hlow⟩ := h.bounds hpos hdvd
  by_contra hsmall
  have hstep := step_sub (exponent + (k + 1 : Nat)) (k + 1)
  have hsub : exponent + (k + 1 : Nat) - (k + 1 : Nat) = exponent := by omega
  rw [hsub] at hstep
  generalize hlast : exponent + (k + 1 : Nat) = last at hstep
  have hlead : stepDen last ≤ 2 * stepNum last := by
    refine Nat.le_of_mul_le_mul_right ?_ (stepDen_pos exponent)
    calc stepDen last * stepDen exponent
      _ = 1 * stepDen exponent * stepDen last := by ring
      _ ≤ units * stepDen exponent * stepDen last :=
        Nat.mul_le_mul_right _ (Nat.mul_le_mul_right _ hpos)
      _ ≤ 2 * (digits * stepNum exponent) * stepDen last := Nat.mul_le_mul_right _ hlow
      _ ≤ 2 * (10 ^ (k + 1) * stepNum exponent) * stepDen last :=
        Nat.mul_le_mul_right _ (Nat.mul_le_mul_left 2
          (Nat.mul_le_mul_right _ (Nat.le_of_lt hdigits)))
      _ = 2 * stepNum last * stepDen exponent := by rw [Nat.mul_assoc 2 (stepNum last), hstep]; ring
  have hneg : ¬ 0 ≤ last := by omega
  rw [stepNum, stepDen, if_neg hneg, if_neg hneg, one_eq] at hlead
  have hpower : 2 ^ 1076 ≤ 10 ^ (-last).toNat := two_pow_le_ten_pow (by omega)
  have htwice : 2 ^ 1076 = 2 * (2 * 2 ^ 1074) := by rw [← Nat.pow_succ', ← Nat.pow_succ']
  have hone : 0 < 2 ^ 1074 := Nat.two_pow_pos 1074
  omega

/-! ## Rounding of decimals -/

/-- A decimal that reads back as a double is rounded to the double. -/
theorem toDouble_of_readsBack {negative : Bool} {units digits : Nat} {exponent : Int}
    (hpos : 0 < units) (hunits : Double.IsMagnitude units)
    (h : ReadsBack units digits exponent) :
    toDouble negative digits exponent = .finite negative units := by
  have hdigits := h.digits_pos hpos hunits.1
  have hhigh := h.leading_le hpos hunits
  have hlow := h.le_leading hpos hunits.1
  have hround : Double.ofUnits negative (digits * stepNum exponent) (stepDen exponent) =
      .finite negative units := by
    have hunit := Double.roundUnits_of_contains hpos hunits.1 (stepDen_pos exponent) h
    simp only [Double.ofUnits, hunit, if_pos hunits.2]
  unfold toDouble
  simp only
  rw [if_neg (by omega), if_neg (by omega), if_neg (by omega), ← hround]
  unfold stepNum stepDen
  split
  · rw [Nat.mul_assoc, Nat.pow_eq]
  · rw [Nat.pow_eq]

/-- Zeros after the digits make up for the exponent. -/
theorem readsBack_zeros {units digits : Nat} (n : Nat) {exponent : Int} :
    ReadsBack units (digits * 10 ^ n) exponent ↔ ReadsBack units digits (exponent + n) := by
  induction n generalizing exponent with
  | zero => simp
  | succ n ih =>
    have hexp : exponent + (n + 1 : Nat) = exponent + 1 + n := by omega
    rw [Nat.pow_succ, ← Nat.mul_assoc, readsBack_shift, ih, hexp]

/-! ## Digits and numerals -/

theorem value_append (acc : Nat) (xs ys : List Char) :
    value acc (xs ++ ys) = value (value acc xs) ys :=
  List.foldl_append

theorem value_zeros (acc n : Nat) : value acc (List.replicate n '0') = acc * 10 ^ n := by
  induction n generalizing acc with
  | zero => simp [value]
  | succ n ih =>
    have hzero : value acc (List.replicate (n + 1) '0') = value (acc * 10) (List.replicate n '0') :=
      rfl
    rw [hzero, ih, Nat.pow_succ']
    ring

/-- The letters that the words for special numbers start with are not those
of digits. -/
theorem map_toLower_ne {c d : Char} (hc : isDigit c = true) (hd : d ∈ ['i', 'n'])
    (cs ds : List Char) : (c :: cs).map Char.toLower ≠ d :: ds := by
  intro heq
  have hhead : c.toLower = d := (List.cons.inj heq).1
  have hall := of_isDigit (p := fun c => ['i', 'n'].all (c.toLower != ·)) (by decide) hc
  have hne := List.all_eq_true.1 hall d hd
  exact (bne_iff_ne.1 hne) hhead

/-- A text that starts with a digit is no word for a special number. -/
theorem not_special {whole : List Char} (rest : List Char) (hne : whole ≠ [])
    (hwhole : IsDigits whole) :
    ¬ (decide ((whole ++ rest).map Char.toLower = "inf".toList) ||
        decide ((whole ++ rest).map Char.toLower = "infinity".toList)) = true ∧
      ¬ (whole ++ rest).map Char.toLower = "nan".toList := by
  obtain ⟨c, cs, rfl⟩ := List.exists_cons_of_ne_nil hne
  have hc : isDigit c = true := hwhole c List.mem_cons_self
  have hinf := map_toLower_ne hc (show 'i' ∈ _ by decide) (cs ++ rest) "nf".toList
  have hinfinity := map_toLower_ne hc (show 'i' ∈ _ by decide) (cs ++ rest) "nfinity".toList
  have hnan := map_toLower_ne hc (show 'n' ∈ _ by decide) (cs ++ rest) "an".toList
  refine ⟨?_, hnan⟩
  simp only [Bool.or_eq_true, decide_eq_true_eq]
  exact not_or.2 ⟨hinf, hinfinity⟩

/-- A whole number. -/
theorem unsigned?_whole {negative : Bool} {whole : List Char} (hne : whole ≠ [])
    (hwhole : IsDigits whole) :
    unsigned? negative whole = some (toDouble negative (value 0 whole) 0) := by
  obtain ⟨hword, hnan⟩ := not_special [] hne hwhole
  obtain ⟨htake, hdrop⟩ := takeWhile_digits [] hwhole (fun _ h => by cases h)
  rw [List.append_nil] at hword hnan htake hdrop
  rw [unsigned?]
  simp only
  rw [if_neg hword, if_neg hnan, htake, hdrop]
  simp [exponent?, hne]

/-- A number with a point in it. -/
theorem unsigned?_point {negative : Bool} {whole fraction : List Char} (hne : whole ≠ [])
    (hwhole : IsDigits whole) (hfraction : IsDigits fraction) :
    unsigned? negative (whole ++ '.' :: fraction) =
      some (toDouble negative (value 0 (whole ++ fraction)) (-fraction.length)) := by
  obtain ⟨hword, hnan⟩ := not_special ('.' :: fraction) hne hwhole
  obtain ⟨htake, hdrop⟩ := takeWhile_digits ('.' :: fraction) hwhole
    (fun c hc => by obtain rfl := Option.some.inj hc; rfl)
  obtain ⟨htake', hdrop'⟩ := takeWhile_digits [] hfraction (fun _ h => by cases h)
  rw [List.append_nil] at htake' hdrop'
  rw [unsigned?]
  simp only
  rw [if_neg hword, if_neg hnan, htake, hdrop]
  simp [exponent?, hne, htake', hdrop']

/-! ## Positional texts -/

/-- A positional text of `digits * 10 ^ exponent`. -/
inductive IsPositional (digits : Nat) : Int → List Char → Prop where
  | whole {n : Nat} {whole : List Char} (hne : whole ≠ []) (hwhole : IsDigits whole)
      (hvalue : value 0 whole = digits * 10 ^ n) : IsPositional digits n whole
  | point {whole fraction : List Char} (hne : whole ≠ []) (hwhole : IsDigits whole)
      (hfraction : IsDigits fraction) (hvalue : value 0 (whole ++ fraction) = digits) :
      IsPositional digits (-fraction.length) (whole ++ '.' :: fraction)

theorem toList_text (n : Nat) : (text n).toList = Nat.toDigits 10 n :=
  String.toList_ofList

/-- The characters of a positional text. -/
theorem toList_positionalText (digits : String) (exponent : Int) :
    (positionalText .plain digits exponent).toList =
      (let cs := digits.toList
      let point := cs.length + exponent
      if 0 ≤ exponent then cs ++ List.replicate exponent.toNat '0'
      else if 0 < point then cs.take point.toNat ++ '.' :: cs.drop point.toNat
      else '0' :: '.' :: (List.replicate (-point).toNat '0' ++ cs)) := by
  unfold positionalText
  simp only [← String.length_toList]
  split
  · simp [Layout.plain]
  · split
    · simp
    · simp

theorem isPositional_positionalText {digits : Nat} (hdigits : 0 < digits) (exponent : Int) :
    IsPositional digits exponent (positionalText .plain (text digits) exponent).toList := by
  have htext := isDigits_text digits
  have hvalue := value_toDigits digits
  have hne : 0 < (Nat.toDigits 10 digits).length := by
    obtain ⟨k, hk, -⟩ := width_bounds hdigits
    rw [width] at hk
    omega
  rw [toList_positionalText, toList_text]
  generalize Nat.toDigits 10 digits = ds at htext hvalue hne
  simp only
  split
  · rename_i hexp
    obtain ⟨n, rfl⟩ := Int.eq_ofNat_of_zero_le hexp
    refine .whole ?_ (htext.append (isDigits_zeros n)) ?_
    · exact List.append_ne_nil_of_left_ne_nil (List.ne_nil_of_length_pos hne) _
    · rw [value_append, hvalue, Int.toNat_natCast, value_zeros]
  · split
    · rename_i hexp hpoint
      generalize hsize : (ds.length + exponent).toNat = size
      have hfraction : exponent = -(ds.drop size).length := by
        rw [List.length_drop]
        omega
      rw [hfraction]
      refine .point ?_ (fun c hc => htext c (List.mem_of_mem_take hc))
        (fun c hc => htext c (List.mem_of_mem_drop hc)) ?_
      · refine List.ne_nil_of_length_pos ?_
        rw [List.length_take]
        omega
      · rw [List.take_append_drop, hvalue]
    · rename_i hexp hpoint
      generalize hzeros : (-(ds.length + exponent)).toNat = zeros
      have hfraction : exponent = -(List.replicate zeros '0' ++ ds).length := by
        rw [List.length_append, List.length_replicate]
        omega
      rw [hfraction]
      change IsPositional digits _ (['0'] ++ '.' :: (List.replicate zeros '0' ++ ds))
      refine .point (List.cons_ne_nil _ _) (isDigits_zeros 1)
        ((isDigits_zeros zeros).append htext) ?_
      rw [value_append, value_append, value_zeros]
      simpa [value, digit?] using hvalue

/-- A positional text of a decimal that reads back is read back. -/
theorem IsPositional.unsigned? {units digits : Nat} {exponent : Int} {cs : List Char}
    (hpos : 0 < units) (hunits : Double.IsMagnitude units) (hread : ReadsBack units digits exponent)
    (h : IsPositional digits exponent cs) (negative : Bool) :
    unsigned? negative cs = some (.finite negative units) := by
  cases h with
  | @whole n whole hne hwhole hvalue =>
    have hzeros : ReadsBack units (digits * 10 ^ n) 0 := by
      rw [readsBack_zeros, Int.zero_add]
      exact hread
    rw [unsigned?_whole hne hwhole, hvalue, toDouble_of_readsBack hpos hunits hzeros]
  | point hne hwhole hfraction hvalue =>
    rw [unsigned?_point hne hwhole hfraction, hvalue, toDouble_of_readsBack hpos hunits hread]

/-- The characters of numerals without a sign. -/
theorem IsPositional.mem {digits : Nat} {exponent : Int} {cs : List Char}
    (h : IsPositional digits exponent cs) {c : Char} (hc : c ∈ cs) :
    isDigit c = true ∨ c = '.' := by
  cases h with
  | whole _ hwhole _ => exact Or.inl (hwhole c hc)
  | point _ hwhole hfraction _ =>
    rcases List.mem_append.1 hc with hc | hc
    · exact Or.inl (hwhole c hc)
    · rcases List.mem_cons.1 hc with hc | hc
      · exact Or.inr hc
      · exact Or.inl (hfraction c hc)

theorem IsPositional.ne_nil {digits : Nat} {exponent : Int} {cs : List Char}
    (h : IsPositional digits exponent cs) : cs ≠ [] := by
  cases h with
  | whole hne _ _ => exact hne
  | point hne _ _ _ => exact List.append_ne_nil_of_left_ne_nil hne _

/-- Every magnitude but zero is written as one of its decimals. -/
theorem exists_isPositional {units : Nat} (hpos : 0 < units) (hunits : Double.IsMagnitude units) :
    ∃ digits exponent, ReadsBack units digits exponent ∧
      IsPositional digits exponent (magnitudeText .plain units).toList := by
  have hread := readsBack_shortest Layout.plain.tie hpos hunits
  have htext := isPositional_positionalText (hread.digits_pos hpos hunits.1)
    (shortest Layout.plain.tie units).2
  refine ⟨_, _, hread, ?_⟩
  rw [magnitudeText, if_neg (by omega)]
  exact htext

end Decimal

/-! ## Doubles -/

namespace Double

/-- A number that a binary64 can hold. -/
def IsRepresentable : Double → Prop
  | nan => True
  | infinite _ => True
  | finite _ units => IsMagnitude units

instance (d : Double) : Decidable d.IsRepresentable :=
  match d with
  | nan => inferInstanceAs (Decidable True)
  | infinite _ => inferInstanceAs (Decidable True)
  | finite _ units => inferInstanceAs (Decidable (IsMagnitude units))

end Double

namespace Decimal

theorem unsigned?_magnitudeText {units : Nat} (hunits : Double.IsMagnitude units)
    (negative : Bool) :
    unsigned? negative (magnitudeText .plain units).toList = some (.finite negative units) := by
  rcases Nat.eq_zero_or_pos units with rfl | hpos
  · rfl
  · obtain ⟨digits, exponent, hread, htext⟩ := exists_isPositional hpos hunits
    exact htext.unsigned? hpos hunits hread negative

/-- The texts of magnitudes start with a digit. -/
theorem mem_magnitudeText {units : Nat} (hunits : Double.IsMagnitude units) :
    (magnitudeText .plain units).toList ≠ [] ∧
      ∀ c ∈ (magnitudeText .plain units).toList, isDigit c = true ∨ c = '.' := by
  rcases Nat.eq_zero_or_pos units with rfl | hpos
  · refine ⟨List.cons_ne_nil _ _, fun c hc => Or.inl ?_⟩
    obtain rfl := List.mem_singleton.1 hc
    rfl
  · obtain ⟨digits, exponent, -, htext⟩ := exists_isPositional hpos hunits
    exact ⟨htext.ne_nil, fun c hc => htext.mem hc⟩

/-- Every double is read back from its text. -/
theorem double?_doubleText {d : Double} (hd : d.IsRepresentable) :
    double? (doubleText .plain d) = some d := by
  cases d with
  | nan => decide
  | infinite negative => cases negative <;> decide
  | finite negative units =>
    have hread := unsigned?_magnitudeText hd negative
    cases negative with
    | true =>
      have htext : (doubleText .plain (.finite true units)).toList =
          '-' :: (magnitudeText .plain units).toList := by
        simp [doubleText]
      rw [double?, htext]
      exact hread
    | false =>
      have htext : (doubleText .plain (.finite false units)).toList =
          (magnitudeText .plain units).toList := by
        simp [doubleText]
      obtain ⟨hne, hmem⟩ := mem_magnitudeText hd
      rw [double?, htext]
      generalize (magnitudeText .plain units).toList = cs at hread hne hmem
      -- The first character is no sign.
      split
      · exact absurd (hmem '-' List.mem_cons_self) (by decide)
      · exact absurd (hmem '+' List.mem_cons_self) (by decide)
      · exact hread

/-! ## Natural numbers -/

theorem natural?_text {bound n : Nat} (h : n ≤ bound) :
    natural? bound (text n).toList = some n := by
  have htext := isDigits_text n
  have hvalue := value_toDigits n
  have hne : Nat.toDigits 10 n ≠ [] := Nat.toDigits_ne_nil
  rw [toList_text]
  generalize Nat.toDigits 10 n = ds at htext hvalue hne
  have hall : ds.all isDigit = true := List.all_eq_true.2 htext
  unfold natural?
  -- The first character is no sign.
  split
  · exact absurd (htext '+' List.mem_cons_self) (by decide)
  · simp [hne, hall, hvalue, h]

theorem word64?_text (n : UInt64) : word64? (text n.toNat) = some n := by
  have hbound : n.toNat ≤ UInt64.size - 1 := Nat.le_pred_of_lt n.toNat_lt_size
  rw [word64?, natural?_text hbound, Option.map_some, UInt64.ofNat_toNat]

theorem word32?_text (n : UInt32) : word32? (text n.toNat) = some n := by
  have hbound : n.toNat ≤ UInt32.size - 1 := Nat.le_pred_of_lt n.toNat_lt_size
  rw [word32?, natural?_text hbound, Option.map_some, UInt32.ofNat_toNat]

/-! ## Nothing is trimmed -/

theorem isBlank_of_isDigit {c : Char} (hc : isDigit c = true) : Text.isBlank c = false := by
  have hall := of_isDigit (p := fun c => Text.isBlank c == false) (by decide) hc
  exact eq_of_beq hall

theorem trim_text (n : Nat) : Text.trim (text n) = text n := by
  refine Text.trim_eq_self fun c hc => ?_
  rw [toList_text] at hc
  exact isBlank_of_isDigit (isDigits_text n c hc)

/-- The words and signs of numerals hold no blanks. -/
theorem trim_doubleText {d : Double} (hd : d.IsRepresentable) :
    Text.trim (doubleText .plain d) = doubleText .plain d := by
  cases d with
  | nan => decide
  | infinite negative => cases negative <;> decide
  | finite negative units =>
    refine Text.trim_eq_self fun c hc => ?_
    rw [doubleText, String.toList_append, List.mem_append] at hc
    rcases hc with hsign | hc
    · cases negative with
      | true =>
        obtain rfl := List.mem_singleton.1 hsign
        rfl
      | false => cases hsign
    · rcases (mem_magnitudeText hd).2 c hc with h | rfl
      · exact isBlank_of_isDigit h
      · rfl

/-! ## Round trips -/

theorem word64?_trim_text (n : UInt64) : word64? (Text.trim (text n.toNat)) = some n := by
  rw [trim_text, word64?_text]

theorem word32?_trim_text (n : UInt32) : word32? (Text.trim (text n.toNat)) = some n := by
  rw [trim_text, word32?_text]

theorem double?_trim_doubleText {d : Double} (hd : d.IsRepresentable) :
    double? (Text.trim (doubleText .plain d)) = some d := by
  rw [trim_doubleText hd, double?_doubleText hd]

end Decimal

end RemoteConfig
