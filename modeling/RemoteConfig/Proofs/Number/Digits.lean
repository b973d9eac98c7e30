import RemoteConfig.Number.Decimal
import RemoteConfig.Number.Radix

/-!
# Numbers and their digits

A number is read back from the digits that it is written in, and a run of
digits is taken as a whole.
-/

namespace RemoteConfig

/-! ## Bases up to sixteen -/

namespace Radix

theorem char_le_iff {a b : Char} : a ≤ b ↔ a.toNat ≤ b.toNat := by
  rw [Char.le_def, UInt32.le_iff_toNat_le]
  rfl

/-- The three ranges of hexadecimal digits. -/
theorem hexValue?_eq_some {c : Char} {d : Nat} (h : hexValue? c = some d) :
    (0x30 ≤ c.toNat ∧ c.toNat ≤ 0x39 ∧ d = c.toNat - 0x30) ∨
    (0x61 ≤ c.toNat ∧ c.toNat ≤ 0x66 ∧ d = c.toNat - 0x57) ∨
    (0x41 ≤ c.toNat ∧ c.toNat ≤ 0x46 ∧ d = c.toNat - 0x37) := by
  unfold hexValue? at h
  simp only [Bool.and_eq_true, decide_eq_true_eq, char_le_iff, Char.reduceToNat] at h
  split at h
  · rename_i hc
    exact Or.inl ⟨hc.1, hc.2, (Option.some.inj h).symm⟩
  · split at h
    · rename_i hc
      exact Or.inr (Or.inl ⟨hc.1, hc.2, (Option.some.inj h).symm⟩)
    · split at h
      · rename_i hc
        exact Or.inr (Or.inr ⟨hc.1, hc.2, (Option.some.inj h).symm⟩)
      · cases h

/-- The digits of bases up to sixteen. -/
theorem mem_digits {c : Char} (h : (hexValue? c).isSome) :
    c ∈ "0123456789abcdefABCDEF".toList := by
  obtain ⟨d, hd⟩ := Option.isSome_iff_exists.1 h
  have hsmall : ∀ n < 0x67, (0x30 ≤ n ∧ n ≤ 0x39 ∨ 0x61 ≤ n ∧ n ≤ 0x66 ∨ 0x41 ≤ n ∧ n ≤ 0x46) →
      Char.ofNat n ∈ "0123456789abcdefABCDEF".toList := by decide
  rw [← Char.ofNat_toNat c]
  rcases hexValue?_eq_some hd with h | h | h
  · exact hsmall _ (by omega) (by omega)
  · exact hsmall _ (by omega) (by omega)
  · exact hsmall _ (by omega) (by omega)

theorem hexValue?_lt {c : Char} {d : Nat} (h : hexValue? c = some d) : d < 16 := by
  rcases hexValue?_eq_some h with h | h | h <;> omega

theorem digit?_sixteen (c : Char) : digit? 16 c = hexValue? c := by
  unfold digit?
  cases h : hexValue? c with
  | none => rfl
  | some d => rw [Option.filter_some, if_pos (decide_eq_true (hexValue?_lt h))]

/-- Two digits denote sixteen times the first one and the second one. -/
theorem value?_pair {a b : Char} {n : Nat} :
    value? 16 [a, b] = some n ↔
      ∃ x y, hexValue? a = some x ∧ hexValue? b = some y ∧ x * 16 + y = n := by
  simp only [value?, valueFrom?, digit?_sixteen]
  cases hexValue? a <;> cases hexValue? b <;> simp

theorem valueFrom?_append (base acc : Nat) (xs ys : List Char) :
    valueFrom? base acc (xs ++ ys) =
      (valueFrom? base acc xs).bind fun acc => valueFrom? base acc ys := by
  induction xs generalizing acc with
  | nil => rfl
  | cons x xs ih =>
    simp only [List.cons_append, valueFrom?]
    cases digit? base x with
    | none => rfl
    | some d => exact ih _

theorem hexValue?_digitChar {d : Nat} (h : d < 16) : hexValue? d.digitChar = some d := by
  revert d
  decide

theorem digit?_digitChar {base d : Nat} (hbase : base ≤ 16) (h : d < base) :
    digit? base d.digitChar = some d := by
  rw [digit?, hexValue?_digitChar (Nat.lt_of_lt_of_le h hbase), Option.filter_some]
  exact if_pos (decide_eq_true h)

theorem value?_toDigits {base : Nat} (htwo : 1 < base) (hbase : base ≤ 16) (n : Nat) :
    value? base (Nat.toDigits base n) = some n := by
  induction n using Nat.strongRecOn with
  | ind n ih =>
    rw [Nat.toDigits_eq_if htwo]
    split
    · rename_i hn
      simp [value?, valueFrom?, digit?_digitChar hbase hn]
    · rename_i hn
      have hdiv : n / base < n := Nat.div_lt_self (by omega) htwo
      have hmod : n % base < base := Nat.mod_lt n (by omega)
      have hhead := ih _ hdiv
      rw [value?] at hhead ⊢
      rw [valueFrom?_append, hhead, Option.bind_some]
      simp only [valueFrom?, digit?_digitChar hbase hmod]
      rw [Nat.mul_comm, Nat.div_add_mod]

end Radix

/-! ## Decimal digits -/

namespace Decimal

theorem digit?_digitChar {d : Nat} (h : d < 10) : digit? d.digitChar = some d := by
  revert d
  decide

theorem mem_digits {c : Char} (h : isDigit c = true) : c ∈ "0123456789".toList := by
  have hsmall : ∀ n < 0x3A, 0x30 ≤ n → Char.ofNat n ∈ "0123456789".toList := by decide
  unfold isDigit digit? at h
  split at h
  · rename_i hc
    simp only [Bool.and_eq_true, decide_eq_true_eq, Radix.char_le_iff, Char.reduceToNat] at hc
    rw [← Char.ofNat_toNat c]
    exact hsmall _ (Nat.lt_succ_of_le hc.2) hc.1
  · cases h

/-- What holds of the ten digits holds of every digit. -/
theorem of_isDigit {p : Char → Bool} (h : "0123456789".toList.all p = true) {c : Char}
    (hc : isDigit c = true) : p c = true :=
  List.all_eq_true.1 h c (mem_digits hc)

theorem isDigit_of_mem_toDigits {n : Nat} {c : Char} (h : c ∈ Nat.toDigits 10 n) :
    isDigit c = true := by
  have hc := Nat.isDigit_of_mem_toDigits (by decide) (by decide) h
  simp only [Char.isDigit, Bool.and_eq_true, decide_eq_true_eq, ge_iff_le] at hc
  unfold isDigit digit?
  rw [if_pos]
  · rfl
  · rw [Bool.and_eq_true, decide_eq_true_eq, decide_eq_true_eq]
    exact hc

theorem value_toDigits (n : Nat) : value 0 (Nat.toDigits 10 n) = n := by
  induction n using Nat.strongRecOn with
  | ind n ih =>
    rw [Nat.toDigits_eq_if (by decide)]
    split
    · rename_i hn
      simp [value, digit?_digitChar hn]
    · rename_i hn
      have hhead := ih (n / 10) (by omega)
      have hmod : n % 10 < 10 := Nat.mod_lt n (by decide)
      rw [value] at hhead ⊢
      rw [List.foldl_append, hhead]
      simp only [List.foldl_cons, List.foldl_nil, digit?_digitChar hmod, Option.getD_some]
      omega

/-! ## Lists of digits -/

/-- A list of digits. -/
def IsDigits (cs : List Char) : Prop :=
  ∀ c ∈ cs, isDigit c = true

theorem isDigits_text (n : Nat) : IsDigits (Nat.toDigits 10 n) :=
  fun _ hc => isDigit_of_mem_toDigits hc

theorem isDigits_zeros (n : Nat) : IsDigits (List.replicate n '0') := by
  intro c hc
  rw [List.eq_of_mem_replicate hc]
  rfl

theorem IsDigits.append {xs ys : List Char} (hx : IsDigits xs) (hy : IsDigits ys) :
    IsDigits (xs ++ ys) := by
  intro c hc
  rcases List.mem_append.1 hc with h | h
  · exact hx c h
  · exact hy c h

theorem takeWhile_digits {cs : List Char} (rest : List Char) (h : IsDigits cs)
    (hrest : ∀ c ∈ rest.head?, isDigit c = false) :
    (cs ++ rest).takeWhile isDigit = cs ∧ (cs ++ rest).dropWhile isDigit = rest := by
  induction cs with
  | nil =>
    cases rest with
    | nil => exact ⟨rfl, rfl⟩
    | cons c rest =>
      have hc : isDigit c = false := hrest c rfl
      simp [hc]
  | cons c cs ih =>
    have hc : isDigit c = true := h c List.mem_cons_self
    obtain ⟨htake, hdrop⟩ := ih fun d hd => h d (List.mem_cons_of_mem c hd)
    simp [hc, htake, hdrop]

end Decimal

end RemoteConfig
