import RemoteConfig.Text.Utf8

/-!
# The bytes of characters

An ASCII character is one byte, and no byte of any other character is below
0x80.  So an ASCII byte is never part of a longer sequence, and the reading of
bytes can be cut in front of it (`charsOfBytes_append`).  The bytes of a text
are read back as the text (`charsOfBytes_bytesOfChars`).
-/

namespace RemoteConfig.Text

/-- The character is one byte. -/
def IsAscii (c : Char) : Prop :=
  c.toNat < 0x80

instance (c : Char) : Decidable (IsAscii c) :=
  inferInstanceAs (Decidable (c.toNat < 0x80))

theorem charBytes_of_isAscii {c : Char} (h : IsAscii c) : charBytes c = [UInt8.ofNat c.toNat] :=
  if_pos h

theorem toNat_ofNat_of_isAscii {c : Char} (h : IsAscii c) : (UInt8.ofNat c.toNat).toNat = c.toNat :=
  UInt8.toNat_ofNat_of_lt' (Nat.lt_trans h (by decide))

theorem le_toNat_ofNat {low n : Nat} (hlow : low ≤ n) (hn : n < 0x100) :
    low ≤ (UInt8.ofNat n).toNat := by
  rwa [UInt8.toNat_ofNat_of_lt' hn]

theorem toNat_lt (c : Char) : c.toNat < 0x110000 := by
  have hvalid := c.valid
  simp only [UInt32.isValidChar, Nat.isValidChar] at hvalid
  exact hvalid.elim (Nat.lt_trans · (by decide)) (·.2)

theorem not_surrogate (c : Char) : c.toNat < 0xD800 ∨ 0xDFFF < c.toNat := by
  have hvalid := c.valid
  simp only [UInt32.isValidChar, Nat.isValidChar] at hvalid
  exact hvalid.imp id (·.1)

/-- All bytes of a character outside ASCII are above it. -/
theorem le_of_mem_charBytes {c : Char} (hc : ¬IsAscii c) {b : UInt8} (hb : b ∈ charBytes c) :
    0x80 ≤ b.toNat := by
  have hlt := toNat_lt c
  unfold IsAscii at hc
  unfold charBytes at hb
  simp only [if_neg hc] at hb
  split at hb
  · simp only [List.mem_cons, List.not_mem_nil, or_false] at hb
    rcases hb with rfl | rfl <;> exact le_toNat_ofNat (by omega) (by omega)
  · split at hb
    · simp only [List.mem_cons, List.not_mem_nil, or_false] at hb
      rcases hb with rfl | rfl | rfl <;> exact le_toNat_ofNat (by omega) (by omega)
    · simp only [List.mem_cons, List.not_mem_nil, or_false] at hb
      rcases hb with rfl | rfl | rfl | rfl <;> exact le_toNat_ofNat (by omega) (by omega)

theorem charBytes_ne_nil (c : Char) : charBytes c ≠ [] := by
  unfold charBytes
  simp only
  split
  · exact List.cons_ne_nil _ _
  · split
    · exact List.cons_ne_nil _ _
    · split <;> exact List.cons_ne_nil _ _

/-- An ASCII byte stands for itself. -/
theorem charsOfBytes_cons {b : UInt8} (h : b.toNat < 0x80) (bs : List UInt8) :
    charsOfBytes (b :: bs) = Char.ofNat b.toNat :: charsOfBytes bs := by
  rw [charsOfBytes, if_pos h]

/-- Nothing continues a sequence with an ASCII byte. -/
theorem continuation_append {b : UInt8} (hb : b.toNat < 0x80) (rest : List UInt8)
    (count bits high : Nat) {low : Nat} (hlow : 0x80 ≤ low) (bs : List UInt8) :
    continuation count bits low high (bs ++ b :: rest) =
      ((continuation count bits low high bs).1,
        (continuation count bits low high bs).2 ++ b :: rest) := by
  induction count generalizing bits low high bs with
  | zero => rfl
  | succ count ih =>
    cases bs with
    | nil =>
      have hnot : within low high b = false := by
        simp [within, Nat.not_le.2 (Nat.lt_of_lt_of_le hb hlow)]
      simp [continuation, hnot]
    | cons a bs =>
      simp only [List.cons_append, continuation]
      split
      · exact ih _ _ (Nat.le_refl _) bs
      · rfl

theorem le_of_leading {b : UInt8} {count bits low high : Nat}
    (h : leading b = some (count, bits, low, high)) : 0x80 ≤ low := by
  unfold leading at h
  simp only at h
  grind

/-- Reading can be cut in front of an ASCII byte. -/
theorem charsOfBytes_append {b : UInt8} (hb : b.toNat < 0x80) (bs rest : List UInt8) :
    charsOfBytes (bs ++ b :: rest) = charsOfBytes bs ++ charsOfBytes (b :: rest) := by
  fun_induction charsOfBytes bs with
  | case1 => rfl
  | case2 a bs ha ih => rw [List.cons_append, charsOfBytes_cons ha, ih, List.cons_append]
  | case3 a bs ha hlead ih =>
    rw [List.cons_append, charsOfBytes, if_neg ha, hlead]
    exact congrArg _ ih
  | case4 a bs ha count bits low high hlead ih =>
    rw [List.cons_append, charsOfBytes, if_neg ha, hlead]
    simp only [continuation_append hb rest count bits high (le_of_leading hlead) bs, ih,
      List.cons_append]

/-! ## Reading back -/

/-- A leading byte is read with the bytes that it announces. -/
theorem charsOfBytes_of_leading {b : UInt8} {count bits low high : Nat}
    (h : leading b = some (count, bits, low, high)) (rest : List UInt8) :
    charsOfBytes (b :: rest) =
      (continuation count bits low high rest).1.getD replacement ::
        charsOfBytes (continuation count bits low high rest).2 := by
  have hb : ¬b.toNat < 0x80 := by
    intro hlt
    have hlead : leading b = none := if_pos (Nat.lt_trans hlt (by decide))
    rw [hlead] at h
    cases h
  rw [charsOfBytes, if_neg hb, h]

/-- A byte that continues a sequence adds six bits. -/
theorem continuation_cons {low high x : Nat} (hx : x < 0x40) (hlow : low ≤ 0x80 + x)
    (hhigh : 0x80 + x ≤ high) (count bits : Nat) (rest : List UInt8) :
    continuation (count + 1) bits low high (UInt8.ofNat (0x80 + x) :: rest) =
      continuation count (bits * 0x40 + x) 0x80 0xBF rest := by
  have hbyte : (UInt8.ofNat (0x80 + x)).toNat = 0x80 + x :=
    UInt8.toNat_ofNat_of_lt' (show 0x80 + x < 0x100 by omega)
  have hwithin : within low high (UInt8.ofNat (0x80 + x)) = true := by
    rw [within, hbyte]
    simp [hlow, hhigh]
  rw [continuation, if_pos hwithin, hbyte, Nat.add_sub_cancel_left]

theorem leading_of_two {n : Nat} (hlow : 0x80 ≤ n) (hhigh : n < 0x800) :
    leading (UInt8.ofNat (0xC0 + n / 0x40)) = some (1, n / 0x40, 0x80, 0xBF) := by
  have hbyte : (UInt8.ofNat (0xC0 + n / 0x40)).toNat = 0xC0 + n / 0x40 :=
    UInt8.toNat_ofNat_of_lt' (show _ < 0x100 by omega)
  simp only [leading, hbyte]
  rw [if_neg (by omega), if_pos (by omega), Nat.add_sub_cancel_left]

/-- The bounds of the second byte keep out what is shorter, and surrogates. -/
theorem leading_of_three {n : Nat} (hlow : 0x800 ≤ n) (hhigh : n < 0x10000)
    (hsurrogate : n < 0xD800 ∨ 0xDFFF < n) :
    ∃ low high, leading (UInt8.ofNat (0xE0 + n / 0x1000)) = some (2, n / 0x1000, low, high) ∧
      low ≤ 0x80 + n / 0x40 % 0x40 ∧ 0x80 + n / 0x40 % 0x40 ≤ high := by
  have hbyte : (UInt8.ofNat (0xE0 + n / 0x1000)).toNat = 0xE0 + n / 0x1000 :=
    UInt8.toNat_ofNat_of_lt' (show _ < 0x100 by omega)
  simp only [leading, hbyte]
  rw [if_neg (by omega), if_neg (by omega)]
  by_cases hfirst : n / 0x1000 = 0
  · exact ⟨0xA0, 0xBF, by rw [hfirst]; rfl, by omega, by omega⟩
  · by_cases hbelow : n / 0x1000 = 0xD
    · exact ⟨0x80, 0x9F, by rw [hbelow]; rfl, by omega, by omega⟩
    · refine ⟨0x80, 0xBF, ?_, by omega, by omega⟩
      rw [if_neg (by omega), if_neg (by omega), if_pos (by omega), Nat.add_sub_cancel_left]

/-- The bounds of the second byte keep out what is shorter, and what is no
character. -/
theorem leading_of_four {n : Nat} (hlow : 0x10000 ≤ n) (hhigh : n < 0x110000) :
    ∃ low high, leading (UInt8.ofNat (0xF0 + n / 0x40000)) = some (3, n / 0x40000, low, high) ∧
      low ≤ 0x80 + n / 0x1000 % 0x40 ∧ 0x80 + n / 0x1000 % 0x40 ≤ high := by
  have hbyte : (UInt8.ofNat (0xF0 + n / 0x40000)).toNat = 0xF0 + n / 0x40000 :=
    UInt8.toNat_ofNat_of_lt' (show _ < 0x100 by omega)
  simp only [leading, hbyte]
  rw [if_neg (by omega), if_neg (by omega), if_neg (by omega), if_neg (by omega),
    if_neg (by omega)]
  by_cases hfirst : n / 0x40000 = 0
  · exact ⟨0x90, 0xBF, by rw [hfirst]; rfl, by omega, by omega⟩
  · by_cases hlast : n / 0x40000 = 4
    · exact ⟨0x80, 0x8F, by rw [hlast]; rfl, by omega, by omega⟩
    · refine ⟨0x80, 0xBF, ?_, by omega, by omega⟩
      rw [if_neg (by omega), if_pos (by omega), Nat.add_sub_cancel_left]

/-- A character is read back from its bytes, whatever follows them. -/
theorem charsOfBytes_charBytes (c : Char) (bs : List UInt8) :
    charsOfBytes (charBytes c ++ bs) = c :: charsOfBytes bs := by
  by_cases hone : c.toNat < 0x80
  · have hbyte := toNat_ofNat_of_isAscii hone
    rw [charBytes_of_isAscii hone, List.singleton_append,
      charsOfBytes_cons (Nat.lt_of_le_of_lt (Nat.le_of_eq hbyte) hone), hbyte, Char.ofNat_toNat]
  · by_cases htwo : c.toNat < 0x800
    · have hlead := leading_of_two (Nat.not_lt.1 hone) htwo
      have hn : c.toNat / 0x40 * 0x40 + c.toNat % 0x40 = c.toNat := by omega
      simp only [charBytes, if_neg hone, if_pos htwo, List.cons_append, List.nil_append]
      rw [charsOfBytes_of_leading hlead,
        continuation_cons (Nat.mod_lt _ (by decide)) (by omega) (by omega), hn, continuation,
        Char.ofNat_toNat]
      rfl
    · by_cases hthree : c.toNat < 0x10000
      · obtain ⟨low, high, hlead, hlow, hhigh⟩ :=
          leading_of_three (Nat.not_lt.1 htwo) hthree (not_surrogate c)
        have hn : (c.toNat / 0x1000 * 0x40 + c.toNat / 0x40 % 0x40) * 0x40 + c.toNat % 0x40 =
            c.toNat := by omega
        simp only [charBytes, if_neg hone, if_neg htwo, if_pos hthree, List.cons_append,
          List.nil_append]
        rw [charsOfBytes_of_leading hlead,
          continuation_cons (Nat.mod_lt _ (by decide)) hlow hhigh,
          continuation_cons (Nat.mod_lt _ (by decide)) (by omega) (by omega), hn, continuation,
          Char.ofNat_toNat]
        rfl
      · obtain ⟨low, high, hlead, hlow, hhigh⟩ :=
          leading_of_four (Nat.not_lt.1 hthree) (toNat_lt c)
        have hn : ((c.toNat / 0x40000 * 0x40 + c.toNat / 0x1000 % 0x40) * 0x40 +
            c.toNat / 0x40 % 0x40) * 0x40 + c.toNat % 0x40 = c.toNat := by omega
        simp only [charBytes, if_neg hone, if_neg htwo, if_neg hthree, List.cons_append,
          List.nil_append]
        rw [charsOfBytes_of_leading hlead,
          continuation_cons (Nat.mod_lt _ (by decide)) hlow hhigh,
          continuation_cons (Nat.mod_lt _ (by decide)) (by omega) (by omega),
          continuation_cons (Nat.mod_lt _ (by decide)) (by omega) (by omega), hn, continuation,
          Char.ofNat_toNat]
        rfl

/-- A text is read back from its bytes. -/
theorem charsOfBytes_bytesOfChars (cs : List Char) : charsOfBytes (bytesOfChars cs) = cs := by
  induction cs with
  | nil => simp [bytesOfChars, charsOfBytes]
  | cons c cs ih =>
    rw [bytesOfChars, List.flatMap_cons, charsOfBytes_charBytes]
    exact congrArg _ ih

end RemoteConfig.Text
