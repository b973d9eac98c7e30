import RemoteConfig.Proofs.Number.Digits
import RemoteConfig.Proofs.Text.Split
import RemoteConfig.Proofs.Url.Percent
import RemoteConfig.Url.Domain

/-!
# Settled names

A settled name is its own ASCII form, whichever way it is written: it holds
nothing to decode, and nothing that no host may hold.  Numbers with dots
between them are settled, since no ASCII character is written from right to
left.
-/

namespace RemoteConfig.Url.Domain

/-! ## Characters of settled names -/

/-- A character that stands for itself in a host. -/
structure IsPlain (c : Char) : Prop where
  ascii : Text.IsAscii c
  allowed : isDenied c = false
  small : c.toLower = c

theorem isPlain_of_isSettled {cs : List Char} (h : isSettled cs = true) : ∀ c ∈ cs, IsPlain c := by
  intro c hc
  obtain rfl | ⟨label, hlabel, hc⟩ := Text.mem_pieces '.' hc
  · exact ⟨by decide, rfl, rfl⟩
  · simp only [isSettled, Bool.and_eq_true, List.all_eq_true] at h
    have hsettled := h.1 label hlabel
    simp only [isSettledLabel, Bool.and_eq_true, List.all_eq_true] at hsettled
    obtain ⟨⟨hascii, hallowed⟩, hsmall⟩ := by
      simpa only [Bool.and_eq_true, Bool.not_eq_true', decide_eq_true_eq] using hsettled.1 c hc
    exact ⟨of_decide_eq_true hascii, hallowed, hsmall⟩

/-! ## Names that are read back -/

/-- A text without percent signs stands for itself. -/
theorem decode_of_not_mem {cs : List Char} (h : '%' ∉ cs) : decode cs = Text.bytesOfChars cs := by
  induction cs with
  | nil => rfl
  | cons c cs ih =>
    have hc := List.ne_of_not_mem_cons h
    rw [decode_literal fun hpercent => absurd hpercent.symm hc,
      ih (List.not_mem_of_not_mem_cons h)]
    rfl

theorem isSettled_of_asciiForm? {cs ds : List Char} (h : asciiForm? cs = some ds) :
    isSettled ds = true := by
  unfold asciiForm? at h
  split at h
  · simp only [Option.ite_none_right_eq_some, Option.some.injEq] at h
    exact h.2 ▸ h.1
  · split at h
    · simp only [Option.ite_none_right_eq_some, Option.some.injEq] at h
      exact h.2 ▸ h.1
    · cases h

/-- Every form that is found is settled. -/
theorem isSettled_of_toAscii? {bs : List UInt8} {ds : List Char} (h : toAscii? bs = some ds) :
    isSettled ds = true := by
  unfold toAscii? at h
  simp only [Option.ite_none_right_eq_some] at h
  exact isSettled_of_asciiForm? h.2

/-- A settled name is its own form. -/
theorem toAscii?_decode {cs : List Char} (h : isSettled cs = true) :
    toAscii? (decode cs) = some cs := by
  have hplain := isPlain_of_isSettled h
  have hpercent : '%' ∉ cs := fun hmem => absurd (hplain _ hmem).allowed (by decide)
  have hchars : Text.charsOfBytes (Text.bytesOfChars cs) = cs :=
    Text.charsOfBytes_bytesOfChars cs
  have hsmall : cs.map Char.toLower = cs :=
    (List.map_congr_left fun c hc => (hplain c hc).small).trans (List.map_id _)
  have hascii : cs.all isAscii = true :=
    List.all_eq_true.2 fun c hc => decide_eq_true (hplain c hc).ascii
  rw [decode_of_not_mem hpercent, toAscii?, hchars, if_pos rfl, asciiForm?, if_pos hascii]
  simp only [hsmall]
  exact if_pos h

/-! ## Directions -/

/-- The bounds of the ranges that are written in some characters. -/
def writtenBounds (cs : List Char) : List (Nat × Nat) :=
  ((Text.pieces ' ' (cs.map fun c => if c = '\n' then ' ' else c)).filter (!·.isEmpty)).map
    Text.Ranges.ofWord

theorem bounds_ofText (cs : List Char) :
    (Text.Ranges.ofText (String.ofList cs)).bounds = writtenBounds cs := by
  simp [Text.Ranges.ofText, Text.words, writtenBounds]

/-- The ranges all start outside ASCII. -/
def StartsAboveAscii (text : String) : Prop :=
  ∃ cs, text = String.ofList cs ∧ (writtenBounds cs).all (fun b => 0x80 ≤ b.1) = true

set_option maxRecDepth 8000 in
theorem rightToLeftText_startsAboveAscii : StartsAboveAscii rightToLeftText :=
  ⟨_, rfl, by decide +kernel⟩

theorem arabicDigitText_startsAboveAscii : StartsAboveAscii arabicDigitText :=
  ⟨_, rfl, by decide +kernel⟩

theorem StartsAboveAscii.not_contains {text : String} (h : StartsAboveAscii text) {c : Char}
    (hc : Text.IsAscii c) : (Text.Ranges.ofText text).contains c = false := by
  obtain ⟨cs, rfl, hall⟩ := h
  rw [Text.Ranges.contains, bounds_ofText, List.any_eq_false]
  intro b hb
  have habove : 0x80 ≤ b.1 := by simpa using List.all_eq_true.1 hall b hb
  simp only [Bool.and_eq_true, decide_eq_true_eq, not_and]
  exact fun hle => absurd (Nat.le_trans habove hle) (Nat.not_le.2 hc)

theorem rightToLeftSet_not_contains {c : Char} (h : Text.IsAscii c) :
    rightToLeftSet.contains c = false := by
  rw [rightToLeftSet]
  exact rightToLeftText_startsAboveAscii.not_contains h

theorem arabicDigitSet_not_contains {c : Char} (h : Text.IsAscii c) :
    arabicDigitSet.contains c = false := by
  rw [arabicDigitSet]
  exact arabicDigitText_startsAboveAscii.not_contains h

/-- No ASCII character is written from right to left. -/
theorem isFromRight_of_isAscii {c : Char} (h : Text.IsAscii c) :
    (Direction.of c).isFromRight = false := by
  -- The sets are opaque here: to evaluate one is to read its whole table.
  have hright : ¬rightToLeftSet.contains c = true := by
    rw [rightToLeftSet_not_contains h]
    exact Bool.false_ne_true
  have harabic : ¬arabicDigitSet.contains c = true := by
    rw [arabicDigitSet_not_contains h]
    exact Bool.false_ne_true
  rw [Direction.of, if_neg hright, if_neg harabic]
  repeat' split
  all_goals rfl

theorem directionsFit_of_isAscii {labels : List (List Char)}
    (h : ∀ label ∈ labels, ∀ c ∈ label, Text.IsAscii c) : directionsFit labels = true := by
  have hnone : (labels.map (·.map Direction.of)).any (·.any Direction.isFromRight) = false := by
    rw [List.any_eq_false]
    intro directions hdirections
    obtain ⟨label, hlabel, rfl⟩ := List.mem_map.1 hdirections
    rw [Bool.not_eq_true, List.any_eq_false]
    intro direction hdirection
    obtain ⟨c, hc, rfl⟩ := List.mem_map.1 hdirection
    rw [isFromRight_of_isAscii (h label hlabel c hc)]
    exact Bool.false_ne_true
  rw [directionsFit, hnone]
  rfl

/-- Numbers with dots between them are settled. -/
theorem isSettled_of_digits {cs : List Char} (h : ∀ c ∈ cs, c = '.' ∨ Decimal.isDigit c = true) :
    isSettled cs = true := by
  have hdigit {c : Char} (hc : Decimal.isDigit c = true) :
      isAscii c = true ∧ isDenied c = false ∧ c.toLower = c ∧ c ≠ 'x' := by
    have hall : ("0123456789".toList.all fun c =>
        isAscii c && !isDenied c && c.toLower = c && c ≠ 'x') = true := by decide
    have hdigit := List.all_eq_true.1 hall c (Decimal.mem_digits hc)
    simp only [Bool.and_eq_true, Bool.not_eq_true', decide_eq_true_eq] at hdigit
    obtain ⟨⟨⟨hascii, hallowed⟩, hsmall⟩, hx⟩ := hdigit
    exact ⟨hascii, hallowed, hsmall, hx⟩
  have hlabel {label : List Char} (hmem : label ∈ Text.pieces '.' cs) :
      ∀ c ∈ label, Decimal.isDigit c = true := by
    intro c hc
    obtain ⟨hdot, hsub⟩ := Text.of_mem_pieces hmem
    rcases h c (hsub hc) with rfl | hdigit
    · exact absurd hc hdot
    · exact hdigit
  have hunmarked {label : List Char} (hmem : label ∈ Text.pieces '.' cs) :
      unmarked? label = none := by
    refine if_neg fun hmark => ?_
    have hx : 'x' ∈ label := List.mem_of_mem_take (hmark ▸ (by decide : 'x' ∈ mark))
    exact (hdigit (hlabel hmem _ hx)).2.2.2 rfl
  rw [isSettled, Bool.and_eq_true]
  constructor
  · refine List.all_eq_true.2 fun label hmem => ?_
    rw [isSettledLabel, hunmarked hmem, Bool.and_true]
    refine List.all_eq_true.2 fun c hc => ?_
    obtain ⟨hascii, hallowed, hsmall, -⟩ := hdigit (hlabel hmem c hc)
    simp [hascii, hallowed, hsmall]
  · refine directionsFit_of_isAscii (List.forall_mem_map.2 fun label hmem c hc => ?_)
    rw [unicodeLabel, hunmarked hmem] at hc
    exact of_decide_eq_true (hdigit (hlabel hmem c hc)).1

end RemoteConfig.Url.Domain
