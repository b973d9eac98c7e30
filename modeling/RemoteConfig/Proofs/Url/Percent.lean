import RemoteConfig.Proofs.Number.Digits
import RemoteConfig.Proofs.Text.Utf8
import RemoteConfig.Url.Percent

/-!
# What escapes stand for

`Decodes` says which bytes a text with escapes stands for, character by
character, and `decodes_iff` that `decode` finds them.

* `decode_append` cuts the decoding in front of a character that is part of no
  escape.
* `decode_encode` and `decode_encode_of_percent` say that the encoding of a
  text keeps what it stands for, or stands for the text itself if the percent
  sign is encoded too.
* `encode_of_not_mem` and `of_mem_encode` say that the encoding leaves
  nothing to encode.
-/

namespace RemoteConfig.Url

/-! ## Decoding -/

/-- Two hexadecimal digits denote a byte. -/
def IsEscape (high low : Char) (b : UInt8) : Prop :=
  ∃ x y, Radix.hexValue? high = some x ∧ Radix.hexValue? low = some y ∧ UInt8.ofNat (x * 16 + y) = b

/-- The bytes that a text stands for.  A percent sign that two hexadecimal
digits follow is an escape; any other character is literal. -/
inductive Decodes : List Char → List UInt8 → Prop where
  | nil : Decodes [] []
  | escape {high low : Char} {b : UInt8} {cs : List Char} {bs : List UInt8}
    (h : IsEscape high low b) (tail : Decodes cs bs) :
    Decodes ('%' :: high :: low :: cs) (b :: bs)
  | literal {c : Char} {cs : List Char} {bs : List UInt8}
    (h : c = '%' → ∀ high low rest, cs = high :: low :: rest → ∀ b, ¬IsEscape high low b)
    (tail : Decodes cs bs) : Decodes (c :: cs) (Text.charBytes c ++ bs)

theorem escapedByte?_eq_some_iff {cs : List Char} {b : UInt8} :
    escapedByte? cs = some b ↔ ∃ high low rest, cs = high :: low :: rest ∧ IsEscape high low b := by
  unfold escapedByte?
  split
  · rename_i high low rest
    simp only [Option.map_eq_some_iff, Radix.value?_pair, List.cons.injEq, IsEscape]
    constructor
    · rintro ⟨n, ⟨x, y, hx, hy, rfl⟩, hb⟩
      exact ⟨_, _, _, ⟨rfl, rfl, rfl⟩, x, y, hx, hy, hb⟩
    · rintro ⟨_, _, _, ⟨rfl, rfl, rfl⟩, x, y, hx, hy, hb⟩
      exact ⟨_, ⟨x, y, hx, hy, rfl⟩, hb⟩
  · rename_i hcs
    simp only [reduceCtorEq, false_iff]
    rintro ⟨high, low, rest, rfl, -⟩
    exact hcs high low rest rfl

theorem escapedByte?_eq_none_iff {cs : List Char} :
    escapedByte? cs = none ↔
      ∀ high low rest, cs = high :: low :: rest → ∀ b, ¬IsEscape high low b := by
  simp only [Option.eq_none_iff_forall_ne_some, ne_eq, escapedByte?_eq_some_iff]
  grind

theorem decode_escape {high low : Char} {b : UInt8} (h : IsEscape high low b) (cs : List Char) :
    decode ('%' :: high :: low :: cs) = b :: decode cs := by
  have hb : escapedByte? (high :: low :: cs) = some b :=
    escapedByte?_eq_some_iff.2 ⟨_, _, _, rfl, h⟩
  simp [decode, decodeFrom, hb]

theorem decode_literal {c : Char} {cs : List Char} (h : c = '%' → escapedByte? cs = none) :
    decode (c :: cs) = Text.charBytes c ++ decode cs := by
  unfold decode
  rw [decodeFrom]
  split
  · rename_i hc
    rw [h hc]
  · rfl

/-- Induction along the decoding of a text. -/
theorem decode_induction {motive : List Char → Prop} (nil : motive [])
    (escape : ∀ high low b cs, IsEscape high low b → motive cs → motive ('%' :: high :: low :: cs))
    (literal : ∀ c cs, (c = '%' → escapedByte? cs = none) → motive cs → motive (c :: cs))
    (cs : List Char) : motive cs := by
  induction hlength : cs.length using Nat.strongRecOn generalizing cs with
  | ind n ih =>
    cases cs with
    | nil => exact nil
    | cons c cs =>
      have hlt : cs.length < n := by simp [← hlength]
      by_cases hc : c = '%' → escapedByte? cs = none
      · exact literal c cs hc (ih _ hlt cs rfl)
      · obtain ⟨rfl, hsome⟩ := Classical.not_imp.1 hc
        obtain ⟨b, hb⟩ := Option.ne_none_iff_exists'.1 hsome
        obtain ⟨high, low, rest, rfl, hescape⟩ := escapedByte?_eq_some_iff.1 hb
        exact escape high low b rest hescape (ih _ (Nat.lt_trans (by rw [List.length_cons, List.length_cons]; omega) hlt) rest rfl)

/-- `decode` finds the bytes that a text stands for, and nothing else does. -/
theorem decodes_iff {cs : List Char} {bs : List UInt8} : Decodes cs bs ↔ bs = decode cs := by
  constructor
  · intro h
    induction h with
    | nil => rfl
    | escape h _ ih => rw [decode_escape h, ih]
    | literal h _ ih => rw [decode_literal fun hc => escapedByte?_eq_none_iff.2 (h hc), ih]
  · rintro rfl
    induction cs using decode_induction with
    | nil => exact .nil
    | escape high low b cs h ih =>
      rw [decode_escape h]
      exact .escape h ih
    | literal c cs h ih =>
      rw [decode_literal h]
      exact .literal (fun hc => escapedByte?_eq_none_iff.1 (h hc)) ih

/-- A character that is part of no escape. -/
def IsLiteral (c : Char) : Prop :=
  c ≠ '%' ∧ Radix.hexValue? c = none

/-- No escape goes across a literal character. -/
theorem escapedByte?_append {c : Char} (hc : IsLiteral c) (cs rest : List Char) :
    escapedByte? (cs ++ c :: rest) = escapedByte? cs := by
  have hnot {a b : Char} (h : a = c ∨ b = c) : Radix.value? 16 [a, b] = none := by
    rw [Option.eq_none_iff_forall_ne_some]
    intro n hn
    obtain ⟨x, y, hx, hy, -⟩ := Radix.value?_pair.1 hn
    rcases h with rfl | rfl
    · exact Option.some_ne_none x (hx.symm.trans hc.2)
    · exact Option.some_ne_none y (hy.symm.trans hc.2)
  match cs with
  | [] => cases rest <;> simp [escapedByte?, hnot]
  | [a] => simp [escapedByte?, hnot]
  | a :: b :: cs => rfl

/-- Decoding can be cut in front of a literal character. -/
theorem decode_append {c : Char} (hc : IsLiteral c) (cs rest : List Char) :
    decode (cs ++ c :: rest) = decode cs ++ decode (c :: rest) := by
  induction cs using decode_induction with
  | nil => rfl
  | escape high low b cs h ih => simp only [List.cons_append, decode_escape h, ih]
  | literal d cs h ih =>
    rw [List.cons_append, decode_literal fun hd => (escapedByte?_append hc cs rest).trans (h hd),
      ih, decode_literal h, List.append_assoc]

/-! ## Encoding -/

/-- The set leaves escapes alone. -/
def EncodeSet.SparesEscapes (set : EncodeSet) : Prop :=
  set '%' = false ∧ ∀ c, (Radix.hexValue? c).isSome → set c = false

theorem encode_cons (set : EncodeSet) (c : Char) (cs : List Char) :
    encode set (c :: cs) = encodeChar set c ++ encode set cs :=
  List.flatMap_cons

theorem encodeChar_of_not_mem {set : EncodeSet} {c : Char} (h : set c = false) :
    encodeChar set c = [c] := by
  simp [encodeChar, h]

/-- A text without characters of the set is its own encoding. -/
theorem encode_of_not_mem {set : EncodeSet} {cs : List Char} (h : ∀ c ∈ cs, set c = false) :
    encode set cs = cs := by
  induction cs with
  | nil => rfl
  | cons c cs ih =>
    obtain ⟨hc, hcs⟩ := List.forall_mem_cons.1 h
    rw [encode_cons, encodeChar_of_not_mem hc, ih hcs, List.singleton_append]

theorem hexValue?_upperDigit {d : Nat} (h : d < 16) :
    Radix.hexValue? (Radix.upperDigit d) = some d := by
  revert d
  decide

theorem isEscape_upperDigit (b : UInt8) :
    IsEscape (Radix.upperDigit (b.toNat / 16)) (Radix.upperDigit (b.toNat % 16)) b := by
  have hb : b.toNat < 256 := b.toNat_lt
  refine ⟨_, _, hexValue?_upperDigit (by omega), hexValue?_upperDigit (by omega), ?_⟩
  rw [Nat.div_add_mod', UInt8.ofNat_toNat]

/-- What stands in an escape. -/
theorem of_mem_escapeByte {c : Char} {b : UInt8} (h : c ∈ escapeByte b) :
    c = '%' ∨ (Radix.hexValue? c).isSome := by
  have hb : b.toNat < 256 := b.toNat_lt
  simp only [escapeByte, List.mem_cons, List.not_mem_nil, or_false] at h
  rcases h with rfl | rfl | rfl
  · exact Or.inl rfl
  · exact Or.inr (by simp [hexValue?_upperDigit (d := b.toNat / 16) (by omega)])
  · exact Or.inr (by simp [hexValue?_upperDigit (d := b.toNat % 16) (by omega)])

/-- What stands in the encoding of a text. -/
theorem of_mem_encode {set : EncodeSet} {cs : List Char} {c : Char} (h : c ∈ encode set cs) :
    (c ∈ cs ∧ set c = false) ∨ c = '%' ∨ (Radix.hexValue? c).isSome := by
  obtain ⟨d, hd, hc⟩ := List.mem_flatMap.1 h
  unfold encodeChar at hc
  split at hc
  · obtain ⟨b, -, hb⟩ := List.mem_flatMap.1 hc
    exact Or.inr (of_mem_escapeByte hb)
  · rename_i hnot
    obtain rfl := List.mem_singleton.1 hc
    exact Or.inl ⟨hd, Bool.eq_false_iff.2 hnot⟩

/-- The encoding of a text holds no character of the set, nor of a smaller one
that leaves escapes alone. -/
theorem not_mem_of_mem_encode {set inner : EncodeSet} (hinner : ∀ c, inner c = true → set c = true)
    (hspares : inner.SparesEscapes) {cs : List Char} {c : Char} (h : c ∈ encode set cs) :
    inner c = false := by
  rcases of_mem_encode h with ⟨-, hnot⟩ | rfl | hc
  · exact Bool.eq_false_iff.2 fun hmem => by simp [hinner c hmem] at hnot
  · exact hspares.1
  · exact hspares.2 c hc

theorem decode_escapes (bs : List UInt8) (cs : List Char) :
    decode (bs.flatMap escapeByte ++ cs) = bs ++ decode cs := by
  induction bs with
  | nil => rfl
  | cons b bs ih =>
    rw [List.flatMap_cons, List.append_assoc]
    exact (decode_escape (isEscape_upperDigit b) _).trans (congrArg _ ih)

/-- If the percent sign is encoded, the encoding of a text stands for it. -/
theorem decode_encode_of_percent {set : EncodeSet} (h : set '%' = true) (cs : List Char) :
    decode (encode set cs) = Text.bytesOfChars cs := by
  induction cs with
  | nil => rfl
  | cons c cs ih =>
    rw [encode_cons, Text.bytesOfChars, List.flatMap_cons]
    unfold encodeChar
    split
    · rw [decode_escapes, ih]
      rfl
    · rename_i hc
      rw [List.singleton_append, decode_literal, ih]
      · rfl
      · rintro rfl
        exact absurd h hc

/-- A digit in front of an encoding was there before. -/
theorem eq_cons_of_encode_eq_cons {set : EncodeSet} {cs rest : List Char} {c : Char} {d : Nat}
    (hc : Radix.hexValue? c = some d) (h : encode set cs = c :: rest) :
    ∃ ds, cs = c :: ds ∧ encode set ds = rest := by
  cases cs with
  | nil => cases h
  | cons a cs =>
    rw [encode_cons] at h
    unfold encodeChar at h
    split at h
    · -- An escape starts with the percent sign, which is no digit.
      obtain ⟨b, bs, hbs⟩ := List.exists_cons_of_ne_nil (Text.charBytes_ne_nil a)
      rw [hbs] at h
      obtain rfl := (List.cons.inj h).1
      exact absurd (hc.symm.trans (by decide : Radix.hexValue? '%' = none)) (Option.some_ne_none d)
    · obtain ⟨rfl, rfl⟩ := List.cons.inj h
      exact ⟨cs, rfl, rfl⟩

/-- Encoding makes no escape where there was none. -/
theorem escapedByte?_encode {set : EncodeSet} {cs : List Char} (hcs : escapedByte? cs = none) :
    escapedByte? (encode set cs) = none := by
  rw [escapedByte?_eq_none_iff] at hcs ⊢
  intro high low rest hencode b hescape
  obtain ⟨x, y, hx, hy, -⟩ := id hescape
  obtain ⟨ds, rfl, hds⟩ := eq_cons_of_encode_eq_cons hx hencode
  obtain ⟨ds, rfl, -⟩ := eq_cons_of_encode_eq_cons hy hds
  exact hcs _ _ _ rfl b hescape

/-- Otherwise it stands for what the text stands for. -/
theorem decode_encode {set : EncodeSet} (h : set.SparesEscapes) (cs : List Char) :
    decode (encode set cs) = decode cs := by
  induction cs using decode_induction with
  | nil => rfl
  | escape high low b cs hescape ih =>
    obtain ⟨x, y, hx, hy, -⟩ := id hescape
    rw [encode_cons, encode_cons, encode_cons, encodeChar_of_not_mem h.1,
      encodeChar_of_not_mem (h.2 high (by simp [hx])),
      encodeChar_of_not_mem (h.2 low (by simp [hy]))]
    simp only [List.singleton_append, decode_escape hescape, ih]
  | literal c cs hliteral ih =>
    rw [encode_cons, decode_literal hliteral]
    unfold encodeChar
    split
    · rw [decode_escapes, ih]
    · rw [List.singleton_append,
        decode_literal fun hc => escapedByte?_encode (hliteral hc), ih]

/-! ## The sets of the parts -/

/-- Neither a control, nor the space, nor outside ASCII. -/
def IsVisible (c : Char) : Prop :=
  0x20 < c.toNat ∧ c.toNat < 0x7F

theorem isVisible_of_not_mem {c : Char} (hcontrol : controlSet c = false) (hspace : c ≠ ' ') :
    IsVisible c := by
  simp only [controlSet, Bool.or_eq_false_iff, decide_eq_false_iff_not] at hcontrol
  have hne : c.toNat ≠ 0x20 := fun h => hspace (Char.toNat_inj.1 h)
  exact ⟨by omega, by omega⟩

theorem EncodeSet.sparesEscapes {set : EncodeSet} (hpercent : set '%' = false)
    (hdigits : "0123456789abcdefABCDEF".toList.all (!set ·) = true) : set.SparesEscapes := by
  refine ⟨hpercent, fun c hc => ?_⟩
  have hc := List.all_eq_true.1 hdigits c (Radix.mem_digits hc)
  simpa using hc

theorem pathSet_sparesEscapes : pathSet.SparesEscapes :=
  EncodeSet.sparesEscapes (by decide) (by decide)

theorem fragmentSet_sparesEscapes : fragmentSet.SparesEscapes :=
  EncodeSet.sparesEscapes (by decide) (by decide)

theorem specialQuerySet_sparesEscapes : specialQuerySet.SparesEscapes :=
  EncodeSet.sparesEscapes (by decide) (by decide)

theorem fragmentSet_of_pathSet {c : Char} (h : pathSet c = false) : fragmentSet c = false :=
  (Bool.or_eq_false_iff.1 h).1

theorem isVisible_of_fragmentSet {c : Char} (h : fragmentSet c = false) : IsVisible c := by
  obtain ⟨hcontrol, hmem⟩ := Bool.or_eq_false_iff.1 h
  exact isVisible_of_not_mem hcontrol (by rintro rfl; simp at hmem)

theorem isVisible_of_specialQuerySet {c : Char} (h : specialQuerySet c = false) : IsVisible c := by
  obtain ⟨hcontrol, hmem⟩ := Bool.or_eq_false_iff.1 (Bool.or_eq_false_iff.1 h).1
  exact isVisible_of_not_mem hcontrol (by rintro rfl; simp at hmem)

end RemoteConfig.Url
