import RemoteConfig.Json.Grammar
import RemoteConfig.Proofs.Number.Digits

/-!
# Reading the words of JSON texts

Each reader of words takes a word of its grammar off the front of a text and
leaves what follows.  Numbers alone need to know where they end: `Ends` says
that a text goes on with a blank, a comma or a closing bracket, or not at all.

* `stringChars_of_spells` reads every spelling of a text, and
  `skipString_of_isSpelling` passes over every text, well-paired or not.
* `skipNumber_of_isUnsigned` passes over every number.
-/

namespace RemoteConfig.Json

/-! ## Blanks -/

theorem blank_nil : Blank [] :=
  fun _ hc => by cases hc

theorem skipSpace_append {b : List Char} (hb : Blank b) (cs : List Char) :
    skipSpace (b ++ cs) = skipSpace cs := by
  induction b with
  | nil => rfl
  | cons c b ih =>
    obtain ⟨hc, hb⟩ := List.forall_mem_cons.1 hb
    rw [List.cons_append, skipSpace, List.dropWhile_cons_of_pos hc]
    exact ih hb

theorem skipSpace_cons {c : Char} (hc : isSpace c = false) (cs : List Char) :
    skipSpace (c :: cs) = c :: cs := by
  rw [skipSpace, List.dropWhile_cons_of_neg (by rw [hc]; exact Bool.false_ne_true)]

/-- Blanks in front of a word are skipped. -/
theorem skipSpace_word {b : List Char} (hb : Blank b) {c : Char} (hc : isSpace c = false)
    (cs : List Char) : skipSpace (b ++ c :: cs) = c :: cs := by
  rw [skipSpace_append hb, skipSpace_cons hc]

theorem literal_append (word rest : List Char) : literal word (word ++ rest) = .ok ((), rest) := by
  induction word with
  | nil => rfl
  | cons c word ih => rw [List.cons_append, literal, if_pos rfl, ih]

/-! ## Texts -/

theorem hex4_append {digits : List Char} {n : Nat} (hlength : digits.length = 4)
    (hn : Radix.value? 16 digits = some n) (rest : List Char) :
    hex4 (digits ++ rest) = .ok (n, rest) := by
  match digits, hlength with
  | [a, b, c, d], _ => simp only [List.cons_append, List.nil_append, hex4, hn]

theorem escape_simple {letter c : Char} (h : simpleEscape? letter = some c) (rest : List Char) :
    escape (letter :: rest) = .ok (c, rest) := by
  have hne : letter ≠ 'u' := by
    rintro rfl
    cases h
  rw [escape, if_neg hne, h]

theorem escape_unit {digits : List Char} {n : Nat} (hlength : digits.length = 4)
    (hn : Radix.value? 16 digits = some n) (hunit : ¬ IsSurrogate n) (rest : List Char) :
    escape ('u' :: (digits ++ rest)) = .ok (Char.ofNat n, rest) := by
  unfold IsSurrogate at hunit
  have hlow : ¬ (decide (0xDC00 ≤ n) && decide (n ≤ 0xDFFF)) = true := by
    simp only [Bool.and_eq_true, decide_eq_true_eq]
    omega
  have hhigh : ¬ (decide (0xD800 ≤ n) && decide (n ≤ 0xDBFF)) = true := by
    simp only [Bool.and_eq_true, decide_eq_true_eq]
    omega
  rw [escape, if_pos rfl, hex4_append hlength hn]
  simp only
  rw [if_neg hlow, if_neg hhigh]

theorem lowSurrogate_append {digits : List Char} {high low : Nat} (hlength : digits.length = 4)
    (hlow : Radix.value? 16 digits = some low) (hlow' : 0xDC00 ≤ low ∧ low ≤ 0xDFFF)
    (rest : List Char) :
    lowSurrogate high ('\\' :: 'u' :: (digits ++ rest)) =
      .ok (Char.ofNat (0x10000 + (high - 0xD800) * 0x400 + (low - 0xDC00)), rest) := by
  have hpair : ¬ (decide (low < 0xDC00) || decide (0xDFFF < low)) = true := by
    simp only [Bool.or_eq_true, decide_eq_true_eq]
    omega
  have hvalue : (high - 0xD800) * 0x400 + (low - 0xDC00) + 0x10000 =
      0x10000 + (high - 0xD800) * 0x400 + (low - 0xDC00) := by omega
  simp only [lowSurrogate, if_true, hex4_append hlength hlow]
  rw [if_neg hpair, hvalue]

theorem escape_pair {digits : List Char} {high : Nat} (hlength : digits.length = 4)
    (hhigh : Radix.value? 16 digits = some high) (hhigh' : 0xD800 ≤ high ∧ high < 0xDC00)
    (rest : List Char) :
    escape ('u' :: (digits ++ rest)) = lowSurrogate high rest := by
  have hfirst : ¬ (decide (0xDC00 ≤ high) && decide (high ≤ 0xDFFF)) = true := by
    simp only [Bool.and_eq_true, decide_eq_true_eq]
    omega
  have hsecond : (decide (0xD800 ≤ high) && decide (high ≤ 0xDBFF)) = true := by
    simp only [Bool.and_eq_true, decide_eq_true_eq]
    omega
  rw [escape, if_pos rfl, hex4_append hlength hhigh]
  simp only
  rw [if_neg hfirst, if_pos hsecond]

theorem stringChars_plain {c : Char} (hc : IsPlain c) (rest : List Char) :
    stringChars (c :: rest) =
      (stringChars rest).map fun r => (c :: r.1, r.2) := by
  obtain ⟨hquote, hslash, hcontrol⟩ := hc
  rw [stringChars, if_neg hquote, if_neg hslash, if_neg (by omega)]
  cases stringChars rest <;> rfl

theorem stringChars_escape {d : Char} {rest rest' : List Char}
    (h : escape rest = .ok (d, rest')) :
    stringChars ('\\' :: rest) = (stringChars rest').map fun r => (d :: r.1, r.2) := by
  rw [stringChars, if_neg (by decide), if_pos rfl]
  split
  · rename_i hread
    rw [h] at hread
    cases hread
  · rename_i hread
    rw [h] at hread
    cases hread
    cases stringChars rest' <;> rfl

/-- Every spelling of a text is read as the text. -/
theorem stringChars_of_spells {cs text : List Char} (h : Spells cs text) (rest : List Char) :
    stringChars (text ++ '"' :: rest) = .ok (cs, rest) := by
  induction h with
  | nil =>
    rw [List.nil_append, stringChars, if_pos rfl]
  | plain hc _ ih =>
    rw [List.cons_append, stringChars_plain hc, ih]
    rfl
  | simple hc _ ih =>
    rw [List.cons_append, List.cons_append, stringChars_escape (escape_simple hc _), ih]
    rfl
  | unit hlength hn hunit _ ih =>
    rw [List.cons_append, List.cons_append, List.append_assoc,
      stringChars_escape (escape_unit hlength hn hunit _), ih]
    rfl
  | pair hlength hlength' hhigh hlow hhigh' hlow' _ ih =>
    have hescape (rest : List Char) := (escape_pair hlength hhigh hhigh' _).trans
      (lowSurrogate_append hlength' hlow hlow' rest)
    rw [List.cons_append, List.cons_append, List.append_assoc, List.cons_append,
      List.cons_append, List.append_assoc, stringChars_escape (hescape _), ih]
    rfl

theorem string_of_spells {s : String} {text : List Char} (h : Spells s.toList text)
    (rest : List Char) : string (text ++ '"' :: rest) = .ok (s, rest) := by
  rw [string, stringChars_of_spells h]
  simp only [Except.map, String.ofList_toList]

theorem skipString_escape {rest rest' : List Char} (h : skipEscape rest = .ok ((), rest')) :
    skipString ('\\' :: rest) = skipString rest' := by
  rw [skipString, if_neg (by decide), if_pos rfl]
  split
  · rename_i hread
    rw [h] at hread
    cases hread
  · rename_i hread
    rw [h] at hread
    cases hread
    rfl

/-- Every text is passed over up to its closing quote. -/
theorem skipString_of_isSpelling {text : List Char} (h : IsSpelling text) (rest : List Char) :
    skipString (text ++ '"' :: rest) = .ok ((), rest) := by
  induction h with
  | nil => rw [List.nil_append, skipString, if_pos rfl]
  | plain hc _ ih =>
    obtain ⟨hquote, hslash, hcontrol⟩ := hc
    rw [List.cons_append, skipString, if_neg hquote, if_neg hslash, if_neg (by omega), ih]
  | @simple letter text hletter _ ih =>
    have hescape (rest : List Char) : skipEscape (letter :: rest) = .ok ((), rest) := by
      have hne : letter ≠ 'u' := by
        rintro rfl
        cases hletter
      rw [skipEscape, if_neg hne, if_pos hletter]
    rw [List.cons_append, List.cons_append, skipString_escape (hescape _), ih]
  | @unit digits text n hlength hn _ ih =>
    have hescape (rest : List Char) : skipEscape ('u' :: (digits ++ rest)) = .ok ((), rest) := by
      rw [skipEscape, if_pos rfl, hex4_append hlength hn]
      rfl
    rw [List.cons_append, List.cons_append, List.append_assoc, skipString_escape (hescape _), ih]

/-! ## Numbers -/

/-- A text goes on with something that ends a number. -/
def Ends (rest : List Char) : Prop :=
  ∀ c ∈ rest.head?, isSpace c = true ∨ c = ',' ∨ c = ']' ∨ c = '}'

/-- A text does not go on with a digit. -/
def NoDigit (rest : List Char) : Prop :=
  ∀ c ∈ rest.head?, Decimal.isDigit c = false

theorem Ends.cases {rest : List Char} (h : Ends rest) :
    rest = [] ∨ ∃ c more, rest = c :: more ∧ Decimal.isDigit c = false ∧ c ≠ '.' ∧ c ≠ 'e' ∧
      c ≠ 'E' := by
  cases rest with
  | nil => exact Or.inl rfl
  | cons c more =>
    refine Or.inr ⟨c, more, rfl, ?_⟩
    rcases h c rfl with hspace | rfl | rfl | rfl
    · simp only [isSpace, Bool.or_eq_true, decide_eq_true_eq] at hspace
      rcases hspace with ((rfl | rfl) | rfl) | rfl <;> decide
    · decide
    · decide
    · decide

theorem Ends.noDigit {rest : List Char} (h : Ends rest) : NoDigit rest := by
  obtain rfl | ⟨c, more, rfl, hc, -⟩ := h.cases
  · exact fun _ hc => by cases hc
  · exact fun d hd => by rwa [← Option.some.inj hd]

theorem digits_append {ds : List Char} (hds : IsNumeral ds) {rest : List Char}
    (hrest : NoDigit rest) : digits (ds ++ rest) = (ds, rest) := by
  obtain ⟨htake, hdrop⟩ := Decimal.takeWhile_digits rest hds.2 hrest
  rw [digits, htake, hdrop]

theorem wholePart_append {whole rest : List Char} (hwhole : IsWhole whole) (hrest : NoDigit rest) :
    wholePart (whole ++ rest) = .ok (whole, rest) := by
  rcases hwhole with rfl | ⟨⟨hne, hdigits⟩, hhead⟩
  · cases rest with
    | nil => rfl
    | cons d more =>
      simp only [List.cons_append, List.nil_append, wholePart, if_true, hrest d rfl,
        Bool.false_eq_true, if_false]
  · obtain ⟨d, ds, rfl⟩ := List.exists_cons_of_ne_nil hne
    have hzero : d ≠ '0' := fun heq => hhead (congrArg some heq)
    have hd : Decimal.isDigit d = true := hdigits d List.mem_cons_self
    obtain ⟨htake, hdrop⟩ := Decimal.takeWhile_digits rest
      (fun c hc => hdigits c (List.mem_cons_of_mem d hc)) hrest
    simp only [List.cons_append, wholePart, if_neg hzero, if_pos hd, digits, htake, hdrop]

theorem fractionPart_append {fraction rest : List Char} (hfraction : IsFraction fraction)
    (hdigit : NoDigit rest) (hpoint : ∀ more, rest ≠ '.' :: more) :
    ∃ f, fractionPart (fraction ++ rest) = .ok (f, rest) := by
  rcases hfraction with rfl | ⟨ds, hds, rfl⟩
  · refine ⟨none, ?_⟩
    rw [List.nil_append]
    unfold fractionPart
    split
    · exact absurd rfl (hpoint _)
    · rfl
  · refine ⟨some ds, ?_⟩
    rw [List.cons_append, fractionPart, digits_append hds hdigit]
    obtain ⟨d, ds, rfl⟩ := List.exists_cons_of_ne_nil hds.1
    rfl

/-- An exponent is read with its sign, if it has one. -/
theorem exponentPart_signed {e : Char} (he : e = 'e' ∨ e = 'E') {sign ds rest : List Char}
    (hsign : sign = [] ∨ sign = ['+'] ∨ sign = ['-']) (hds : IsNumeral ds) (hrest : NoDigit rest) :
    ∃ n, exponentPart (e :: (sign ++ (ds ++ rest))) = .ok (some n, rest) := by
  have hletter : (decide (e = 'e') || decide (e = 'E')) = true := by
    simp only [Bool.or_eq_true, decide_eq_true_eq]
    exact he
  have hread := digits_append hds hrest
  obtain ⟨d, ds, rfl⟩ := List.exists_cons_of_ne_nil hds.1
  rw [List.cons_append] at hread
  simp only [exponentPart, if_pos hletter]
  rcases hsign with rfl | rfl | rfl
  · -- The first digit is no sign.
    have hd : Decimal.isDigit d = true := hds.2 d List.mem_cons_self
    have hminus : d ≠ '-' := by
      rintro rfl
      cases hd
    have hplus : d ≠ '+' := by
      rintro rfl
      cases hd
    refine ⟨Decimal.value 0 (d :: ds), ?_⟩
    simp only [List.nil_append, List.cons_append, List.cons.injEq, hminus, hplus, false_and,
      imp_self, implies_true, hread, Bool.false_eq_true, if_false]
  · refine ⟨Decimal.value 0 (d :: ds), ?_⟩
    simp only [List.nil_append, List.cons_append, hread, Bool.false_eq_true, if_false]
  · refine ⟨-Decimal.value 0 (d :: ds), ?_⟩
    simp only [List.nil_append, List.cons_append, hread, if_true]

theorem exponentPart_append {exponent rest : List Char} (hexponent : IsExponent exponent)
    (hrest : Ends rest) : ∃ e, exponentPart (exponent ++ rest) = .ok (e, rest) := by
  rcases hexponent with rfl | ⟨e, sign, ds, he, hsign, hds, rfl⟩
  · refine ⟨none, ?_⟩
    obtain rfl | ⟨c, more, rfl, -, -, hlower, hupper⟩ := hrest.cases
    · rfl
    · have hletter : ¬ (decide (c = 'e') || decide (c = 'E')) = true := by
        simp only [Bool.or_eq_true, decide_eq_true_eq]
        exact not_or.2 ⟨hlower, hupper⟩
      simp only [List.nil_append, exponentPart, if_neg hletter]
  · obtain ⟨n, hread⟩ := exponentPart_signed he hsign hds hrest.noDigit
    rw [List.cons_append, List.append_assoc]
    exact ⟨some n, hread⟩

/-- What follows the digits before the point is no digit. -/
theorem noDigit_fraction {fraction exponent rest : List Char} (hfraction : IsFraction fraction)
    (hrest : NoDigit (exponent ++ rest)) : NoDigit (fraction ++ (exponent ++ rest)) := by
  rcases hfraction with rfl | ⟨ds, -, rfl⟩
  · exact hrest
  · intro c hc
    obtain rfl := Option.some.inj hc
    rfl

/-- What follows the digits after the point is neither a digit nor a point. -/
theorem exponent_head {exponent rest : List Char} (hexponent : IsExponent exponent)
    (hrest : Ends rest) :
    NoDigit (exponent ++ rest) ∧ ∀ more, exponent ++ rest ≠ '.' :: more := by
  rcases hexponent with rfl | ⟨e, sign, ds, he, -, -, rfl⟩
  · refine ⟨hrest.noDigit, ?_⟩
    rintro more rfl
    obtain h | ⟨c, more', heq, -, hpoint, -⟩ := hrest.cases
    · cases h
    · exact hpoint (List.cons.inj heq).1.symm
  · refine ⟨?_, ?_⟩
    · intro c hc
      obtain rfl := Option.some.inj hc
      rcases he with rfl | rfl <;> rfl
    · intro more heq
      have hpoint : e = '.' := (List.cons.inj heq).1
      rcases he with rfl | rfl <;> cases hpoint

/-- Every number is passed over. -/
theorem skipNumber_of_isUnsigned {cs rest : List Char} (h : IsUnsigned cs) (hrest : Ends rest) :
    skipNumber (cs ++ rest) = .ok ((), rest) := by
  obtain ⟨whole, fraction, exponent, hwhole, hfraction, hexponent, rfl⟩ := h
  obtain ⟨hdigit, hpoint⟩ := exponent_head hexponent hrest
  have hread := wholePart_append hwhole (noDigit_fraction hfraction hdigit)
  obtain ⟨f, hread'⟩ := fractionPart_append hfraction hdigit hpoint
  obtain ⟨e, hread''⟩ := exponentPart_append hexponent hrest
  rw [List.append_assoc, List.append_assoc]
  simp only [skipNumber, hread, hread', hread'', bind, Except.bind, pure, Except.pure]

/-- A number starts with a digit. -/
theorem exists_digit {cs : List Char} (h : IsUnsigned cs) :
    ∃ d more, cs = d :: more ∧ Decimal.isDigit d = true := by
  obtain ⟨whole, fraction, exponent, hwhole, -, -, rfl⟩ := h
  rcases hwhole with rfl | ⟨⟨hne, hdigits⟩, -⟩
  · exact ⟨'0', _, rfl, rfl⟩
  · obtain ⟨d, ds, rfl⟩ := List.exists_cons_of_ne_nil hne
    exact ⟨d, _, rfl, hdigits d List.mem_cons_self⟩

end RemoteConfig.Json
