import RemoteConfig.Proofs.Json.Normal
import RemoteConfig.Proofs.Json.Reader
import RemoteConfig.Proofs.Json.Render
import RemoteConfig.Proofs.Number.Digits

/-!
# Values as they are written

How a value without doubles may be written: blanks between all words, any
spelling of texts, and the members of an object in any order, also with several of
a name.

* `IsWritten` says so.  It bounds how deep the value is nested.
* `reads_value` says that the reader finds the normal form of the value.
* `isWritten_normal` says that the canonical text of the normal form is one of
  the ways to write it, so that `chars_normal_inj` follows: normal forms differ in
  their canonical texts.
-/

namespace RemoteConfig.Json

/-! ## How values are written -/

/-- The integer has 64 bits, with a sign or without one. -/
def Fits (i : Int) : Prop :=
  -0x8000000000000000 ≤ i ∧ i ≤ 0xFFFFFFFFFFFFFFFF

/-- An integer without point and power of ten.  Zero has no sign. -/
inductive IsInteger : Int → List Char → Prop where
  | natural {whole : List Char} (h : IsWhole whole) : IsInteger (Decimal.value 0 whole) whole
  | negative {whole : List Char} (h : IsWhole whole) (hzero : Decimal.value 0 whole ≠ 0) :
    IsInteger (-(Decimal.value 0 whole : Int)) ('-' :: whole)

/-- A value that holds no others. -/
inductive IsScalar : Json → List Char → Prop where
  | null : IsScalar .null ['n', 'u', 'l', 'l']
  | true : IsScalar (.bool true) ['t', 'r', 'u', 'e']
  | false : IsScalar (.bool false) ['f', 'a', 'l', 's', 'e']
  | integer {i : Int} {text : List Char} (hi : Fits i) (h : IsInteger i text) :
    IsScalar (.integer i) text
  | text {s : String} {text : List Char} (h : IsText s text) : IsScalar (.text s) text

/-- An array or an object, with the grammar of what it holds. -/
inductive IsNesting (held : Json → List Char → Prop) : Json → List Char → Prop where
  | array {items : List Json} {text : List Char} (h : IsArray held items text) :
    IsNesting held (.array items) text
  | object {members : List (String × Json)} {text : List Char}
    (h : IsObject (fun p => IsMember (Spells p.1.toList) (held p.2)) members text) :
    IsNesting held (.object members) text

/-- The value, nested at most `depth` levels deep, may be written as this text. -/
def IsWritten : (depth : Nat) → Json → List Char → Prop
  | 0 => IsScalar
  | depth + 1 => fun v cs => IsScalar v cs ∨ IsNesting (IsWritten depth) v cs

theorem IsScalar.isWritten {v : Json} {text : List Char} (h : IsScalar v text) (depth : Nat) :
    IsWritten depth v text := by
  cases depth with
  | zero => exact h
  | succ depth => exact .inl h

theorem IsScalar.normal_eq {v : Json} {text : List Char} (h : IsScalar v text) : normal v = v := by
  cases h <;> rfl

/-! ## Reading integers -/

theorem IsWhole.isUnsigned {whole : List Char} (h : IsWhole whole) : IsUnsigned whole :=
  ⟨whole, [], [], h, .inl rfl, .inl rfl, (List.append_nil whole).symm⟩

theorem fractionPart_of_ends {rest : List Char} (h : Ends rest) :
    fractionPart rest = .ok (none, rest) := by
  obtain rfl | ⟨c, more, rfl, -, hpoint, -⟩ := h.cases
  · rfl
  · unfold fractionPart
    split
    · rename_i heq
      exact absurd (List.cons.inj heq).1 hpoint
    · rfl

theorem exponentPart_of_ends {rest : List Char} (h : Ends rest) :
    exponentPart rest = .ok (none, rest) := by
  obtain rfl | ⟨c, more, rfl, -, -, hlower, hupper⟩ := h.cases
  · rfl
  · have hletter : ¬ (decide (c = 'e') || decide (c = 'E')) = true := by
      simp only [Bool.or_eq_true, decide_eq_true_eq]
      exact not_or.2 ⟨hlower, hupper⟩
    simp only [exponentPart, if_neg hletter]

/-- Digits alone are an integer where they fit. -/
theorem number_of_isWhole {negative : Bool} {whole rest : List Char} {n : Number}
    (hwhole : IsWhole whole) (hrest : Ends rest) (hn : integerNumber negative whole = some n) :
    number negative (whole ++ rest) = .ok (n, rest) := by
  simp only [number, wholePart_append hwhole hrest.noDigit, fractionPart_of_ends hrest,
    exponentPart_of_ends hrest, hn, bind, Except.bind]

theorem integerNumber_natural {whole : List Char} (h : Decimal.value 0 whole ≤ significandBound) :
    integerNumber false whole = some (.integer (Decimal.value 0 whole)) := by
  simp only [integerNumber, Bool.false_eq_true, if_false, if_pos h]

theorem integerNumber_negative {whole : List Char} (hzero : Decimal.value 0 whole ≠ 0)
    (h : Decimal.value 0 whole ≤ UInt64.size / 2) :
    integerNumber true whole = some (.integer (-(Decimal.value 0 whole : Int))) := by
  simp only [integerNumber, if_true, if_neg hzero, if_pos h]

/-! ## Reading values -/

section Reading

variable {depth : Nat}

theorem value_blank {b : List Char} (hb : Blank b) {c : Char} (hc : isSpace c = false)
    (cs : List Char) : value depth (b ++ c :: cs) = value depth (c :: cs) := by
  unfold value
  rw [skipSpace_word hb hc, skipSpace_cons hc]

/-! The first character of a value tells which reader goes on. -/

theorem value_null (cs : List Char) :
    value depth ('n' :: cs) = (literal ['u', 'l', 'l'] cs).map fun r => (.null, r.2) := by
  cases depth <;> rfl

theorem value_true (cs : List Char) :
    value depth ('t' :: cs) = (literal ['r', 'u', 'e'] cs).map fun r => (.bool true, r.2) := by
  cases depth <;> rfl

theorem value_false (cs : List Char) :
    value depth ('f' :: cs) =
      (literal ['a', 'l', 's', 'e'] cs).map fun r => (.bool false, r.2) := by
  cases depth <;> rfl

theorem value_quote (cs : List Char) :
    value depth ('"' :: cs) = (string cs).map fun r => (.text r.1, r.2) := by
  cases depth <;> rfl

theorem value_minus {cs rest : List Char} {i : Int} (h : number true cs = .ok (.integer i, rest)) :
    value depth ('-' :: cs) = .ok (.integer i, rest) := by
  cases depth <;> exact congrArg (Except.map _) h

theorem value_digit {d : Char} (hd : Decimal.isDigit d = true) {cs rest : List Char} {i : Int}
    (h : number false (d :: cs) = .ok (.integer i, rest)) :
    value depth (d :: cs) = .ok (.integer i, rest) := by
  have hne := ne_of_isDigit hd
  unfold value
  rw [skipSpace_cons (isSpace_of_isDigit hd)]
  simp only
  rw [if_neg (hne 'n' (by decide)), if_neg (hne 't' (by decide)), if_neg (hne 'f' (by decide)),
    if_neg (hne '"' (by decide))]
  simp only [hne '-' (by decide), hd, decide_false, Bool.false_or, if_true, if_false, h]
  rfl

theorem value_bracket (cs : List Char) :
    value (depth + 1) ('[' :: cs) =
      (arrayOf (value depth) cs).map fun r => (.array r.1, r.2) :=
  rfl

theorem value_brace (cs : List Char) :
    value (depth + 1) ('{' :: cs) =
      (objectOf string (keepMember (value depth)) [] cs).map fun r => (.object r.1, r.2) :=
  rfl

/-- Reading from the first character on is enough. -/
theorem reads_value_of_first {c : Char} {cs : List Char} {v : Json} (hc : isSpace c = false)
    (hclose : c ≠ ']')
    (h : ∀ rest, Ends rest → value depth (c :: (cs ++ rest)) = .ok (v, rest)) :
    Starts (c :: cs) ∧ Reads (value depth) (c :: cs) v :=
  reads_of_first (fun hb => value_blank hb hc) hc hclose h

theorem reads_integer {i : Int} (hi : Fits i) {text : List Char} (h : IsInteger i text) :
    Starts text ∧ Reads (value depth) text (.integer i) := by
  unfold Fits at hi
  cases h with
  | natural hwhole =>
    obtain ⟨d, cs, rfl, hd⟩ := exists_digit hwhole.isUnsigned
    refine reads_value_of_first (isSpace_of_isDigit hd) (ne_of_isDigit hd ']' (by decide))
      fun rest hrest => ?_
    have hbound : Decimal.value 0 (d :: cs) ≤ significandBound := Int.ofNat_le.1 hi.2
    exact value_digit hd (number_of_isWhole hwhole hrest (integerNumber_natural hbound))
  | @negative whole hwhole hzero =>
    refine reads_value_of_first (by decide) (by decide) fun rest hrest => ?_
    have hbound : Decimal.value 0 whole ≤ UInt64.size / 2 :=
      Int.ofNat_le.1 (Int.neg_le_neg_iff.1 hi.1)
    exact value_minus (number_of_isWhole hwhole hrest (integerNumber_negative hzero hbound))

theorem reads_scalar {v : Json} {text : List Char} (h : IsScalar v text) :
    Starts text ∧ Reads (value depth) text v := by
  cases h with
  | null =>
    refine reads_value_of_first (by decide) (by decide) fun rest _ => ?_
    rw [value_null, literal_append]
    rfl
  | true =>
    refine reads_value_of_first (by decide) (by decide) fun rest _ => ?_
    rw [value_true, literal_append]
    rfl
  | false =>
    refine reads_value_of_first (by decide) (by decide) fun rest _ => ?_
    rw [value_false, literal_append]
    rfl
  | integer hi h => exact reads_integer hi h
  | text h =>
    obtain ⟨spelling, hspells, rfl⟩ := h
    refine reads_value_of_first (by decide) (by decide) fun rest _ => ?_
    have hread := string_of_spells hspells rest
    rw [value_quote, List.append_assoc]
    exact congrArg (Except.map _) hread

/-- Members are kept in the order of their names, the last of each name. -/
theorem readsMembers_keep {α : Type} {read : Reader Json} {held : α → List Char → Prop}
    {f : α → Json} (h : ∀ x t, held x t → Reads read t (f x)) (members : List (String × α)) :
    ReadsMembers string (keepMember read) (fun p => Spells p.1.toList) (fun p => held p.2) Prod.fst
      (fun before => (TextMap.ofList (before.map fun p => (p.1, f p.2))).toList) members where
  name_append := string_of_spells
  step_append := by
    intro before after p _ b b' v rest hb hb' hv hrest
    have hread := h p.2 v hv b' rest hb' hrest
    simp only [keepMember, colon_append hb, hread, bind, Except.bind]
    rw [List.map_append, List.map_singleton, TextMap.ofList_concat]
    rfl

/-- A value as it is written is read as its normal form. -/
theorem reads_value {v : Json} {text : List Char} (h : IsWritten depth v text) :
    Starts text ∧ Reads (value depth) text (normal v) := by
  induction depth generalizing v text with
  | zero =>
    rw [IsScalar.normal_eq h]
    exact reads_scalar h
  | succ depth ih =>
    rcases h with h | h
    · rw [h.normal_eq]
      exact reads_scalar h
    · cases h with
      | @array items _ h =>
        obtain ⟨body, hbody, rfl⟩ := h
        refine reads_value_of_first (by decide) (by decide) fun rest _ => ?_
        have hitems : Body ']' (fun w t => Starts t ∧ Reads (value depth) t w) (items.map normal)
            body := hbody.map fun _ _ ht => ih ht
        rw [value_bracket, arrayOf_append (fun _ _ ht => ht) hitems rest, normal_array]
        rfl
      | @object members _ h =>
        obtain ⟨body, hbody, rfl⟩ := h
        refine reads_value_of_first (by decide) (by decide) fun rest _ => ?_
        have hheld (w : Json) (t : List Char) (ht : IsWritten depth w t) := (ih ht).2
        have hread := objectOf_append (readsMembers_keep hheld members) hbody rest
        rw [value_brace, normal_object]
        exact congrArg (Except.map _) hread

end Reading

/-! ## Writing -/

theorem toDigits_ne_nil (n : Nat) : Nat.toDigits 10 n ≠ [] := by
  rw [Nat.toDigits_eq_if (by decide)]
  split <;> simp

theorem head?_toDigits {n : Nat} (hn : n ≠ 0) : (Nat.toDigits 10 n).head? ≠ some '0' := by
  induction n using Nat.strongRecOn with
  | ind n ih =>
    rw [Nat.toDigits_eq_if (by decide)]
    split
    · rename_i hsmall
      have hdigit : ∀ d < 10, d ≠ 0 → d.digitChar ≠ '0' := by decide
      exact fun heq => hdigit n hsmall hn (Option.some.inj heq)
    · rw [List.head?_append_of_ne_nil _ (toDigits_ne_nil _)]
      exact ih (n / 10) (by omega) (by omega)

/-- The decimal digits of a number have no zero in front. -/
theorem isWhole_toDigits (n : Nat) : IsWhole (Nat.toDigits 10 n) := by
  by_cases hn : n = 0
  · exact .inl (by rw [hn, Nat.toDigits_zero])
  · exact .inr ⟨⟨toDigits_ne_nil n, fun _ hc => Decimal.isDigit_of_mem_toDigits hc⟩,
      head?_toDigits hn⟩

theorem isInteger_chars (i : Int) : IsInteger i (chars (.integer i)) := by
  have hwhole := isWhole_toDigits i.natAbs
  have hvalue := Decimal.value_toDigits i.natAbs
  rw [chars, Decimal.intText]
  split
  · rename_i hneg
    have hinteger := IsInteger.negative hwhole (by omega)
    rw [hvalue, ← Int.eq_neg_natAbs_of_nonpos (Int.le_of_lt hneg)] at hinteger
    rwa [String.toList_append, Decimal.text, String.toList_ofList, String.toList_ofList]
  · rename_i hpos
    have hinteger := IsInteger.natural hwhole
    rw [hvalue, Int.natAbs_of_nonneg (Int.not_lt.1 hpos)] at hinteger
    rwa [Decimal.text, String.toList_ofList]

theorem isScalar_chars {v : Json} {text : List Char} (h : IsScalar v text) :
    IsScalar v (chars v) := by
  cases h with
  | null => exact .null
  | true => exact .true
  | false => exact .false
  | integer hi _ => exact .integer hi (isInteger_chars _)
  | text _ =>
    rw [chars]
    exact .text (isText_quoted _)

/-- The canonical text of the normal form is a way to write it. -/
theorem isWritten_normal {depth : Nat} {v : Json} {text : List Char} (h : IsWritten depth v text) :
    IsWritten depth (normal v) (chars (normal v)) := by
  induction depth generalizing v text with
  | zero =>
    rw [IsScalar.normal_eq h]
    exact isScalar_chars h
  | succ depth ih =>
    rcases h with h | h
    · rw [h.normal_eq]
      exact .inl (isScalar_chars h)
    · refine .inr ?_
      cases h with
      | @array items _ h =>
        obtain ⟨body, hbody, rfl⟩ := h
        rw [normal_array]
        have hitems : ∀ w ∈ items.map normal, IsWritten depth w (chars (id w)) := by
          intro w hw
          obtain ⟨v, hv, rfl⟩ := List.mem_map.1 hw
          obtain ⟨t, ht⟩ := hbody.exists_item hv
          exact ih ht
        have harray := isArray_chars hitems
        rw [List.map_id] at harray
        exact .array harray
      | @object members _ h =>
        obtain ⟨body, hbody, rfl⟩ := h
        rw [normal_object]
        have hmembers : ∀ p ∈ (normalMap members).toList, IsWritten depth p.2 (chars p.2) := by
          intro p hp
          obtain ⟨q, hq, rfl⟩ := mem_of_mem_normalMap hp
          obtain ⟨t, _, _, _, v, _, _, _, hv, _⟩ := hbody.exists_item hq
          exact ih hv
        have hobject := isObject_chars Prod.fst hmembers
        rw [List.map_id'] at hobject
        exact .object hobject

/-- Normal forms with the same canonical text are the same. -/
theorem chars_normal_inj {depth : Nat} {v w : Json} {x y : List Char} (hv : IsWritten depth v x)
    (hw : IsWritten depth w y) (h : chars (normal v) = chars (normal w)) : normal v = normal w := by
  have hends : Ends [] := fun _ h => nomatch h
  have hread := (reads_value (isWritten_normal hv)).2 [] [] blank_nil hends
  have hread' := (reads_value (isWritten_normal hw)).2 [] [] blank_nil hends
  rw [h, hread', normal_normal, normal_normal] at hread
  exact (Prod.mk.inj (Except.ok.inj hread)).1.symm

end RemoteConfig.Json
