import RemoteConfig.Number.Decimal
import RemoteConfig.Number.Radix
import RemoteConfig.Text.Utf8

/-!
# Scanning of JSON texts

The words of a JSON text, read from the front of a list of characters: blanks,
literals, texts between quotes, and numbers.  A reader meets its first fault
where the text stops being readable, and a `Fault` says only of what kind it
is.

Texts and numbers come in two strengths.  Those that are kept are decoded in
full; those that are skipped over are only followed to their end, so that an
unpaired surrogate or a number out of range goes unnoticed there.
-/

namespace RemoteConfig.Json

/-- Why a JSON text cannot be read. -/
inductive Fault where
  /-- The text ends early. -/
  | ended
  /-- The text is not JSON. -/
  | malformed
  /-- The text is JSON of another shape than the one asked for. -/
  | mismatched
  deriving Repr, DecidableEq

/-- Reads something from the front of a text. -/
abbrev Reader (α : Type) := List Char → Except Fault (α × List Char)

/-- The blanks between words. -/
def isSpace (c : Char) : Bool :=
  c = ' ' || c = '\n' || c = '\t' || c = '\r'

/-- The text from the first word on. -/
def skipSpace (cs : List Char) : List Char :=
  cs.dropWhile isSpace

/-- The rest of a literal, letter by letter. -/
def literal : List Char → Reader Unit
  | [], cs => .ok ((), cs)
  | _ :: _, [] => .error .ended
  | l :: ls, c :: cs => if c = l then literal ls cs else .error .malformed

/-! ## Texts between quotes -/

/-- Four hexadecimal digits.  Fewer than four bytes are an early end, whatever
they are. -/
def hex4 : Reader Nat
  | a :: b :: c :: d :: rest =>
    match Radix.value? 16 [a, b, c, d] with
    | some n => .ok (n, rest)
    | none => .error .malformed
  | cs => .error (if (Text.bytesOfChars cs).length < 4 then .ended else .malformed)

theorem hex4_length {cs rest : List Char} {n : Nat} (h : hex4 cs = .ok (n, rest)) :
    rest.length < cs.length := by
  unfold hex4 at h
  split at h
  · split at h
    · cases h
      simp only [List.length_cons]
      omega
    · cases h
  · split at h <;> cases h

/-- The character of a simple escape. -/
def simpleEscape? (c : Char) : Option Char :=
  match c with
  | '"' => some '"'
  | '\\' => some '\\'
  | '/' => some '/'
  | 'b' => some '\x08'
  | 'f' => some '\x0c'
  | 'n' => some '\n'
  | 'r' => some '\r'
  | 't' => some '\t'
  | _ => none

/-- The second half of a surrogate pair: another escape with a low surrogate. -/
def lowSurrogate (high : Nat) : Reader Char
  | [] => .error .ended
  | c :: cs =>
    if c = '\\' then
      match cs with
      | [] => .error .ended
      | u :: cs =>
        if u = 'u' then
          match hex4 cs with
          | .error e => .error e
          | .ok (low, rest) =>
            if low < 0xDC00 || 0xDFFF < low then .error .malformed
            else .ok (Char.ofNat ((high - 0xD800) * 0x400 + (low - 0xDC00) + 0x10000), rest)
        else .error .malformed
    else .error .malformed

theorem lowSurrogate_length {high : Nat} {cs rest : List Char} {c : Char}
    (h : lowSurrogate high cs = .ok (c, rest)) : rest.length < cs.length := by
  unfold lowSurrogate at h
  split at h
  · cases h
  · split at h
    · split at h
      · cases h
      · split at h
        · split at h
          · cases h
          · rename_i heq
            split at h
            · cases h
            · simp only [Except.ok.injEq, Prod.mk.injEq] at h
              obtain ⟨_, rfl⟩ := h
              have := hex4_length heq
              simp only [List.length_cons]
              omega
        · cases h
    · cases h

/-- What follows a backslash in a text that is kept. -/
def escape : Reader Char
  | [] => .error .ended
  | c :: cs =>
    if c = 'u' then
      match hex4 cs with
      | .error e => .error e
      | .ok (n, rest) =>
        if 0xDC00 ≤ n && n ≤ 0xDFFF then .error .malformed
        else if 0xD800 ≤ n && n ≤ 0xDBFF then lowSurrogate n rest
        else .ok (Char.ofNat n, rest)
    else
      match simpleEscape? c with
      | some d => .ok (d, cs)
      | none => .error .malformed

theorem escape_length {cs rest : List Char} {c : Char} (h : escape cs = .ok (c, rest)) :
    rest.length < cs.length := by
  unfold escape at h
  split at h
  · cases h
  · split at h
    · split at h
      · cases h
      · rename_i heq
        have := hex4_length heq
        split at h
        · cases h
        · split at h
          · have := lowSurrogate_length h
            simp only [List.length_cons]
            omega
          · cases h
            simp only [List.length_cons]
            omega
    · split at h
      · cases h
        simp
      · cases h

/-- A text that is kept, after its opening quote. -/
def stringChars (cs : List Char) : Except Fault (List Char × List Char) :=
  match cs with
  | [] => .error .ended
  | c :: rest =>
    if c = '"' then .ok ([], rest)
    else if c = '\\' then
      match _read : escape rest with
      | .error e => .error e
      | .ok (d, rest') =>
        match stringChars rest' with
        | .error e => .error e
        | .ok (ds, last) => .ok (d :: ds, last)
    else if c.toNat < 0x20 then .error .malformed
    else
      match stringChars rest with
      | .error e => .error e
      | .ok (ds, last) => .ok (c :: ds, last)
termination_by cs.length
decreasing_by
  all_goals simp only [List.length_cons]
  · have := escape_length _read
    omega
  · omega

/-- A text that is kept, after its opening quote. -/
def string : Reader String := fun cs =>
  (stringChars cs).map fun (ds, rest) => (String.ofList ds, rest)

/-- What follows a backslash in a text that is skipped. -/
def skipEscape : Reader Unit
  | [] => .error .ended
  | c :: cs =>
    if c = 'u' then (hex4 cs).map fun (_, rest) => ((), rest)
    else if (simpleEscape? c).isSome then .ok ((), cs)
    else .error .malformed

theorem skipEscape_length {cs rest : List Char} {u : Unit} (h : skipEscape cs = .ok (u, rest)) :
    rest.length < cs.length := by
  unfold skipEscape at h
  split at h
  · cases h
  · split at h
    · rename_i c tail _
      cases hx : hex4 tail with
      | error e => simp [hx, Except.map] at h
      | ok r =>
        obtain ⟨n, last⟩ := r
        simp only [hx, Except.map, Except.ok.injEq, Prod.mk.injEq, true_and] at h
        have := hex4_length hx
        subst h
        simp only [List.length_cons]
        omega
    · split at h
      · cases h
        simp
      · cases h

/-- A text that is skipped, after its opening quote. -/
def skipString (cs : List Char) : Except Fault (Unit × List Char) :=
  match cs with
  | [] => .error .ended
  | c :: rest =>
    if c = '"' then .ok ((), rest)
    else if c = '\\' then
      match _read : skipEscape rest with
      | .error e => .error e
      | .ok (_, rest') => skipString rest'
    else if c.toNat < 0x20 then .error .malformed
    else skipString rest
termination_by cs.length
decreasing_by
  all_goals simp only [List.length_cons]
  · have := skipEscape_length _read
    omega
  · omega

/-! ## Numbers -/

/-- A number as it is kept: an integer where one of the two 64-bit ranges
holds it, and otherwise a double. -/
inductive Number where
  | integer (i : Int)
  | double (d : Double)
  deriving Repr, DecidableEq

/-- The greatest significand that is kept digit by digit. -/
def significandBound : Nat := UInt64.size - 1

/-- Appends digits to a significand as long as it stays within its bound, and
counts the digits appended. -/
def appendDigits : (significand : Nat) → List Char → Nat × Nat
  | significand, [] => (significand, 0)
  | significand, c :: cs =>
    let next := significand * 10 + (Decimal.digit? c).getD 0
    if next ≤ significandBound then
      let (last, count) := appendDigits next cs
      (last, count + 1)
    else (significand, 0)

/-- A power of ten as a double. -/
def powerOfTen (n : Nat) : Double :=
  .ofNat (Nat.pow 10 n)

/-- A double times a power of ten, in steps of at most 10 ^ 308, each of them
rounded; nothing if the result is out of range. -/
def scale (d : Double) (exponent : Int) : Option Double :=
  if exponent.natAbs ≤ 308 then
    if 0 ≤ exponent then
      let product := d.mul (powerOfTen exponent.natAbs)
      if product.isFinite then some product else none
    else some (d.div (powerOfTen exponent.natAbs))
  else if d = .zero then some d
  else if 0 ≤ exponent then none
  else scale (d.div (powerOfTen 308)) (exponent + 308)
termination_by exponent.natAbs
decreasing_by omega

/-- The double for the digits before and after the point and a power of ten.
Digits beyond the bound of the significand count only by their place. -/
def scaledDouble (negative : Bool) (whole fraction : List Char) (exponent : Int) :
    Option Double :=
  let (head, wholeCount) := appendDigits 0 whole
  let (significand, fractionCount) := appendDigits head fraction
  let shift : Int := (whole.length - wholeCount : Int) - fractionCount + exponent
  (scale (.ofNat significand) shift).map fun d => if negative then d.neg else d

/-- The digits at the front. -/
def digits (cs : List Char) : List Char × List Char :=
  (cs.takeWhile Decimal.isDigit, cs.dropWhile Decimal.isDigit)

/-- The digits before the point: a single zero, or digits that start with
another one. -/
def wholePart : Reader (List Char)
  | [] => .error .ended
  | c :: cs =>
    if c = '0' then
      match cs with
      | d :: _ => if Decimal.isDigit d then .error .malformed else .ok ([c], cs)
      | [] => .ok ([c], cs)
    else if Decimal.isDigit c then
      let (ds, rest) := digits cs
      .ok (c :: ds, rest)
    else .error .malformed

/-- The digits after a point, if there is a point. -/
def fractionPart : Reader (Option (List Char))
  | '.' :: cs =>
    match digits cs with
    | ([], []) => .error .ended
    | ([], _ :: _) => .error .malformed
    | (ds, rest) => .ok (some ds, rest)
  | cs => .ok (none, cs)

/-- The power of ten, if there is one. -/
def exponentPart : Reader (Option Int)
  | [] => .ok (none, [])
  | e :: cs =>
    if e = 'e' || e = 'E' then
      let (negative, cs) := match cs with
        | '-' :: cs => (true, cs)
        | '+' :: cs => (false, cs)
        | cs => (false, cs)
      match digits cs with
      | ([], []) => .error .ended
      | ([], _ :: _) => .error .malformed
      | (ds, rest) =>
        let n := Decimal.value 0 ds
        .ok (some (if negative then -(n : Int) else n), rest)
    else .ok (none, e :: cs)

/-- The number for an integer numeral. -/
def integerNumber (negative : Bool) (whole : List Char) : Option Number :=
  let n := Decimal.value 0 whole
  if negative then
    if n = 0 then some (.double (.finite true 0))
    else if n ≤ UInt64.size / 2 then some (.integer (-(n : Int)))
    else if n ≤ significandBound then some (.double (.neg (.ofNat n)))
    else (scaledDouble true whole [] 0).map .double
  else if n ≤ significandBound then some (.integer n)
  else (scaledDouble false whole [] 0).map .double

/-- A number that is kept, after its sign. -/
def number (negative : Bool) : Reader Number := fun cs => do
  let (whole, cs) ← wholePart cs
  let (fraction, cs) ← fractionPart cs
  let (exponent, cs) ← exponentPart cs
  let result := match fraction, exponent with
    | none, none => integerNumber negative whole
    | _, _ => (scaledDouble negative whole (fraction.getD []) (exponent.getD 0)).map .double
  match result with
  | some n => .ok (n, cs)
  | none => .error .malformed

/-- A number that is skipped, after its sign.  An early end is no number. -/
def skipNumber : Reader Unit := fun cs =>
  let read : Except Fault (List Char) := do
    let (_, cs) ← wholePart cs
    let (_, cs) ← fractionPart cs
    let (_, cs) ← exponentPart cs
    return cs
  match read with
  | .ok rest => .ok ((), rest)
  | .error _ => .error .malformed

end RemoteConfig.Json
