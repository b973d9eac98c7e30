import RemoteConfig.Number.Double

/-!
# Decimal numerals

Digits of natural numbers, and numerals read as doubles: an optional sign,
digits with an optional point among them, and an optional power of ten; or
`inf`, `infinity` or `nan` in any case.  A numeral denotes the double nearest
to its exact value.
-/

namespace RemoteConfig.Decimal

/-- The value of a decimal digit. -/
def digit? (c : Char) : Option Nat :=
  if '0' ≤ c && c ≤ '9' then some (c.toNat - 48) else none

def isDigit (c : Char) : Bool :=
  (digit? c).isSome

/-- The number that a list of digits denotes, after `acc`. -/
def value (acc : Nat) (cs : List Char) : Nat :=
  cs.foldl (fun n c => n * 10 + (digit? c).getD 0) acc

/-- The decimal text of a natural number. -/
def text (n : Nat) : String :=
  String.ofList (Nat.toDigits 10 n)

/-- The decimal text of an integer. -/
def intText (i : Int) : String :=
  if i < 0 then "-" ++ text i.natAbs else text i.natAbs

/-- The number of decimal digits. -/
def width (n : Nat) : Nat :=
  (Nat.toDigits 10 n).length

/-- A natural number of at most `bound`: digits after an optional plus sign. -/
def natural? (bound : Nat) (cs : List Char) : Option Nat :=
  let ds := match cs with
    | '+' :: rest => rest
    | _ => cs
  if ds.isEmpty || !ds.all isDigit then none
  else
    let n := value 0 ds
    if n ≤ bound then some n else none

/-- A 64-bit natural number. -/
def word64? (s : String) : Option UInt64 :=
  (natural? (UInt64.size - 1) s.toList).map UInt64.ofNat

/-- A 32-bit natural number. -/
def word32? (s : String) : Option UInt32 :=
  (natural? (UInt32.size - 1) s.toList).map UInt32.ofNat

/-- The double nearest to `digits` times ten to the power of `exponent`.
Beyond 10 ^ 310 and below 10 ^ -330 the answer is known without the power. -/
def toDouble (negative : Bool) (digits : Nat) (exponent : Int) : Double :=
  let leading := (width digits : Int) + exponent
  if digits = 0 then .finite negative 0
  else if 310 < leading then .infinite negative
  else if leading < -330 then .finite negative 0
  else if 0 ≤ exponent then
    .ofUnits negative (digits * Nat.pow 10 exponent.toNat * Double.one) 1
  else .ofUnits negative (digits * Double.one) (Nat.pow 10 (-exponent).toNat)

/-- The power of ten at the end of a numeral: nothing, or `e` and digits with
an optional sign. -/
def exponent? : List Char → Option Int
  | [] => some 0
  | e :: rest =>
    if e = 'e' || e = 'E' then
      let (negative, ds) := match rest with
        | '-' :: ds => (true, ds)
        | '+' :: ds => (false, ds)
        | ds => (false, ds)
      if ds.isEmpty || !ds.all isDigit then none
      else some (if negative then -(value 0 ds : Int) else value 0 ds)
    else none

/-- A numeral without its sign. -/
def unsigned? (negative : Bool) (cs : List Char) : Option Double :=
  let word := cs.map Char.toLower
  if word = "inf".toList || word = "infinity".toList then some (.infinite negative)
  else if word = "nan".toList then some .nan
  else
    let whole := cs.takeWhile isDigit
    let rest := cs.dropWhile isDigit
    let (fraction, rest) := match rest with
      | '.' :: more => (more.takeWhile isDigit, more.dropWhile isDigit)
      | _ => ([], rest)
    if whole.isEmpty && fraction.isEmpty then none
    else
      (exponent? rest).map fun e =>
        toDouble negative (value 0 (whole ++ fraction)) (e - fraction.length)

/-- The double that a numeral denotes. -/
def double? (s : String) : Option Double :=
  match s.toList with
  | '-' :: rest => unsigned? true rest
  | '+' :: rest => unsigned? false rest
  | cs => unsigned? false cs

end RemoteConfig.Decimal
