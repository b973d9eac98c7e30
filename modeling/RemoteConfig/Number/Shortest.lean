import RemoteConfig.Number.Decimal

/-!
# Shortest decimal texts

The decimal text of a double has the fewest digits that read back as the same
double, and among those the ones nearest to it.  `shortest` finds them by
exact arithmetic; a `Layout` says how they are written.
-/

namespace RemoteConfig.Decimal

/-- Which of two equally near decimals is taken. -/
inductive Tie where
  | up
  | even
  deriving Repr, DecidableEq

/-- The decimals that read back as a double of `units`: those between `low`
and `high` quarters of a unit, the ends included if `closed`. -/
structure ReadBack where
  low : Nat
  high : Nat
  closed : Bool

/-- The interval around `units`.  Below a power of two the doubles are twice
as dense. -/
def readBack (units : Nat) : ReadBack :=
  let gap := Double.spacing units
  let below := if 1 < gap && units = Nat.pow 2 units.log2 then gap else 2 * gap
  ⟨4 * units - below, 4 * units + 2 * gap, units / gap % 2 = 0⟩

/-- `num / den` lies in the interval. -/
def ReadBack.contains (r : ReadBack) (num den : Nat) : Bool :=
  if r.closed then r.low * den ≤ num && num ≤ r.high * den
  else r.low * den < num && num < r.high * den

/-- The decimal `digits * 10 ^ exponent` in quarters of a unit, as a fraction. -/
def quarters (digits : Nat) (exponent : Int) : Nat × Nat :=
  if 0 ≤ exponent then (digits * Nat.pow 10 exponent.toNat * (4 * Double.one), 1)
  else (digits * (4 * Double.one), Nat.pow 10 (-exponent).toNat)

/-- The decimals next to a double on the grid of multiples of
`10 ^ exponent`: the one at or below it, and twice the distance to it compared
with the step of the grid. -/
def gridNeighbour (units : Nat) (exponent : Int) : Nat × Ordering :=
  let (num, den) :=
    if 0 ≤ exponent then (units, Nat.pow 10 exponent.toNat * Double.one)
    else (units * Nat.pow 10 (-exponent).toNat, Double.one)
  (num / den, compare (2 * (num % den)) den)

/-- The decimal on the grid of multiples of `10 ^ exponent` that reads back as
`units`, the nearest one if there are two. -/
def onGrid (tie : Tie) (units : Nat) (exponent : Int) : Option Nat :=
  let (d, side) := gridNeighbour units exponent
  let reads (d : Nat) :=
    let (num, den) := quarters d exponent
    (readBack units).contains num den
  let upper := match side with
    | .lt => false
    | .gt => true
    | .eq => match tie with
      | .up => true
      | .even => d % 2 = 1
  match reads d, reads (d + 1) with
  | true, true => some (if upper then d + 1 else d)
  | true, false => some d
  | false, true => some (d + 1)
  | false, false => none

/-- The exponent of the first digit of a positive number of units: the
greatest `e` with `10 ^ e` at or below it, searched downwards from `start`. -/
def leadingExponent (units : Nat) : (fuel : Nat) → (start : Int) → Int
  | 0, start => start
  | fuel + 1, start =>
    let atMost :=
      if 0 ≤ start then Nat.pow 10 start.toNat * Double.one ≤ units
      else Double.one ≤ units * Nat.pow 10 (-start).toNat
    if atMost then start else leadingExponent units fuel (start - 1)

/-- Takes the first grid that has a decimal which reads back, from coarse to
fine. -/
def firstGrid (tie : Tie) (units : Nat) : (fuel : Nat) → (exponent : Int) → Nat × Int
  | 0, exponent => ((gridNeighbour units exponent).1, exponent)
  | fuel + 1, exponent =>
    match onGrid tie units exponent with
    | some d => (d, exponent)
    | none => firstGrid tie units fuel (exponent - 1)

/-- The digits without zeros at the end, and the power of ten that makes up
for them. -/
def stripZeros : (fuel : Nat) → Nat → Int → Nat × Int
  | 0, d, e => (d, e)
  | fuel + 1, d, e => if d % 10 = 0 && d != 0 then stripZeros fuel (d / 10) (e + 1) else (d, e)

/-- The shortest digits of a positive number of units, and the power of ten
that they are multiplied by.  Three binary digits make less than one decimal
digit, so the search for the leading digit starts close above it. -/
def shortest (tie : Tie) (units : Nat) : Nat × Int :=
  let guess := ((units.log2 : Int) - 1074) * 30103 / 100000 + 1
  let (d, e) := firstGrid tie units 17 (leadingExponent units 4 guess)
  stripZeros 20 d e

/-- How the digits of a number are written. -/
structure Layout where
  /-- Which of two equally near decimals is taken. -/
  tie : Tie
  /-- Exponents of the first digit that are written positionally: all of them,
  or those from the first bound up to below the second. -/
  positional : Option (Int × Int)
  /-- Whole numbers get a fraction of zero. -/
  pointZero : Bool

/-- Numbers in messages and option values: always positional, whole numbers
without a point. -/
def Layout.plain : Layout := ⟨.up, none, false⟩

/-- Numbers in documents: positional from 10 ^ -5 to below 10 ^ 16, with at
least one digit after the point, and an exponent otherwise. -/
def Layout.document : Layout := ⟨.even, some (-5, 16), true⟩

/-- The digits of a positive number with the point where it belongs. -/
def positionalText (layout : Layout) (digits : String) (exponent : Int) : String :=
  let zeros (n : Nat) := String.ofList (List.replicate n '0')
  let size : Int := digits.length
  let point := size + exponent
  if 0 ≤ exponent then
    digits ++ zeros exponent.toNat ++ (if layout.pointZero then ".0" else "")
  else if 0 < point then
    let cs := digits.toList
    String.ofList (cs.take point.toNat) ++ "." ++ String.ofList (cs.drop point.toNat)
  else "0." ++ zeros (-point).toNat ++ digits

/-- The digits of a positive number with the power of ten after them. -/
def scientificText (digits : String) (exponent : Int) : String :=
  let leading := exponent + digits.length - 1
  let mantissa := match digits.toList with
    | [] => ""
    | [d] => String.ofList [d]
    | d :: ds => String.ofList (d :: '.' :: ds)
  mantissa ++ "e" ++ (if 0 ≤ leading then "+" else "") ++ intText leading

/-- The text of a finite number without its sign. -/
def magnitudeText (layout : Layout) (units : Nat) : String :=
  if units = 0 then (if layout.pointZero then "0.0" else "0")
  else
    let (d, e) := shortest layout.tie units
    let digits := text d
    let leading := e + digits.length - 1
    match layout.positional with
    | none => positionalText layout digits e
    | some (low, high) =>
      if low ≤ leading && leading < high then positionalText layout digits e
      else scientificText digits e

/-- The text of a double. -/
def doubleText (layout : Layout) : Double → String
  | .nan => "NaN"
  | .infinite negative => if negative then "-inf" else "inf"
  | .finite negative units => (if negative then "-" else "") ++ magnitudeText layout units

end RemoteConfig.Decimal
