/-!
# Double-precision numbers

Binary64 numbers as exact integers.  Every finite one is a whole number of
*units* of 2 ^ -1074, so a magnitude is a natural number, its order is that of
the naturals, and an operation is the exact result in units followed by one
rounding.  `roundUnits` rounds to 53 significant bits, halves to even;
magnitudes from `overflow` on are infinite.
-/

namespace RemoteConfig

/-- A binary64 number.  A finite one is `units` times 2 ^ -1074, with its
sign; zero has both signs. -/
inductive Double where
  | nan
  | infinite (negative : Bool)
  | finite (negative : Bool) (units : Nat)
  deriving Repr, DecidableEq, Inhabited

namespace Double

/-- The number of units in one. -/
def one : Nat := Nat.pow 2 1074

/-- The least magnitude, in units, that is out of range. -/
def overflow : Nat := Nat.pow 2 2098

/-- The quotient rounded to the nearest whole number, halves to even. -/
def roundQuotient (num den : Nat) : Nat :=
  let q := num / den
  let r := num % den
  if 2 * r < den then q
  else if den < 2 * r then q + 1
  else if q % 2 = 0 then q
  else q + 1

/-- The spacing of doubles, in units, at a magnitude of `units`: 53 bits are
significant. -/
def spacing (units : Nat) : Nat :=
  Nat.pow 2 (units.log2 - 52)

/-- The magnitude nearest to `num / den` units, halves to even. -/
def roundUnits (num den : Nat) : Nat :=
  let gap := spacing (num / den)
  roundQuotient num (den * gap) * gap

/-- The double nearest to `num / den` units. -/
def ofUnits (negative : Bool) (num den : Nat) : Double :=
  let units := roundUnits num den
  if units < overflow then finite negative units else infinite negative

/-- The double nearest to a natural number. -/
def ofNat (n : Nat) : Double :=
  ofUnits false (n * one) 1

/-- The double nearest to an integer. -/
def ofInt (i : Int) : Double :=
  ofUnits (i < 0) (i.natAbs * one) 1

def zero : Double := finite false 0

/-- Neither infinite nor NaN. -/
def isFinite : Double → Bool
  | finite .. => true
  | _ => false

/-- The number with the other sign. -/
def neg : Double → Double
  | nan => nan
  | infinite s => infinite (!s)
  | finite s u => finite (!s) u

/-- A finite number as an integer number of units. -/
def signedUnits (negative : Bool) (units : Nat) : Int :=
  if negative then -(units : Int) else units

/-- The product. -/
def mul : Double → Double → Double
  | nan, _ => nan
  | _, nan => nan
  | infinite s, infinite t => infinite (s != t)
  | infinite s, finite t u => if u = 0 then nan else infinite (s != t)
  | finite s u, infinite t => if u = 0 then nan else infinite (s != t)
  | finite s u, finite t v => ofUnits (s != t) (u * v) one

/-- The quotient. -/
def div : Double → Double → Double
  | nan, _ => nan
  | _, nan => nan
  | infinite _, infinite _ => nan
  | infinite s, finite t _ => infinite (s != t)
  | finite s _, infinite t => finite (s != t) 0
  | finite s u, finite t v =>
    if v = 0 then (if u = 0 then nan else infinite (s != t))
    else ofUnits (s != t) (u * one) v

/-- The sum. -/
def add : Double → Double → Double
  | nan, _ => nan
  | _, nan => nan
  | infinite s, infinite t => if s = t then infinite s else nan
  | infinite s, finite .. => infinite s
  | finite .., infinite t => infinite t
  | finite s u, finite t v =>
    if s = t then ofUnits s (u + v) 1
    else if u = v then zero
    else if v < u then ofUnits s (u - v) 1
    else ofUnits t (v - u) 1

/-- Strictly less; no NaN is less or greater than anything. -/
def lt : Double → Double → Bool
  | nan, _ => false
  | _, nan => false
  | infinite s, infinite t => s && !t
  | infinite s, finite .. => s
  | finite .., infinite t => !t
  | finite s u, finite t v => signedUnits s u < signedUnits t v

/-- Equal as numbers: the zeros are equal, and NaN equals nothing. -/
def same : Double → Double → Bool
  | nan, _ => false
  | _, nan => false
  | infinite s, infinite t => s == t
  | finite s u, finite t v => signedUnits s u == signedUnits t v
  | _, _ => false

/-- The greater of two numbers, or the other one if one is NaN. -/
def max : Double → Double → Double
  | nan, y => y
  | x, nan => x
  | x, y => if lt x y then y else x

/-- The smaller of two numbers, or the other one if one is NaN. -/
def min : Double → Double → Double
  | nan, y => y
  | x, nan => x
  | x, y => if lt y x then y else x

end Double

end RemoteConfig
