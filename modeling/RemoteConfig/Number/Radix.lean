/-!
# Numerals in other bases

Digits of bases up to sixteen, in capitals or small letters, and the numbers
that lists of them denote.
-/

namespace RemoteConfig.Radix

/-- The value of a hexadecimal digit. -/
def hexValue? (c : Char) : Option Nat :=
  if '0' ≤ c && c ≤ '9' then some (c.toNat - 48)
  else if 'a' ≤ c && c ≤ 'f' then some (c.toNat - 87)
  else if 'A' ≤ c && c ≤ 'F' then some (c.toNat - 55)
  else none

/-- The value of a digit of a base. -/
def digit? (base : Nat) (c : Char) : Option Nat :=
  (hexValue? c).filter (· < base)

/-- The number that digits denote after `acc`, if all are digits of the base. -/
def valueFrom? (base : Nat) : (acc : Nat) → List Char → Option Nat
  | acc, [] => some acc
  | acc, c :: cs =>
    match digit? base c with
    | some d => valueFrom? base (acc * base + d) cs
    | none => none

/-- The number that digits denote, zero without any. -/
def value? (base : Nat) (cs : List Char) : Option Nat :=
  valueFrom? base 0 cs

/-- A hexadecimal digit, in capitals. -/
def upperDigit (n : Nat) : Char :=
  if n < 10 then Char.ofNat (48 + n) else Char.ofNat (55 + n)

/-- A hexadecimal digit, in small letters. -/
def lowerDigit (n : Nat) : Char :=
  if n < 10 then Char.ofNat (48 + n) else Char.ofNat (87 + n)

end RemoteConfig.Radix
