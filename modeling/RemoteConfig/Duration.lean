import RemoteConfig.Number.Decimal

/-!
# Durations

Lengths of time in whole nanoseconds, their conversion to and from seconds as
doubles, and their text with the largest unit that leaves a whole part.
-/

namespace RemoteConfig

/-- A length of time. -/
structure Duration where
  /-- The length in nanoseconds. -/
  nanos : Nat
  deriving Repr, DecidableEq, Inhabited

namespace Duration

def nanosPerSecond : Nat := 1000000000

def zero : Duration := ⟨0⟩

def ofMillis (ms : Nat) : Duration := ⟨ms * 1000000⟩

def add (a b : Duration) : Duration := ⟨a.nanos + b.nanos⟩

def min (a b : Duration) : Duration := if b.nanos < a.nanos then b else a

/-- The length in seconds: the whole seconds and the fraction are rounded
each, and then their sum. -/
def toSeconds (d : Duration) : Double :=
  .add (.ofNat (d.nanos / nanosPerSecond))
    (.div (.ofNat (d.nanos % nanosPerSecond)) (.ofNat nanosPerSecond))

/-- The length of a number of seconds, to the nearest nanosecond, halves to
even; nothing for a number that is no length. -/
def ofSeconds? : Double → Option Duration
  | .nan => none
  | .infinite _ => none
  | .finite negative units =>
    if negative && units != 0 then none
    else if units < UInt64.size * Double.one then
      some ⟨Double.roundQuotient (units * nanosPerSecond) Double.one⟩
    else none

/-- A fraction of `places` digits, without zeros at the end, after a point. -/
def fractionText (fraction places : Nat) : String :=
  let ds := (Decimal.text fraction).toList
  let padded := List.replicate (places - ds.length) '0' ++ ds
  let kept := (padded.reverse.dropWhile (· = '0')).reverse
  if kept.isEmpty then "" else "." ++ String.ofList kept

/-- The text of a length, such as `1.5s`, `10ms` or `0ns`. -/
def text (d : Duration) : String :=
  let write (unit places : Nat) (suffix : String) :=
    Decimal.text (d.nanos / unit) ++ fractionText (d.nanos % unit) places ++ suffix
  if nanosPerSecond ≤ d.nanos then write nanosPerSecond 9 "s"
  else if 1000000 ≤ d.nanos then write 1000000 6 "ms"
  else if 1000 ≤ d.nanos then write 1000 3 "µs"
  else Decimal.text d.nanos ++ "ns"

end Duration

end RemoteConfig
