/-!
# Punycode

A text outside ASCII written with ASCII letters and digits: first its ASCII
characters, then, in increasing order, the others, each by the distance from
the place of the one before.  Distances are written in digits of base 36 whose
weights adapt to the distances seen so far.
-/

namespace RemoteConfig.Url.Punycode

/-- A digit: letters for 0 to 25, decimal digits for 26 to 35. -/
def digitChar (d : Nat) : Char :=
  if d < 26 then Char.ofNat (97 + d) else Char.ofNat (22 + d)

/-- The value of a digit. -/
def digitValue? (c : Char) : Option Nat :=
  if 'a' ≤ c && c ≤ 'z' then some (c.toNat - 97)
  else if 'A' ≤ c && c ≤ 'Z' then some (c.toNat - 65)
  else if '0' ≤ c && c ≤ '9' then some (c.toNat - 22)
  else none

/-- The threshold of the digit at place `k`: digits below it end a number. -/
def threshold (k bias : Nat) : Nat :=
  if k ≤ bias then 1 else if bias + 26 ≤ k then 26 else k - bias

/-- Divides a distance until the digits of its rest fit. -/
def shrink (delta k : Nat) : Nat × Nat :=
  if 455 < delta then shrink (delta / 35) (k + 36) else (delta, k)
termination_by delta
decreasing_by omega

/-- The bias after a distance, at `count` characters in all. -/
def adapt (delta count : Nat) (first : Bool) : Nat :=
  let delta := if first then delta / 700 else delta / 2
  let (delta, k) := shrink (delta + delta / count) 0
  k + 36 * delta / (delta + 38)

/-- The digits of a distance. -/
def distanceDigits (bias k q : Nat) : List Char :=
  let t := threshold k bias
  if q < t then [digitChar q]
  else digitChar (t + (q - t) % (36 - t)) :: distanceDigits bias (k + 36) ((q - t) / (36 - t))
termination_by q
decreasing_by
  have positive : 1 ≤ threshold k bias := by
    unfold threshold
    split
    · omega
    · split <;> omega
  have small := Nat.div_le_self (q - threshold k bias) (36 - threshold k bias)
  omega

/-- What the encoder has reached: the digits so far in reverse, the distance
to the next character, the bias, and how many characters are written. -/
structure State where
  digits : List Char
  delta : Nat
  bias : Nat
  written : Nat

/-- Passes over the text once for the character of code `n`: each smaller one
adds to the distance, and each equal one is written. -/
def pass (ascii n : Nat) : List Nat → State → State
  | [], st => st
  | c :: cs, st =>
    if c < n then pass ascii n cs { st with delta := st.delta + 1 }
    else if c = n then
      pass ascii n cs
        { digits := (distanceDigits st.bias 36 st.delta).reverse ++ st.digits
          delta := 0
          bias := adapt st.delta (st.written + 1) (st.written = ascii)
          written := st.written + 1 }
    else pass ascii n cs st

/-- Writes the characters outside ASCII, from the codes in `codes`, which
increase; `n` is the code from which the distance counts. -/
def writeCodes (ascii : Nat) (text : List Nat) : (codes : List Nat) → (n : Nat) → State → State
  | [], _, st => st
  | m :: ms, n, st =>
    let st := { st with delta := st.delta + (m - n) * (st.written + 1) }
    let st := pass ascii m text st
    writeCodes ascii text ms (m + 1) { st with delta := st.delta + 1 }

/-- The codes outside ASCII in increasing order, each once. -/
def insertCode (n : Nat) : List Nat → List Nat
  | [] => [n]
  | m :: ms => if n < m then n :: m :: ms else if n = m then m :: ms else m :: insertCode n ms

/-- The text in ASCII letters, digits and hyphens. -/
def encode (cs : List Char) : List Char :=
  let ascii := cs.filter (·.toNat < 0x80)
  let codes := (cs.map Char.toNat).foldl (fun acc n => if n < 0x80 then acc else insertCode n acc) []
  let st := writeCodes ascii.length (cs.map Char.toNat) codes 0x80
    ⟨[], 0, 72, ascii.length⟩
  ascii ++ (if ascii.isEmpty then [] else ['-']) ++ st.digits.reverse

/-- A distance at the front: its value and the rest. -/
def distance? (bias : Nat) : (k weight acc : Nat) → List Char → Option (Nat × List Char)
  | _, _, _, [] => none
  | k, weight, acc, c :: cs =>
    match digitValue? c with
    | none => none
    | some d =>
      let acc := acc + d * weight
      let t := threshold k bias
      if d < t then some (acc, cs) else distance? bias (k + 36) (weight * (36 - t)) acc cs

theorem distance?_length {bias k weight acc n : Nat} {cs rest : List Char}
    (h : distance? bias k weight acc cs = some (n, rest)) : rest.length < cs.length := by
  induction cs generalizing k weight acc with
  | nil => simp [distance?] at h
  | cons c cs ih =>
    simp only [distance?] at h
    split at h
    · cases h
    · split at h
      · cases h
        simp
      · exact Nat.lt_succ_of_lt (ih h)

/-- Reads distances and puts each character in its place.  `n` and `i` are the
code and the place from which the next distance counts; `first` is for the
first distance of a text. -/
def readCodes (first : Bool) (text : List Nat) (n i bias : Nat) (cs : List Char) :
    Option (List Nat) :=
  match cs with
  | [] => some text
  | c :: rest =>
    match _read : distance? bias 36 1 0 (c :: rest) with
    | none => none
    | some (d, left) =>
      let size := text.length + 1
      let place := (i + d) % size
      let code := n + (i + d) / size
      if 0x10FFFF < code || (0xD800 ≤ code && code ≤ 0xDFFF) then none
      else
        readCodes false (text.take place ++ code :: text.drop place) code (place + 1)
          (adapt d size first) left
termination_by cs.length
decreasing_by
  have := distance?_length _read
  simpa using this

/-- The characters before the last hyphen and those after it. -/
def splitLastHyphen (cs : List Char) : List Char × List Char :=
  let tail := cs.reverse.takeWhile (· ≠ '-')
  if tail.length = cs.length then ([], cs)
  else (cs.take (cs.length - tail.length - 1), tail.reverse)

/-- The text that Punycode letters stand for. -/
def decode? (cs : List Char) : Option (List Char) :=
  let (ascii, digits) := splitLastHyphen cs
  if ascii.any (0x7F < ·.toNat) then none
  else
    (readCodes true (ascii.map Char.toNat) 0x80 0 72 digits).map (·.map Char.ofNat)

end RemoteConfig.Url.Punycode
