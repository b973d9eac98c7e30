/-!
# UTF-8 with replacement

Bytes of a text, and the reading of arbitrary bytes as a text in which each
malformed sequence becomes U+FFFD.  A malformed sequence ends before the first
byte that cannot continue it, so that byte is read afresh.
-/

namespace RemoteConfig.Text

/-- The replacement character U+FFFD. -/
def replacement : Char := '\uFFFD'

/-- The UTF-8 bytes of one character. -/
def charBytes (c : Char) : List UInt8 :=
  let n := c.toNat
  if n < 0x80 then [UInt8.ofNat n]
  else if n < 0x800 then
    [UInt8.ofNat (0xC0 + n / 0x40), UInt8.ofNat (0x80 + n % 0x40)]
  else if n < 0x10000 then
    [UInt8.ofNat (0xE0 + n / 0x1000), UInt8.ofNat (0x80 + n / 0x40 % 0x40),
      UInt8.ofNat (0x80 + n % 0x40)]
  else
    [UInt8.ofNat (0xF0 + n / 0x40000), UInt8.ofNat (0x80 + n / 0x1000 % 0x40),
      UInt8.ofNat (0x80 + n / 0x40 % 0x40), UInt8.ofNat (0x80 + n % 0x40)]

/-- The UTF-8 bytes of a list of characters. -/
def bytesOfChars (cs : List Char) : List UInt8 :=
  cs.flatMap charBytes

/-- The UTF-8 bytes of a text. -/
def bytes (s : String) : List UInt8 :=
  bytesOfChars s.toList

/-- A byte within two bounds. -/
def within (low high : Nat) (b : UInt8) : Bool :=
  low ≤ b.toNat && b.toNat ≤ high

/-- What a leading byte announces: how many bytes continue it, its own bits,
and the bounds of the byte that comes next. -/
def leading (b : UInt8) : Option (Nat × Nat × Nat × Nat) :=
  let n := b.toNat
  if n < 0xC2 then none
  else if n < 0xE0 then some (1, n - 0xC0, 0x80, 0xBF)
  else if n = 0xE0 then some (2, 0, 0xA0, 0xBF)
  else if n = 0xED then some (2, 0xD, 0x80, 0x9F)
  else if n < 0xF0 then some (2, n - 0xE0, 0x80, 0xBF)
  else if n = 0xF0 then some (3, 0, 0x90, 0xBF)
  else if n < 0xF4 then some (3, n - 0xF0, 0x80, 0xBF)
  else if n = 0xF4 then some (3, 4, 0x80, 0x8F)
  else none

/-- Reads the bytes that continue a sequence: the character if all `count` of
them come, and otherwise nothing, with the bytes that are left. -/
def continuation : (count bits low high : Nat) → List UInt8 → Option Char × List UInt8
  | 0, bits, _, _, rest => (some (Char.ofNat bits), rest)
  | _ + 1, _, _, _, [] => (none, [])
  | count + 1, bits, low, high, b :: rest =>
    if within low high b then
      continuation count (bits * 0x40 + (b.toNat - 0x80)) 0x80 0xBF rest
    else (none, b :: rest)

theorem continuation_length (count bits low high : Nat) (bs : List UInt8) :
    (continuation count bits low high bs).2.length ≤ bs.length := by
  induction count generalizing bits low high bs with
  | zero => simp [continuation]
  | succ count ih =>
    cases bs with
    | nil => simp [continuation]
    | cons b rest =>
      simp only [continuation]
      split
      · exact Nat.le_succ_of_le (ih ..)
      · simp

/-- The characters of a list of bytes, with U+FFFD for malformed sequences. -/
def charsOfBytes : List UInt8 → List Char
  | [] => []
  | b :: rest =>
    if b.toNat < 0x80 then Char.ofNat b.toNat :: charsOfBytes rest
    else
      match leading b with
      | none => replacement :: charsOfBytes rest
      | some (count, bits, low, high) =>
        ((continuation count bits low high rest).1.getD replacement) ::
          charsOfBytes (continuation count bits low high rest).2
termination_by bs => bs.length
decreasing_by
  all_goals simp only [List.length_cons]
  · omega
  · omega
  · have := continuation_length count bits low high rest
    omega

/-- The text that the bytes are in UTF-8, with U+FFFD for malformed sequences. -/
def ofBytes (bs : List UInt8) : String :=
  String.ofList (charsOfBytes bs)

/-- The text that the bytes are in UTF-8, if no sequence is malformed. -/
def ofBytes? (bs : List UInt8) : Option String :=
  let cs := charsOfBytes bs
  if bytesOfChars cs = bs then some (String.ofList cs) else none

end RemoteConfig.Text
