import RemoteConfig.Text.Ranges
import RemoteConfig.Url.Domain.CompositionTable

/-!
# Composed form

Characters with marks behind them can be written in several ways.  In the
composed form marks stand in the order of their classes, and a character and a
mark are one character wherever there is one for both.
-/

namespace RemoteConfig.Url.Domain

/-! ## Pairs -/

/-- A composed character with the two that make it up. -/
structure Pair where
  whole : Char
  first : Char
  second : Char
  deriving Repr, DecidableEq

/-- The pair that a word of the table stands for. -/
def Pair.ofWord (word : List Char) : Pair :=
  let parts := (Text.pieces '.' ((word.dropWhile (· ≠ '=')).drop 1)).map
    fun cs => Char.ofNat (Text.hexNumber cs)
  { whole := Char.ofNat (Text.hexNumber (word.takeWhile (· ≠ '=')))
    first := parts.head?.getD '\x00'
    second := (parts.drop 1).head?.getD '\x00' }

/-- The composed characters. -/
def pairs : List Pair :=
  (Text.words compositionText).map Pair.ofWord

/-- The syllable made of two parts, if they make one: a leading and a middle
part, or a syllable without an end and a trailing part. -/
def syllable? (a b : Nat) : Option Nat :=
  if 0x1100 ≤ a && a < 0x1113 && 0x1161 ≤ b && b < 0x1176 then
    some (0xAC00 + ((a - 0x1100) * 21 + (b - 0x1161)) * 28)
  else if 0xAC00 ≤ a && a < 0xD7A4 && (a - 0xAC00) % 28 = 0 && 0x11A8 ≤ b && b < 0x11C3 then
    some (a + (b - 0x11A7))
  else none

/-- The character that two make up. -/
def composed? (a b : Char) : Option Char :=
  match syllable? a.toNat b.toNat with
  | some n => some (Char.ofNat n)
  | none => (pairs.find? fun p => p.first = a && p.second = b).map (·.whole)

/-- The parts of a syllable. -/
def syllableParts? (n : Nat) : Option (Nat × Nat) :=
  if 0xAC00 ≤ n && n < 0xD7A4 then
    let i := n - 0xAC00
    if i % 28 = 0 then some (0x1100 + i / 588, 0x1161 + i % 588 / 28)
    else some (n - i % 28, 0x11A7 + i % 28)
  else none

/-- The two characters that make up a character. -/
def parts? (c : Char) : Option (Char × Char) :=
  match syllableParts? c.toNat with
  | some (a, b) => some (Char.ofNat a, Char.ofNat b)
  | none => (pairs.find? fun p => p.whole = c).map fun p => (p.first, p.second)

/-- How often the first of two parts may have parts itself. -/
def deepest : Nat := 4

/-- The characters that a character is made of. -/
def decomposeChar : (depth : Nat) → Char → List Char
  | 0, c => [c]
  | depth + 1, c =>
    match parts? c with
    | some (a, b) => decomposeChar depth a ++ [b]
    | none => [c]

/-! ## Order of marks -/

/-- The class of some marks. -/
structure MarkClass where
  bounds : Nat × Nat
  number : Nat
  deriving Repr, DecidableEq

/-- The class that a word of the table gives. -/
def MarkClass.ofWord (word : List Char) : MarkClass :=
  { bounds := Text.Ranges.ofWord (word.takeWhile (· ≠ ':'))
    number := (Radix.value? 10 ((word.dropWhile (· ≠ ':')).drop 1)).getD 0 }

/-- The classes of marks. -/
def markClasses : List MarkClass :=
  (Text.words markClassText).map MarkClass.ofWord

/-- The class of a character, zero for most. -/
def markClass (c : Char) : Nat :=
  ((markClasses.find? fun m => m.bounds.1 ≤ c.toNat && c.toNat ≤ m.bounds.2).map
    (·.number)).getD 0

/-- The combining marks. -/
def marks : Text.Ranges :=
  .ofText markText

def isMark (c : Char) : Bool :=
  marks.contains c

/-- Puts a character behind others, given from the last one on, but before
marks of higher classes. -/
def insertMark (c : Char) : List Char → List Char
  | [] => [c]
  | d :: ds =>
    if markClass c ≠ 0 && markClass c < markClass d then d :: insertMark c ds else c :: d :: ds

/-- The characters with marks in the order of their classes. -/
def ordered (cs : List Char) : List Char :=
  (cs.foldl (fun done c => insertMark c done) []).reverse

/-! ## Composition -/

/-- What has been composed so far. -/
structure Composing where
  /-- Characters that no other can change, from the last one on. -/
  done : List Char := []
  /-- The last character that is no mark. -/
  base? : Option Char := none
  /-- The marks behind it, from the last one on. -/
  held : List Char := []

namespace Composing

/-- No mark between the base and a character keeps them apart. -/
def reaches (k : Composing) (c : Char) : Bool :=
  match k.held with
  | [] => true
  | d :: _ => markClass d < markClass c

/-- The characters so far, from the last one on. -/
def all (k : Composing) : List Char :=
  k.held ++ k.base?.toList ++ k.done

/-- Adds a character that makes up none with the base. -/
def append (k : Composing) (c : Char) : Composing :=
  if markClass c = 0 then { done := k.all, base? := some c, held := [] }
  else { k with held := c :: k.held }

/-- Adds a character. -/
def add (k : Composing) (c : Char) : Composing :=
  match if k.reaches c then k.base?.bind (composed? · c) else none with
  | some whole => { k with base? := some whole }
  | none => k.append c

end Composing

/-- The composed form. -/
def compose (cs : List Char) : List Char :=
  if cs.all (·.toNat < 0x80) then cs
  else
    ((ordered (cs.flatMap (decomposeChar deepest))).foldl Composing.add {}).all.reverse

end RemoteConfig.Url.Domain
