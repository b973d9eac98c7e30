import RemoteConfig.Number.Radix
import RemoteConfig.Text.Split

/-!
# Sets of characters

Sets of characters as ranges of code points, and their written form: ranges in
hexadecimal numbers, such as `41-5A 5F`, with blanks between them.
-/

namespace RemoteConfig.Text

/-- The words of a text, separated by spaces and line breaks. -/
def words (s : String) : List (List Char) :=
  (pieces ' ' (s.toList.map fun c => if c = '\n' then ' ' else c)).filter (!·.isEmpty)

/-- The number of a hexadecimal numeral, zero for anything else. -/
def hexNumber (cs : List Char) : Nat :=
  (Radix.value? 16 cs).getD 0

/-- A set of characters: ranges of code points, ends included. -/
structure Ranges where
  bounds : List (Nat × Nat)
  deriving Repr, DecidableEq

namespace Ranges

/-- The range that a word stands for. -/
def ofWord (word : List Char) : Nat × Nat :=
  match pieces '-' word with
  | [a, b] => (hexNumber a, hexNumber b)
  | _ => (hexNumber word, hexNumber word)

/-- The set that a text stands for. -/
def ofText (s : String) : Ranges :=
  ⟨(words s).map ofWord⟩

/-- A character is in the set. -/
def contains (r : Ranges) (c : Char) : Bool :=
  r.bounds.any fun b => b.1 ≤ c.toNat && c.toNat ≤ b.2

end Ranges

end RemoteConfig.Text
