/-!
# Edit distance

The least number of insertions, deletions and replacements of characters that
turn one text into another, row by row over the first text.
-/

namespace RemoteConfig.Text

/-- One row of the table from the row above: `diagonal` and `left` are the
entries to the upper left and to the left of the next one. -/
def nextRow (c : Char) : List Char → List Nat → (diagonal left : Nat) → List Nat
  | [], _, _, _ => []
  | _ :: _, [], _, _ => []
  | d :: ds, above :: row, diagonal, left =>
    let cost := if c = d then 0 else 1
    let entry := min (min (above + 1) (left + 1)) (diagonal + cost)
    entry :: nextRow c ds row above entry

/-- The last entry of the table, given the row for the characters read so far
(without its first entry `i`). -/
def lastEntry (target : List Char) : List Char → (i : Nat) → List Nat → Nat
  | [], i, row => row.getLastD i
  | c :: cs, i, row => lastEntry target cs (i + 1) (nextRow c target row i (i + 1))

/-- The edit distance of two texts, counted in characters. -/
def editDistance (a b : String) : Nat :=
  lastEntry b.toList a.toList 0 ((List.range b.toList.length).map (· + 1))

end RemoteConfig.Text
