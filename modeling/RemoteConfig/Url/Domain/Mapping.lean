import RemoteConfig.Text.Ranges
import RemoteConfig.Url.Domain.MappingTable

/-!
# Mapping of domain names

Every character of a domain name stands for characters of its normal form: a
capital for the small letter, a wide letter for the plain one, an invisible
character for nothing.
-/

namespace RemoteConfig.Url.Domain

/-- A rule of the mapping: the characters at equal steps within a range stand
for as many others, or for one list of characters all of them. -/
structure Mapping where
  first : Nat
  last : Nat
  step : Nat
  target : List Nat
  deriving Repr, DecidableEq

namespace Mapping

/-- The characters before the equals sign of a rule: the first, the last and
the distance between them. -/
def sourceOf (cs : List Char) : Nat × Nat × Nat :=
  match Text.pieces '-' cs, Text.pieces '~' cs with
  | [a, b], _ => (Text.hexNumber a, Text.hexNumber b, 1)
  | _, [a, b] => (Text.hexNumber a, Text.hexNumber b, 2)
  | _, _ => (Text.hexNumber cs, Text.hexNumber cs, 1)

/-- The rule that a word of the table stands for. -/
def ofWord (word : List Char) : Mapping :=
  let source := word.takeWhile (· ≠ '=')
  let target := (word.dropWhile (· ≠ '=')).drop 1
  let (first, last, step) := sourceOf source
  { first, last, step
    target := if target.isEmpty then [] else (Text.pieces '.' target).map Text.hexNumber }

/-- The rule is about a character. -/
def applies (m : Mapping) (c : Char) : Bool :=
  m.first ≤ c.toNat && c.toNat ≤ m.last && (c.toNat - m.first) % m.step = 0

/-- What the rule makes of a character. -/
def image (m : Mapping) (c : Char) : List Char :=
  match m.target with
  | [n] => [Char.ofNat (n + (c.toNat - m.first))]
  | ns => ns.map Char.ofNat

end Mapping

/-- The rules of the mapping. -/
def mappings : List Mapping :=
  (Text.words mappingText).map Mapping.ofWord

/-- The characters that may not occur. -/
def disallowed : Text.Ranges :=
  .ofText disallowedText

/-- The characters that a character of a name stands for, if it may occur. -/
def meaning? (c : Char) : Option (List Char) :=
  if c.toNat < 0x80 then some [c.toLower]
  else if disallowed.contains c then none
  else
    match mappings.find? (·.applies c) with
    | some m => some (m.image c)
    | none => some [c]

end RemoteConfig.Url.Domain
