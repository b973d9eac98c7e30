import RemoteConfig.Text.Ranges
import RemoteConfig.Url.Domain.DirectionTable

/-!
# Directions in domain names

A name in which anything is written from right to left must read the same
wherever it stands, so each of its labels is written in one direction, from
its first to its last character.
-/

namespace RemoteConfig.Url.Domain

/-- The directions of characters. -/
inductive Direction where
  | leftToRight
  | rightToLeft
  | arabicDigit
  | digit
  | neutral
  /-- That of the character before it. -/
  | attached
  | separator
  deriving Repr, DecidableEq

def rightToLeftSet : Text.Ranges := .ofText rightToLeftText

def arabicDigitSet : Text.Ranges := .ofText arabicDigitText

def digitSet : Text.Ranges := .ofText digitText

def neutralSet : Text.Ranges := .ofText neutralText

def attachedSet : Text.Ranges := .ofText attachedText

def separatorSet : Text.Ranges := .ofText separatorText

/-- The direction of a character. -/
def Direction.of (c : Char) : Direction :=
  if rightToLeftSet.contains c then .rightToLeft
  else if arabicDigitSet.contains c then .arabicDigit
  else if digitSet.contains c then .digit
  else if neutralSet.contains c then .neutral
  else if attachedSet.contains c then .attached
  else if separatorSet.contains c then .separator
  else .leftToRight

namespace Direction

/-- A character of this direction makes a name one of two directions. -/
def isFromRight (d : Direction) : Bool :=
  d = rightToLeft || d = arabicDigit

/-- The last direction that is not that of another character. -/
def ending? (ds : List Direction) : Option Direction :=
  (ds.reverse.dropWhile (· = attached)).head?

/-- A label from left to right. -/
def fitsLeft (ds : List Direction) : Bool :=
  ds.all (· ∈ [leftToRight, digit, neutral, attached]) &&
    (ending? ds).any (· ∈ [leftToRight, digit])

/-- A label from right to left: digits of one kind at most, and the end is a
letter or a digit. -/
def fitsRight (ds : List Direction) : Bool :=
  ds.all (· ∈ [rightToLeft, arabicDigit, digit, neutral, attached]) &&
    (ending? ds).any (· ∈ [rightToLeft, arabicDigit, digit]) &&
    !(ds.contains digit && ds.contains arabicDigit)

/-- A label is written in one direction, which its first character shows. -/
def fits (ds : List Direction) : Bool :=
  match ds with
  | [] => true
  | rightToLeft :: _ => fitsRight ds
  | leftToRight :: _ => fitsLeft ds
  | _ => false

end Direction

/-- The labels of a name are each written in one direction, if any character
of them is written from right to left. -/
def directionsFit (labels : List (List Char)) : Bool :=
  let all := labels.map (·.map Direction.of)
  !(all.any (·.any Direction.isFromRight)) || all.all Direction.fits

end RemoteConfig.Url.Domain
