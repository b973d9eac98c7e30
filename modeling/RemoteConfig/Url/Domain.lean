import RemoteConfig.Text.Split
import RemoteConfig.Text.Utf8
import RemoteConfig.Url.Domain.Composition
import RemoteConfig.Url.Domain.Direction
import RemoteConfig.Url.Domain.Joining
import RemoteConfig.Url.Domain.Mapping
import RemoteConfig.Url.Punycode

/-!
# Domain names

A domain name is brought to one ASCII form: its characters are mapped to the
ones they stand for, the result is composed, and every label with characters
outside ASCII is written in Punycode after `xn--`.  A name is in that form
when it is *settled*; a settled name is its own form, and every form is
settled.
-/

namespace RemoteConfig.Url.Domain

/-- ASCII characters that no domain name may hold. -/
def isDenied (c : Char) : Bool :=
  c.toNat ≤ 0x20 || c.toNat = 0x7F ||
    c ∈ ['%', '#', '/', ':', '<', '>', '?', '@', '[', '\\', ']', '^', '|']

def isAscii (c : Char) : Bool :=
  c.toNat < 0x80

/-- The mapped characters of a name, if all of them may stand in one. -/
def mapped? (cs : List Char) : Option (List Char) :=
  (cs.mapM meaning?).map List.flatten

/-- The characters mapped and composed. -/
def normal? (cs : List Char) : Option (List Char) :=
  (mapped? cs).map compose

/-- A label with characters outside ASCII that is in its normal form: nothing
is left to map, and no combining mark stands in front. -/
def isUnicodeLabel (cs : List Char) : Bool :=
  cs.any (!isAscii ·) && normal? cs = some cs && !(cs.head?.any isMark) &&
    joinersFit cs

/-- The mark of a label in Punycode. -/
def mark : List Char := "xn--".toList

/-- The label that letters after the mark stand for. -/
def unmarked? (label : List Char) : Option (List Char) :=
  if label.take 4 = mark then some (label.drop 4) else none

/-- A label as it stands in the ASCII form. -/
def isSettledLabel (label : List Char) : Bool :=
  label.all (fun c => isAscii c && !isDenied c && c.toLower = c) &&
    match unmarked? label with
    | none => true
    | some letters =>
      match Punycode.decode? letters with
      | none => false
      | some cs => isUnicodeLabel cs && Punycode.encode cs = letters

/-- The label in Punycode, if it needs to be.  A label with the mark already is
in Punycode, and nothing outside ASCII may stand in it. -/
def asciiLabel? (label : List Char) : Option (List Char) :=
  if label.all isAscii then some label
  else if (unmarked? label).isSome then none
  else some (mark ++ Punycode.encode label)

/-- The labels as Unicode texts, for the rules that look at the whole name. -/
def unicodeLabel (label : List Char) : List Char :=
  match unmarked? label with
  | none => label
  | some letters => (Punycode.decode? letters).getD label

/-- A name in its ASCII form. -/
def isSettled (cs : List Char) : Bool :=
  let labels := Text.pieces '.' cs
  labels.all isSettledLabel && directionsFit (labels.map unicodeLabel)

/-- The labels with dots between them. -/
def joinLabels (labels : List (List Char)) : List Char :=
  ['.'].intercalate labels

/-- The ASCII form of a name with characters outside ASCII. -/
def converted? (cs : List Char) : Option (List Char) := do
  let labels ← (Text.pieces '.' (← normal? cs)).mapM asciiLabel?
  return joinLabels labels

/-- The ASCII form of a name. -/
def asciiForm? (cs : List Char) : Option (List Char) :=
  if cs.all isAscii then
    let small := cs.map Char.toLower
    if isSettled small then some small else none
  else
    match converted? cs with
    | some ds => if isSettled ds then some ds else none
    | none => none

/-- The ASCII form of the name whose UTF-8 bytes are given. -/
def toAscii? (bs : List UInt8) : Option (List Char) :=
  let cs := Text.charsOfBytes bs
  if Text.bytesOfChars cs = bs then asciiForm? cs else none

end RemoteConfig.Url.Domain
