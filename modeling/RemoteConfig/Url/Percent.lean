import RemoteConfig.Number.Radix
import RemoteConfig.Text.Utf8

/-!
# Percent encoding

Characters that may not stand in a part of a URL are written as the bytes of
their UTF-8 form, each as `%` and two hexadecimal digits.  Each part has its
own set of such characters; characters outside ASCII belong to all of them.
-/

namespace RemoteConfig.Url

/-- A set of characters that a part of a URL encodes. -/
abbrev EncodeSet := Char → Bool

/-- Control characters and everything outside ASCII. -/
def controlSet : EncodeSet := fun c =>
  c.toNat < 0x20 || 0x7E < c.toNat

def fragmentSet : EncodeSet := fun c =>
  controlSet c || c ∈ [' ', '"', '<', '>', '\x60']

def querySet : EncodeSet := fun c =>
  controlSet c || c ∈ [' ', '"', '#', '<', '>']

/-- Queries of schemes with a host encode the apostrophe as well. -/
def specialQuerySet : EncodeSet := fun c =>
  querySet c || c = '\''

def pathSet : EncodeSet := fun c =>
  fragmentSet c || c ∈ ['#', '?', '{', '}']

def userInfoSet : EncodeSet := fun c =>
  pathSet c || c ∈ ['/', ':', ';', '=', '@', '[', '\\', ']', '^', '|']

/-- A segment that is appended to a path: what would end it or be read as an
escape is encoded too. -/
def segmentSet : EncodeSet := fun c =>
  pathSet c || c ∈ ['/', '%', '\\']

/-- A byte as an escape. -/
def escapeByte (b : UInt8) : List Char :=
  ['%', Radix.upperDigit (b.toNat / 16), Radix.upperDigit (b.toNat % 16)]

/-- A character in a part with the given set. -/
def encodeChar (set : EncodeSet) (c : Char) : List Char :=
  if set c then (Text.charBytes c).flatMap escapeByte else [c]

/-- A text in a part with the given set. -/
def encode (set : EncodeSet) (cs : List Char) : List Char :=
  cs.flatMap (encodeChar set)

/-- The byte of an escape, given the characters after its sign. -/
def escapedByte? : List Char → Option UInt8
  | a :: b :: _ =>
    (Radix.value? 16 [a, b]).map UInt8.ofNat
  | _ => none

/-- The bytes of a text, escapes replaced by what they stand for.  The number
`skip` of characters belongs to an escape already read. -/
def decodeFrom : (skip : Nat) → List Char → List UInt8
  | _, [] => []
  | skip + 1, _ :: cs => decodeFrom skip cs
  | 0, c :: cs =>
    if c = '%' then
      match escapedByte? cs with
      | some b => b :: decodeFrom 2 cs
      | none => Text.charBytes c ++ decodeFrom 0 cs
    else Text.charBytes c ++ decodeFrom 0 cs

/-- The bytes of a text, escapes replaced by what they stand for. -/
def decode (cs : List Char) : List UInt8 :=
  decodeFrom 0 cs

/-- The decoded text, with U+FFFD for malformed sequences of bytes. -/
def decodeText (cs : List Char) : String :=
  Text.ofBytes (decode cs)

end RemoteConfig.Url
