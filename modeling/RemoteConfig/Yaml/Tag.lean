import RemoteConfig.Text.Utf8
import RemoteConfig.Yaml.Scalar

/-!
# Tags, anchors and directives

The names that YAML puts beside contents: the anchor of a node and the alias
that refers to it, the tag of a node, and the directives in front of a
document, which say what the handles of tags stand for.  The characters of a
tag may be written as octets, so a tag is a list of bytes.
-/

namespace RemoteConfig.Yaml

/-- The octets of a tag, or of a part of one. -/
abbrev Octets := List UInt8

/-- A tag as it is written: a handle, and the octets behind it.  An empty
handle stands for nothing. -/
structure TagName where
  handle : String
  suffix : Octets
  deriving Repr, DecidableEq

/-- What stands in front of a document. -/
inductive Directive where
  /-- The version of YAML. -/
  | version (major minor : Nat)
  /-- What a handle stands for. -/
  | handle (name : String) (octets : Octets)
  deriving Repr, DecidableEq

/-! ## Anchors -/

/-- The characters besides gaps that may follow an anchor. -/
def endsAnchor (c : Char) : Bool :=
  c = '?' || c = ':' || c = ',' || c = ']' || c = '}' || c = '%' || c = '@' || c = '\x60'

/-- The name of an anchor, after its indicator. -/
def scanAnchor : Scanner String := fun cs =>
  let (name, rest) := takeName cs
  if name.isEmpty || !(atGap rest || startsBy endsAnchor rest) then none
  else some (name, rest)

/-! ## Tags -/

/-- The characters of a tag.  Between angle brackets and in directives some
indicators belong to them. -/
def isTagChar (verbatim : Bool) (c : Char) : Bool :=
  isNameChar c || c ∈ [';', '/', '?', ':', '@', '&', '=', '+', '$', '.', '%', '!', '~', '*',
    '\'', '(', ')'] ||
  (verbatim && c ∈ [',', '[', ']'])

/-- The octet of an escape, after its sign. -/
def scanOctet : Scanner Nat
  | a :: b :: rest => (Radix.value? 16 [a.char, b.char]).map (·, rest)
  | _ => none

/-- How many octets a leading one announces, itself included. -/
def octetCount? (n : Nat) : Option Nat :=
  if n < 0x80 then some 1
  else if n < 0xC0 then none
  else if n < 0xE0 then some 2
  else if n < 0xF0 then some 3
  else if n < 0xF8 then some 4
  else none

/-- Escapes of the octets that continue a character. -/
def scanContinuation : (count : Nat) → Scanner Octets
  | 0, cs => some ([], cs)
  | count + 1, p :: cs =>
    if p.char = '%' then do
      let (n, cs) ← scanOctet cs
      if n / 0x40 ≠ 2 then none
      else
        let (more, cs) ← scanContinuation count cs
        return (UInt8.ofNat n :: more, cs)
    else none
  | _ + 1, [] => none

/-- The octets of a character whose first escape's sign has been read. -/
def scanEscapedOctets : Scanner Octets := fun cs => do
  let (n, cs) ← scanOctet cs
  let count ← octetCount? n
  let (more, cs) ← scanContinuation (count - 1) cs
  return (UInt8.ofNat n :: more, cs)

/-- The octets of a tag.  Every round takes a character, so the text's length
is fuel enough. -/
def tagOctetsFrom (verbatim : Bool) : (fuel : Nat) → Scanner Octets
  | 0, _ => none
  | _ + 1, [] => some ([], [])
  | fuel + 1, p :: rest =>
    if !isTagChar verbatim p.char then some ([], p :: rest)
    else do
      let (octets, rest) ←
        if p.char = '%' then scanEscapedOctets rest else some (Text.charBytes p.char, rest)
      let (more, rest) ← tagOctetsFrom verbatim fuel rest
      return (octets ++ more, rest)

/-- The octets of a tag up to the first zero, which ends them. -/
def scanTagOctets (verbatim : Bool) : Scanner Octets := fun cs => do
  let (octets, rest) ← tagOctetsFrom verbatim (cs.length + 1) cs
  return (octets.takeWhile (· ≠ 0), rest)

/-- The text starts with octets of a tag. -/
def startsTag (verbatim : Bool) (cs : Input) : Bool :=
  startsBy (isTagChar verbatim) cs

/-- A handle after its first sign: a name and, if it is complete, another
sign. -/
def takeHandle (cs : Input) : String × Bool × Input :=
  let (name, rest) := takeName cs
  if startsWith '!' rest then (name, true, rest.tail) else (name, false, rest)

/-- A tag between angle brackets, after the opening one. -/
def scanVerbatimTag : Scanner TagName := fun cs =>
  if !startsTag true cs then none
  else do
    let (octets, rest) ← scanTagOctets true cs
    if startsWith '>' rest then some (⟨"", octets⟩, rest.tail) else none

/-- A tag with a handle, after its sign.  What is no complete handle is part of
the suffix behind the handle `!`; a lone `!` is a tag of its own. -/
def scanShorthandTag : Scanner TagName := fun cs =>
  let (name, complete, rest) := takeHandle cs
  if complete then
    if !startsTag false rest then none
    else do
      let (octets, rest) ← scanTagOctets false rest
      return (⟨"!" ++ name ++ "!", octets⟩, rest)
  else do
    let (octets, rest) ← scanTagOctets false rest
    let suffix := Text.bytes name ++ octets
    if suffix.isEmpty then return (⟨"", [33]⟩, rest) else return (⟨"!", suffix⟩, rest)

/-- A tag, after its sign.  A gap must follow, or a comma in brackets. -/
def scanTag (inFlow : Bool) : Scanner TagName := fun cs => do
  let (tag, rest) ←
    if startsWith '<' cs then scanVerbatimTag cs.tail else scanShorthandTag cs
  if atGap rest || (inFlow && startsWith ',' rest) then some (tag, rest) else none

/-! ## Directives -/

/-- A number of a version, of nine digits at most. -/
def scanVersionNumber : Scanner Nat := fun cs => do
  let digits := cs.takeWhile (fun p => (Radix.digit? 10 p.char).isSome)
  if digits.isEmpty || 9 < digits.length then none
  else
    let n ← Radix.value? 10 (digits.map (·.char))
    return (n, cs.drop digits.length)

/-- A version. -/
def scanVersion : Scanner Directive := fun cs => do
  let (major, cs) ← scanVersionNumber (skipBlanks cs)
  if !startsWith '.' cs then none
  else
    let (minor, cs) ← scanVersionNumber cs.tail
    return (.version major minor, cs)

/-- A handle and what it stands for. -/
def scanHandleDirective : Scanner Directive := fun cs =>
  let cs := skipBlanks cs
  if !startsWith '!' cs then none
  else
    let (name, complete, rest) := takeHandle cs.tail
    let handle := if complete then "!" ++ name ++ "!" else "!"
    let value := skipBlanks rest
    if (!complete && !name.isEmpty) || !startsBy isBlank rest || !startsTag true value then none
    else do
      let (octets, rest) ← scanTagOctets true value
      if atGap rest then some (.handle handle octets, rest) else none

/-- A directive, after its indicator, with the end of its line. -/
def scanDirective : Scanner Directive := fun cs => do
  let (name, rest) := takeName cs
  if !atGap rest then none
  else
    let (directive, rest) ←
      if name = "YAML" then scanVersion rest
      else if name = "TAG" then scanHandleDirective rest
      else none
    return (directive, ← skipLineEnd rest)

end RemoteConfig.Yaml
