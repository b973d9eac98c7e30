import RemoteConfig.Text.Split
import RemoteConfig.Url.Basic
import RemoteConfig.Url.Domain

/-!
# Reading hosts

A host is an IPv6 address in brackets, an IPv4 address, or a name.  Names of
the schemes that have hosts are domain names, brought to their ASCII form; a
name that ends in a number must be an IPv4 address.  Names of other schemes
are taken as they are.
-/

namespace RemoteConfig.Url

/-! ## IPv4 -/

/-- A part of an IPv4 address: hexadecimal after `0x`, octal after another
zero, and decimal otherwise. -/
def ipv4Number? (cs : List Char) : Option Nat :=
  match cs with
  | [] => none
  | '0' :: 'x' :: rest => Radix.value? 16 rest
  | '0' :: 'X' :: rest => Radix.value? 16 rest
  | '0' :: c :: rest => Radix.value? 8 (c :: rest)
  | _ => Radix.value? 10 cs

/-- The pieces between dots, without an empty last one. -/
def dottedPieces (cs : List Char) : List (List Char) :=
  let ps := Text.pieces '.' cs
  if ps.getLast? = some [] then ps.dropLast else ps

/-- A name that has to be an IPv4 address: its last piece is a number. -/
def endsInNumber (cs : List Char) : Bool :=
  match Text.pieces '.' cs with
  | [[]] => false
  | ps =>
    let ps := if ps.getLast? = some [] then ps.dropLast else ps
    match ps.getLast? with
    | none => false
    | some last => (!last.isEmpty && last.all Decimal.isDigit) || (ipv4Number? last).isSome

/-- The address of numbers: all but the last one are bytes, and the last one
fills the bytes that are left. -/
def ipv4OfNumbers? (ns : List Nat) : Option Nat :=
  match ns.reverse with
  | [] => none
  | last :: heads =>
    let room := Nat.pow 256 (4 - heads.length)
    if last < room && heads.all (· < 256) then
      some (heads.reverse.foldl (fun acc n => acc * 256 + n) 0 * room + last)
    else none

/-- An IPv4 address of one to four numbers. -/
def readIpv4 (cs : List Char) : Except Fault Host :=
  let ps := dottedPieces cs
  if 4 < ps.length then .error .ipv4Address
  else
    match (ps.mapM ipv4Number?).bind ipv4OfNumbers? with
    | some a => .ok (.ipv4 a)
    | none => .error .ipv4Address

/-! ## IPv6 -/

/-- A decimal number below 256 without leading zeros. -/
def byte? (cs : List Char) : Option Nat :=
  match cs with
  | [] => none
  | ['0'] => some 0
  | '0' :: _ => none
  | _ =>
    match Radix.value? 10 cs with
    | some n => if n < 256 then some n else none
    | none => none

/-- The two pieces of an IPv4 address in four numbers. -/
def dottedPair? (cs : List Char) : Option (List Nat) :=
  match (Text.pieces '.' cs).mapM byte? with
  | some [a, b, c, d] => some [a * 256 + b, c * 256 + d]
  | _ => none

/-- A piece: one to four hexadecimal digits. -/
def piece? (cs : List Char) : Option Nat :=
  if cs.isEmpty || 4 < cs.length then none else Radix.value? 16 cs

/-- The numbers of the pieces between colons.  Where the address ends, the
last piece may be an IPv4 address, which counts for two. -/
def pieceNumbers? (final : Bool) : List (List Char) → Option (List Nat)
  | [] => some []
  | [p] =>
    match piece? p with
    | some n => some [n]
    | none => if final then dottedPair? p else none
  | p :: ps => do
    let n ← piece? p
    let ns ← pieceNumbers? final ps
    return n :: ns

/-- The pieces of a side of an address, which may be empty. -/
def sidePieces (cs : List Char) : List (List Char) :=
  if cs.isEmpty then [] else Text.pieces ':' cs

/-- The characters before and after the first double colon. -/
def splitDoubleColon : List Char → Option (List Char × List Char)
  | [] => none
  | c :: cs =>
    match c, cs with
    | ':', ':' :: rest => some ([], rest)
    | _, _ => (splitDoubleColon cs).map fun (l, r) => (c :: l, r)

/-- An IPv6 address: eight pieces, or fewer with a double colon for the zeros
that are left out. -/
def readIpv6 (cs : List Char) : Except Fault Host :=
  let pieces := match splitDoubleColon cs with
    | none =>
      match pieceNumbers? true (Text.pieces ':' cs) with
      | some ns => if ns.length = 8 then some ns else none
      | none => none
    | some (l, r) =>
      match pieceNumbers? false (sidePieces l), pieceNumbers? true (sidePieces r) with
      | some ls, some rs =>
        if ls.length + rs.length ≤ 7 then
          some (ls ++ List.replicate (8 - ls.length - rs.length) 0 ++ rs)
        else none
      | _, _ => none
  match pieces with
  | some ns => .ok (.ipv6 ns)
  | none => .error .ipv6Address

/-! ## Hosts -/

/-- The address in brackets, if the host starts with one. -/
def bracketed (cs : List Char) (other : List Char → Except Fault Host) : Except Fault Host :=
  match cs with
  | '[' :: rest =>
    if rest.getLast? = some ']' then readIpv6 rest.dropLast else .error .ipv6Address
  | _ => other cs

/-- The host of a scheme that has hosts. -/
def readHost (cs : List Char) : Except Fault Host :=
  bracketed cs fun cs =>
    match Domain.toAscii? (decode cs) with
    | none => .error .domain
    | some [] => .error .emptyHost
    | some ds => if endsInNumber ds then readIpv4 ds else .ok (.name (String.ofList ds))

/-- Characters that no host may hold. -/
def isForbiddenInHost (c : Char) : Bool :=
  c ∈ ['\x00', '\t', '\n', '\r', ' ', '#', '/', ':', '<', '>', '?', '@', '[', '\\', ']', '^', '|']

/-- The host of any other scheme. -/
def readPlainHost (cs : List Char) : Except Fault Host :=
  bracketed cs fun cs =>
    if cs.any isForbiddenInHost then .error .hostCharacter
    else .ok (.name (String.ofList (encode controlSet cs)))

end RemoteConfig.Url
