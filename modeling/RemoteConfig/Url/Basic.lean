import RemoteConfig.Number.Decimal
import RemoteConfig.Url.Percent

/-!
# URLs

A URL by its parts, each in the encoded form in which it is written, and the
text that it is written as.
-/

namespace RemoteConfig.Url

/-- A host: a name, or an address as a number or as eight 16-bit pieces. -/
inductive Host where
  | name (s : String)
  | ipv4 (address : Nat)
  | ipv6 (pieces : List Nat)
  deriving Repr, DecidableEq

/-- A path: segments after slashes, or a text without structure. -/
inductive Path where
  | segments (segs : List String)
  | unstructured (s : String)
  deriving Repr, DecidableEq

end RemoteConfig.Url

namespace RemoteConfig

/-- A URL by its parts. -/
structure Url where
  scheme : String
  username : String := ""
  password : Option String := none
  host : Option Url.Host := none
  /-- The port, unless it is the one that the scheme implies. -/
  port : Option Nat := none
  path : Url.Path := .segments []
  query : Option String := none
  fragment : Option String := none
  deriving Repr, DecidableEq

namespace Url

/-- Why a text is no URL. -/
inductive Fault where
  | relative
  | emptyHost
  | domain
  | hostCharacter
  | ipv4Address
  | ipv6Address
  | portNumber
  deriving Repr, DecidableEq

/-- The wording of a fault. -/
def Fault.message : Fault → String
  | relative => "relative URL without a base"
  | emptyHost => "empty host"
  | domain => "invalid international domain name"
  | hostCharacter => "invalid domain character"
  | ipv4Address => "invalid IPv4 address"
  | ipv6Address => "invalid IPv6 address"
  | portNumber => "invalid port number"

/-- The port that a scheme implies. -/
def defaultPort? (scheme : String) : Option Nat :=
  match scheme with
  | "http" => some 80
  | "https" => some 443
  | "ws" => some 80
  | "wss" => some 443
  | "ftp" => some 21
  | _ => none

/-- How a scheme's URLs are read: with a host after any number of slashes, as
the name of a file, or as anything else. -/
inductive SchemeKind where
  | hosted
  | file
  | other
  deriving Repr, DecidableEq

def schemeKind (scheme : String) : SchemeKind :=
  if scheme = "file" then .file
  else if (defaultPort? scheme).isSome then .hosted
  else .other

/-! ## The text of a URL -/

/-- A number in hexadecimal digits without leading zeros. -/
def hexText (n : Nat) : String :=
  String.ofList (Nat.toDigits 16 n)

/-- An address as four decimal numbers. -/
def ipv4Text (a : Nat) : String :=
  ".".intercalate
    [Decimal.text (a / 0x1000000 % 256), Decimal.text (a / 0x10000 % 256),
      Decimal.text (a / 0x100 % 256), Decimal.text (a % 256)]

/-- The length of the run of zeros at the front. -/
def zeroRun (pieces : List Nat) : Nat :=
  (pieces.takeWhile (· = 0)).length

/-- The longest run of zeros, the first one of those: its place and length. -/
def longestRun : (place : Nat) → List Nat → Nat × Nat
  | _, [] => (0, 0)
  | place, p :: ps =>
    let here := zeroRun (p :: ps)
    let (later, n) := longestRun (place + 1) ps
    if n ≤ here then (place, here) else (later, n)

/-- An address as hexadecimal pieces, with the longest run of at least two
zeros left out. -/
def ipv6Text (pieces : List Nat) : String :=
  let (place, n) := longestRun 0 pieces
  let write (ps : List Nat) := ":".intercalate (ps.map hexText)
  if 2 ≤ n then write (pieces.take place) ++ "::" ++ write (pieces.drop (place + n))
  else write pieces

/-- A host as it is written. -/
def Host.text : Host → String
  | name s => s
  | ipv4 a => ipv4Text a
  | ipv6 pieces => "[" ++ ipv6Text pieces ++ "]"

/-- A path as it is written. -/
def Path.text : Path → String
  | segments segs => String.join (segs.map ("/" ++ ·))
  | unstructured s => s

/-- The user name and password before a host. -/
def userInfoText (u : Url) : String :=
  let password := match u.password with
    | some p => ":" ++ p
    | none => ""
  if u.username.isEmpty && u.password.isNone then "" else u.username ++ password ++ "@"

/-- The host with its port. -/
def hostText (u : Url) : String :=
  let port := match u.port with
    | some p => ":" ++ Decimal.text p
    | none => ""
  match u.host with
  | some h => h.text ++ port
  | none => ""

/-- Path, query and fragment.  A path that would be taken for a host is set
off by a dot. -/
def tailText (u : Url) : String :=
  let path := u.path.text
  let guard := match u.host with
    | none => if path.startsWith "//" then "/." else ""
    | some _ => ""
  let query := match u.query with
    | some q => "?" ++ q
    | none => ""
  let fragment := match u.fragment with
    | some f => "#" ++ f
    | none => ""
  guard ++ path ++ query ++ fragment

/-- A URL as it is written. -/
def text (u : Url) : String :=
  let authority := match u.host with
    | some _ => "//" ++ u.userInfoText ++ u.hostText
    | none => ""
  u.scheme ++ ":" ++ authority ++ u.tailText

/-- The URL without user name and password. -/
def withoutUserInfo (u : Url) : Url :=
  { u with username := "", password := none }

/-- The URL without its fragment. -/
def withoutFragment (u : Url) : Url :=
  { u with fragment := none }

end Url

end RemoteConfig
