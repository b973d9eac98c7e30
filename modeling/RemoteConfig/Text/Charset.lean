import RemoteConfig.Text.Blank
import RemoteConfig.Text.CharsetTable
import RemoteConfig.Text.Fold
import RemoteConfig.Text.Split
import RemoteConfig.Text.Utf8

/-!
# Character sets

How the bytes of a message become a text.  The media type of a message may
name a character set; a byte order mark at the front of the bytes overrides
it, and without either the bytes are UTF-8.  What is malformed becomes U+FFFD.
-/

namespace RemoteConfig.Text

/-- A character set. -/
inductive Charset where
  | utf8
  | utf16 (bigEndian : Bool)
  /-- One byte per character, with the characters of the bytes from 0x80 on. -/
  | singleByte (upper : String)
  /-- One byte per character, from U+F780 on for those from 0x80. -/
  | userDefined
  /-- Nothing in it is read. -/
  | unreadable
  deriving Repr, DecidableEq

namespace Charset

/-! ## Decoding -/

/-- The 16-bit units of bytes.  A byte left over is no unit. -/
def units (bigEndian : Bool) : List UInt8 → List (Option Nat)
  | [] => []
  | [_] => [none]
  | a :: b :: rest =>
    some (if bigEndian then a.toNat * 256 + b.toNat else b.toNat * 256 + a.toNat) ::
      units bigEndian rest

def isHighSurrogate (n : Nat) : Bool :=
  0xD800 ≤ n && n < 0xDC00

def isLowSurrogate (n : Nat) : Bool :=
  0xDC00 ≤ n && n < 0xE000

/-- The characters of 16-bit units. -/
def charsOfUnits : List (Option Nat) → List Char
  | [] => []
  | none :: rest => replacement :: charsOfUnits rest
  | some high :: some low :: rest =>
    if isHighSurrogate high then
      if isLowSurrogate low then
        Char.ofNat ((high - 0xD800) * 0x400 + (low - 0xDC00) + 0x10000) :: charsOfUnits rest
      else replacement :: charsOfUnits (some low :: rest)
    else if isLowSurrogate high then replacement :: charsOfUnits (some low :: rest)
    else Char.ofNat high :: charsOfUnits (some low :: rest)
  | some high :: rest =>
    if isHighSurrogate high && rest = [none] then [replacement]
    else if isHighSurrogate high || isLowSurrogate high then replacement :: charsOfUnits rest
    else Char.ofNat high :: charsOfUnits rest

/-- The characters of bytes. -/
def chars : Charset → List UInt8 → List Char
  | utf8, bs => charsOfBytes bs
  | utf16 bigEndian, bs => charsOfUnits (units bigEndian bs)
  | singleByte upper, bs =>
    let upper := upper.toList.toArray
    bs.map fun b =>
      if b.toNat < 0x80 then Char.ofNat b.toNat
      else (upper[b.toNat - 0x80]?).getD replacement
  | userDefined, bs =>
    bs.map fun b => Char.ofNat (if b.toNat < 0x80 then b.toNat else 0xF700 + b.toNat)
  | unreadable, bs => if bs.isEmpty then [] else [replacement]

/-! ## Names -/

/-- The names of the character sets, in small letters. -/
def names : List (Charset × List String) :=
  [(utf8, ["unicode-1-1-utf-8", "unicode11utf8", "unicode20utf8", "utf-8", "utf8",
      "x-unicode20utf8"]),
    (utf16 false, ["csunicode", "iso-10646-ucs-2", "ucs-2", "unicode", "unicodefeff", "utf-16",
      "utf-16le"]),
    (utf16 true, ["unicodefffe", "utf-16be"]),
    (singleByte western, ["ansi_x3.4-1968", "ascii", "cp1252", "cp819", "csisolatin1", "ibm819",
      "iso-8859-1", "iso-ir-100", "iso8859-1", "iso88591", "iso_8859-1", "iso_8859-1:1987", "l1",
      "latin1", "us-ascii", "windows-1252", "x-cp1252"]),
    (singleByte latin2, ["csisolatin2", "iso-8859-2", "iso-ir-101", "iso8859-2", "iso88592",
      "iso_8859-2", "iso_8859-2:1987", "l2", "latin2"]),
    (singleByte latin3, ["csisolatin3", "iso-8859-3", "iso-ir-109", "iso8859-3", "iso88593",
      "iso_8859-3", "iso_8859-3:1988", "l3", "latin3"]),
    (singleByte latin4, ["csisolatin4", "iso-8859-4", "iso-ir-110", "iso8859-4", "iso88594",
      "iso_8859-4", "iso_8859-4:1988", "l4", "latin4"]),
    (singleByte cyrillic, ["csisolatincyrillic", "cyrillic", "iso-8859-5", "iso-ir-144",
      "iso8859-5", "iso88595", "iso_8859-5", "iso_8859-5:1988"]),
    (singleByte arabic, ["arabic", "asmo-708", "csiso88596e", "csiso88596i", "csisolatinarabic",
      "ecma-114", "iso-8859-6", "iso-8859-6-e", "iso-8859-6-i", "iso-ir-127", "iso8859-6",
      "iso88596", "iso_8859-6", "iso_8859-6:1987"]),
    (singleByte greek, ["csisolatingreek", "ecma-118", "elot_928", "greek", "greek8",
      "iso-8859-7", "iso-ir-126", "iso8859-7", "iso88597", "iso_8859-7", "iso_8859-7:1987",
      "sun_eu_greek"]),
    (singleByte hebrew, ["csiso88598e", "csiso88598i", "csisolatinhebrew", "hebrew",
      "iso-8859-8", "iso-8859-8-e", "iso-8859-8-i", "iso-ir-138", "iso8859-8", "iso88598",
      "iso_8859-8", "iso_8859-8:1988", "logical", "visual"]),
    (singleByte latin6, ["csisolatin6", "iso-8859-10", "iso-ir-157", "iso8859-10", "iso885910",
      "l6", "latin6"]),
    (singleByte latin7, ["iso-8859-13", "iso8859-13", "iso885913"]),
    (singleByte latin8, ["iso-8859-14", "iso8859-14", "iso885914"]),
    (singleByte latin9, ["csisolatin9", "iso-8859-15", "iso8859-15", "iso885915", "iso_8859-15",
      "l9"]),
    (singleByte latin10, ["iso-8859-16"]),
    (singleByte koi8, ["cskoi8r", "koi", "koi8", "koi8-r", "koi8_r"]),
    (singleByte koi8Ukrainian, ["koi8-ru", "koi8-u"]),
    (singleByte dosCyrillic, ["866", "cp866", "csibm866", "ibm866"]),
    (singleByte macRoman, ["csmacintosh", "mac", "macintosh", "x-mac-roman"]),
    (singleByte macCyrillic, ["x-mac-cyrillic", "x-mac-ukrainian"]),
    (singleByte windowsThai, ["dos-874", "iso-8859-11", "iso8859-11", "iso885911", "tis-620",
      "windows-874"]),
    (singleByte centralEuropean, ["cp1250", "windows-1250", "x-cp1250"]),
    (singleByte windowsCyrillic, ["cp1251", "windows-1251", "x-cp1251"]),
    (singleByte windowsGreek, ["cp1253", "windows-1253", "x-cp1253"]),
    (singleByte windowsTurkish, ["cp1254", "csisolatin5", "iso-8859-9", "iso-ir-148",
      "iso8859-9", "iso88599", "iso_8859-9", "iso_8859-9:1989", "l5", "latin5", "windows-1254",
      "x-cp1254"]),
    (singleByte windowsHebrew, ["cp1255", "windows-1255", "x-cp1255"]),
    (singleByte windowsArabic, ["cp1256", "windows-1256", "x-cp1256"]),
    (singleByte windowsBaltic, ["cp1257", "windows-1257", "x-cp1257"]),
    (singleByte windowsVietnamese, ["cp1258", "windows-1258", "x-cp1258"]),
    (userDefined, ["x-user-defined"]),
    (unreadable, ["csiso2022kr", "hz-gb-2312", "iso-2022-cn", "iso-2022-cn-ext", "iso-2022-kr",
      "replacement"])]

/-- The character set with a name. -/
def ofName? (name : String) : Option Charset :=
  let name := fold (trim name)
  (names.find? (fun entry => entry.2.contains name)).map (·.1)

/-- A character of a token in a media type. -/
def isTokenChar (c : Char) : Bool :=
  c.isAlphanum || c ∈ "!#$%&'*+-.^_|~".toList || c = '\x60'

def isToken (cs : List Char) : Bool :=
  !cs.isEmpty && cs.all isTokenChar

/-- A type and a subtype with a slash between them. -/
def isTypePair (cs : List Char) : Bool :=
  match pieces '/' cs with
  | [type, subtype] => isToken type && isToken subtype
  | _ => false

/-- The value of a parameter without its quotes. -/
def unquoted (cs : List Char) : List Char :=
  match cs with
  | '"' :: rest => if rest.getLast? = some '"' then rest.dropLast else cs
  | _ => cs

/-- The parameter `charset` among the parameters of a media type. -/
def charsetParameter? : List (List Char) → Option String
  | [] => none
  | p :: ps =>
    let p := trimChars p
    let name := p.takeWhile (· ≠ '=')
    let value := (p.dropWhile (· ≠ '=')).drop 1
    if fold (String.ofList name) = "charset" then some (String.ofList (unquoted value))
    else charsetParameter? ps

/-- The character set that a media type names. -/
def ofMediaType? (mediaType : String) : Option Charset :=
  match pieces ';' mediaType.toList with
  | [] => none
  | essence :: parameters =>
    if isTypePair (trimChars essence) then (charsetParameter? parameters).bind ofName? else none

/-! ## Messages -/

/-- The text of a message with a media type. -/
def messageText (mediaType : Option String) (bs : List UInt8) : String :=
  let named := (mediaType.bind ofMediaType?).getD utf8
  String.ofList <| match bs with
    | 0xEF :: 0xBB :: 0xBF :: rest => utf8.chars rest
    | 0xFF :: 0xFE :: rest => (utf16 false).chars rest
    | 0xFE :: 0xFF :: rest => (utf16 true).chars rest
    | _ => named.chars bs

end Charset

end RemoteConfig.Text
