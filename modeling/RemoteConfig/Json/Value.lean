import RemoteConfig.Number.Radix
import RemoteConfig.Number.Shortest
import RemoteConfig.TextMap

/-!
# Document values

Values of JSON documents and their canonical text: compact, members in the
order of their names, the shortest escapes.  The reader in
`RemoteConfig.Json.Reader` builds objects whose names increase strictly, so
equal values have equal texts.
-/

namespace RemoteConfig

/-- A value of a document. -/
inductive Json where
  | null
  | bool (b : Bool)
  | integer (i : Int)
  | double (d : Double)
  | text (s : String)
  | array (items : List Json)
  | object (members : List (String × Json))
  deriving Inhabited

namespace Json

/-- A character as it stands between quotes. -/
def escapeChar (c : Char) : List Char :=
  if c = '"' then ['\\', '"']
  else if c = '\\' then ['\\', '\\']
  else if c = '\x08' then ['\\', 'b']
  else if c = '\x0c' then ['\\', 'f']
  else if c = '\n' then ['\\', 'n']
  else if c = '\r' then ['\\', 'r']
  else if c = '\t' then ['\\', 't']
  else if c.toNat < 0x20 then
    ['\\', 'u', '0', '0', Radix.lowerDigit (c.toNat / 16), Radix.lowerDigit (c.toNat % 16)]
  else [c]

/-- A text between quotes. -/
def quoted (s : String) : List Char :=
  '"' :: (s.toList.flatMap escapeChar ++ ['"'])

mutual

/-- The canonical text of a value. -/
def chars : Json → List Char
  | null => "null".toList
  | bool b => (if b then "true" else "false").toList
  | integer i => (Decimal.intText i).toList
  | double d => (Decimal.doubleText .document d).toList
  | text s => quoted s
  | array items => '[' :: (itemChars items ++ [']'])
  | object members => '{' :: (memberChars members ++ ['}'])

/-- The texts of the items of an array, with commas between them. -/
def itemChars : List Json → List Char
  | [] => []
  | [v] => chars v
  | v :: rest => chars v ++ ',' :: itemChars rest

/-- The texts of the members of an object, with commas between them. -/
def memberChars : List (String × Json) → List Char
  | [] => []
  | [(k, v)] => quoted k ++ ':' :: chars v
  | (k, v) :: rest => quoted k ++ ':' :: (chars v ++ ',' :: memberChars rest)

end

/-- The canonical text of a value. -/
def render (v : Json) : String :=
  String.ofList (chars v)

end Json

end RemoteConfig
