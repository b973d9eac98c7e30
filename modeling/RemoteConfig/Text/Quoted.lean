import RemoteConfig.Text.Ranges
import RemoteConfig.Text.UnseenTable

/-!
# Quoted texts

A text as it is shown to a developer: between quotes, with escapes for what
would not be seen.
-/

namespace RemoteConfig.Text

/-- A hexadecimal number in small letters. -/
def hexChars (n : Nat) : List Char :=
  Nat.toDigits 16 n

/-- Characters that cannot be seen. -/
def unseen : Ranges :=
  .ofText unseenText

/-- A character between quotes. -/
def quotedChar (c : Char) : List Char :=
  if c = '\t' then ['\\', 't']
  else if c = '\r' then ['\\', 'r']
  else if c = '\n' then ['\\', 'n']
  else if c = '"' then ['\\', '"']
  else if c = '\\' then ['\\', '\\']
  else if c = '\x00' then ['\\', '0']
  else if unseen.contains c then ['\\', 'u', '{'] ++ hexChars c.toNat ++ ['}']
  else [c]

/-- A text between quotes. -/
def quoted (s : String) : String :=
  String.ofList ('"' :: (s.toList.flatMap quotedChar ++ ['"']))

/-- An optional text. -/
def quotedOptional : Option String → String
  | some s => "Some(" ++ quoted s ++ ")"
  | none => "None"

end RemoteConfig.Text
