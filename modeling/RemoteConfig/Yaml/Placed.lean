/-!
# Characters with their places

A YAML text as a list of characters that know where they stand.  The layout of
a text is part of its meaning, so every rule that asks for a column or a line
asks the character in front.  Line breaks of one and two characters are one
character here, and a text with a character that YAML does not allow has no
such list.
-/

namespace RemoteConfig.Yaml

/-- A character and where it stands, all counted from zero.  The index counts
a line break of two characters twice. -/
structure Placed where
  char : Char
  index : Nat
  line : Nat
  column : Nat
  deriving Repr, DecidableEq

/-- The rest of a text. -/
abbrev Input := List Placed

/-- What a scanner makes of the front of a text, with the rest; nothing if the
text is malformed there. -/
abbrev Scanner (α : Type) := Input → Option (α × Input)

/-! ## Kinds of characters -/

/-- The characters that a text may hold. -/
def isAllowed (c : Char) : Bool :=
  let n := c.toNat
  n == 0x09 || n == 0x0A || n == 0x0D || (0x20 ≤ n && n ≤ 0x7E) || n == 0x85 ||
  (0xA0 ≤ n && n ≤ 0xFFFD) || 0x10000 ≤ n

/-- A byte order mark. -/
def byteOrderMark : Char := '\uFEFF'

/-- A space or a tab. -/
def isBlank (c : Char) : Bool :=
  c = ' ' || c = '\t'

/-- A line break: most are read as a newline, and two keep their character. -/
def isBreak (c : Char) : Bool :=
  c = '\n' || c = '\u2028' || c = '\u2029'

/-- A letter, a digit, a hyphen or an underscore. -/
def isNameChar (c : Char) : Bool :=
  c.isAlphanum || c = '-' || c = '_'

/-! ## Placing -/

/-- Places the characters of a text from a place on. -/
def placeFrom (index line column : Nat) : List Char → Option Input
  | [] => some []
  | '\r' :: '\n' :: rest => do
    return ⟨'\n', index, line, column⟩ :: (← placeFrom (index + 2) (line + 1) 0 rest)
  | c :: rest =>
    if !isAllowed c then none
    else
      let c := if c = '\r' || c = '\u0085' then '\n' else c
      if isBreak c then do
        return ⟨c, index, line, column⟩ :: (← placeFrom (index + 1) (line + 1) 0 rest)
      else do
        return ⟨c, index, line, column⟩ :: (← placeFrom (index + 1) line (column + 1) rest)

/-- Places the characters of a text; a byte order mark in front has no place. -/
def place (cs : List Char) : Option Input :=
  match cs with
  | c :: rest => if c = byteOrderMark then placeFrom 0 0 0 rest else placeFrom 0 0 0 cs
  | [] => some []

/-! ## Looking ahead -/

/-- The text goes on with this character. -/
def startsWith (c : Char) : Input → Bool
  | p :: _ => p.char = c
  | [] => false

/-- The text goes on with such a character. -/
def startsBy (test : Char → Bool) : Input → Bool
  | p :: _ => test p.char
  | [] => false

/-- A word ends here: at a blank, a line break or the end of the text. -/
def atGap : Input → Bool
  | p :: _ => isBlank p.char || isBreak p.char
  | [] => true

/-- A marker of three such characters stands at the start of a line. -/
def atMarker (c : Char) : Input → Bool
  | a :: b :: d :: rest =>
    a.column == 0 && a.char == c && b.char == c && d.char == c && atGap rest
  | _ => false

/-- A marker between documents. -/
def atDocumentMarker (cs : Input) : Bool :=
  atMarker '-' cs || atMarker '.' cs

/-! ## Skipping -/

/-- The text from the next character that is no blank. -/
def skipBlanks (cs : Input) : Input :=
  cs.dropWhile (isBlank ·.char)

/-- The text from the end of this line. -/
def skipToBreak (cs : Input) : Input :=
  cs.dropWhile (!isBreak ·.char)

/-- The text after the end of this line, where nothing but blanks and a comment
may stand before it. -/
def skipLineEnd (cs : Input) : Option Input :=
  let cs := skipBlanks cs
  match if startsWith '#' cs then skipToBreak cs else cs with
  | [] => some []
  | p :: rest => if isBreak p.char then some rest else none

/-- The characters of a name, with the rest. -/
def takeName (cs : Input) : String × Input :=
  (String.ofList ((cs.takeWhile (isNameChar ·.char)).map (·.char)),
    cs.dropWhile (isNameChar ·.char))

end RemoteConfig.Yaml
