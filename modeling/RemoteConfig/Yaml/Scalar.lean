import RemoteConfig.Number.Radix
import RemoteConfig.Yaml.Placed

/-!
# Scalars

The three ways to write a text in YAML: plain, between quotes, or as a block of
lines.  All of them fold lines.  Words are joined by the *gap* between them:
blanks stay as they are, a single line break becomes a space, and of several
line breaks all but the first stay.
-/

namespace RemoteConfig.Yaml

/-- How a scalar is written. -/
inductive ScalarStyle where
  | plain
  | quoted
  | literal
  | folded
  deriving Repr, DecidableEq

/-- What stands between two words. -/
inductive Gap where
  /-- Blanks on one line. -/
  | blanks (chars : List Char)
  /-- A line break and those after it; the first one counts for nothing if it
  is escaped. -/
  | lines (first : Option Char) (more : List Char)
  deriving Repr, DecidableEq

namespace Gap

/-- The text that joins two words. -/
def text : Gap → List Char
  | blanks cs => cs
  | lines none more => more
  | lines (some c) more => if c = '\n' then (if more.isEmpty then [' '] else more) else c :: more

/-- The gap goes over the end of a line. -/
def isBroken : Gap → Bool
  | blanks _ => false
  | lines .. => true

/-- The gap with one more blank or line break. -/
def extend (g : Gap) (c : Char) : Gap :=
  match g with
  | blanks cs => if isBreak c then lines (some c) [] else blanks (cs ++ [c])
  | lines first more => if isBreak c then lines first (more ++ [c]) else g

end Gap

/-- The gap in front of a text, of which some has been read.  After a line
break no tab may stand before the column of the content. -/
def scanGap (column : Nat) (g : Gap) : Scanner Gap
  | [] => some (g, [])
  | p :: rest =>
    if isBlank p.char || isBreak p.char then
      if g.isBroken && p.char = '\t' && p.column < column then none
      else scanGap column (g.extend p.char) rest
    else some (g, p :: rest)

/-! ## Plain scalars -/

/-- The indicators that close or part collections in brackets. -/
def isFlowIndicator (c : Char) : Bool :=
  c = ',' || c = '[' || c = ']' || c = '{' || c = '}'

/-- A word of a plain scalar ends before this character. -/
def endsPlainWord (inFlow : Bool) (p : Placed) (rest : Input) : Bool :=
  isBlank p.char || isBreak p.char || (p.char = ':' && atGap rest) ||
  (inFlow && isFlowIndicator p.char)

/-- A colon before an indicator, which in brackets is neither text nor the mark
of a value. -/
def isStrayColon (inFlow : Bool) (p : Placed) (rest : Input) : Bool :=
  inFlow && p.char = ':' && startsBy (fun c => isFlowIndicator c || c = '?') rest

/-- A word of a plain scalar. -/
def plainWord (inFlow : Bool) : Scanner (List Char)
  | [] => some ([], [])
  | p :: rest =>
    if isStrayColon inFlow p rest then none
    else if endsPlainWord inFlow p rest then some ([], p :: rest)
    else
      match plainWord inFlow rest with
      | none => none
      | some (cs, rest) => some (p.char :: cs, rest)

/-- A block's content has ended: this text stands before its column. -/
def endsContent (inFlow : Bool) (column : Nat) : Input → Bool
  | [] => true
  | p :: _ => !inFlow && p.column < column

/-- The words of a plain scalar, the first after `gap`; with them comes whether
the last gap goes over the end of a line.  Every word has a character, so the
text's length is fuel enough. -/
def plainFrom (inFlow : Bool) (column : Nat) : (fuel : Nat) → Gap → Scanner (List Char × Bool)
  | 0, _, _ => none
  | fuel + 1, gap, cs =>
    if startsWith '#' cs || atDocumentMarker cs then some (([], gap.isBroken), cs)
    else do
      let (word, cs) ← plainWord inFlow cs
      if word.isEmpty then return (([], gap.isBroken), cs)
      let (next, cs) ← scanGap column (.blanks []) cs
      if endsContent inFlow column cs then return ((gap.text ++ word, next.isBroken), cs)
      let ((more, broken), cs) ← plainFrom inFlow column fuel next cs
      return ((gap.text ++ word ++ more, broken), cs)

/-- A plain scalar whose content begins at a column or behind it, and whether a
line break stands between the scalar and what follows. -/
def plainScalar (inFlow : Bool) (column : Nat) : Scanner (String × Bool) := fun cs => do
  let ((text, broken), cs) ← plainFrom inFlow column (cs.length + 1) (.blanks []) cs
  return ((String.ofList text, broken), cs)

/-! ## Scalars between quotes -/

/-- The character of an escape with a letter of its own. -/
def namedEscape? (c : Char) : Option Char :=
  match c with
  | '0' => some '\x00'
  | 'a' => some '\x07'
  | 'b' => some '\x08'
  | 't' => some '\t'
  | '\t' => some '\t'
  | 'n' => some '\n'
  | 'v' => some '\x0b'
  | 'f' => some '\x0c'
  | 'r' => some '\r'
  | 'e' => some '\x1b'
  | ' ' => some ' '
  | '"' => some '"'
  | '/' => some '/'
  | '\\' => some '\\'
  | 'N' => some '\u0085'
  | '_' => some '\u00a0'
  | 'L' => some '\u2028'
  | 'P' => some '\u2029'
  | _ => none

/-- How many digits follow the letter of a numeric escape. -/
def escapeDigits? (c : Char) : Option Nat :=
  if c = 'x' then some 2
  else if c = 'u' then some 4
  else if c = 'U' then some 8
  else none

/-- The character with a number, if there is one. -/
def charOfNat? (n : Nat) : Option Char :=
  if n.isValidChar then some (Char.ofNat n) else none

/-- What follows the backslash of an escape. -/
def scanEscape : Scanner Char
  | [] => none
  | p :: rest =>
    match namedEscape? p.char with
    | some c => some (c, rest)
    | none => do
      let count ← escapeDigits? p.char
      let digits := (rest.take count).map (·.char)
      if digits.length < count then none
      else
        let c ← (Radix.value? 16 digits).bind charOfNat?
        return (c, rest.drop count)

/-- What a text between quotes holds next. -/
inductive QuotedPiece where
  /-- Some characters. -/
  | chars (cs : List Char)
  /-- The quote that ends the text. -/
  | closed

/-- The next piece of a text in single quotes: a quote is written twice. -/
def singleQuotedPiece (p : Placed) : Scanner QuotedPiece := fun rest =>
  if p.char = '\'' then
    match rest with
    | q :: more => if q.char = '\'' then some (.chars ['\''], more) else some (.closed, rest)
    | [] => some (.closed, rest)
  else some (.chars [p.char], rest)

/-- The next piece of a text in double quotes: a backslash escapes a character
or the end of a line. -/
def doubleQuotedPiece (p : Placed) : Scanner QuotedPiece := fun rest =>
  if p.char = '"' then some (.closed, rest)
  else if p.char = '\\' then
    if startsBy isBreak rest then do
      let (gap, rest) ← scanGap 0 (.lines none []) rest.tail
      if atDocumentMarker rest then none
      else return (.chars gap.text, rest)
    else do
      let (c, rest) ← scanEscape rest
      return (.chars [c], rest)
  else some (.chars [p.char], rest)

/-- The rest of a text between quotes.  Lines are folded as in plain scalars,
and a marker between documents may not stand inside.  Every piece takes a
character, so the text's length is fuel enough. -/
def quotedFrom (piece : Placed → Scanner QuotedPiece) : (fuel : Nat) → Scanner (List Char)
  | 0, _ => none
  | _ + 1, [] => none
  | fuel + 1, p :: rest =>
    if isBlank p.char || isBreak p.char then do
      let (gap, rest) ← scanGap 0 (.blanks []) (p :: rest)
      if atDocumentMarker rest then none
      else
        let (more, rest) ← quotedFrom piece fuel rest
        return (gap.text ++ more, rest)
    else
      match piece p rest with
      | none => none
      | some (.closed, rest) => some ([], rest)
      | some (.chars cs, rest) =>
        match quotedFrom piece fuel rest with
        | none => none
        | some (more, rest) => some (cs ++ more, rest)

/-- The text after an opening quote. -/
def quotedScalar (single : Bool) : Scanner String := fun cs => do
  let piece := if single then singleQuotedPiece else doubleQuotedPiece
  let (text, rest) ← quotedFrom piece (cs.length + 1) cs
  return (String.ofList text, rest)

/-! ## Blocks -/

/-- What becomes of the line breaks at the end of a block. -/
inductive Chomping where
  /-- None stays. -/
  | strip
  /-- One stays. -/
  | clip
  /-- All stay. -/
  | keep
  deriving Repr, DecidableEq

/-- How a block is read: what its first line says. -/
structure BlockHeader where
  chomping : Chomping := .clip
  /-- The indentation of the lines beyond that of the block's parent, if it is
  given. -/
  increment? : Option Nat := none

/-- The sign for line breaks at the end. -/
def scanChomping : Input → Option Chomping × Input
  | p :: rest =>
    if p.char = '+' then (some .keep, rest)
    else if p.char = '-' then (some .strip, rest)
    else (none, p :: rest)
  | [] => (none, [])

/-- A digit for the indentation, which may not be zero. -/
def scanIncrement : Scanner (Option Nat)
  | p :: rest =>
    match Radix.digit? 10 p.char with
    | some 0 => none
    | some n => some (some n, rest)
    | none => some (none, p :: rest)
  | [] => some (none, [])

/-- The rest of the first line of a block: a sign and a digit in either
order. -/
def scanBlockHeader : Scanner BlockHeader := fun cs => do
  let (before, cs) := scanChomping cs
  let (increment?, cs) ← scanIncrement cs
  let (chomping?, cs) := if before.isSome then (before, cs) else
    if increment?.isSome then scanChomping cs else (none, cs)
  let cs ← skipLineEnd cs
  return (⟨chomping?.getD .clip, increment?⟩, cs)

/-- The empty lines in front of a text, with the greatest column at which one
of them or the text ends its indentation.  Spaces before the column `indent`
are indentation, all of them if it is not known, and no tab may stand among
those. -/
def scanEmptyLines (indent? : Option Nat) (deepest : Nat) : Scanner (List Char × Nat)
  | [] => some (([], deepest), [])
  | p :: rest =>
    let indented := match indent? with
      | some n => p.column < n
      | none => true
    if indented && p.char = ' ' then scanEmptyLines indent? deepest rest
    else if indented && p.char = '\t' then none
    else
      let deepest := max deepest p.column
      if isBreak p.char then
        match scanEmptyLines indent? deepest rest with
        | none => none
        | some ((breaks, deepest), rest) => some ((p.char :: breaks, deepest), rest)
      else some (([], deepest), p :: rest)

/-- The line breaks between two lines of a block. -/
structure Ending where
  /-- The line break of the line before, if there is one. -/
  first : List Char := []
  /-- Those of empty lines. -/
  more : List Char := []
  /-- The line before begins with a blank. -/
  afterBlank : Bool := false

/-- The text that joins two lines: a folded line break is a space or nothing,
except beside a line that begins with a blank. -/
def Ending.text (e : Ending) (folds : Bool) (beforeBlank : Bool) : List Char :=
  if folds && e.first = ['\n'] && !e.afterBlank && !beforeBlank then
    (if e.more.isEmpty then [' '] else e.more)
  else e.first ++ e.more

/-- The line breaks at the end of a block. -/
def Ending.chomped (e : Ending) : Chomping → List Char
  | .strip => []
  | .clip => e.first
  | .keep => e.first ++ e.more

/-- The lines of a block from one column on, the first one after `ending`.
Every line has a character, so the text's length is fuel enough. -/
def blockLines (folds : Bool) (indent : Nat) : (fuel : Nat) → Ending → Scanner (List Char × Ending)
  | 0, _, _ => none
  | _ + 1, ending, [] => some (([], ending), [])
  | fuel + 1, ending, p :: rest =>
    if p.column = indent then do
      let line := ((p :: rest).takeWhile (!isBreak ·.char)).map (·.char)
      let after := skipToBreak (p :: rest)
      let first := (after.take 1).map (·.char)
      let ((more, _), cs) ← scanEmptyLines (some indent) 0 (after.drop 1)
      let ((lines, last), cs) ← blockLines folds indent fuel ⟨first, more, isBlank p.char⟩ cs
      return ((ending.text folds (isBlank p.char) ++ line ++ lines, last), cs)
    else some (([], ending), p :: rest)

/-- A block, after its indicator.  Its lines begin at a column behind that of
its parent: the one that is given, or else that of the deepest of the empty
lines and the first other one, `column` at least. -/
def blockScalar (folds : Bool) (column : Nat) : Scanner String := fun cs => do
  let (header, cs) ← scanBlockHeader cs
  let given := header.increment?.map (· + (column - 1))
  let ((breaks, deepest), cs) ← scanEmptyLines given 0 cs
  let indent := given.getD (max deepest (max column 1))
  let ((text, ending), cs) ←
    blockLines folds indent (cs.length + 1) ⟨[], breaks, false⟩ cs
  return (String.ofList (text ++ ending.chomped header.chomping), cs)

end RemoteConfig.Yaml
