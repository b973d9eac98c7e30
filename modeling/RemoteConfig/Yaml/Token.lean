import RemoteConfig.Yaml.Tag

/-!
# Tokens

The words of a YAML text, with its indentation made explicit: a block of deeper
lines opens with a token of its own and closes with another.  Whether a word is
a key shows only at the colon behind it, so a `Layout` remembers where the last
word that may be one was, and the tokens that mark it are put in front of it
afterwards.
-/

namespace RemoteConfig.Yaml

/-- A word of a text, or a mark of its structure. -/
inductive Token where
  | directive (d : Directive)
  | documentStart
  | documentEnd
  | blockSequence
  | blockMapping
  | blockEnd
  | flowSequence
  | flowSequenceEnd
  | flowMapping
  | flowMappingEnd
  | blockEntry
  | flowEntry
  | key
  | value
  | reference (name : String)
  | anchor (name : String)
  | tag (name : TagName)
  | scalar (style : ScalarStyle) (text : String)
  deriving Repr, DecidableEq

/-- A word that is a key if a colon follows on its line. -/
structure KeyCandidate where
  /-- The number of its first token. -/
  number : Nat
  /-- Its first character. -/
  start : Placed
  /-- Nothing but a key may stand there. -/
  required : Bool
  deriving Repr, DecidableEq

/-- The tokens of the front of a text, and what is to be known to go on. -/
structure Layout where
  tokens : Array Token := #[]
  /-- The columns of the open blocks, the innermost first. -/
  blocks : List Nat := []
  /-- The word that may be a key. -/
  candidate? : Option KeyCandidate := none
  /-- Those outside of the open brackets, one for each, the innermost first. -/
  outer : List (Option KeyCandidate) := []
  /-- A key may start here. -/
  keyAllowed : Bool := true

namespace Layout

/-- Within brackets. -/
def inFlow (l : Layout) : Bool :=
  !l.outer.isEmpty

/-- The first column of the content of the innermost block. -/
def contentColumn (l : Layout) : Nat :=
  match l.blocks with
  | [] => 0
  | n :: _ => n + 1

/-- One more token. -/
def push (l : Layout) (t : Token) : Layout :=
  { l with tokens := l.tokens.push t }

/-- A token in front of the one with a number. -/
def insert (l : Layout) (number : Nat) (t : Token) : Layout :=
  { l with tokens := l.tokens.insertIdxIfInBounds number t }

/-- Whether a key may start from here on. -/
def allowKey (l : Layout) (allowed : Bool) : Layout :=
  { l with keyAllowed := allowed }

/-! ## Blocks -/

/-- Opens a block at a column that is deeper than the innermost one, with a
token in front of the one with a number.  Within brackets there are none. -/
def openBlock (l : Layout) (column number : Nat) (t : Token) : Layout :=
  if l.inFlow || column < l.contentColumn then l
  else { l.insert number t with blocks := column :: l.blocks }

/-- Closes blocks that are deeper than a column. -/
def closeTokens (column : Nat) : Array Token → List Nat → Array Token × List Nat
  | ts, [] => (ts, [])
  | ts, n :: ns => if column < n then closeTokens column (ts.push .blockEnd) ns else (ts, n :: ns)

/-- Closes the blocks that are deeper than a column, outside of brackets. -/
def closeBlocks (l : Layout) (column : Nat) : Layout :=
  if l.inFlow then l
  else
    let (ts, ns) := closeTokens column l.tokens l.blocks
    { l with tokens := ts, blocks := ns }

/-- Closes all blocks, outside of brackets. -/
def closeAll (l : Layout) : Layout :=
  if l.inFlow then l
  else { l with tokens := l.tokens ++ l.blocks.map (fun _ => Token.blockEnd), blocks := [] }

/-! ## Words that may be keys -/

/-- A key may be this long. -/
def keyLimit : Nat := 1024

/-- The word can be no key any more: a colon here would be on another line, or
too far away. -/
def isStale (k : KeyCandidate) (p : Placed) : Bool :=
  k.start.line < p.line || k.start.index + keyLimit < p.index

/-- The word is a key at this place or none, unless it must be one and is too
far away. -/
def refresh (p : Placed) : Option KeyCandidate → Option (Option KeyCandidate)
  | some k => if isStale k p then (if k.required then none else some none) else some (some k)
  | none => some none

/-- Forgets the words that can be no keys any more. -/
def refreshAll (l : Layout) (p : Placed) : Option Layout := do
  let candidate? ← refresh p l.candidate?
  let outer ← l.outer.mapM (refresh p)
  return { l with candidate?, outer }

/-- Forgets the word that may be a key, unless it must be one. -/
def dropKey (l : Layout) : Option Layout :=
  match l.candidate? with
  | some k => if k.required then none else some { l with candidate? := none }
  | none => some l

/-- Remembers that the next token may be a key.  At the column of the innermost
block nothing else may stand. -/
def markKey (l : Layout) (p : Placed) : Option Layout :=
  if !l.keyAllowed then some l
  else do
    let l ← l.dropKey
    let required := !l.inFlow && l.blocks.head? = some p.column
    return { l with candidate? := some ⟨l.tokens.size, p, required⟩ }

/-! ## Tokens -/

/-- A marker between documents. -/
def documentMarker (l : Layout) (t : Token) : Option Layout := do
  let l ← l.closeAll.dropKey
  return (l.push t).allowKey false

/-- An opening bracket. -/
def openFlow (l : Layout) (p : Placed) (t : Token) : Option Layout := do
  let l ← l.markKey p
  return { l.push t with candidate? := none, outer := l.candidate? :: l.outer, keyAllowed := true }

/-- A closing bracket. -/
def closeFlow (l : Layout) (t : Token) : Option Layout := do
  let l ← l.dropKey
  let l := (l.push t).allowKey false
  match l.outer with
  | [] => return l
  | k :: ks => return { l with candidate? := k, outer := ks }

/-- A comma within brackets. -/
def flowEntry (l : Layout) : Option Layout := do
  let l ← l.dropKey
  return (l.push .flowEntry).allowKey true

/-- A block opens where a key or an entry is marked by its indicator. -/
def openMarked (l : Layout) (p : Placed) (t : Token) : Option Layout :=
  if l.inFlow then some l
  else if l.keyAllowed then some (l.openBlock p.column l.tokens.size t)
  else none

/-- The indicator of an entry of a sequence. -/
def blockEntry (l : Layout) (p : Placed) : Option Layout := do
  let l ← (← l.openMarked p .blockSequence).dropKey
  return (l.push .blockEntry).allowKey true

/-- The indicator of a key. -/
def keyMark (l : Layout) (p : Placed) : Option Layout := do
  let l ← (← l.openMarked p .blockMapping).dropKey
  return (l.push .key).allowKey (!l.inFlow)

/-- The colon of a value.  If a word before it may be a key, it is one. -/
def valueMark (l : Layout) (p : Placed) : Option Layout :=
  match l.candidate? with
  | some k =>
    let l := (l.insert k.number .key).openBlock k.start.column k.number .blockMapping
    some { l.push .value with candidate? := none, keyAllowed := false }
  | none => do
    let l ← l.openMarked p .blockMapping
    return (l.push .value).allowKey (!l.inFlow)

/-- A word that may be a key. -/
def word (l : Layout) (p : Placed) (t : Token) : Option Layout := do
  let l ← l.markKey p
  return (l.push t).allowKey false

/-- A plain scalar; after a line break another key may start. -/
def plain (l : Layout) (p : Placed) (text : String) (broken : Bool) : Option Layout := do
  let l ← l.word p (.scalar .plain text)
  return l.allowKey broken

/-- A block scalar, which is no key. -/
def block (l : Layout) (style : ScalarStyle) (text : String) : Option Layout := do
  let l ← l.dropKey
  return (l.push (.scalar style text)).allowKey true

/-! ## Scanning -/

/-- Skips blanks, comments and line breaks in front of a token.  Outside of
brackets a key may start on a new line.  A tab is a blank within brackets and
where no key may start. -/
def skipGap (inComment : Bool) (l : Layout) : Input → Layout × Input
  | [] => (l, [])
  | p :: rest =>
    if isBreak p.char then skipGap false (if l.inFlow then l else l.allowKey true) rest
    else if inComment then skipGap true l rest
    else if p.char = '#' then skipGap true l rest
    else if p.char = ' ' || (p.char = '\t' && (l.inFlow || !l.keyAllowed)) ||
        (p.char = byteOrderMark && p.column = 0) then skipGap false l rest
    else (l, p :: rest)

/-- The characters with which no plain scalar starts, unless it is a hyphen, a
question mark or a colon with text behind it. -/
def isIndicator (c : Char) : Bool :=
  c ∈ ['-', '?', ':', ',', '[', ']', '{', '}', '#', '&', '*', '!', '|', '>', '\'', '"', '%', '@',
    '\x60']

/-- A plain scalar may start with this character. -/
def startsPlain (l : Layout) (p : Placed) (rest : Input) : Bool :=
  !(isBlank p.char || isIndicator p.char) ||
  (p.char = '-' && !startsBy isBlank rest) ||
  (!l.inFlow && (p.char = '?' || p.char = ':') && !atGap rest)

/-- A token at the start of a line that belongs to no block, if one stands
there: a directive or a marker. -/
def scanMarker? (l : Layout) (p : Placed) (rest : Input) : Option (Option (Layout × Input)) :=
  if p.column = 0 && p.char = '%' then
    some do
      let (d, rest) ← scanDirective rest
      return (← l.documentMarker (.directive d), rest)
  else if atMarker '-' (p :: rest) then
    some ((l.documentMarker .documentStart).map (·, rest.drop 2))
  else if atMarker '.' (p :: rest) then
    some ((l.documentMarker .documentEnd).map (·, rest.drop 2))
  else none

/-- A token made of one indicator, if one stands there. -/
def scanIndicator? (l : Layout) (p : Placed) (rest : Input) : Option (Option Layout) :=
  let marks := l.inFlow || atGap rest
  match p.char with
  | '[' => some (l.openFlow p .flowSequence)
  | '{' => some (l.openFlow p .flowMapping)
  | ']' => some (l.closeFlow .flowSequenceEnd)
  | '}' => some (l.closeFlow .flowMappingEnd)
  | ',' => some l.flowEntry
  | '-' => if atGap rest then some (l.blockEntry p) else none
  | '?' => if marks then some (l.keyMark p) else none
  | ':' => if marks then some (l.valueMark p) else none
  | _ => none

/-- A token that is a word. -/
def scanWord (l : Layout) (p : Placed) (rest : Input) : Option (Layout × Input) :=
  let plainWord : Option (Layout × Input) :=
    if l.startsPlain p rest then do
      let ((text, broken), rest) ← plainScalar l.inFlow l.contentColumn (p :: rest)
      return (← l.plain p text broken, rest)
    else none
  match p.char with
  | '*' => do
    let (name, rest) ← scanAnchor rest
    return (← l.word p (.reference name), rest)
  | '&' => do
    let (name, rest) ← scanAnchor rest
    return (← l.word p (.anchor name), rest)
  | '!' => do
    let (name, rest) ← scanTag l.inFlow rest
    return (← l.word p (.tag name), rest)
  | '|' =>
    if l.inFlow then none
    else do
      let (text, rest) ← blockScalar false l.contentColumn rest
      return (← l.block .literal text, rest)
  | '>' =>
    if l.inFlow then none
    else do
      let (text, rest) ← blockScalar true l.contentColumn rest
      return (← l.block .folded text, rest)
  | '\'' => do
    let (text, rest) ← quotedScalar true rest
    return (← l.word p (.scalar .quoted text), rest)
  | '"' => do
    let (text, rest) ← quotedScalar false rest
    return (← l.word p (.scalar .quoted text), rest)
  | _ => plainWord

/-- The next token, which starts at the front of the text. -/
def scanToken (l : Layout) (p : Placed) (rest : Input) : Option (Layout × Input) :=
  match l.scanMarker? p rest with
  | some answer => answer
  | none =>
    match l.scanIndicator? p rest with
    | some answer => answer.map (·, rest)
    | none => l.scanWord p rest

/-- The tokens of the rest of a text.  Every round takes a character, so the
text's length is fuel enough. -/
def scanFrom : (fuel : Nat) → Layout → Input → Option (Array Token)
  | 0, _, _ => none
  | fuel + 1, l, cs =>
    match l.skipGap false cs with
    | (l, []) => l.closeAll.dropKey.map (·.tokens)
    | (l, p :: rest) => do
      let l ← l.refreshAll p
      let (l, rest) ← (l.closeBlocks p.column).scanToken p rest
      scanFrom fuel l rest

end Layout

/-- The tokens of a text. -/
def tokens? (text : String) : Option (List Token) := do
  let cs ← place text.toList
  let ts ← Layout.scanFrom (cs.length + 1) {} cs
  return ts.toList

end RemoteConfig.Yaml
