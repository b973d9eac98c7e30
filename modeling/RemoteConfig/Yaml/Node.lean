import RemoteConfig.TextMap
import RemoteConfig.Yaml.Token

/-!
# Nodes

The contents of a YAML document: scalars, sequences and mappings, and aliases
of any of these.  `Node.document?` reads the only document of a text.
`Node.referent` finds what an alias stands for.

Anchors are numbered: the number of an anchor is how many names are known when
it is met, so two anchors have one number when a name has been used twice
before.  An alias stands for the last node with its number, in the order in
which nodes start.
-/

namespace RemoteConfig.Yaml

/-- A content of a document. -/
inductive Node where
  | reference (id : Nat)
  | scalar (anchor? : Option Nat) (style : ScalarStyle) (tag? : Option Octets) (text : String)
  | sequence (anchor? : Option Nat) (items : List Node)
  | mapping (anchor? : Option Nat) (entries : List (Node × Node))
  deriving Inhabited

namespace Node

/-- What stands where there is nothing: an empty plain scalar. -/
def empty : Node :=
  scalar none .plain none ""

/-! ## Aliases -/

mutual

/-- The last node with a number, among a node and those in it. -/
def find? (id : Nat) : Node → Option Node
  | reference _ => none
  | scalar a s t v => if a = some id then some (scalar a s t v) else none
  | sequence a items =>
    findItem? id items <|> (if a = some id then some (sequence a items) else none)
  | mapping a entries =>
    findEntry? id entries <|> (if a = some id then some (mapping a entries) else none)

/-- The last node with a number in a sequence. -/
def findItem? (id : Nat) : List Node → Option Node
  | [] => none
  | n :: ns => findItem? id ns <|> find? id n

/-- The last node with a number in a mapping. -/
def findEntry? (id : Nat) : List (Node × Node) → Option Node
  | [] => none
  | (k, v) :: es => findEntry? id es <|> find? id v <|> find? id k

end

/-- What a node of a document stands for. -/
def referent (root : Node) : Node → Option Node
  | reference id => root.find? id
  | n => some n

/-! ## Reading -/

/-- The tokens that are left, and the numbers of the names of anchors. -/
structure Pending where
  tokens : List Token
  anchors : TextMap Nat := .empty

/-- Reads something from the front of the tokens that are left. -/
abbrev Reader := StateT Pending Option

/-- The next token. -/
def peek : Reader (Option Token) := do
  return (← get).tokens.head?

/-- Goes over the next token. -/
def skip : Reader Unit :=
  modify fun p => { p with tokens := p.tokens.tail }

/-- The next token is such a one. -/
def next (test : Token → Bool) : Reader Bool := do
  return ((← peek).map test).getD false

/-- Numbers an anchor. -/
def number (name : String) : Reader Nat :=
  modifyGet fun p => (p.anchors.size, { p with anchors := p.anchors.insert name p.anchors.size })

/-- What is written in front of a content. -/
structure Properties where
  anchor? : Option String := none
  tag? : Option TagName := none

/-- An anchor and a tag, in either order, each at most once. -/
def properties : Reader Properties := do
  match (← get).tokens with
  | .anchor a :: .tag t :: _ => do skip; skip; return ⟨some a, some t⟩
  | .tag t :: .anchor a :: _ => do skip; skip; return ⟨some a, some t⟩
  | .anchor a :: _ => do skip; return ⟨some a, none⟩
  | .tag t :: _ => do skip; return ⟨none, some t⟩
  | _ => return {}

/-- What the handles of tags stand for. -/
abbrev Handles := List (String × Octets)

/-- What handles stand for that no directive defines. -/
def standardHandles : Handles :=
  [("!", Text.bytes "!"), ("!!", Text.bytes "tag:yaml.org,2002:")]

/-- The tag that is meant, if its handle stands for something. -/
def resolve (handles : Handles) (t : TagName) : Option Octets :=
  if t.handle.isEmpty then some t.suffix
  else (handles.lookup t.handle).map (· ++ t.suffix)

/-- The tag of a scalar: a lone `!` is no tag. -/
def scalarTag? (tag? : Option Octets) : Option Octets :=
  tag?.filter (· ≠ Text.bytes "!")

/-- In a sequence without a block of its own nothing stands before these. -/
def endsIndentlessItem (t : Token) : Bool :=
  t = .blockEntry || t = .key || t = .value || t = .blockEnd

/-- In a sequence with a block of its own nothing stands before these. -/
def endsBlockItem (t : Token) : Bool :=
  t = .blockEntry || t = .blockEnd

/-- In a mapping with a block of its own nothing stands before these. -/
def endsBlockEntry (t : Token) : Bool :=
  t = .key || t = .value || t = .blockEnd

/-- No key stands before these in a pair in brackets. -/
def endsPairKey (t : Token) : Bool :=
  t = .value || t = .flowEntry || t = .flowSequenceEnd

/-- No value stands before these in a pair in brackets. -/
def endsPairValue (t : Token) : Bool :=
  t = .flowEntry || t = .flowSequenceEnd

/-- No key stands before these in braces. -/
def endsFlowKey (t : Token) : Bool :=
  t = .value || t = .flowEntry || t = .flowMappingEnd

/-- No value stands before these in braces. -/
def endsFlowValue (t : Token) : Bool :=
  t = .flowEntry || t = .flowMappingEnd

/-- No content: an empty scalar, if anything is written in front of it. -/
def absent (p : Properties) (anchor? : Option Nat) (tag? : Option Octets) : Reader Node :=
  if p.anchor?.isSome || p.tag?.isSome then return scalar anchor? .plain tag? "" else failure

/-- A comma between items or entries, which the first has none of. -/
def parting (first : Bool) : Reader Unit := do
  if first then return ()
  else if ← next (· = .flowEntry) then skip
  else failure

mutual

/-- A node.  Blocks may start only where `block` holds, and sequences without a
block of their own only where `indentless` holds.  Every two steps go over a
token, so twice their number is fuel enough. -/
def node (handles : Handles) : (fuel : Nat) → (block indentless : Bool) → Reader Node
  | 0, _, _ => failure
  | fuel + 1, block, indentless => do
    match ← peek with
    | some (.reference name) => do
      skip
      match (← get).anchors.get? name with
      | some id => return reference id
      | none => failure
    | _ => do
      let p ← properties
      let tag? ← p.tag?.mapM (fun t => (resolve handles t : Option Octets))
      let anchor? ← p.anchor?.mapM number
      match ← peek with
      | some .blockEntry =>
        if indentless then return sequence anchor? (← indentlessItems handles fuel)
        else absent p anchor? tag?
      | some (.scalar style text) => do
        skip
        return scalar anchor? style (scalarTag? tag?) text
      | some .flowSequence => do
        skip
        return sequence anchor? (← flowItems handles fuel true)
      | some .flowMapping => do
        skip
        return mapping anchor? (← flowEntries handles fuel true)
      | some .blockSequence =>
        if block then do
          skip
          return sequence anchor? (← blockItems handles fuel)
        else absent p anchor? tag?
      | some .blockMapping =>
        if block then do
          skip
          return mapping anchor? (← blockEntries handles fuel)
        else absent p anchor? tag?
      | _ => absent p anchor? tag?

/-- A node, or an empty scalar before some tokens. -/
def nodeUnless (handles : Handles) : (fuel : Nat) → (ends : Token → Bool) →
    (block indentless : Bool) → Reader Node
  | 0, _, _, _ => failure
  | fuel + 1, ends, block, indentless => do
    if ← next ends then return empty else node handles fuel block indentless

/-- The items of a sequence, with the end of its block. -/
def blockItems (handles : Handles) : (fuel : Nat) → Reader (List Node)
  | 0 => failure
  | fuel + 1 => do
    match ← peek with
    | some .blockEntry => do
      skip
      let item ← nodeUnless handles fuel endsBlockItem true false
      return item :: (← blockItems handles fuel)
    | some .blockEnd => do
      skip
      return []
    | _ => failure

/-- The items of a sequence without a block of its own. -/
def indentlessItems (handles : Handles) : (fuel : Nat) → Reader (List Node)
  | 0 => failure
  | fuel + 1 => do
    match ← peek with
    | some .blockEntry => do
      skip
      let item ← nodeUnless handles fuel endsIndentlessItem true false
      return item :: (← indentlessItems handles fuel)
    | _ => return []

/-- The entries of a mapping, with the end of its block. -/
def blockEntries (handles : Handles) : (fuel : Nat) → Reader (List (Node × Node))
  | 0 => failure
  | fuel + 1 => do
    match ← peek with
    | some .key => do
      skip
      let k ← nodeUnless handles fuel endsBlockEntry true true
      let v ← valueUnless handles fuel endsBlockEntry true
      return (k, v) :: (← blockEntries handles fuel)
    | some .blockEnd => do
      skip
      return []
    | _ => failure

/-- A value after its mark, or an empty scalar where there is no mark or
nothing behind it. -/
def valueUnless (handles : Handles) : (fuel : Nat) → (ends : Token → Bool) → (block : Bool) →
    Reader Node
  | 0, _, _ => failure
  | fuel + 1, ends, block => do
    if ← next (· = .value) then do
      skip
      nodeUnless handles fuel ends block block
    else return empty

/-- The items of a sequence in brackets, with the closing one. -/
def flowItems (handles : Handles) : (fuel : Nat) → (first : Bool) → Reader (List Node)
  | 0, _ => failure
  | fuel + 1, first => do
    if ← next (· = .flowSequenceEnd) then do
      skip
      return []
    else do
      parting first
      match ← peek with
      | some .flowSequenceEnd => do
        skip
        return []
      | some .key => do
        skip
        let k ← pairKey handles fuel
        let v ← valueUnless handles fuel endsPairValue false
        return mapping none [(k, v)] :: (← flowItems handles fuel false)
      | _ => do
        let item ← node handles fuel false false
        return item :: (← flowItems handles fuel false)

/-- The key of a pair in brackets.  Where there is none, the token in its place
is gone over. -/
def pairKey (handles : Handles) : (fuel : Nat) → Reader Node
  | 0 => failure
  | fuel + 1 => do
    if ← next endsPairKey then do
      skip
      return empty
    else node handles fuel false false

/-- The entries of a mapping in braces, with the closing one.  A key without
its mark has no value. -/
def flowEntries (handles : Handles) : (fuel : Nat) → (first : Bool) →
    Reader (List (Node × Node))
  | 0, _ => failure
  | fuel + 1, first => do
    if ← next (· = .flowMappingEnd) then do
      skip
      return []
    else do
      parting first
      match ← peek with
      | some .flowMappingEnd => do
        skip
        return []
      | some .key => do
        skip
        let k ← nodeUnless handles fuel endsFlowKey false false
        let v ← valueUnless handles fuel endsFlowValue false
        return (k, v) :: (← flowEntries handles fuel false)
      | _ => do
        let k ← node handles fuel false false
        return (k, empty) :: (← flowEntries handles fuel false)

end

/-! ## Documents -/

/-- What the directives in front of a document say. -/
structure Prologue where
  hasVersion : Bool := false
  handles : Handles := []

/-- Adds a directive.  The version is 1.1 or 1.2, and nothing is said twice. -/
def Prologue.add (p : Prologue) : Directive → Option Prologue
  | .version major minor =>
    if p.hasVersion || major ≠ 1 || (minor ≠ 1 && minor ≠ 2) then none
    else some { p with hasVersion := true }
  | .handle name octets =>
    if (p.handles.lookup name).isSome then none
    else some { p with handles := p.handles ++ [(name, octets)] }

/-- The directives in front of the tokens of a document, with the rest. -/
def prologue (p : Prologue) : List Token → Option (Prologue × List Token)
  | .directive d :: ts => do prologue (← p.add d) ts
  | ts => some (p, ts)

/-- Nothing stands before these in a document that is marked. -/
def endsDocument : List Token → Bool
  | [] => true
  | t :: _ =>
    match t with
    | .directive _ => true
    | .documentStart => true
    | .documentEnd => true
    | _ => false

/-- The only content of a document, up to the end of the tokens. -/
def onlyNode? (handles : Handles) (ts : List Token) : Option Node := do
  let (root, left) ← (node (handles ++ standardHandles) (4 * ts.length + 8) true false).run ⟨ts, .empty⟩
  if left.tokens.all (· = .documentEnd) then some root else none

/-- The content of the tokens of a text; none if there is no document. -/
def ofTokens? (ts : List Token) : Option (Option Node) :=
  match ts with
  | [] => some none
  | .directive _ :: _ => marked ts
  | .documentStart :: _ => marked ts
  | _ => (onlyNode? [] ts).map some
where
  /-- A document behind a marker. -/
  marked (ts : List Token) : Option (Option Node) := do
    match ← prologue {} ts with
    | (p, .documentStart :: rest) =>
      if endsDocument rest then
        if rest.all (· = .documentEnd) then some (some empty) else none
      else (onlyNode? p.handles rest).map some
    | _ => none

/-- The content of the only document of a text; none inside if there is no
document, and none if the text is malformed. -/
def document? (text : String) : Option (Option Node) := do
  ofTokens? (← tokens? text)

end Node

end RemoteConfig.Yaml
