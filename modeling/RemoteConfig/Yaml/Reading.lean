import RemoteConfig.Number.Decimal
import RemoteConfig.Yaml.Node

/-!
# Values of nodes

What a node says when a text, a truth value, a number or a record is asked for.
Only plain scalars, and literal blocks with the right tag, are truth values and
numbers; every scalar is a text, just as it is written.
-/

namespace RemoteConfig.Yaml.Node

/-! ## Scalars -/

/-- A tag of the standard types. -/
def standardTag (name : String) : Octets :=
  Text.bytes ("tag:yaml.org,2002:" ++ name)

/-- The scalar may be of a type other than text. -/
def isTyped (typeName : String) (style : ScalarStyle) (tag? : Option Octets) : Bool :=
  style = .plain || (style = .literal && tag? = some (standardTag typeName))

/-- A word for nothing. -/
def isNullWord (s : String) : Bool :=
  s = "null" || s = "Null" || s = "NULL" || s = "~"

/-- The truth value of a word. -/
def boolOfWord? (s : String) : Option Bool :=
  if s = "true" || s = "True" || s = "TRUE" then some true
  else if s = "false" || s = "False" || s = "FALSE" then some false
  else none

/-- More than one digit, the first of which is zero. -/
def hasLeadingZero : List Char → Bool
  | '0' :: c :: cs => (c :: cs).all Decimal.isDigit
  | _ => false

/-- The number of a numeral with digits of a base behind a sign for it. -/
def naturalOfNumeral? (cs : List Char) : Option Nat :=
  match cs with
  | [] => none
  | '0' :: 'x' :: d :: ds => Radix.value? 16 (d :: ds)
  | '0' :: 'o' :: d :: ds => Radix.value? 8 (d :: ds)
  | '0' :: 'b' :: d :: ds => Radix.value? 2 (d :: ds)
  | _ => if hasLeadingZero cs then none else Radix.value? 10 cs

/-- The text without a plus sign in front. -/
def withoutPlus : List Char → List Char
  | '+' :: cs => cs
  | cs => cs

/-- The natural number of a word. -/
def naturalOfWord? (s : String) : Option Nat :=
  naturalOfNumeral? (withoutPlus s.toList)

/-- The double of a word: a numeral in range, or one of the words for those
that have none. -/
def doubleOfWord? (s : String) : Option Double :=
  if s = ".inf" || s = ".Inf" || s = ".INF" then some (.infinite false)
  else if s = "+.inf" || s = "+.Inf" || s = "+.INF" then some (.infinite false)
  else if s = "-.inf" || s = "-.Inf" || s = "-.INF" then some (.infinite true)
  else if s = ".nan" || s = ".NaN" || s = ".NAN" then some .nan
  else (Decimal.double? s).filter (·.isFinite)

/-! ## Nodes -/

/-- The text of a scalar. -/
def text? (root : Node) (n : Node) : Option String :=
  match root.referent n with
  | some (scalar _ _ _ v) => some v
  | _ => none

/-- The text of a scalar that may stand for nothing: plain scalars that are
empty or a word for nothing do, and those tagged so must be such a word. -/
def optionalText? (root : Node) (n : Node) : Option (Option String) :=
  match root.referent n with
  | some (scalar _ style tag? v) =>
    if style ≠ .plain then some (some v)
    else
      match tag? with
      | some t =>
        if t = standardTag "null" then (if isNullWord v then some none else none)
        else some (some v)
      | none => some (if v.isEmpty || isNullWord v then none else some v)
  | _ => none

/-- The word of a scalar that may be of a type. -/
def word? (typeName : String) (root : Node) (n : Node) : Option String :=
  match root.referent n with
  | some (scalar _ style tag? v) => if isTyped typeName style tag? then some v else none
  | _ => none

/-- A truth value. -/
def bool? (root : Node) (n : Node) : Option Bool :=
  (word? "bool" root n).bind boolOfWord?

/-- A natural number up to a bound. -/
def natural? (bound : Nat) (root : Node) (n : Node) : Option Nat :=
  ((word? "int" root n).bind naturalOfWord?).filter (· ≤ bound)

/-- A 64-bit natural number. -/
def word64? (root : Node) (n : Node) : Option UInt64 :=
  (natural? (UInt64.size - 1) root n).map UInt64.ofNat

/-- A 32-bit natural number. -/
def word32? (root : Node) (n : Node) : Option UInt32 :=
  (natural? (UInt32.size - 1) root n).map UInt32.ofNat

/-- A double. -/
def double? (root : Node) (n : Node) : Option Double :=
  (word? "float" root n).bind doubleOfWord?

/-- The entries of a mapping; an empty scalar has none. -/
def entries? (root : Node) (n : Node) : Option (List (Node × Node)) :=
  match root.referent n with
  | some (mapping _ es) => some es
  | some (scalar _ _ _ v) => if v.isEmpty then some [] else none
  | _ => none

/-- A map from texts to texts, where the last entry with a key counts. -/
def textMap? (root : Node) (n : Node) : Option (TextMap String) := do
  let es ← root.entries? n
  return .ofList (← es.mapM fun e => return (← root.text? e.1, ← root.text? e.2))

/-! ## Records -/

/-- A field of a record: its name, and what a node makes of the record. -/
structure RecordField (α : Type) where
  name : String
  /-- Other names for it. -/
  aliases : List String := []
  assign : (root : Node) → Node → α → Option α

/-- A field that holds what can be read from a node. -/
def RecordField.of {α β : Type} (name : String) (read : Node → Node → Option β)
    (store : α → β → α) (aliases : List String) : RecordField α :=
  ⟨name, aliases, fun root n a => (read root n).map (store a)⟩

/-- The field has this name. -/
def RecordField.isNamed {α : Type} (f : RecordField α) (name : String) : Bool :=
  f.name = name || f.aliases.contains name

/-- Assigns entries in turn.  Entries of other names mean nothing, and no field
is assigned twice. -/
def assignAll {α : Type} (root : Node) (fields : List (RecordField α)) :
    (seen : List String) → α → List (Node × Node) → Option α
  | _, a, [] => some a
  | seen, a, (k, v) :: es => do
    let name ← root.text? k
    match fields.find? (·.isNamed name) with
    | none => assignAll root fields seen a es
    | some f =>
      if seen.contains f.name then none
      else assignAll root fields (f.name :: seen) (← f.assign root v a) es

/-- A record, starting from one in which no field is assigned. -/
def record? {α : Type} (fields : List (RecordField α)) (start : α) (root : Node) (n : Node) :
    Option α := do
  assignAll root fields [] start (← root.entries? n)

end RemoteConfig.Yaml.Node
