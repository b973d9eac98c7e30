import RemoteConfig.Number.Shortest
import RemoteConfig.Options
import RemoteConfig.Options.Issue
import RemoteConfig.Text.EditDistance
import RemoteConfig.Text.Fold

/-!
# Options as flat pairs

Options are written as pairs of a key and a text, all keys below one root, and
read back from such pairs.  A key may be given with or without the root and in
any case.  The keys of headers keep the spelling of the header's name.
-/

namespace RemoteConfig.ClientOptions

/-- The key below which all options stand. -/
def rootKey : String := "spring:cloud:config"

/-- A truth value as it is written. -/
def boolText (b : Bool) : String :=
  if b then "True" else "False"

/-! ## Writing -/

/-- A pair for an option that may be absent. -/
def optionalPair (key : String) : Option String → List (String × String)
  | some v => [(key, v)]
  | none => []

/-- The pairs of all options, keys without the root. -/
def relativePairs (o : ClientOptions) : List (String × String) :=
  [("enabled", boolText o.enabled), ("failFast", boolText o.failFast), ("name", o.name),
    ("env", o.env)] ++
  optionalPair "label" o.label ++
  [("uri", o.uri)] ++
  optionalPair "username" o.username ++
  optionalPair "password" o.password ++
  optionalPair "token" o.token ++
  [("timeout", Decimal.text o.timeout.toNat),
    ("pollingInterval", Decimal.text o.pollingInterval.toNat),
    ("validateCertificates", boolText o.validateCertificates),
    ("retry:enabled", boolText o.retry.enabled),
    ("retry:initialInterval", Decimal.text o.retry.initialInterval.toNat),
    ("retry:maxInterval", Decimal.text o.retry.maxInterval.toNat),
    ("retry:multiplier", Decimal.doubleText .plain o.retry.multiplier),
    ("retry:maxAttempts", Decimal.text o.retry.maxAttempts.toNat),
    ("discovery:enabled", boolText o.discovery.enabled),
    ("discovery:serviceId", o.discovery.serviceId),
    ("health:enabled", boolText o.health.enabled),
    ("health:timeToLive", Decimal.text o.health.timeToLive.toNat)] ++
  o.headers.toList.map (fun p => ("headers:" ++ p.1, p.2))

/-- The pairs of all options. -/
def toPairs (o : ClientOptions) : List (String × String) :=
  o.relativePairs.map (fun p => (rootKey ++ ":" ++ p.1, p.2))

/-! ## Reading -/

/-- A value that an option cannot have. -/
structure InvalidValue where
  key : String
  value : String
  deriving Repr, DecidableEq

/-- A truth value in any case, blanks around it aside. -/
def bool? (s : String) : Option Bool :=
  let word := Text.fold (Text.trim s)
  if word = "true" then some true
  else if word = "false" then some false
  else none

/-- The keys that an unknown one is compared with. -/
def knownKeys : List String :=
  ["enabled", "failFast", "name", "env", "label", "uri", "username", "password", "token",
    "timeout", "pollingInterval", "validateCertificates", "retry:enabled",
    "retry:initialInterval", "retry:maxInterval", "retry:multiplier", "retry:maxAttempts",
    "discovery:enabled", "discovery:serviceId", "health:enabled", "health:timeToLive"]

/-- The first item of the least weight. -/
def firstLeast (weight : String → Nat) : (best : String) → List String → String
  | best, [] => best
  | best, k :: ks => firstLeast weight (if weight k < weight best then k else best) ks

/-- The known key that is most like an unknown one. -/
def similarKey (key : String) : String :=
  let weight (k : String) := Text.editDistance (Text.fold key) (Text.fold k)
  firstLeast weight "enabled" knownKeys

/-- The key without the root, if something is left then. -/
def stripRoot (key : String) : String :=
  match Text.stripFolded (rootKey ++ ":") key with
  | some rest => if rest.isEmpty then key else rest
  | none => key

/-- The name of the header that a key stands for. -/
def headerName? (key : String) : Option String :=
  match Text.stripFolded "headers:" key with
  | some name => if name.isEmpty then none else some name
  | none => none

/-- What a pair does to the options. -/
inductive Assignment where
  /-- The options change. -/
  | assigned (o : ClientOptions)
  /-- The value is none that the option can have. -/
  | invalid
  /-- No option has this key. -/
  | unknown

/-- Assigns a value if it can be read. -/
def assignRead {α : Type} (read : Option α) (store : α → ClientOptions) : Assignment :=
  match read with
  | some x => .assigned (store x)
  | none => .invalid

/-- Assigns a value to the option with a folded key. -/
def assign (o : ClientOptions) (key value : String) : Assignment :=
  let word64 := Decimal.word64? (Text.trim value)
  match key with
  | "enabled" => assignRead (bool? value) fun b => { o with enabled := b }
  | "failfast" => assignRead (bool? value) fun b => { o with failFast := b }
  | "name" => .assigned { o with name := value }
  | "env" => .assigned { o with env := value }
  | "environment" => .assigned { o with env := value }
  | "profile" => .assigned { o with env := value }
  | "label" => .assigned { o with label := some value }
  | "uri" => .assigned { o with uri := value }
  | "username" => .assigned { o with username := some value }
  | "password" => .assigned { o with password := some value }
  | "token" => .assigned { o with token := some value }
  | "timeout" => assignRead word64 fun n => { o with timeout := n }
  | "pollinginterval" => assignRead word64 fun n => { o with pollingInterval := n }
  | "validatecertificates" =>
    assignRead (bool? value) fun b => { o with validateCertificates := b }
  | "retry:enabled" => assignRead (bool? value) fun b => { o with retry.enabled := b }
  | "retry:initialinterval" => assignRead word64 fun n => { o with retry.initialInterval := n }
  | "retry:maxinterval" => assignRead word64 fun n => { o with retry.maxInterval := n }
  | "retry:multiplier" =>
    assignRead (Decimal.double? (Text.trim value)) fun d => { o with retry.multiplier := d }
  | "retry:maxattempts" =>
    assignRead (Decimal.word32? (Text.trim value)) fun n => { o with retry.maxAttempts := n }
  | "discovery:enabled" => assignRead (bool? value) fun b => { o with discovery.enabled := b }
  | "discovery:serviceid" => .assigned { o with discovery.serviceId := value }
  | "health:enabled" => assignRead (bool? value) fun b => { o with health.enabled := b }
  | "health:timetolive" => assignRead word64 fun n => { o with health.timeToLive := n }
  | _ => .unknown

/-- The warning about a key that no option has. -/
def unknownIssue (fullKey key : String) : Issue where
  severity := .warning
  key := fullKey
  message := "Unknown client option, ignored"
  suggestion := some ("Did you mean '" ++ similarKey key ++ "'?")

/-- Assigns one pair, or warns about its key. -/
def readPair (o : ClientOptions) (fullKey value : String) :
    Except InvalidValue (ClientOptions × Option Issue) :=
  let key := stripRoot fullKey
  match headerName? key with
  | some name => .ok ({ o with headers := o.headers.insert name value }, none)
  | none =>
    match assign o (Text.fold key) value with
    | .assigned o => .ok (o, none)
    | .invalid => .error ⟨fullKey, value⟩
    | .unknown => .ok (o, some (unknownIssue fullKey key))

/-- Assigns pairs in turn; the issues come in their order. -/
def readPairs : ClientOptions → List (String × String) →
    Except InvalidValue (ClientOptions × List Issue)
  | o, [] => .ok (o, [])
  | o, (key, value) :: rest => do
    let (o, issue) ← readPair o key value
    let (o, issues) ← readPairs o rest
    return (o, issue.toList ++ issues)

/-- The options that pairs denote, starting from the defaults, with a warning
for every unknown key. -/
def ofPairs (pairs : List (String × String)) : Except InvalidValue (ClientOptions × Report) :=
  (readPairs {} pairs).map fun (o, issues) => (o, ⟨issues⟩)

end RemoteConfig.ClientOptions
