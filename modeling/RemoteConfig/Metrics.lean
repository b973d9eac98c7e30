import RemoteConfig.Number.Decimal
import RemoteConfig.Text.Split
import RemoteConfig.TextMap

/-!
# Metrics

Counters of what a client has done, and their text in the exposition format:
families in the order of their names, samples in the order of their labels,
families without samples left out.
-/

namespace RemoteConfig

/-- What a client has counted. -/
structure Metrics where
  /-- Requests by how they ended. -/
  requests : TextMap Nat := .empty
  /-- Loads by how they ended. -/
  loads : TextMap Nat := .empty
  /-- Walks in which every candidate failed. -/
  walksExhausted : Nat := 0
  /-- Loads that changed the snapshot. -/
  reloads : Nat := 0
  /-- Keys in the snapshot. -/
  keys : Nat := 0
  deriving Repr, DecidableEq

namespace Metrics

/-- The count under a label. -/
def count (counters : TextMap Nat) (label : String) : Nat :=
  (counters.get? label).getD 0

/-- Counts one more under a label. -/
def increment (counters : TextMap Nat) (label : String) : TextMap Nat :=
  counters.insert label (count counters label + 1)

def recordRequest (m : Metrics) (label : String) : Metrics :=
  { m with requests := increment m.requests label }

def recordLoad (m : Metrics) (label : String) : Metrics :=
  { m with loads := increment m.loads label }

def recordWalkExhausted (m : Metrics) : Metrics :=
  { m with walksExhausted := m.walksExhausted + 1 }

def setKeys (m : Metrics) (keys : Nat) : Metrics :=
  { m with keys }

def recordReload (m : Metrics) (keys : Nat) : Metrics :=
  { m with reloads := m.reloads + 1, keys }

/-- The number of requests under a label.  Asking makes the label known. -/
def requestCount (m : Metrics) (label : String) : Nat × Metrics :=
  (count m.requests label, { m with requests := m.requests.insertIfAbsent label 0 })

/-! ## Exposition -/

/-- How a family's values move. -/
inductive Kind where
  | counter
  | gauge
  deriving Repr, DecidableEq

/-- A value with the label that it is for, if it has one. -/
structure Sample where
  label : Option (String × String) := none
  value : Nat

/-- Values of one name. -/
structure Family where
  name : String
  help : String
  kind : Kind
  samples : List Sample

/-- A character as it stands in the value of a label. -/
def escapeLabelChar (c : Char) : List Char :=
  if c = '\\' then ['\\', '\\']
  else if c = '\n' then ['\\', 'n']
  else if c = '"' then ['\\', '"']
  else [c]

def escapeLabel (s : String) : String :=
  String.ofList (s.toList.flatMap escapeLabelChar)

def Kind.text : Kind → String
  | counter => "counter"
  | gauge => "gauge"

/-- The line of a sample. -/
def sampleLine (name : String) (s : Sample) : String :=
  let label := match s.label with
    | some (key, value) => "\x7b" ++ key ++ "=\"" ++ escapeLabel value ++ "\"\x7d"
    | none => ""
  name ++ label ++ " " ++ Decimal.text s.value ++ "\n"

/-- The lines of a family, or none without samples. -/
def familyText (f : Family) : String :=
  if f.samples.isEmpty then ""
  else
    "# HELP " ++ f.name ++ " " ++ f.help ++ "\n" ++
      "# TYPE " ++ f.name ++ " " ++ f.kind.text ++ "\n" ++
      String.join (f.samples.map (sampleLine f.name))

/-- The samples of counters by one label. -/
def labelled (key : String) (counters : TextMap Nat) : List Sample :=
  counters.toList.map fun p => { label := some (key, p.1), value := p.2 }

/-- All families, in the order of their names. -/
def families (m : Metrics) : List Family :=
  [⟨"config_client_keys", "Keys in the configuration snapshot", .gauge, [{ value := m.keys }]⟩,
    ⟨"config_client_loads_total", "Configuration loads by result", .counter,
      labelled "result" m.loads⟩,
    ⟨"config_client_reloads_total", "Loads that changed the configuration snapshot", .counter,
      [{ value := m.reloads }]⟩,
    ⟨"config_client_requests_total", "Config server fetches by outcome", .counter,
      labelled "outcome" m.requests⟩,
    ⟨"config_client_walks_exhausted_total", "Failover walks in which every candidate failed",
      .counter, [{ value := m.walksExhausted }]⟩]

/-- The text of all metrics. -/
def text (m : Metrics) : String :=
  String.join (m.families.map familyText)

end Metrics

end RemoteConfig
