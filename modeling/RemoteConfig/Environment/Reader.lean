import RemoteConfig.Environment
import RemoteConfig.Json.Reader

/-!
# Reading environments

An environment is read from the front of a JSON text to its back, field by
field, so that the first fault met is the one reported.  Unknown fields are
skipped, missing ones have their defaults, and a field given twice is of the
wrong shape.  Both records may also be written as arrays of their fields.

A value of a property source is kept as text: a text as it is, null as the
empty text, and anything else as its canonical JSON text.
-/

namespace RemoteConfig.Environment

open RemoteConfig.Json

/-! ## Fields -/

/-- A text. -/
def readText : Reader String := fun cs =>
  match skipSpace cs with
  | [] => .error .ended
  | c :: rest => if c = '"' then string rest else .error (unexpected (c :: rest))

/-- Null, or what `read` reads. -/
def readOptional {α : Type} (read : Reader α) : Reader (Option α) := fun cs =>
  match skipSpace cs with
  | [] => .error .ended
  | c :: rest =>
    if c = 'n' then (literal "ull".toList rest).map fun (_, cs) => (none, cs)
    else (read (c :: rest)).map fun (x, cs) => (some x, cs)

/-- An array. -/
def readList {α : Type} (read : Reader α) : Reader (List α) := fun cs =>
  match skipSpace cs with
  | [] => .error .ended
  | c :: rest => if c = '[' then arrayOf read rest else .error (unexpected (c :: rest))

/-- The text that is kept for a value of a property source. -/
def scalarText : Json → String
  | .text s => s
  | .null => ""
  | v => v.render

/-- A member of a property source's map: the last one of a key counts. -/
def readEntry (depth : Nat) (sofar : TextMap String) (key : String) : Reader (TextMap String) :=
  fun cs => do
    let (_, cs) ← colon cs
    let (v, cs) ← value depth cs
    return (sofar.insert key (scalarText v), cs)

/-- The map of a property source. -/
def readMap (depth : Nat) : Reader (TextMap String) := fun cs =>
  match skipSpace cs with
  | [] => .error .ended
  | c :: rest =>
    if c = '{' then objectOf string (readEntry depth) .empty rest
    else .error (unexpected (c :: rest))

/-- The map of a property source, or null for the empty one. -/
def readSource (depth : Nat) : Reader (TextMap String) := fun cs => do
  let (m, cs) ← readOptional (readMap depth) cs
  return (m.getD .empty, cs)

/-! ## Records -/

/-- Stores a field that must not have been given before. -/
def readOnce {α σ : Type} (given : Option α) (read : Reader α) (store : Option α → σ) :
    Reader σ := fun cs =>
  match given with
  | some _ => .error .mismatched
  | none => do
    let (_, cs) ← colon cs
    let (x, cs) ← read cs
    return (store (some x), cs)

/-- The next element of a record written as an array, or nothing at its end. -/
def readNext {α : Type} (first : Bool) (read : Reader α) : Reader (Option α) := fun cs => do
  match ← nextElement first cs with
  | none => return (none, cs)
  | some cs =>
    let (x, cs) ← read cs
    return (some x, cs)

/-- The fields of a property source read so far. -/
structure SourceFields where
  name : Option String := none
  source : Option (TextMap String) := none

/-- A property source, which needs a name. -/
def SourceFields.finish (f : SourceFields) : Except Fault PropertySource :=
  match f.name with
  | none => .error .mismatched
  | some name => .ok { name, source := f.source.getD .empty }

/-- A field of a property source, after its name. -/
def readSourceField (depth : Nat) (f : SourceFields) (name : String) : Reader SourceFields :=
  fun cs =>
    if name = "name" then
      readOnce f.name readText (fun x => { f with name := x }) cs
    else if name = "source" then
      readOnce f.source (readSource depth) (fun x => { f with source := x }) cs
    else do
      let (_, cs) ← colon cs
      let (_, cs) ← skip cs
      return (f, cs)

/-- A property source, whose map may hold values nested `depth` levels deep. -/
def readPropertySource (depth : Nat) : Reader PropertySource := fun cs =>
  match skipSpace cs with
  | [] => .error .ended
  | c :: rest =>
    if c = '[' then do
      let (name, cs) ← readNext true readText rest
      if name.isNone then throw .mismatched
      let (source, cs) ← readNext false (readSource depth) cs
      let (_, cs) ← endArray cs
      return (← SourceFields.finish { name, source }, cs)
    else if c = '{' then do
      let (fields, cs) ← objectOf string (readSourceField depth) {} rest
      return (← fields.finish, cs)
    else .error (unexpected (c :: rest))

/-- The fields of an environment read so far. -/
structure Fields where
  name : Option String := none
  profiles : Option (List String) := none
  label : Option (Option String) := none
  version : Option (Option String) := none
  state : Option (Option String) := none
  propertySources : Option (List PropertySource) := none

/-- The environment with defaults for missing fields. -/
def Fields.finish (f : Fields) : Environment where
  name := f.name.getD ""
  profiles := f.profiles.getD []
  label := f.label.getD none
  version := f.version.getD none
  state := f.state.getD none
  propertySources := f.propertySources.getD []

/-- How deep values of a property source may be nested: an environment, its
list of sources, a source and its map are around them. -/
def sourceDepth : Nat := nestingBound - 4

/-- A field of an environment, after its name. -/
def readField (f : Fields) (name : String) : Reader Fields := fun cs =>
  if name = "name" then
    readOnce f.name readText (fun x => { f with name := x }) cs
  else if name = "profiles" then
    readOnce f.profiles (readList readText) (fun x => { f with profiles := x }) cs
  else if name = "label" then
    readOnce f.label (readOptional readText) (fun x => { f with label := x }) cs
  else if name = "version" then
    readOnce f.version (readOptional readText) (fun x => { f with version := x }) cs
  else if name = "state" then
    readOnce f.state (readOptional readText) (fun x => { f with state := x }) cs
  else if name = "propertySources" then
    readOnce f.propertySources (readList (readPropertySource sourceDepth))
      (fun x => { f with propertySources := x }) cs
  else do
    let (_, cs) ← colon cs
    let (_, cs) ← skip cs
    return (f, cs)

/-- An environment as an object, or as an array of its fields. -/
def readEnvironment : Reader Environment := fun cs =>
  match skipSpace cs with
  | [] => .error .ended
  | c :: rest =>
    if c = '[' then do
      let (name, cs) ← readNext true readText rest
      let (profiles, cs) ← readNext false (readList readText) cs
      let (label, cs) ← readNext false (readOptional readText) cs
      let (version, cs) ← readNext false (readOptional readText) cs
      let (state, cs) ← readNext false (readOptional readText) cs
      let (propertySources, cs) ←
        readNext false (readList (readPropertySource sourceDepth)) cs
      let (_, cs) ← endArray cs
      let fields : Fields := { name, profiles, label, version, state, propertySources }
      return (fields.finish, cs)
    else if c = '{' then do
      let (fields, cs) ← objectOf string readField {} rest
      return (fields.finish, cs)
    else .error (unexpected (c :: rest))

/-- The environment that a JSON text denotes. -/
def ofJson (text : String) : Except Fault Environment :=
  finish (readEnvironment text.toList)

end RemoteConfig.Environment
