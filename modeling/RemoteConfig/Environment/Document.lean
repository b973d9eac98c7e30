import RemoteConfig.Environment
import RemoteConfig.Json.Grammar
import RemoteConfig.Json.Value

/-!
# Documents of environments

The JSON texts that stand for an environment.  `Environment.toJson` is the
plain document with all fields.  `Environment.IsDocument` allows more: members
in any order, fields with their default values left out, members with other
names and values of any shape, blanks between all words, and any spelling of
texts.
-/

namespace RemoteConfig

open Json

/-! ## Plain documents -/

/-- A text, or null. -/
def optionalJson : Option String → Json
  | some s => .text s
  | none => .null

/-- The plain document of a property source. -/
def PropertySource.toJson (s : PropertySource) : Json :=
  .object [("name", .text s.name),
    ("source", .object (s.source.toList.map fun p => (p.1, .text p.2)))]

/-- The plain document of an environment. -/
def Environment.toJson (e : Environment) : Json :=
  .object [("name", .text e.name), ("profiles", .array (e.profiles.map .text)),
    ("label", optionalJson e.label), ("version", optionalJson e.version),
    ("state", optionalJson e.state),
    ("propertySources", .array (e.propertySources.map PropertySource.toJson))]

/-! ## Records -/

/-- A text, or null for nothing. -/
def IsOptionalText (s? : Option String) (text : List Char) : Prop :=
  match s? with
  | some s => IsText s text
  | none => text = ['n', 'u', 'l', 'l']

/-- An object with known fields, none of them twice and some of them optional,
and any other members. -/
def IsRecord (known : List String) (optional : String → Prop)
    (value : String → List Char → Prop) (text : List Char) : Prop :=
  ∃ names : List String, (∀ name ∈ known, names.count name ≤ 1) ∧
    (∀ name ∈ known, name ∉ names → optional name) ∧
    IsObject (fun name => IsMember (Spells name.toList) (value name)) names text

/-! ## Property sources -/

namespace PropertySource

/-- The map of a property source, its keys in any order. -/
def IsMap (m : TextMap String) (text : List Char) : Prop :=
  ∃ entries : List (String × String), entries.Perm m.toList ∧
    IsObject (fun p => IsMember (Spells p.1.toList) (IsText p.2)) entries text

/-- The fields of a property source. -/
def fields : List String := ["name", "source"]

/-- A field may be missing. -/
def IsDefault (s : PropertySource) (field : String) : Prop :=
  field = "source" ∧ s.source = .empty

/-- The value of a field, or any value for another name. -/
def IsField (s : PropertySource) (field : String) : List Char → Prop :=
  if field = "name" then IsText s.name
  else if field = "source" then IsMap s.source
  else IsValue

/-- A text that stands for a property source. -/
def IsDocument (s : PropertySource) : List Char → Prop :=
  IsRecord fields s.IsDefault s.IsField

end PropertySource

/-! ## Environments -/

namespace Environment

/-- The fields of an environment. -/
def fields : List String :=
  ["name", "profiles", "label", "version", "state", "propertySources"]

/-- A field has its default value. -/
def IsDefault (e : Environment) (field : String) : Prop :=
  (field = "name" → e.name = "") ∧ (field = "profiles" → e.profiles = []) ∧
  (field = "label" → e.label = none) ∧ (field = "version" → e.version = none) ∧
  (field = "state" → e.state = none) ∧ (field = "propertySources" → e.propertySources = [])

/-- The value of a field, or any value for another name. -/
def IsField (e : Environment) (field : String) : List Char → Prop :=
  if field = "name" then IsText e.name
  else if field = "profiles" then IsArray IsText e.profiles
  else if field = "label" then IsOptionalText e.label
  else if field = "version" then IsOptionalText e.version
  else if field = "state" then IsOptionalText e.state
  else if field = "propertySources" then IsArray PropertySource.IsDocument e.propertySources
  else IsValue

/-- A text that stands for an environment. -/
def IsDocument (e : Environment) (text : List Char) : Prop :=
  ∃ b v b', Blank b ∧ Blank b' ∧ IsRecord fields e.IsDefault e.IsField v ∧
    text = b ++ (v ++ b')

end Environment

end RemoteConfig
