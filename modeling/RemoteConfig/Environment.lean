import RemoteConfig.TextMap

/-!
# Environments

What a configuration server answers for an application and a profile: flat
keys with scalar values, grouped into property sources, the earlier of which
take precedence.
-/

namespace RemoteConfig

/-- A named bag of flat keys with text values. -/
structure PropertySource where
  /-- Where the values come from. -/
  name : String
  /-- The values by their keys. -/
  source : TextMap String := .empty
  deriving Repr, DecidableEq

/-- The configuration of an application in a profile. -/
structure Environment where
  /-- The application that the server resolved. -/
  name : String := ""
  /-- The active profiles, in order. -/
  profiles : List String := []
  /-- The label that the server resolved. -/
  label : Option String := none
  /-- An opaque version. -/
  version : Option String := none
  /-- An opaque state of the server's backend. -/
  state : Option String := none
  /-- The property sources, the ones of higher precedence first. -/
  propertySources : List PropertySource := []
  deriving Repr, DecidableEq, Inhabited

/-- The maps of the property sources are in order. -/
def Environment.WellFormed (e : Environment) : Prop :=
  ∀ source ∈ e.propertySources, source.source.Ordered

/-- The names of the property sources, in order of precedence. -/
def Environment.sourceNames (e : Environment) : List String :=
  e.propertySources.map (·.name)

end RemoteConfig
