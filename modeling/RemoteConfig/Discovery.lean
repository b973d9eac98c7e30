/-!
# Discovery

Base addresses of servers may come from a registry.  It is asked only if the
options say so, and the configured addresses stand in wherever it does not
answer with any.
-/

namespace RemoteConfig

/-- A registry of servers. -/
structure Locator where
  /-- The registry can be asked. -/
  available : Bool
  /-- The base addresses registered under a name. -/
  resolve : String → List String

/-- A question put to a registry. -/
inductive LocatorCall where
  | isAvailable
  | resolve (serviceId : String)
  deriving Repr, DecidableEq

namespace Discovery

/-- The base addresses for a load, and the questions that were put. -/
def baseUris (locator : Option Locator) (enabled : Bool) (serviceId : String)
    (configured : List String) : List String × List LocatorCall :=
  if !enabled then (configured, [])
  else
    match locator with
    | none => (configured, [])
    | some l =>
      if !l.available then (configured, [.isAvailable])
      else
        let found := l.resolve serviceId
        (if found.isEmpty then configured else found, [.isAvailable, .resolve serviceId])

end Discovery

end RemoteConfig
