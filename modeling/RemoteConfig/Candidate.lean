import RemoteConfig.Failure
import RemoteConfig.Http
import RemoteConfig.Options.Validation

/-!
# Candidates

A candidate is one address that a walk asks: a base address with the name, the
profile and the parts of the label appended as segments of its path.  User
name and password of the base are taken out of the address.
-/

namespace RemoteConfig

/-- One address of a walk. -/
structure Candidate where
  /-- The address without user name and password. -/
  uri : String
  /-- The user name and password that the base address held. -/
  credentials : Option Credentials := none
  deriving Repr, DecidableEq

namespace Candidate

/-- A user name or password of an address as a text.  Escapes are decoded, a
plus sign stands for itself, and the text ends before the first ampersand. -/
def decodeUserInfo (s : String) : String :=
  Url.decodeText (s.toList.takeWhile (· ≠ '&'))

/-- The user name and password that a URL holds, if it holds a user name. -/
def credentialsOf (url : Url) : Option Credentials :=
  if url.username.isEmpty then none
  else
    some { username := decodeUserInfo url.username
           password := url.password.map decodeUserInfo }

/-- The segments that a label adds: its parts between slashes, except empty
ones. -/
def labelSegments : Option String → List String
  | some label => (Text.split '/' label).filter (!·.isEmpty)
  | none => []

/-- The path with segments appended. -/
def extend (path : Url.Path) (added : List String) : Url.Path :=
  match path with
  | .segments segs => .segments (added.foldl Url.pushSegment (Url.popEmpty segs))
  | .unstructured s => .unstructured s

/-- The candidate for a base address, a name, a profile and a label. -/
def make (base name profile : String) (label : Option String) : Except FetchFailure Candidate :=
  match Url.read base with
  | .error fault => .error (.invalidUri base fault.message)
  | .ok url =>
    if ClientOptions.isServerScheme url.scheme then
      let path := extend url.path (name :: profile :: labelSegments label)
      .ok
        { uri := { url.withoutUserInfo with path }.text
          credentials := credentialsOf url }
    else .error (.invalidUri base ("unsupported scheme '" ++ url.scheme ++ "'"))

end Candidate

end RemoteConfig
