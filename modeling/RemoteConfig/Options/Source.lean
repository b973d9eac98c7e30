import RemoteConfig.Options.Document
import RemoteConfig.Options.Pairs
import RemoteConfig.Options.Validation

/-!
# Where options come from

Options are read from a file and accepted if no rule rejects them.  An error on
the way may be told in the words of what was attempted, so an `OptionsFailure`
is a cause with an optional context.
-/

namespace RemoteConfig

/-- Why there are no options. -/
inductive OptionsError where
  /-- The file cannot be read. -/
  | unreadable (path reason : String)
  /-- The file holds no options. -/
  | malformed (path reason : String)
  /-- A pair has a value that its option cannot have. -/
  | invalidValue (value : ClientOptions.InvalidValue)
  /-- Rules reject the options. -/
  | rejected (errors : Nat)
  deriving Repr, DecidableEq

/-- The text of an error. -/
def OptionsError.message : OptionsError → String
  | unreadable path reason => "Failed to read options file '" ++ path ++ "': " ++ reason
  | malformed path reason => "Failed to parse options file '" ++ path ++ "': " ++ reason
  | invalidValue v => "Invalid value '" ++ v.value ++ "' for option '" ++ v.key ++ "'"
  | rejected errors =>
    "Options validation failed with " ++ Decimal.text errors ++ " error(s)"

/-- An error, and what was attempted when it arose. -/
structure OptionsFailure where
  cause : OptionsError
  context : Option String := none
  deriving Repr, DecidableEq

/-- The text of a failure: the context, if there is one. -/
def OptionsFailure.message (f : OptionsFailure) : String :=
  f.context.getD f.cause.message

/-- The reason why a file that does not exist cannot be read. -/
def missingFile : String := "No such file or directory (os error 2)"

namespace ClientOptions

/-- The options in a file: its content, or why it cannot be read. -/
def ofFile (path : String) : Except String String → Except OptionsError ClientOptions
  | .error reason => .error (.unreadable path reason)
  | .ok content =>
    match ofDocument? content with
    | some o => .ok o
    | none => .error (.malformed path "no document of client options")

/-- The options, unless a rule rejects them. -/
def accept (o : ClientOptions) : Except OptionsError ClientOptions :=
  let r := o.validate
  if r.isValid then .ok o else .error (.rejected r.errors.length)

/-- The options in a file, unless a rule rejects them. -/
def acceptFile (path : String) (content : Except String String) :
    Except OptionsFailure ClientOptions :=
  match ofFile path content with
  | .error e => .error ⟨e, some "Failed to load client options"⟩
  | .ok o =>
    match o.accept with
    | .error e => .error ⟨e, none⟩
    | .ok o => .ok o

end ClientOptions

end RemoteConfig
