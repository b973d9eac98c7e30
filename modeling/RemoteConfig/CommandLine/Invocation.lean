import RemoteConfig.Number.Decimal
import RemoteConfig.Text.Blank

/-!
# Invocations

What the words of a command line ask for: a command, and flags in front of it
or behind it.  Flags of the whole program may stand in both places, and those
behind the command count; where neither says anything, the environment may.

Words are read from left to right up to the first fault.  A value is checked
when the next flag comes or the words end, so a fault in a word behind the
command shows before one in the value in front of it.
-/

namespace RemoteConfig.CommandLine

/-- Why words are no invocation, or what else they ask for. -/
inductive UsageError where
  /-- No command has this name. -/
  | unknownCommand
  /-- There are flags, but no command. -/
  | missingCommand
  /-- There is nothing at all. -/
  | nothing
  /-- No flag has this name, or a word has no place. -/
  | unknownArgument
  /-- A flag is given twice. -/
  | repeated
  /-- A flag has no value, or an empty one. -/
  | missingValue
  /-- A flag's value cannot be read. -/
  | badValue
  /-- A flag that takes no value has one. -/
  | needlessValue
  /-- Help is asked for. -/
  | help
  /-- The version is asked for. -/
  | version
  deriving Repr, DecidableEq

/-- A flag. -/
inductive Flag where
  | config
  | uri
  | name
  | env
  | label
  | set
  | verbose
  | help
  | version
  /-- Of the command that fetches: the start of the keys that are shown. -/
  | keyStart
  /-- Of the command that fetches: metrics are shown. -/
  | metrics
  /-- Of the command that watches: the pause between polls. -/
  | interval
  deriving Repr, DecidableEq

/-- The name of a command. -/
inductive CommandName where
  | fetch
  | watch
  | showOptions
  | validateOptions
  deriving Repr, DecidableEq

/-- Where flags stand. -/
inductive Level where
  /-- In front of the command. -/
  | top
  /-- Behind a command. -/
  | behind (c : CommandName)
  deriving Repr, DecidableEq

/-- A word in the place of a command. -/
inductive CommandWord where
  | command (c : CommandName)
  | help
  deriving Repr, DecidableEq

/-- The command word that a text is. -/
def CommandWord.ofText? (s : String) : Option CommandWord :=
  match s with
  | "fetch" => some (.command .fetch)
  | "watch" => some (.command .watch)
  | "options-show" => some (.command .showOptions)
  | "options-validate" => some (.command .validateOptions)
  | "help" => some .help
  | _ => none

namespace Flag

/-- The long name of a flag, without its hyphens. -/
def long : Flag → String
  | config => "config"
  | uri => "uri"
  | name => "name"
  | env => "env"
  | label => "label"
  | set => "set"
  | verbose => "verbose"
  | help => "help"
  | version => "version"
  | keyStart => "prefix"
  | metrics => "metrics"
  | interval => "interval-ms"

/-- The letter of a flag that has one. -/
def letter? : Flag → Option Char
  | config => some 'c'
  | verbose => some 'v'
  | help => some 'h'
  | version => some 'V'
  | _ => none

/-- The environment variable that stands in for a flag. -/
def variableName? : Flag → Option String
  | config => some "CONFIG_CLIENT_OPTIONS"
  | uri => some "SPRING_CLOUD_CONFIG_URI"
  | name => some "SPRING_APPLICATION_NAME"
  | env => some "SPRING_CLOUD_CONFIG_ENV"
  | label => some "SPRING_CLOUD_CONFIG_LABEL"
  | _ => none

/-- The flag has a value. -/
def takesValue : Flag → Bool
  | verbose => false
  | help => false
  | version => false
  | metrics => false
  | _ => true

/-- The flags that have a variable. -/
def withVariable : List Flag :=
  [config, uri, name, env, label]

/-- The flags of the whole program, which may stand anywhere. -/
def shared : List Flag :=
  withVariable ++ [set, verbose, help]

end Flag

/-- The flags that may stand at a place. -/
def Level.flags : Level → List Flag
  | top => Flag.shared ++ [.version]
  | behind .fetch => Flag.shared ++ [.keyStart, .metrics]
  | behind .watch => Flag.shared ++ [.interval]
  | behind _ => Flag.shared

/-- The flag with a long name. -/
def Level.flagNamed? (l : Level) (name : String) : Option Flag :=
  l.flags.find? (·.long = name)

/-- The flag with a letter. -/
def Level.flagLettered? (l : Level) (c : Char) : Option Flag :=
  l.flags.find? (·.letter? = some c)

/-- The command that a word is, where one may stand. -/
def Level.command? : Level → String → Option CommandWord
  | top, s => CommandWord.ofText? s
  | behind _, _ => none

/-- The error for a word that has no place.  In front of the command it should
have been one, unless it is one and stands behind a double hyphen. -/
def Level.strayError (l : Level) (trailing : Bool) (word : String) : UsageError :=
  match l with
  | top => if trailing && (l.command? word).isSome then .unknownArgument else .unknownCommand
  | behind _ => .unknownArgument

/-! ## Values -/

/-- The key and the value of an override.  Blanks around the key are dropped,
and it may not be empty. -/
def override? (s : String) : Option (String × String) :=
  let cs := s.toList
  let key := Text.trim (String.ofList (cs.takeWhile (· ≠ '=')))
  match cs.dropWhile (· ≠ '=') with
  | _ :: value => if key.isEmpty then none else some (key, String.ofList value)
  | [] => none

/-- What is wrong with the value of a flag. -/
def Flag.fault? (f : Flag) (value : String) : Option UsageError :=
  match f with
  | config => if value.isEmpty then some .missingValue else none
  | set => if (override? value).isNone then some .badValue else none
  | interval => if (Decimal.word64? value).isNone then some .badValue else none
  | _ => none

/-- What flags at one place say so far. -/
structure Given where
  /-- The flags with their values, in order. -/
  values : List (Flag × String) := []
  /-- How often verbosity was asked for. -/
  verbosity : Nat := 0
  /-- A flag that is not settled yet, with its value if that has come. -/
  pending? : Option (Flag × Option String) := none

namespace Given

/-- The flag is among those that have been settled. -/
def has (g : Given) (f : Flag) : Bool :=
  g.values.any (·.1 = f)

/-- The value of a flag that may be given once. -/
def value? (g : Given) (f : Flag) : Option String :=
  g.values.lookup f

/-- The values of a flag that may be given more than once. -/
def all (g : Given) (f : Flag) : List String :=
  (g.values.filter (·.1 = f)).map (·.2)

/-- Nothing is said. -/
def isEmpty (g : Given) : Bool :=
  g.values.isEmpty && g.verbosity = 0

/-- The most that is counted. -/
def mostVerbose : Nat := 255

/-- Adds a flag with its value, if it may have it. -/
def add (g : Given) (f : Flag) (value : String) : Except UsageError Given :=
  if f ≠ .set && g.has f then .error .repeated
  else
    match f.fault? value with
    | some e => .error e
    | none => .ok { g with values := g.values ++ [(f, value)] }

/-- Does what a flag says. -/
def apply (g : Given) (f : Flag) (value? : Option String) : Except UsageError Given :=
  match f with
  | .help => .error .help
  | .version => .error .version
  | .verbose => .ok { g with verbosity := min mostVerbose (g.verbosity + 1) }
  | .metrics => g.add f ""
  | _ =>
    match value? with
    | some v => g.add f v
    | none => .error .missingValue

/-- Does what the flag says that is not settled yet. -/
def settle (g : Given) : Except UsageError Given :=
  match g.pending? with
  | some (f, v) => { g with pending? := none }.apply f v
  | none => .ok g

/-- Settles what came before, then does what a flag says. -/
def meet (g : Given) (f : Flag) (value? : Option String) : Except UsageError Given := do
  (← g.settle).apply f value?

/-- Settles what came before, then waits for the value of a flag. -/
def await (g : Given) (f : Flag) : Except UsageError Given := do
  return { ← g.settle with pending? := some (f, none) }

/-- The next word is a value. -/
def isAwaiting (g : Given) : Bool :=
  match g.pending? with
  | some (_, none) => true
  | _ => false

/-- The value that was waited for. -/
def takeValue (g : Given) (value : String) : Given :=
  { g with pending? := g.pending?.map fun p => (p.1, some value) }

end Given

/-! ## Words -/

/-- A flag by its long name, perhaps with a value behind an equals sign. -/
def longFlag (l : Level) (cs : List Char) (g : Given) : Except UsageError Given :=
  let name := String.ofList (cs.takeWhile (· ≠ '='))
  let value? := match cs.dropWhile (· ≠ '=') with
    | _ :: v => some (String.ofList v)
    | [] => none
  match l.flagNamed? name with
  | none => .error .unknownArgument
  | some f =>
    if f.takesValue then
      match value? with
      | some v => g.meet f (some v)
      | none => g.await f
    else if value?.isSome then .error .needlessValue
    else g.meet f none

/-- The value of a flag in the rest of its word, with or without an equals
sign. -/
def attachedValue : List Char → String
  | '=' :: cs => String.ofList cs
  | cs => String.ofList cs

/-- Flags by their letters, the last perhaps with a value behind it. -/
def letterFlags (l : Level) : List Char → Given → Except UsageError Given
  | [], g => .ok g
  | c :: cs, g =>
    match l.flagLettered? c with
    | none => .error .unknownArgument
    | some f =>
      if f.takesValue then
        if cs.isEmpty then g.await f else g.meet f (some (attachedValue cs))
      else
        match g.meet f none with
        | .ok g => letterFlags l cs g
        | .error e => .error e

/-- Reads words up to a command.  With what they say comes the command and the
words behind it.  Behind a double hyphen no word has a place. -/
def scan (l : Level) : (trailing : Bool) → Given → List String →
    Except UsageError (Given × Option (CommandWord × List String))
  | _, g, [] => .ok (g, none)
  | true, _, w :: _ => .error (l.strayError true w)
  | false, g, w :: ws =>
    match if g.isAwaiting then none else l.command? w with
    | some c => .ok (g, some (c, ws))
    | none =>
      match w.toList with
      | ['-', '-'] => scan l true g ws
      | '-' :: '-' :: cs =>
        match longFlag l cs g with
        | .ok g => scan l false g ws
        | .error e => .error e
      | '-' :: c :: cs =>
        match letterFlags l (c :: cs) g with
        | .ok g => scan l false g ws
        | .error e => .error e
      | _ =>
        if g.isAwaiting then scan l false (g.takeValue w) ws
        else .error (l.strayError false w)

/-! ## Invocations -/

/-- What is to be done. -/
inductive Command where
  /-- Load once and show the keys with a certain start. -/
  | fetch (keyStart : Option String) (metrics : Bool)
  /-- Load and keep polling, with another pause than the options say. -/
  | watch (interval : Option UInt64)
  | showOptions
  | validateOptions
  deriving Repr, DecidableEq

/-- What a command line asks for. -/
structure Invocation where
  /-- The file with the options. -/
  config : Option String := none
  uri : Option String := none
  name : Option String := none
  env : Option String := none
  label : Option String := none
  /-- Further options as pairs of a key and a value. -/
  overrides : List (String × String) := []
  verbosity : Nat := 0
  command : Command
  deriving Repr, DecidableEq

/-- How much is told while a command runs. -/
def Invocation.logLevel (i : Invocation) : String :=
  match i.verbosity with
  | 0 => "info"
  | 1 => "debug"
  | _ => "trace"

/-- The variables of an environment, each with its value. -/
abbrev Variables := List (String × String)

/-- What the environment says in the place of a flag. -/
def Variables.value? (vs : Variables) (f : Flag) : Option String :=
  f.variableName?.bind fun name => vs.lookup name

/-- Checks the values of variables whose flags are not given. -/
def Given.checkVariables (g : Given) (vs : Variables) : List Flag → Except UsageError Unit
  | [] => .ok ()
  | f :: fs =>
    match if g.has f then none else (vs.value? f).bind f.fault? with
    | some e => .error e
    | none => g.checkVariables vs fs

/-- What is given at one place, when its words are over. -/
def Given.finish (g : Given) (vs : Variables) : Except UsageError Given := do
  let g ← g.settle
  g.checkVariables vs Flag.withVariable
  return g

/-- The answer to a question for help: help, unless it is about a command that
does not exist. -/
def helpAnswer (words : List String) : UsageError :=
  match words with
  | [] => .help
  | [w] => if (CommandWord.ofText? w).isSome then .help else .unknownCommand
  | _ => .unknownCommand

/-- The command with what is given behind it. -/
def commandOf (c : CommandName) (g : Given) : Command :=
  match c with
  | .fetch => .fetch (g.value? .keyStart) (g.has .metrics)
  | .watch => .watch ((g.value? .interval).bind Decimal.word64?)
  | .showOptions => .showOptions
  | .validateOptions => .validateOptions

/-- What is asked for by flags in front of a command and behind it. -/
def Invocation.assemble (vs : Variables) (outer inner : Given) (c : CommandName) : Invocation :=
  let value? (f : Flag) := inner.value? f <|> outer.value? f <|> vs.value? f
  let overrides := if inner.has .set then inner.all .set else outer.all .set
  { config := value? .config
    uri := value? .uri
    name := value? .name
    env := value? .env
    label := value? .label
    overrides := overrides.filterMap override?
    verbosity := if inner.verbosity = 0 then outer.verbosity else inner.verbosity
    command := commandOf c inner }

/-- The error where there is no command. -/
def commandlessError (g : Given) (vs : Variables) : UsageError :=
  if g.isEmpty && Flag.withVariable.all (fun f => (vs.value? f).isNone) then .nothing
  else .missingCommand

/-- What the words of a command line ask for. -/
def Invocation.read (vs : Variables) (words : List String) : Except UsageError Invocation := do
  let (outer, found?) ← scan .top false {} words
  match found? with
  | some (.help, rest) => .error (helpAnswer rest)
  | some (.command c, rest) =>
    let (inner, _) ← scan (.behind c) false {} rest
    let inner ← inner.finish vs
    let outer ← outer.finish vs
    return .assemble vs outer inner c
  | none =>
    let outer ← outer.finish vs
    .error (commandlessError outer vs)

end RemoteConfig.CommandLine
