import RemoteConfig.CommandLine.Invocation
import RemoteConfig.Options.Source
import RemoteConfig.Provider
import RemoteConfig.Text.Quoted

/-!
# Running commands

What a command writes and how it ends.  Options come from a file, then from
flags of their own, then from overrides, each over the ones before.  A command
that watches ends when it is interrupted, which is here after the first change
that it notices.
-/

namespace RemoteConfig.CommandLine

/-- A change of the configuration, as it is told to those who watch. -/
structure Change where
  /-- How many keys there are. -/
  keys : Nat
  /-- The version, as it is shown. -/
  version : String
  deriving Repr, DecidableEq

/-- How a command ended. -/
structure Ending where
  exitCode : Nat := 0
  /-- What was written. -/
  output : String := ""
  /-- The error with which it ended. -/
  error : Option String := none
  /-- The change after which it was interrupted. -/
  change : Option Change := none
  deriving Repr, DecidableEq

/-- A command that failed. -/
def Ending.failed (error : String) (output : String := "") : Ending :=
  { exitCode := 1, output, error := some error }

/-! ## Options -/

/-- The options with what flags say about them. -/
def Invocation.applyFlags (i : Invocation) (o : ClientOptions) : ClientOptions :=
  { o with
    uri := i.uri.getD o.uri
    name := i.name.getD o.name
    env := i.env.getD o.env
    label := i.label <|> o.label }

/-- The options with overrides, which count as pairs behind those of the
options. -/
def Invocation.applyOverrides (i : Invocation) (o : ClientOptions) :
    Except OptionsFailure ClientOptions :=
  if i.overrides.isEmpty then .ok o
  else
    match ClientOptions.ofPairs (o.toPairs ++ i.overrides) with
    | .ok (o, _) => .ok o
    | .error v => .error ⟨.invalidValue v, none⟩

/-- The options in the file that is asked for, or the defaults. -/
def Invocation.fileOptions (i : Invocation) (read : String → Except String String) :
    Except OptionsFailure ClientOptions :=
  match i.config with
  | none => .ok {}
  | some path =>
    match ClientOptions.ofFile path (read path) with
    | .ok o => .ok o
    | .error e => .error ⟨e, some ("Failed to load client options from " ++ path)⟩

/-- The options of an invocation. -/
def Invocation.options (i : Invocation) (read : String → Except String String) :
    Except OptionsFailure ClientOptions := do
  i.applyOverrides (i.applyFlags (← i.fileOptions read))

/-- Options that no rule rejects. -/
def acceptOptions (o : ClientOptions) : Except OptionsFailure ClientOptions :=
  match o.accept with
  | .ok o => .ok o
  | .error e => .error ⟨e, none⟩

/-! ## Commands -/

/-- The line of a key and its value. -/
def pairLine (key value : String) : String :=
  key ++ "=" ++ value ++ "\n"

/-- The lines of the pairs whose keys have a start, in any case. -/
def pairLines (keyStart : Option String) (pairs : List (String × String)) : String :=
  let shown : List (String × String) := match keyStart with
    | some start => pairs.filter fun p => (Text.stripFolded start p.1).isSome
    | none => pairs
  String.join (shown.map fun p => pairLine p.1 p.2)

variable {σ : Type}

/-- Loads once and shows what the store holds then. -/
def fetch (net : Servers σ) (keyStart : Option String) (metrics : Bool) (o : ClientOptions)
    (servers : σ) : Ending × σ :=
  match (Provider.ofOptions o).load net true .never servers with
  | (.error e, _, servers) => (.failed e.message, servers)
  | (.ok _, p, servers) =>
    let told := if metrics then "\n" ++ p.metrics.text else ""
    ({ output := pairLines keyStart p.snapshot.pairs ++ told }, servers)

/-- The change that a provider's store shows. -/
def Change.of (p : Provider) : Change where
  keys := p.snapshot.size
  version := Text.quotedOptional (p.snapshot.get? Snapshot.versionKey)

/-- Polls until a token has fired, a number of times at most. -/
def pollUntil (net : Servers σ) (token : ChangeToken) : (polls : Nat) → Provider → σ →
    Option Change × σ
  | 0, _, servers => (none, servers)
  | polls + 1, p, servers =>
    match p.poll net servers with
    | none => (none, servers)
    | some (p, servers) =>
      if p.store.hasFired token then (some (.of p), servers)
      else pollUntil net token polls p servers

/-- Loads and polls until the first change, after a number of polls at most. -/
def watch (net : Servers σ) (polls : Nat) (o : ClientOptions) (servers : σ) : Ending × σ :=
  match (Provider.ofOptions o).attach net servers with
  | (.error e, _, servers) => (.failed e.message, servers)
  | (.ok (), p, servers) =>
    let (change, servers) := pollUntil net p.store.token polls p servers
    ({ change }, servers)

/-- A key below which a secret stands. -/
def isSecret (key : String) : Bool :=
  ":password".toList.isSuffixOf key.toList || ":token".toList.isSuffixOf key.toList

/-- What is shown in the place of a secret. -/
def mask : String := "********"

/-- Shows options as pairs, without their secrets. -/
def showOptions (o : ClientOptions) : Ending where
  output := String.join (o.toPairs.map fun p => pairLine p.1 (if isSecret p.1 then mask else p.2))

/-- Shows what the rules say about options. -/
def validateOptions (o : ClientOptions) : Ending :=
  let output := o.validate.text ++ "\n"
  match o.accept with
  | .ok _ => { output }
  | .error e => .failed e.message output

/-- Runs what is to be done with some options.  The rules must accept them
before a server is asked, with the pause between polls that was asked for. -/
def Command.run (net : Servers σ) (polls : Nat) (c : Command) (o : ClientOptions) (servers : σ) :
    Ending × σ :=
  match c with
  | showOptions => (CommandLine.showOptions o, servers)
  | validateOptions => (CommandLine.validateOptions o, servers)
  | fetch keyStart metrics =>
    match acceptOptions o with
    | .ok o => CommandLine.fetch net keyStart metrics o servers
    | .error f => (.failed f.message, servers)
  | watch interval =>
    match acceptOptions { o with pollingInterval := interval.getD o.pollingInterval } with
    | .ok o => CommandLine.watch net polls o servers
    | .error f => (.failed f.message, servers)

/-- Runs an invocation. -/
def Invocation.run (net : Servers σ) (read : String → Except String String) (polls : Nat)
    (i : Invocation) (servers : σ) : Ending × σ :=
  match i.options read with
  | .ok o => i.command.run net polls o servers
  | .error f => (.failed f.message, servers)

/-- The name and the version of the program. -/
def programVersion : String := "config-client 0.1.0"

/-- How words end that are no invocation. -/
def UsageError.ending : UsageError → Ending
  | version => { output := programVersion ++ "\n" }
  | help => {}
  | _ => { exitCode := 2 }

/-- Runs the program with the words of a command line. -/
def run (net : Servers σ) (read : String → Except String String) (polls : Nat) (vs : Variables)
    (words : List String) (servers : σ) : Ending × σ :=
  match Invocation.read vs words with
  | .ok i => i.run net read polls servers
  | .error e => (e.ending, servers)

end RemoteConfig.CommandLine
