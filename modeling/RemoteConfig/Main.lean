import RemoteConfig.CommandLine.Run
import RemoteConfig.CommandLine.Usage
import RemoteConfig.Servers.Scripted

/-!
# The program

Reads the words of the command line, the environment and the file with the
options, and writes what a command has to say.  The program opens no
connections of its own: every server is one without an answer.
-/

namespace RemoteConfig.Main

open CommandLine

/-- The variables of the environment that stand in for flags. -/
def surroundings : IO Variables := do
  let mut vs := []
  for f in Flag.withVariable do
    if let some name := f.variableName? then
      if let some value ← IO.getEnv name then
        vs := vs ++ [(name, value)]
  return vs

/-- The content of a file, or why it cannot be read. -/
def contents (path : String) : IO (Except String String) := do
  try
    return .ok (← IO.FS.readFile path)
  catch e =>
    return .error (toString e)

/-- Writes how a command ended. -/
def conclude (e : Ending) : IO UInt32 := do
  (← IO.getStdout).putStr e.output
  if let some error := e.error then
    IO.eprintln ("Error: " ++ error)
  return UInt32.ofNat e.exitCode

/-- Polls for ever, and tells of every change. -/
partial def keepPolling (p : Provider) (servers : ScriptedServers) : IO Unit := do
  match p.options.pollingPause? with
  | none => IO.sleep 1000
  | some pause => IO.sleep (UInt32.ofNat (pause.nanos / 1000000))
  match p.poll ScriptedServers.net servers with
  | none => keepPolling p servers
  | some (next, servers) =>
    if next.store.hasFired p.store.token then
      let change := Change.of next
      IO.eprintln ("Configuration changed, " ++ Decimal.text change.keys ++ " keys, version " ++
        change.version)
    keepPolling next servers

/-- Runs an invocation. -/
def perform (i : Invocation) : IO UInt32 := do
  let content ← match i.config with
    | some path => contents path
    | none => pure (.ok "")
  let servers : ScriptedServers := { routes := [] }
  let (ending, servers) := i.run ScriptedServers.net (fun _ => content) 0 servers
  match i.command, ending.error, i.options (fun _ => content) with
  | .watch interval, none, .ok o =>
    let o := { o with pollingInterval := interval.getD o.pollingInterval }
    let (_, p, servers) := (Provider.ofOptions o).attach ScriptedServers.net servers
    keepPolling p servers
    return 0
  | _, _, _ => conclude ending

end RemoteConfig.Main

open RemoteConfig.CommandLine in
/-- Runs the program. -/
def main (words : List String) : IO UInt32 := do
  match Invocation.read (← RemoteConfig.Main.surroundings) words with
  | .ok i => RemoteConfig.Main.perform i
  | .error .help => RemoteConfig.Main.conclude { output := usage }
  | .error e => RemoteConfig.Main.conclude e.ending
