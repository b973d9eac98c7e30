import RemoteConfig.CommandLine.Invocation

/-!
# Usage

The help of the command line: its commands and the flags that may stand
anywhere.
-/

namespace RemoteConfig.CommandLine

/-- What a command does. -/
def CommandName.about : CommandName → String
  | fetch => "fetch             Load configuration once and print the merged keys"
  | watch => "watch             Load configuration and keep polling until interrupted"
  | showOptions => "options-show      Display the client options as flat keys"
  | validateOptions =>
    "options-validate  Validate the client options without contacting the server"

/-- The spelling of a flag: its letter, its name and its variable. -/
def Flag.spelling (f : Flag) : String :=
  let letter := match f.letter? with
    | some c => "-" ++ String.singleton c ++ ", "
    | none => "    "
  let value := if f.takesValue then " <VALUE>" else ""
  let name := match f.variableName? with
    | some v => " [env: " ++ v ++ "]"
    | none => ""
  letter ++ "--" ++ f.long ++ value ++ name

/-- The help of the program. -/
def usage : String :=
  "Client for a configuration server\n\nUsage: config-client [OPTIONS] <COMMAND>\n\nCommands:\n" ++
    String.join ([CommandName.fetch, .watch, .showOptions, .validateOptions].map
      fun c => "  " ++ c.about ++ "\n") ++
    "\nOptions:\n" ++
    String.join (Level.top.flags.map fun f => "  " ++ f.spelling ++ "\n")

end RemoteConfig.CommandLine
