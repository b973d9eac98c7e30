import RemoteConfig.Number.Decimal

/-!
# Issues with options

Problems found in a set of options, in the order in which they are found.
Errors reject the options and warnings do not.  A `Report` is written with the
errors in front.
-/

namespace RemoteConfig

/-- How bad a problem is. -/
inductive Severity where
  | error
  | warning
  deriving Repr, DecidableEq

/-- The label of a severity. -/
def Severity.label : Severity → String
  | error => "ERROR"
  | warning => "WARNING"

/-- A problem with one option. -/
structure Issue where
  severity : Severity
  /-- The option's key. -/
  key : String
  message : String
  /-- What to do about it. -/
  suggestion : Option String := none
  deriving Repr, DecidableEq

/-- Problems in the order in which they were found. -/
structure Report where
  issues : List Issue := []
  deriving Repr, DecidableEq

namespace Report

/-- The problems of one severity. -/
def ofSeverity (r : Report) (s : Severity) : List Issue :=
  r.issues.filter (·.severity = s)

def errors (r : Report) : List Issue :=
  r.ofSeverity .error

def warnings (r : Report) : List Issue :=
  r.ofSeverity .warning

/-- Nothing rejects the options. -/
def isValid (r : Report) : Bool :=
  r.errors.isEmpty

/-- No problem at all. -/
def isEmpty (r : Report) : Bool :=
  r.issues.isEmpty

/-- The text with blanks after it up to a width. -/
def padRight (width : Nat) (s : String) : String :=
  s ++ String.ofList (List.replicate (width - s.length) ' ')

/-- The lines of one problem. -/
def issueText (i : Issue) : String :=
  let hint := match i.suggestion with
    | some s => "        hint: " ++ s ++ "\n"
    | none => ""
  padRight 7 i.severity.label ++ " " ++ i.key ++ ": " ++ i.message ++ "\n" ++ hint

/-- The last line: how many problems of each severity there are. -/
def tally (r : Report) : String :=
  Decimal.text r.errors.length ++ " error(s), " ++ Decimal.text r.warnings.length ++
    " warning(s)" ++ (if r.isValid then "" else ", options rejected") ++ "\n"

/-- The text of a report: errors, then warnings, then a tally. -/
def text (r : Report) : String :=
  if r.isEmpty then "Client options are valid."
  else String.join ((r.errors ++ r.warnings).map issueText) ++ r.tally

end Report

end RemoteConfig
