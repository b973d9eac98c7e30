import RemoteConfig.Text.Split

/-!
# Files

Texts with names in a directory, as a program that runs in the directory finds
them.  Names are paths with slashes between their parts.
-/

namespace RemoteConfig.CommandLine

/-- The files below a directory, by their paths from it, with their
contents. -/
abbrev Files := List (String × String)

namespace Files

/-- The parts of a path. -/
def parts (path : String) : List String :=
  (Text.pieces '/' path.toList).map String.ofList

/-- The parts of a path that lead anywhere. -/
def steps (path : String) : List String :=
  (parts path).filter fun s => !s.isEmpty && s ≠ "."

/-- The directory exists: it has a file below it, or is the one in which
everything stands. -/
def hasDirectory (fs : Files) (dir : List String) : Bool :=
  dir.isEmpty || fs.any fun f =>
    dir.length < (steps f.1).length && (steps f.1).take dir.length = dir

/-- The content of the file to which steps from a directory lead. -/
def follow? (fs : Files) : (dir path : List String) → Option String
  | _, [] => none
  | dir, [name] =>
    if name = ".." then none
    else ((fs.find? fun f => steps f.1 = dir ++ [name]) : Option (String × String)).map (·.2)
  | dir, name :: rest =>
    if name = ".." then (if dir.isEmpty then none else follow? fs dir.dropLast rest)
    else if fs.hasDirectory (dir ++ [name]) then follow? fs (dir ++ [name]) rest
    else none

/-- The path names no file: it starts elsewhere, or ends as the path of a
directory does. -/
def isForeign (path : String) : Bool :=
  path.toList.head? = some '/' || (parts path).getLast? = some "" ||
    (parts path).getLast? = some "."

/-- The content of the file at a path, if there is one. -/
def read? (fs : Files) (path : String) : Option String :=
  if isForeign path then none else fs.follow? [] (steps path)

end Files

end RemoteConfig.CommandLine
