import RemoteConfig.Environment
import RemoteConfig.Text.Fold
import RemoteConfig.Text.Split

/-!
# Snapshots

A complete set of keys and values.  Keys are paths of segments with colons
between them and compare without regard to ASCII case; each keeps the spelling
under which it was set.  A snapshot is built up by merging environments, whose
earlier property sources win, and by setting pairs, where the last one wins.
-/

namespace RemoteConfig

/-- A key as it was spelled, with its value. -/
structure Entry where
  key : String
  value : String
  deriving Repr, DecidableEq

/-- A set of keys and values. -/
structure Snapshot where
  /-- The entries under their folded keys. -/
  entries : TextMap Entry := .empty
  /-- The remote part was fetched at some time. -/
  loaded : Bool := false
  deriving Repr, DecidableEq

/-- How one snapshot differs from an earlier one, by keys. -/
structure SnapshotDiff where
  added : List String
  removed : List String
  changed : List String
  deriving Repr, DecidableEq

/-- Both snapshots have the same content. -/
def SnapshotDiff.isEmpty (d : SnapshotDiff) : Bool :=
  d.added.isEmpty && d.removed.isEmpty && d.changed.isEmpty

namespace Snapshot

/-- The separator of the segments of a key. -/
def delimiter : Char := ':'

/-- The key of an environment's version. -/
def versionKey : String := "spring:cloud:config:client:version"

/-- The key of an environment's state. -/
def stateKey : String := "spring:cloud:config:client:state"

/-- A character of a key in the spelling of servers: dots and opening brackets
separate segments, and closing brackets are dropped. -/
def normalChar (c : Char) : List Char :=
  if c = '.' || c = '[' then [delimiter]
  else if c = ']' then []
  else [c]

/-- A key in the spelling of servers, such as `a.b[0]`, as a path. -/
def normalizeKey (key : String) : String :=
  String.ofList (key.toList.flatMap normalChar)

/-! ## Reading -/

/-- The value under a key. -/
def get? (s : Snapshot) (key : String) : Option String :=
  (s.entries.get? (Text.fold key)).map (·.value)

/-- The number of keys. -/
def size (s : Snapshot) : Nat :=
  s.entries.size

/-- Keys and values in the order of the folded keys. -/
def pairs (s : Snapshot) : List (String × String) :=
  s.entries.toList.map fun p => (p.2.key, p.2.value)

/-- What follows a list of characters at the front of another. -/
def dropHead? : List Char → List Char → Option (List Char)
  | [], cs => some cs
  | _ :: _, [] => none
  | h :: hs, c :: cs => if h = c then dropHead? hs cs else none

/-- The segment of an entry below a parent, given by its folded path and a
delimiter: the characters up to the next delimiter, as they are spelled. -/
def segmentBelow? (parent : List Char) (folded : String) (entry : Entry) : Option String :=
  match dropHead? parent folded.toList with
  | none => none
  | some _ =>
    some (String.ofList
      ((entry.key.toList.drop parent.length).takeWhile (· ≠ delimiter)))

/-- The texts without those that agree, up to case, with an earlier one. -/
def distinctFolded (seen : List String) : List String → List String
  | [] => []
  | s :: rest =>
    if seen.contains (Text.fold s) then distinctFolded seen rest
    else s :: distinctFolded (Text.fold s :: seen) rest

/-- The folded path of a parent with a delimiter after it; nothing for the
root. -/
def parentHead : Option String → List Char
  | some p => (Text.fold p).toList ++ [delimiter]
  | none => []

/-- The segments below a parent, or the first segments of all keys. -/
def children (s : Snapshot) (parent : Option String) : List String :=
  distinctFolded []
    (s.entries.toList.filterMap fun p => segmentBelow? (parentHead parent) p.1 p.2)

/-! ## Comparing -/

/-- How an entry differs from what stands under its key in another snapshot. -/
inductive Difference where
  | absent
  | other
  | none
  deriving Repr, DecidableEq

/-- Compares an entry with what stands under its folded key. -/
def difference (old : TextMap Entry) (folded : String) (entry : Entry) : Difference :=
  match old.get? folded with
  | some e => if e.value = entry.value then .none else .other
  | .none => .absent

/-- The keys of entries that differ in a given way. -/
def differing (d : Difference) (old new : TextMap Entry) : List String :=
  (new.toList.filter fun p => difference old p.1 p.2 = d).map (·.2.key)

/-- How a newer snapshot differs from this one. -/
def diff (old new : Snapshot) : SnapshotDiff where
  added := differing .absent old.entries new.entries
  removed := differing .absent new.entries old.entries
  changed := differing .other old.entries new.entries

/-! ## Building -/

/-- Sets a key, whatever it was. -/
def set (s : Snapshot) (key value : String) : Snapshot :=
  { s with entries := s.entries.insert (Text.fold key) ⟨key, value⟩ }

/-- Sets a key unless it is set. -/
def setIfAbsent (s : Snapshot) (key value : String) : Snapshot :=
  { s with entries := s.entries.insertIfAbsent (Text.fold key) ⟨key, value⟩ }

/-- Sets pairs in turn. -/
def setAll (s : Snapshot) (pairs : List (String × String)) : Snapshot :=
  pairs.foldl (fun s p => s.set p.1 p.2) s

/-- Sets a key unless there is no value or an empty one. -/
def setOptional (s : Snapshot) (key : String) : Option String → Snapshot
  | some value => if value.isEmpty then s else s.set key value
  | none => s

/-- Sets the keys of a property source that are not set. -/
def mergeSource (s : Snapshot) (source : PropertySource) : Snapshot :=
  source.source.toList.foldl (fun s p => s.setIfAbsent (normalizeKey p.1) p.2) s

/-- Merges an environment: its sources in order, then its version and state. -/
def merge (s : Snapshot) (e : Environment) : Snapshot :=
  let merged := e.propertySources.foldl mergeSource s
  { (merged.setOptional versionKey e.version).setOptional stateKey e.state with loaded := true }

/-- Takes over whether the remote part was fetched. -/
def withLoaded (s : Snapshot) (loaded : Bool) : Snapshot :=
  { s with loaded }

end Snapshot

end RemoteConfig
