import RemoteConfig.Snapshot

/-!
# Stores

A store holds the current snapshot and hands out tokens that tell whether it
was replaced since.  A snapshot is published only if its content differs from
the current one, and each publication fires the tokens handed out since the
one before.
-/

namespace RemoteConfig

/-- A token for the snapshot that was current when it was handed out.  It is
known by the number of publications before. -/
structure ChangeToken where
  issue : Nat
  deriving Repr, DecidableEq

/-- The current snapshot and the number of publications that led to it. -/
structure Store where
  snapshot : Snapshot := {}
  publications : Nat := 0
  deriving Repr, DecidableEq

namespace Store

/-- The value under a key of the current snapshot. -/
def get? (s : Store) (key : String) : Option String :=
  s.snapshot.get? key

/-- The token that fires at the next publication. -/
def token (s : Store) : ChangeToken :=
  ⟨s.publications⟩

/-- The token's snapshot was replaced. -/
def hasFired (s : Store) (t : ChangeToken) : Bool :=
  t.issue < s.publications

/-- Publishes a snapshot built from the current one, unless the content is the
same. -/
def update (s : Store) (build : Snapshot → Snapshot) : SnapshotDiff × Store :=
  let next := build s.snapshot
  let diff := s.snapshot.diff next
  if diff.isEmpty then (diff, s)
  else (diff, { snapshot := next, publications := s.publications + 1 })

/-- Publishes a snapshot, unless its content is that of the current one. -/
def replace (s : Store) (next : Snapshot) : SnapshotDiff × Store :=
  s.update fun _ => next

end Store

end RemoteConfig
