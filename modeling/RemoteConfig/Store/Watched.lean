import RemoteConfig.Store

/-!
# Waiting for changes

A token of a store is a flag with those who wait until it is set.  A waiter
asks to be notified, looks at the flag, and sleeps only if it is not set yet.
Whoever sets the flag notifies the waiters after that.  A watched store keeps
all tokens that it has made, so the token of a number can be asked at any time.
-/

namespace RemoteConfig

/-- How far a waiter has come. -/
inductive Waiter where
  /-- It found the flag unset and sleeps. -/
  | asleep
  /-- It was notified, and is about to look at the flag again. -/
  | notified
  /-- It found the flag set, and waits no more. -/
  | done
  deriving Repr, DecidableEq

namespace Waiter

/-- A look at the flag. -/
def look (fired : Bool) : Waiter :=
  if fired then done else asleep

/-- Notifies a waiter. -/
def notify : Waiter → Waiter
  | asleep => notified
  | w => w

/-- Lets a waiter go on, if it was notified. -/
def resume (fired : Bool) : Waiter → Waiter
  | notified => look fired
  | w => w

def isAwake : Waiter → Bool
  | asleep => false
  | _ => true

end Waiter

/-- A flag that is set once, and those who wait for it. -/
structure Signal where
  fired : Bool := false
  waiters : List Waiter := []
  deriving Repr, DecidableEq

namespace Signal

/-- Sets the flag and notifies the waiters, the first time. -/
def fire (g : Signal) : Signal :=
  if g.fired then g else { fired := true, waiters := g.waiters.map Waiter.notify }

/-- Adds a waiter. -/
def wait (g : Signal) : Signal :=
  { g with waiters := g.waiters ++ [.look g.fired] }

/-- Lets a waiter go on. -/
def resume (place : Nat) (g : Signal) : Signal :=
  { g with waiters := g.waiters.modify place (.resume g.fired) }

end Signal

/-- A store with its tokens. -/
structure WatchedStore where
  store : Store
  /-- The tokens of earlier snapshots, in the order in which they were made. -/
  retired : List Signal := []
  /-- The token of the current snapshot. -/
  current : Signal := {}
  deriving Repr, DecidableEq

namespace WatchedStore

def ofSnapshot (initial : Snapshot) : WatchedStore :=
  { store := { snapshot := initial } }

/-- The token that is handed out. -/
def token (s : WatchedStore) : ChangeToken :=
  ⟨s.retired.length⟩

/-- The flag and the waiters of a token. -/
def signal? (s : WatchedStore) (t : ChangeToken) : Option Signal :=
  (s.retired ++ [s.current])[t.issue]?

/-- The token's flag is set. -/
def hasFired (s : WatchedStore) (t : ChangeToken) : Bool :=
  (s.signal? t).any (·.fired)

/-- The waiter at a place of a token. -/
def waiter? (s : WatchedStore) (t : ChangeToken) (place : Nat) : Option Waiter :=
  (s.signal? t).bind (·.waiters[place]?)

/-- Changes the signal of a token. -/
def modify (s : WatchedStore) (t : ChangeToken) (f : Signal → Signal) : WatchedStore :=
  if t = s.token then { s with current := f s.current }
  else { s with retired := s.retired.modify t.issue f }

/-- Waits on a token, at the place behind the waiters that it has. -/
def wait (s : WatchedStore) (t : ChangeToken) : WatchedStore :=
  s.modify t Signal.wait

/-- Lets a waiter go on. -/
def resume (s : WatchedStore) (t : ChangeToken) (place : Nat) : WatchedStore :=
  s.modify t (Signal.resume place)

/-- Publishes a snapshot built from the current one, unless the content is the
same.  The old token fires when a new one has taken its place. -/
def update (s : WatchedStore) (build : Snapshot → Snapshot) : SnapshotDiff × WatchedStore :=
  let (diff, store) := s.store.update build
  if diff.isEmpty then (diff, { s with store })
  else (diff, { store, retired := s.retired ++ [s.current.fire] })

/-- Publishes a snapshot, unless its content is that of the current one. -/
def replace (s : WatchedStore) (next : Snapshot) : SnapshotDiff × WatchedStore :=
  s.update fun _ => next

end WatchedStore

end RemoteConfig
