import RemoteConfig.Store

/-!
# Stores shared by many

Any number of writers and consumers share a store.  A lock lets updates in one
at a time.  An update stores the new snapshot, then puts a fresh token into the
place of the old one, then sets the flag of the old one, and then notifies those
who wait for it.  A consumer takes the token, then reads the snapshot, and then
waits for the flag.  Between any two of these steps others may take theirs.

* `Wait.next` is one step of a consumer that waits, and `Consumer.next` one of
  any consumer.
* `SharedStore.proceed` is one step of the update that has the lock.
* `SharedStore.step` is one step of all together, and `SharedStore.run` follows
  a schedule.
-/

namespace RemoteConfig

/-! ## Consumers -/

/-- A place in the loop in which a consumer waits for a flag. -/
inductive Wait where
  /-- It is about to ask for a notification. -/
  | starting
  /-- It has asked, and is about to look at the flag. -/
  | asked (notified : Bool)
  /-- It found the flag unset, and sleeps until it is notified. -/
  | asleep (notified : Bool)
  /-- It found the flag set, and waits no more. -/
  | returned
  deriving Repr, DecidableEq

namespace Wait

/-- Goes on.  A sleeper that was notified looks again, behind a new request. -/
def next (fired : Bool) : Wait → Wait
  | starting => asked false
  | asked notified => if fired then returned else asleep notified
  | asleep true => starting
  | asleep false => asleep false
  | returned => returned

/-- Notifies a consumer that has asked for it. -/
def notify : Wait → Wait
  | asked _ => asked true
  | asleep _ => asleep true
  | w => w

end Wait

/-- A consumer of a store. -/
inductive Consumer where
  | arrived
  /-- Has taken a token, and is about to read the snapshot. -/
  | holding (token : ChangeToken)
  /-- Has read the snapshot of a store, and waits for its token to fire. -/
  | waiting (token : ChangeToken) (seen : Store) (wait : Wait)
  deriving Repr, DecidableEq

/-- Notifies a consumer that waits for a token. -/
def Consumer.notify (t : ChangeToken) : Consumer → Consumer
  | waiting token seen wait => waiting token seen (if token = t then wait.notify else wait)
  | c => c

/-! ## Updates -/

/-- How far the update has come that has the lock. -/
inductive Update where
  | building (build : Snapshot → Snapshot)
  /-- The new content differs, and is about to be stored. -/
  | storing (next : Snapshot) (diff : SnapshotDiff)
  /-- A fresh token is about to be put into place. -/
  | swapping (diff : SnapshotDiff)
  /-- The flag of the old token is about to be set. -/
  | setting (old : ChangeToken) (diff : SnapshotDiff)
  /-- Those who wait for the old token are about to be notified. -/
  | notifying (old : ChangeToken) (diff : SnapshotDiff)
  /-- The lock is about to be released. -/
  | leaving (diff : SnapshotDiff)

/-! ## All together -/

/-- A store with its tokens, and those who use it. -/
structure SharedStore where
  store : Store
  /-- The flags of all tokens in the order in which they were made.  The last
  token is handed out. -/
  flags : List Bool := [false]
  /-- Updates that wait for the lock. -/
  queue : List (Snapshot → Snapshot) := []
  /-- The update that has the lock. -/
  inside : Option Update := none
  /-- What the updates that are over have answered. -/
  answers : List SnapshotDiff := []
  consumers : List Consumer := []

namespace SharedStore

def ofSnapshot (initial : Snapshot) : SharedStore :=
  { store := { snapshot := initial } }

/-- The token that is handed out. -/
def token (s : SharedStore) : ChangeToken :=
  ⟨s.flags.length - 1⟩

/-- The token's flag is set. -/
def hasFired (s : SharedStore) (t : ChangeToken) : Bool :=
  s.flags[t.issue]? = some true

/-- What an update does next that has come so far. -/
def proceed (s : SharedStore) : Update → SharedStore
  | .building build =>
    let next := build s.store.snapshot
    let diff := s.store.snapshot.diff next
    { s with inside := some (if diff.isEmpty then .leaving diff else .storing next diff) }
  | .storing next diff =>
    { s with
      store := { snapshot := next, publications := s.store.publications + 1 }
      inside := some (.swapping diff) }
  | .swapping diff =>
    { s with flags := s.flags ++ [false], inside := some (.setting s.token diff) }
  | .setting old diff =>
    if s.hasFired old then { s with inside := some (.leaving diff) }
    else { s with flags := s.flags.set old.issue true, inside := some (.notifying old diff) }
  | .notifying old diff =>
    { s with consumers := s.consumers.map (.notify old), inside := some (.leaving diff) }
  | .leaving diff => { s with inside := none, answers := s.answers ++ [diff] }

/-- The next step of the update that has the lock. -/
def write (s : SharedStore) : SharedStore :=
  s.inside.elim s s.proceed

/-- The next step of a consumer. -/
def consume (s : SharedStore) : Consumer → Consumer
  | .arrived => .holding s.token
  | .holding t => .waiting t s.store .starting
  | .waiting t seen wait => .waiting t seen (wait.next (s.hasFired t))

end SharedStore

/-- Something that happens to a shared store. -/
inductive StoreAction where
  /-- An update is called, and waits for the lock. -/
  | call (build : Snapshot → Snapshot)
  /-- The update at this place of the queue takes the lock, if it is free. -/
  | enter (place : Nat)
  /-- The update that has the lock goes on. -/
  | write
  /-- A consumer arrives. -/
  | join
  /-- A consumer goes on. -/
  | consume (consumer : Nat)

namespace SharedStore

/-- One step.  What cannot happen changes nothing. -/
def step (s : SharedStore) : StoreAction → SharedStore
  | .call build => { s with queue := s.queue ++ [build] }
  | .enter place =>
    match s.inside, s.queue[place]? with
    | none, some build =>
      { s with queue := s.queue.eraseIdx place, inside := some (.building build) }
    | _, _ => s
  | .write => s.write
  | .join => { s with consumers := s.consumers ++ [.arrived] }
  | .consume i => { s with consumers := s.consumers.modify i s.consume }

/-- Follows a schedule. -/
def run (s : SharedStore) (schedule : List StoreAction) : SharedStore :=
  schedule.foldl step s

end SharedStore

end RemoteConfig
