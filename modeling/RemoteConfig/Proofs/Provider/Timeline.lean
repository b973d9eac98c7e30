import RemoteConfig.Provider

/-!
# Timelines of loads

What happens in a load, in order: attempts begin, requests are sent, and pauses
pass.  Loads do not note this by themselves.  `Provider.timedAttempts` is a load
with a log of it, and `loadNow_eq` says that the log changes nothing else.

* `Servers.timed` notes requests, and `Attempts.timed` notes attempts and
  pauses.  Both write into one log, which the servers carry with them.
* `Servers.Lifts` and `Attempts.Lifts` say that more is kept in a state than is
  needed.  `walk_map` and `Lifts.runFrom` follow the loops of a load: what is
  forgotten afterwards could have been forgotten before.
* `runFrom_timed` is one turn of the loop over attempts, for what is proved about
  loads with a log.
-/

namespace RemoteConfig

/-! ## Events -/

/-- What happens in a load. -/
inductive LoadEvent where
  /-- An attempt begins, under this number. -/
  | attempt (number : Nat)
  /-- A request is sent; without an answer one waits in vain. -/
  | request (request : Request) (answered : Bool)
  /-- A pause between attempts. -/
  | pause (length : Duration)
  deriving Repr, DecidableEq

variable {σ τ : Type}

/-- Servers that note the requests that reach them. -/
def Servers.timed (net : Servers σ) : Servers (σ × List LoadEvent) where
  reply request s :=
    let (reply, servers) := net.reply request s.1
    (reply, servers, s.2 ++ [.request request (reply ≠ .silence)])

namespace Session

/-- The log of a session. -/
def events (s : Session (σ × List LoadEvent)) : List LoadEvent :=
  s.servers.2

/-- Notes an event. -/
def note (event : LoadEvent) (s : Session (σ × List LoadEvent)) :
    Session (σ × List LoadEvent) :=
  { s with servers := (s.servers.1, s.servers.2 ++ [event]) }

/-- The session with its servers seen through `f`. -/
def map (f : τ → σ) (s : Session τ) : Session σ :=
  { s with servers := f s.servers }

end Session

/-- Attempts that note when they begin and what pauses there are. -/
def Attempts.timed (a : Attempts (Session (σ × List LoadEvent))) :
    Attempts (Session (σ × List LoadEvent)) where
  isCancelled := a.isCancelled
  attempt number s := a.attempt number (s.note (.attempt number.toNat))
  exhausted := a.exhausted
  pause length s := a.pause length (s.note (.pause length))

/-! ## Forgetting -/

/-- Seen through `f`, the servers `net'` reply as `net` does. -/
def Servers.Lifts (f : τ → σ) (net' : Servers τ) (net : Servers σ) : Prop :=
  ∀ request s, net.reply request (f s) = Prod.map id f (net'.reply request s)

theorem Servers.timed_lifts (net : Servers σ) : net.timed.Lifts Prod.fst net :=
  fun _ _ => rfl

section Forgetting

variable {f : τ → σ} {net' : Servers τ} {net : Servers σ}

theorem HttpClient.send_map (h : net'.Lifts f net) (c : HttpClient) (uri : String)
    (explicit : Option Credentials) (s : τ) :
    c.send net uri explicit (f s) = Prod.map id f (c.send net' uri explicit s) := by
  unfold send
  cases Url.read uri with
  | error fault => rfl
  | ok url =>
    simp only
    split
    · exact congrArg (fun answer => (outcome? (c.request url explicit).url answer.1, answer.2))
        (h (c.request url explicit) s)
    · rfl

theorem Session.await_map (f : τ → σ) (c : HttpClient) (isSent : Bool)
    (outcome : Option FetchOutcome) (s : Session τ) :
    (s.map f).await c isSent outcome = Prod.map id (map f) (s.await c isSent outcome) := by
  unfold await
  split
  · rw [if_pos ‹_›]
    rfl
  · rw [if_neg ‹_›]
    cases outcome <;> rfl

theorem Session.fetch_map (h : net'.Lifts f net) (c : HttpClient) (uri : String)
    (explicit : Option Credentials) (s : Session τ) :
    (s.map f).fetch net c uri explicit = Prod.map id (map f) (s.fetch net' c uri explicit) := by
  unfold fetch
  rw [show (s.map f).servers = f s.servers from rfl, c.send_map h]
  exact await_map f c (Url.read uri).isOk _ { s with servers := _ }

namespace Walker

theorem row_map (h : net'.Lifts f net) (w : Walker) (base : String)
    (slots : List (Option String)) (s : Session τ) :
    w.row net base slots (s.map f) = Prod.map id (Session.map f) (w.row net' base slots s) := by
  induction slots generalizing s with
  | nil => rfl
  | cons slot slots ih =>
    rw [row, row, show (s.map f).isCancelled = s.isCancelled from rfl]
    split
    · rfl
    · cases Candidate.make base w.name w.profile slot with
      | error failure => rfl
      | ok c =>
        simp only [Session.fetch_map h]
        rcases s.fetch net' w.client c.uri (w.credentialsFor c) with ⟨e | outcome, s'⟩
        · rfl
        · rcases outcome with ⟨status, _ | e⟩ | _ | failure
          · exact ih (s'.recordRequest _)
          · rfl
          · rfl
          · rfl

theorem rows_map (h : net'.Lifts f net) (w : Walker) (slots : List (Option String))
    (bases : List String) (failures : List CandidateFailure) (lastEmpty : Bool)
    (s : Session τ) :
    w.rows net slots bases failures lastEmpty (s.map f) =
      Prod.map id (Session.map f) (w.rows net' slots bases failures lastEmpty s) := by
  induction bases generalizing failures lastEmpty s with
  | nil => rfl
  | cons base bases ih =>
    rw [rows, rows, row_map h]
    rcases w.row net' base slots s with ⟨e | e, s'⟩
    · rfl
    · cases e with
      | found e => rfl
      | notFound => rfl
      | empty => exact ih failures true s'
      | failed failure => exact ih (failures ++ [failure]) false s'

theorem walk_map (h : net'.Lifts f net) (w : Walker) (bases labels : List String)
    (s : Session τ) :
    w.walk net bases labels (s.map f) =
      Prod.map id (Session.map f) (w.walk net' bases labels s) :=
  rows_map h w ..

end Walker

end Forgetting

namespace Attempts

/-- Seen through `f`, the attempts `a'` do what `a` does. -/
structure Lifts (f : τ → σ) (a' : Attempts τ) (a : Attempts σ) : Prop where
  isCancelled : ∀ s, a.isCancelled (f s) = a'.isCancelled s
  attempt : ∀ number s, a.attempt number (f s) = Prod.map id f (a'.attempt number s)
  exhausted : ∀ s, a.exhausted (f s) = f (a'.exhausted s)
  pause : ∀ length s, a.pause length (f s) = Prod.map id f (a'.pause length s)

/-- The induction is on the attempts that are left, as in the loop. -/
theorem Lifts.runFrom {f : τ → σ} {a' : Attempts τ} {a : Attempts σ} (h : Lifts f a' a)
    (failFast : Bool) {b : Backoff} (left : b.canRetry) (s : τ) :
    a.runFrom failFast b left (f s) = Prod.map id f (a'.runFrom failFast b left s) := by
  induction hleft : b.maxAttempts.toNat - b.attempt.toNat using Nat.strongRecOn
    generalizing b s with
  | ind k ih =>
    rw [Attempts.runFrom, Attempts.runFrom, h.isCancelled, h.attempt]
    split
    · rfl
    · rcases a'.attempt b.begin.attempt s with ⟨e | e | _ | failures, s'⟩
      · rfl
      · rfl
      · rfl
      · simp only [Prod.map, id, h.exhausted]
        split
        · rename_i more
          rw [h.pause]
          have hless : b.begin.grow.maxAttempts.toNat - b.begin.grow.attempt.toNat < k := by
            rw [Backoff.attempt_grow, Backoff.maxAttempts_grow, ← hleft]
            exact Backoff.attemptsLeft_begin left
          rcases a'.pause b.begin.delay (a'.exhausted s') with ⟨_ | _, s''⟩
          · rfl
          · exact ih _ hless (Backoff.canRetry_grow more) s'' rfl
        · rfl

/-- One turn of the loop over attempts with a log. -/
theorem runFrom_timed (w : Walker) (net : Servers σ) (bases labels : List String)
    (failFast : Bool) {b : Backoff} (left : b.canRetry) (s : Session (σ × List LoadEvent)) :
    (ofWalk w net.timed bases labels).timed.runFrom failFast b left s =
      if s.isCancelled then (.error .cancelled, s)
      else
        match w.walk net.timed bases labels
            (s.note (.attempt b.begin.attempt.toNat)).beginAttempt with
        | (.ok (.exhausted failures), s) =>
          if more : b.begin.canRetry then
            match (s.recordWalkExhausted.note (.pause b.begin.delay)).pause with
            | (false, s) => (.error .cancelled, s)
            | (true, s) =>
              (ofWalk w net.timed bases labels).timed.runFrom failFast b.begin.grow
                (Backoff.canRetry_grow more) s
          else (giveUp failFast failures, s.recordWalkExhausted)
        | located => located := by
  rw [runFrom]
  by_cases hcancelled : s.isCancelled
  · rw [if_pos hcancelled]
    exact if_pos hcancelled
  · rw [if_neg hcancelled]
    refine (if_neg hcancelled).trans ?_
    rw [show (ofWalk w net.timed bases labels).timed.attempt b.begin.attempt s =
      w.walk net.timed bases labels (s.note (.attempt b.begin.attempt.toNat)).beginAttempt from rfl]
    rcases w.walk net.timed bases labels (s.note (.attempt b.begin.attempt.toNat)).beginAttempt with
      ⟨e | e | _ | failures, s'⟩
    · rfl
    · rfl
    · rfl
    · by_cases more : b.begin.canRetry
      · simp only [dif_pos more]
        rw [show (ofWalk w net.timed bases labels).timed.pause b.begin.delay
            ((ofWalk w net.timed bases labels).timed.exhausted s') =
          (s'.recordWalkExhausted.note (.pause b.begin.delay)).pause from rfl]
        rcases (s'.recordWalkExhausted.note (.pause b.begin.delay)).pause with
          ⟨_ | _, s''⟩ <;> rfl
      · simp only [dif_neg more]
        rfl

/-- Whoever forgets the log sees the attempts without it. -/
theorem timed_lifts (w : Walker) (net : Servers σ) (bases labels : List String) :
    Lifts (Session.map Prod.fst) (ofWalk w net.timed bases labels).timed
      (ofWalk w net bases labels) where
  isCancelled _ := rfl
  attempt number s :=
    w.walk_map net.timed_lifts bases labels (s.note (.attempt number.toNat)).beginAttempt
  exhausted _ := rfl
  pause _ _ := rfl

end Attempts

/-! ## Loads with a log -/

namespace Provider

/-- The attempts of a load and its session at their end, with a log. -/
def timedAttempts (net : Servers σ) (cancellation : Cancellation) (p : Provider) (servers : σ) :
    Except LoadError WalkOutcome × Session (σ × List LoadEvent) :=
  let bases := (Discovery.baseUris p.locator p.options.discovery.enabled
    p.options.discovery.serviceId p.options.uris).1
  (Attempts.ofWalk p.walker net.timed bases p.options.labels).timed.run p.options.retry
    p.options.failFast (p.session cancellation (servers, []))

/-- What happens in a load. -/
def timeline (net : Servers σ) (cancellation : Cancellation) (p : Provider) (servers : σ) :
    List LoadEvent :=
  if !p.options.enabled || cancellation = .atStart then []
  else (p.timedAttempts net cancellation servers).2.events

/-- The provider behind the attempts of a load, before the load ends. -/
def afterAttempts (p : Provider) (metrics : Metrics) : Provider :=
  { p with
    metrics
    lookups := p.lookups ++ (Discovery.baseUris p.locator p.options.discovery.enabled
      p.options.discovery.serviceId p.options.uris).2 }

/-- A load ends as the attempts with a log do. -/
theorem loadNow_eq (net : Servers σ) (update : Bool) (cancellation : Cancellation)
    (p : Provider) (servers : σ) :
    p.loadNow net update cancellation servers =
      let (located, s) := p.timedAttempts net cancellation servers
      let (result, p) := (p.afterAttempts s.metrics).conclude update located
      (result, p, s.servers.1) := by
  have hrun := (Attempts.timed_lifts p.walker net
    (Discovery.baseUris p.locator p.options.discovery.enabled p.options.discovery.serviceId
      p.options.uris).1 p.options.labels).runFrom p.options.failFast
    (Backoff.start_canRetry p.options.retry) (p.session cancellation (servers, []))
  unfold loadNow timedAttempts Attempts.run
  rw [show p.session cancellation servers =
    Session.map Prod.fst (p.session cancellation (servers, ([] : List LoadEvent))) from rfl]
  simp only [hrun]
  rfl

end Provider

end RemoteConfig
