import RemoteConfig.Provider

/-!
# Plans of loads

A load alternates between its own work and waits: for the answer to a request,
or for the end of a pause.  `LoadPlan` is what a load does from some point on,
for every answer that it may get.  Who answers, and what happens meanwhile, is
left open.

* `Provider.plan` is the plan of a load, made of the plans of attempts, walks
  and rows.
* `LoadPlan.run` follows a plan with given servers, and lists the steps that it
  takes.
* `Metrics.noteStep` is what each step adds to the counters.
-/

namespace RemoteConfig

/-! ## Steps -/

/-- What happens in a load. -/
inductive LoadStep where
  /-- An attempt begins, under this number. -/
  | attempt (number : Nat)
  /-- A base address cannot be asked, and no request is sent. -/
  | refused (failure : CandidateFailure)
  /-- A request is sent, with what became of it. -/
  | asked (request : Request) (reply : Reply)
  /-- A request is sent and given up: the load is cancelled while it waits.  The
  reply is dropped. -/
  | interrupted (request : Request) (reply : Reply)
  /-- A walk ends. -/
  | walked (outcome : WalkOutcome)
  /-- A pause between attempts. -/
  | paused (length : Duration)
  deriving Repr, DecidableEq

/-- The outcome of a request, which times out without an answer. -/
def HttpClient.outcome (c : HttpClient) (request : Request) (reply : Reply) : FetchOutcome :=
  (outcome? request.url reply).getD c.timedOut

namespace LoadStep

/-- The label under which a step counts as a request. -/
def requestLabel? (client : HttpClient) : LoadStep → Option String
  | refused f => some f.failure.label
  | asked request reply => some (client.outcome request reply).label
  | _ => none

/-- A base address is refused. -/
def isRefused : LoadStep → Bool
  | refused _ => true
  | _ => false

/-- The request of a step, with what became of it. -/
def exchange? : LoadStep → Option (Request × Reply)
  | asked request reply => some (request, reply)
  | interrupted request reply => some (request, reply)
  | _ => none

/-- The walk that ends in a step. -/
def walk? : LoadStep → Option WalkOutcome
  | walked outcome => some outcome
  | _ => none

/-- A walk ends exhausted. -/
def isExhausted : LoadStep → Bool
  | walked (.exhausted _) => true
  | _ => false

end LoadStep

/-- Counts what a step counts. -/
def Metrics.noteStep (client : HttpClient) (m : Metrics) (step : LoadStep) : Metrics :=
  match step.requestLabel? client with
  | some label => m.recordRequest label
  | none => if step.isExhausted then m.recordWalkExhausted else m

/-- Counts what the steps of a load count. -/
def Metrics.noteSteps (client : HttpClient) (m : Metrics) (steps : List LoadStep) : Metrics :=
  steps.foldl (noteStep client) m

/-! ## Plans -/

/-- What a load does from some point on. -/
inductive LoadPlan where
  /-- The attempts are over. -/
  | ends (located : Except LoadError WalkOutcome)
  | attempt (number : Nat) (next : LoadPlan)
  | refuse (failure : CandidateFailure) (next : LoadPlan)
  /-- Sends a request and goes on with its outcome. -/
  | ask (request : Request) (next : FetchOutcome → LoadPlan)
  | walked (outcome : WalkOutcome) (next : LoadPlan)
  | pause (length : Duration) (next : LoadPlan)

/-- The load looks here whether it was cancelled. -/
def LoadPlan.isCheckpoint : LoadPlan → Bool
  | attempt .. | refuse .. | ask .. => true
  | ends _ | walked .. | pause .. => false

namespace Walker

/-- The request for a base address and a label, with the address that is asked;
a failure if there is no address to ask. -/
def prepare (w : Walker) (base : String) (label : Option String) :
    Except CandidateFailure (String × Request) :=
  match Candidate.make base w.name w.profile label with
  | .error failure => .error ⟨base, failure⟩
  | .ok c =>
    match Url.read c.uri with
    | .error fault => .error ⟨c.uri, .invalidUri c.uri fault.message⟩
    | .ok url =>
      if url.scheme = "http" || url.scheme = "https" then
        .ok (c.uri, w.client.request url (w.credentialsFor c))
      else .error ⟨c.uri, HttpClient.unsendable url⟩

/-- The plan of a row, with the plan for what comes after it. -/
def rowPlan (w : Walker) (base : String) (next : RowEnd → LoadPlan) :
    List (Option String) → LoadPlan
  | [] => next .empty
  | label :: labels =>
    match w.prepare base label with
    | .error f => .refuse f (next (.failed f))
    | .ok (uri, request) => .ask request fun
      | .success _ (some e) => next (.found e)
      | .success _ none => rowPlan w base next labels
      | .notFound => next .notFound
      | .failed failure => next (.failed ⟨uri, failure⟩)

/-- The plan of the rows of base addresses. -/
def rowsPlan (w : Walker) (labels : List (Option String)) (next : WalkOutcome → LoadPlan) :
    List String → List CandidateFailure → (lastEmpty : Bool) → LoadPlan
  | [], failures, lastEmpty => next (if lastEmpty then .noContent else .exhausted failures)
  | base :: bases, failures, _ => w.rowPlan base (fun
      | .found e => next (.found e)
      | .notFound => next .noContent
      | .empty => rowsPlan w labels next bases failures true
      | .failed f => rowsPlan w labels next bases (failures ++ [f]) false) labels

/-- The plan of a walk. -/
def walkPlan (w : Walker) (bases labels : List String) (next : WalkOutcome → LoadPlan) :
    LoadPlan :=
  w.rowsPlan (slots labels) next bases [] false

end Walker

namespace LoadPlan

/-- The plan of attempts and the pauses between them. -/
def ofAttempts (walk : (WalkOutcome → LoadPlan) → LoadPlan) (failFast : Bool) (b : Backoff)
    (_left : b.canRetry) : LoadPlan :=
  .attempt b.begin.attempt.toNat <| walk fun outcome => .walked outcome <|
    match outcome with
    | .exhausted failures =>
      if more : b.begin.canRetry then
        .pause b.begin.delay (ofAttempts walk failFast b.begin.grow (Backoff.canRetry_grow more))
      else .ends (Attempts.giveUp failFast failures)
    | located => .ends (.ok located)
termination_by b.maxAttempts.toNat - b.attempt.toNat
decreasing_by
  rw [Backoff.attempt_grow, Backoff.maxAttempts_grow]
  exact Backoff.attemptsLeft_begin _left

/-- What is left of such a plan when a walk has ended. -/
def afterWalk (walk : (WalkOutcome → LoadPlan) → LoadPlan) (failFast : Bool) (b : Backoff) :
    WalkOutcome → LoadPlan
  | .exhausted failures =>
    if more : b.begin.canRetry then
      .pause b.begin.delay (.ofAttempts walk failFast b.begin.grow (Backoff.canRetry_grow more))
    else .ends (Attempts.giveUp failFast failures)
  | located => .ends (.ok located)

end LoadPlan

/-- The plan of a load. -/
def Provider.plan (p : Provider) : LoadPlan :=
  let bases := (Discovery.baseUris p.locator p.options.discovery.enabled
    p.options.discovery.serviceId p.options.uris).1
  .ofAttempts (p.walker.walkPlan bases p.options.labels) p.options.failFast
    (.start p.options.retry) (Backoff.start_canRetry p.options.retry)

/-! ## Following a plan -/

/-- How a load has gone. -/
structure LoadRun (σ : Type) where
  located : Except LoadError WalkOutcome
  steps : List LoadStep
  servers : σ

/-- Puts steps before those of a load. -/
def LoadRun.behind {σ : Type} (r : LoadRun σ) (steps : List LoadStep) : LoadRun σ :=
  { r with steps := steps ++ r.steps }

/-- The run of a load that is over before it takes a step. -/
def LoadRun.cancelled {σ : Type} (servers : σ) : LoadRun σ :=
  ⟨.error .cancelled, [], servers⟩

/-- Follows a plan from a point of a load on.  The load looks before each attempt
and each candidate whether it was cancelled, and may be cancelled in one of its
waits. -/
def LoadPlan.run {σ : Type} (net : Servers σ) (client : HttpClient) (c : Cancellation) :
    LoadPlan → Progress → σ → LoadRun σ
  | .ends located, _, servers => ⟨located, [], servers⟩
  | .attempt number next, g, servers =>
    if c.shows g then .cancelled servers
    else (next.run net client c g.step servers).behind [.attempt number]
  | .refuse f next, g, servers =>
    if c.shows g then .cancelled servers
    else (next.run net client c g.step servers).behind [.refused f]
  | .ask request next, g, servers =>
    if c.shows g then .cancelled servers
    else
      let (reply, servers) := net.reply request servers
      if c.endsRequest g (reply = .silence) then
        ⟨.error .cancelled, [.interrupted request reply], servers⟩
      else
        ((next (client.outcome request reply)).run net client c
          (if reply = .silence then g.silence else g).step servers).behind [.asked request reply]
  | .walked outcome next, g, servers =>
    (next.run net client c g.step servers).behind [.walked outcome]
  | .pause length next, g, servers =>
    if c.endsPause g then ⟨.error .cancelled, [.paused length], servers⟩
    else (next.run net client c g.pause servers).behind [.paused length]

/-- How a load of a provider goes. -/
def Provider.loadRun {σ : Type} (net : Servers σ) (c : Cancellation) (p : Provider) (servers : σ) :
    LoadRun σ :=
  p.plan.run net p.client c {} servers

/-- What happens in a load.  Nothing if the client is disabled or the load was
cancelled before. -/
def Provider.steps {σ : Type} (net : Servers σ) (c : Cancellation) (p : Provider) (servers : σ) :
    List LoadStep :=
  if !p.options.enabled || c = .atStart then [] else (p.loadRun net c servers).steps

end RemoteConfig
