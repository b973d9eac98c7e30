import RemoteConfig.Proofs.Candidate
import RemoteConfig.Proofs.Http
import RemoteConfig.Proofs.Provider.Timeline
import RemoteConfig.Proofs.Retry.Course
import RemoteConfig.Provider.Plan

/-!
# Loads follow their plans

`loadNow_eq_loadRun` says that a load does what its plan says: it ends as the
plan does, the servers are the same afterwards, and the counters are those of
the steps.  By `timeline_eq` its timeline is that of the steps, too.

* `Session.Takes` says which steps a part of a load has taken, and `Follows`
  that a plan is that of such a part.  `row_follows` and `rows_follows` go
  through the loops of a walk.
* `Session.Completes` is the same for the rest of a load, up to its end.
  `completes_ofAttempts` goes through the loop over attempts.
* `LoadPlan.IsSound` says how plans end, and `isSound_run` how their runs do.

The parts of loads are those with a log, which does not change what they do.
-/

namespace RemoteConfig

variable {σ : Type}

/-! ## Steps -/

theorem LoadRun.behind_behind (r : LoadRun σ) (first second : List LoadStep) :
    (r.behind second).behind first = r.behind (first ++ second) := by
  simp [behind]

theorem Metrics.noteSteps_append (client : HttpClient) (m : Metrics)
    (first second : List LoadStep) :
    m.noteSteps client (first ++ second) = (m.noteSteps client first).noteSteps client second :=
  List.foldl_append

/-! ## Requests -/

theorem LoadPlan.run_ask {net : Servers σ} {client : HttpClient} {c : Cancellation}
    {request : Request} {next : FetchOutcome → LoadPlan} {g : Progress} {servers servers' : σ}
    {reply : Reply} (h : net.reply request servers = (reply, servers')) :
    (ask request next).run net client c g servers =
      if c.shows g then .cancelled servers
      else if c.endsRequest g (reply = .silence) then
        ⟨.error .cancelled, [.interrupted request reply], servers'⟩
      else
        ((next (client.outcome request reply)).run net client c
          (if reply = .silence then g.silence else g).step servers').behind
            [.asked request reply] := by
  rw [run, h]

/-- A load that looks and was cancelled is over. -/
theorem LoadPlan.run_of_shows (net : Servers σ) (client : HttpClient) {c : Cancellation}
    {g : Progress} {plan : LoadPlan} (hlooks : plan.isCheckpoint = true) (h : c.shows g = true)
    (servers : σ) : plan.run net client c g servers = .cancelled servers := by
  cases plan with
  | attempt number next => rw [run, if_pos h]
  | refuse f next => rw [run, if_pos h]
  | ask request next => rw [run, if_pos h]
  | _ => cases hlooks

namespace Walker

open Candidate (refused refusal?)

variable (w : Walker) {base : String} (label : Option String)

theorem prepare_of_refusal? {reason : String} (h : refusal? base = some reason) :
    w.prepare base label = .error (refused base reason) := by
  rw [prepare, Candidate.make_of_refusal? h]
  rfl

/-- A base address that is not refused is asked: its candidate has an address
that can be read and sent to. -/
theorem prepare_of_refusal?_eq_none (h : refusal? base = none) :
    ∃ c request, Candidate.make base w.name w.profile label = .ok c ∧
      w.prepare base label = .ok (c.uri, request) ∧ (Url.read c.uri).isOk = true ∧
      ∀ {σ : Type} (net : Servers σ) servers,
        w.client.send net c.uri (w.credentialsFor c) servers =
          (HttpClient.outcome? request.url (net.reply request servers).1,
            (net.reply request servers).2) := by
  obtain ⟨url, hread, hscheme, hmake⟩ := Candidate.make_of_refusal?_eq_none h
  obtain ⟨c, read, hmake, hcandidate, hsends⟩ : ∃ c read,
      Candidate.make base w.name w.profile label = .ok c ∧ Url.read c.uri = .ok read ∧
        (read.scheme = "http" || read.scheme = "https") = true :=
    ⟨_, _, hmake .., Candidate.read_uri hread hscheme w.name w.profile label, hscheme⟩
  refine ⟨c, w.client.request read (w.credentialsFor c), hmake, ?_, by rw [hcandidate]; rfl,
    fun net servers => ?_⟩
  · rw [prepare, hmake]
    simp only [hcandidate]
    exact if_pos hsends
  · exact w.client.send_of_read net hcandidate hsends (w.credentialsFor c) servers

end Walker

/-! ## Parts of loads -/

/-- The event of a step in a timeline, if it shows there. -/
def LoadStep.event? : LoadStep → Option LoadEvent
  | attempt number => some (.attempt number)
  | refused _ => none
  | asked request reply => some (.request request (reply ≠ .silence))
  | interrupted request reply => some (.request request (reply ≠ .silence))
  | walked _ => none
  | paused length => some (.pause length)

namespace Session

/-- Follows a plan from where a session stands. -/
def resume (net : Servers σ) (client : HttpClient) (s : Session (σ × List LoadEvent))
    (plan : LoadPlan) : LoadRun σ :=
  plan.run net client s.cancellation s.progress s.servers.1

theorem resume_of_isCancelled (net : Servers σ) (client : HttpClient)
    {s : Session (σ × List LoadEvent)} (h : s.isCancelled = true) {plan : LoadPlan}
    (hlooks : plan.isCheckpoint = true) :
    s.resume net client plan = .cancelled s.servers.1 :=
  LoadPlan.run_of_shows net client hlooks h s.servers.1

theorem resume_attempt (net : Servers σ) (client : HttpClient)
    {s : Session (σ × List LoadEvent)} (h : ¬ s.isCancelled) (number : Nat) (next : LoadPlan) :
    s.resume net client (.attempt number next) =
      ((s.note (.attempt number)).beginAttempt.resume net client next).behind
        [.attempt number] :=
  if_neg h

/-- The plan of a pause ends in it, or goes on behind it. -/
theorem resume_pause (net : Servers σ) (client : HttpClient) {s s' : Session (σ × List LoadEvent)}
    {length : Duration} {goesOn : Bool} (h : (s.note (.pause length)).pause = (goesOn, s'))
    (next : LoadPlan) :
    s.resume net client (.pause length next) =
      if goesOn then (s'.resume net client next).behind [.paused length]
      else ⟨.error .cancelled, [.paused length], s'.servers.1⟩ := by
  obtain ⟨rfl, rfl⟩ := Prod.mk.inj h
  unfold resume
  rw [LoadPlan.run]
  cases hends : s.cancellation.endsPause s.progress <;> simp [note, hends]

/-- Between two sessions a load has taken these steps.  It has counted them, and
they are in its log. -/
structure Takes (client : HttpClient) (steps : List LoadStep)
    (s s' : Session (σ × List LoadEvent)) : Prop where
  cancellation : s'.cancellation = s.cancellation
  metrics : s'.metrics = s.metrics.noteSteps client steps
  events : s'.events = s.events ++ steps.filterMap LoadStep.event?

namespace Takes

variable {client : HttpClient} {first second steps : List LoadStep}
  {s s' s'' : Session (σ × List LoadEvent)}

theorem refl (client : HttpClient) (s : Session (σ × List LoadEvent)) : Takes client [] s s :=
  ⟨rfl, rfl, (List.append_nil _).symm⟩

theorem trans (h : Takes client first s s') (h' : Takes client second s' s'') :
    Takes client (first ++ second) s s'' where
  cancellation := h'.cancellation.trans h.cancellation
  metrics := by rw [h'.metrics, h.metrics, Metrics.noteSteps_append]
  events := by rw [h'.events, h.events, List.filterMap_append, List.append_assoc]

theorem of_attempt (client : HttpClient) (s : Session (σ × List LoadEvent)) (number : Nat) :
    Takes client [.attempt number] s (s.note (.attempt number)).beginAttempt :=
  ⟨rfl, rfl, rfl⟩

theorem of_pause (client : HttpClient) {length : Duration} {goesOn : Bool}
    (h : (s.note (.pause length)).pause = (goesOn, s')) :
    Takes client [.paused length] s s' := by
  obtain ⟨-, rfl⟩ := Prod.mk.inj h
  exact ⟨rfl, rfl, rfl⟩

end Takes

end Session

open Session

/-- The rest of a load whose first part has ended: nothing if it was cancelled
there. -/
def LoadRun.after {α : Type} (net : Servers σ) (client : HttpClient) (next : α → LoadPlan) :
    Except LoadError α × Session (σ × List LoadEvent) → LoadRun σ
  | (.ok a, s) => s.resume net client (next a)
  | (.error e, s) => ⟨.error e, [], s.servers.1⟩

/-- A plan with a gap is that of the part of a load that comes before the gap. -/
def Follows {α : Type} (net : Servers σ) (client : HttpClient)
    (part : Session (σ × List LoadEvent) → Except LoadError α × Session (σ × List LoadEvent))
    (plan : (α → LoadPlan) → LoadPlan) : Prop :=
  ∀ s, ∃ steps, Takes client steps s (part s).2 ∧
    ∀ next, s.resume net client (plan next) =
      (LoadRun.after net client next (part s)).behind steps

/-- What comes of a request that was sent. -/
theorem Session.await_reply (client : HttpClient) (request : Request) (reply : Reply)
    (s : Session σ) :
    s.await client true (HttpClient.outcome? request.url reply) =
      if s.cancellation.endsRequest s.progress (reply = .silence) then (.error .cancelled, s)
      else (.ok (client.outcome request reply),
        { s with progress := if reply = .silence then s.progress.silence else s.progress }) := by
  cases reply with
  | answer status mediaType body => simp [await, HttpClient.outcome?, HttpClient.outcome]
  | broken reason => simp [await, HttpClient.outcome?, HttpClient.outcome]
  | silence => simp [await, HttpClient.outcome?, HttpClient.outcome]

/-- A request is sent and waited for as a plan says. -/
theorem Session.fetch_cases (net : Servers σ) (client : HttpClient) {uri : String}
    {explicit : Option Credentials} {request : Request} (hread : (Url.read uri).isOk = true)
    (hsend : ∀ servers, client.send net.timed uri explicit servers =
      (HttpClient.outcome? request.url (net.timed.reply request servers).1,
        (net.timed.reply request servers).2))
    {s : Session (σ × List LoadEvent)} (hs : ¬ s.isCancelled) :
    ∃ reply s', (s.fetch net.timed client uri explicit = (.error .cancelled, s') ∧
        Takes client [.interrupted request reply] s s' ∧
        ∀ next, s.resume net client (.ask request next) =
          ⟨.error .cancelled, [.interrupted request reply], s'.servers.1⟩) ∨
      s.fetch net.timed client uri explicit = (.ok (client.outcome request reply), s') ∧
        Takes client [.asked request reply] s
          (s'.recordRequest (client.outcome request reply).label) ∧
        ∀ next, s.resume net client (.ask request next) =
          ((s'.recordRequest (client.outcome request reply).label).resume net client
            (next (client.outcome request reply))).behind [.asked request reply] := by
  rcases hreply : net.reply request s.servers.1 with ⟨reply, servers⟩
  have htimed : net.timed.reply request s.servers =
      (reply, servers, s.events ++ [.request request (reply ≠ .silence)]) := by
    simp only [Servers.timed, hreply]
    rfl
  have hplan (next : FetchOutcome → LoadPlan) : s.resume net client (.ask request next) = _ :=
    (LoadPlan.run_ask hreply).trans (if_neg hs)
  unfold fetch
  rw [hsend, htimed, hread]
  simp only [await_reply]
  refine ⟨reply, ?_⟩
  cases hgiven : s.cancellation.endsRequest s.progress (reply = .silence) with
  | true =>
    refine ⟨_, Or.inl ⟨if_pos rfl, ⟨rfl, rfl, rfl⟩, fun next => ?_⟩⟩
    exact (hplan next).trans (if_pos hgiven)
  | false =>
    refine ⟨_, Or.inr ⟨if_neg Bool.false_ne_true, ⟨rfl, rfl, rfl⟩, fun next => ?_⟩⟩
    exact (hplan next).trans (if_neg (by simp [hgiven]))

variable (net : Servers σ)

namespace Walker

variable (w : Walker)

theorem row_follows (base : String) (labels : List (Option String)) :
    Follows net w.client (w.row net.timed base labels) fun next =>
      w.rowPlan base next labels := by
  induction labels with
  | nil => exact fun s => ⟨[], .refl _ s, fun _ => rfl⟩
  | cons label labels ih =>
    intro s
    rw [row]
    unfold rowPlan
    cases hrefusal : Candidate.refusal? base with
    | some reason =>
      rw [Candidate.make_of_refusal? hrefusal, w.prepare_of_refusal? label hrefusal]
      by_cases hs : s.isCancelled
      · rw [if_pos hs]
        exact ⟨[], .refl _ s, fun _ => resume_of_isCancelled net _ hs rfl⟩
      · rw [if_neg hs]
        exact ⟨[.refused (Candidate.refused base reason)], ⟨rfl, rfl, (List.append_nil _).symm⟩,
          fun _ => if_neg hs⟩
    | none =>
      obtain ⟨c, request, hmake, hprepare, hread, hsend⟩ :=
        w.prepare_of_refusal?_eq_none label hrefusal
      simp only [hmake, hprepare]
      by_cases hs : s.isCancelled
      · rw [if_pos hs]
        exact ⟨[], .refl _ s, fun _ => resume_of_isCancelled net _ hs rfl⟩
      · rw [if_neg hs]
        obtain ⟨reply, s', ⟨hfetch, htakes, hplan⟩ | ⟨hfetch, htakes, hplan⟩⟩ :=
          fetch_cases net w.client hread (hsend net.timed) hs
        · rw [hfetch]
          exact ⟨_, htakes, fun _ => hplan _⟩
        · rw [hfetch]
          simp only [hplan]
          generalize w.client.outcome request reply = outcome at htakes
          rcases outcome with ⟨status, _ | e⟩ | _ | failure
          · -- The place is empty: the rest of the row follows.
            obtain ⟨steps, hrest, heq⟩ := ih _
            exact ⟨.asked request reply :: steps, htakes.trans hrest, fun next =>
              (congrArg (LoadRun.behind · [.asked request reply]) (heq next)).trans
                (LoadRun.behind_behind ..)⟩
          · exact ⟨_, htakes, fun _ => rfl⟩
          · exact ⟨_, htakes, fun _ => rfl⟩
          · exact ⟨_, htakes, fun _ => rfl⟩

theorem rows_follows (labels : List (Option String)) (bases : List String)
    (failures : List CandidateFailure) (lastEmpty : Bool) :
    Follows net w.client (w.rows net.timed labels bases failures lastEmpty) fun next =>
      w.rowsPlan labels next bases failures lastEmpty := by
  induction bases generalizing failures lastEmpty with
  | nil => exact fun s => ⟨[], .refl _ s, fun _ => rfl⟩
  | cons base bases ih =>
    intro s
    obtain ⟨steps, hrow, heq⟩ := w.row_follows net base labels s
    unfold rowsPlan
    simp only [rows, heq]
    generalize w.row net.timed base labels s = part at hrow
    rcases part with ⟨e | e, s'⟩
    · exact ⟨steps, hrow, fun _ => rfl⟩
    · cases e with
      | found e => exact ⟨steps, hrow, fun _ => rfl⟩
      | notFound => exact ⟨steps, hrow, fun _ => rfl⟩
      | empty =>
        obtain ⟨more, hrest, hmore⟩ := ih failures true s'
        exact ⟨steps ++ more, hrow.trans hrest, fun next =>
          (congrArg (LoadRun.behind · steps) (hmore next)).trans (LoadRun.behind_behind ..)⟩
      | failed f =>
        obtain ⟨more, hrest, hmore⟩ := ih (failures ++ [f]) false s'
        exact ⟨steps ++ more, hrow.trans hrest, fun next =>
          (congrArg (LoadRun.behind · steps) (hmore next)).trans (LoadRun.behind_behind ..)⟩

theorem walk_follows (bases labels : List String) :
    Follows net w.client (w.walk net.timed bases labels) (w.walkPlan bases labels) :=
  w.rows_follows net (slots labels) bases [] false

end Walker

/-! ## Attempts -/

/-- From here a load goes as its plan says, and ends. -/
def Session.Completes (client : HttpClient) (s : Session (σ × List LoadEvent)) (plan : LoadPlan)
    (ended : Except LoadError WalkOutcome × Session (σ × List LoadEvent)) : Prop :=
  ∃ steps, Takes client steps s ended.2 ∧
    s.resume net client plan = ⟨ended.1, steps, ended.2.servers.1⟩

namespace Session.Completes

variable {net} {client : HttpClient} {s s' : Session (σ × List LoadEvent)} {plan next : LoadPlan}
  {ended : Except LoadError WalkOutcome × Session (σ × List LoadEvent)} {steps : List LoadStep}

theorem ends (client : HttpClient) (s : Session (σ × List LoadEvent))
    (located : Except LoadError WalkOutcome) :
    Completes net client s (.ends located) (located, s) :=
  ⟨[], .refl client s, rfl⟩

theorem behind (h : Completes net client s' next ended) (htakes : Takes client steps s s')
    (hplan : s.resume net client plan = (s'.resume net client next).behind steps) :
    Completes net client s plan ended := by
  obtain ⟨more, hmore, heq⟩ := h
  refine ⟨steps ++ more, htakes.trans hmore, ?_⟩
  rw [hplan, heq]
  rfl

/-- A load that looks and was cancelled is over. -/
theorem of_isCancelled (h : s.isCancelled = true) (hlooks : plan.isCheckpoint = true) :
    Completes net client s plan (.error .cancelled, s) :=
  ⟨[], .refl client s, resume_of_isCancelled net client h hlooks⟩

theorem attempt {number : Nat} (hs : ¬ s.isCancelled)
    (h : Completes net client (s.note (.attempt number)).beginAttempt next ended) :
    Completes net client s (.attempt number next) ended :=
  h.behind (.of_attempt client s number) (resume_attempt net client hs number next)

/-- The end of the last walk. -/
theorem walked_ends {outcome : WalkOutcome} {located : Except LoadError WalkOutcome}
    (hcounted : s'.metrics = s.metrics.noteStep client (.walked outcome))
    (hkept : s'.cancellation = s.cancellation ∧ s'.servers = s.servers) :
    Completes net client s (.walked outcome (.ends located)) (located, s') := by
  obtain ⟨hcancellation, hservers⟩ := hkept
  refine ⟨[.walked outcome], ⟨hcancellation, hcounted, ?_⟩, ?_⟩
  · rw [events, hservers]
    exact (List.append_nil _).symm
  · rw [hservers]
    rfl

/-- The end of a walk behind which the load pauses. -/
theorem walked_exhausted {failures : List CandidateFailure}
    (h : Completes net client s.recordWalkExhausted next ended) :
    Completes net client s (.walked (.exhausted failures) next) ended :=
  h.behind ⟨rfl, rfl, (List.append_nil _).symm⟩ rfl

/-- A pause ends the load, or the load goes on behind it. -/
theorem pause {length : Duration} {goesOn : Bool}
    (hpause : (s.note (.pause length)).pause = (goesOn, s'))
    (h : if goesOn then Completes net client s' next ended else ended = (.error .cancelled, s')) :
    Completes net client s (.pause length next) ended := by
  have hpaused := Takes.of_pause client hpause
  have hplan := resume_pause net client hpause next
  cases goesOn with
  | false =>
    rw [if_neg Bool.false_ne_true] at h hplan
    subst h
    exact ⟨_, hpaused, hplan⟩
  | true =>
    rw [if_pos rfl] at h hplan
    exact h.behind hpaused hplan

end Session.Completes

theorem LoadPlan.ofAttempts_eq (walk : (WalkOutcome → LoadPlan) → LoadPlan) (failFast : Bool)
    {b : Backoff} (left : b.canRetry) :
    ofAttempts walk failFast b left =
      .attempt b.begin.attempt.toNat
        (walk fun outcome => .walked outcome (afterWalk walk failFast b outcome)) := by
  rw [ofAttempts]
  congr 2

namespace Attempts

/-- Attempts go as their plan says.  The induction is on the attempts that are
left, as in the loop. -/
theorem completes_ofAttempts (w : Walker) (bases labels : List String) (failFast : Bool)
    {b : Backoff} (left : b.canRetry) (s : Session (σ × List LoadEvent)) :
    s.Completes net w.client (.ofAttempts (w.walkPlan bases labels) failFast b left)
      ((ofWalk w net.timed bases labels).timed.runFrom failFast b left s) := by
  induction b, left using Backoff.induction_left generalizing s with
  | step b left ih =>
    rw [runFrom_timed, LoadPlan.ofAttempts_eq]
    by_cases hs : s.isCancelled
    · rw [if_pos hs]
      exact .of_isCancelled hs rfl
    rw [if_neg hs]
    refine .attempt hs ?_
    obtain ⟨steps, hwalk, hplan⟩ := w.walk_follows net bases labels
      (s.note (.attempt b.begin.attempt.toNat)).beginAttempt
    replace hplan := hplan fun outcome =>
      .walked outcome (.afterWalk (w.walkPlan bases labels) failFast b outcome)
    generalize w.walk net.timed bases labels
      (s.note (.attempt b.begin.attempt.toNat)).beginAttempt = part at hwalk hplan
    rcases part with ⟨e | e | _ | failures, s'⟩
    · refine ⟨steps, hwalk, hplan.trans ?_⟩
      simp [LoadRun.after, LoadRun.behind]
    · exact .behind (.walked_ends rfl ⟨rfl, rfl⟩) hwalk hplan
    · exact .behind (.walked_ends rfl ⟨rfl, rfl⟩) hwalk hplan
    · -- Another attempt follows behind a pause, if one is left.
      refine .behind ?_ hwalk hplan
      simp only [LoadPlan.afterWalk]
      by_cases more : b.begin.canRetry
      · rw [dif_pos more, dif_pos more]
        refine .walked_exhausted ?_
        rcases hpause : (s'.recordWalkExhausted.note (.pause b.begin.delay)).pause with
          ⟨_ | _, s''⟩
        · exact .pause hpause rfl
        · exact .pause hpause (ih more s'')
      · rw [dif_neg more, dif_neg more]
        exact .walked_ends rfl ⟨rfl, rfl⟩

end Attempts

/-! ## Loads -/

namespace Provider

variable (update : Bool) {c : Cancellation} (p : Provider) (servers : σ)

/-- A load goes as its plan says. -/
theorem completes_plan (c : Cancellation) :
    (p.session c (servers, ([] : List LoadEvent))).Completes net p.client p.plan
      (p.timedAttempts net c servers) :=
  Attempts.completes_ofAttempts net p.walker _ _ _ (Backoff.start_canRetry p.options.retry) _

theorem loadNow_eq_loadRun (c : Cancellation) :
    p.loadNow net update c servers =
      let r := p.loadRun net c servers
      let (result, p) :=
        (p.afterAttempts (p.metrics.noteSteps p.client r.steps)).conclude update r.located
      (result, p, r.servers) := by
  obtain ⟨steps, htakes, hrun⟩ := p.completes_plan net servers c
  rw [show p.loadRun net c servers = _ from hrun, loadNow_eq]
  simp only [htakes.metrics]
  rfl

/-- A load that does not start returns at once. -/
theorem load_of_not_started (h : p.options.enabled = true → c = .atStart) :
    p.load net update c servers =
        (if p.options.enabled then .error .cancelled else .ok none, p, servers) ∧
      p.steps net c servers = [] := by
  unfold load steps
  cases henabled : p.options.enabled with
  | false => exact ⟨rfl, rfl⟩
  | true => simp [h henabled]

theorem load_of_started (henabled : p.options.enabled = true) (hstart : c ≠ .atStart) :
    p.load net update c servers =
        (let r := p.loadRun net c servers
        let (result, p) :=
          (p.afterAttempts (p.metrics.noteSteps p.client r.steps)).conclude update r.located
        (result, p, r.servers)) ∧
      p.steps net c servers = (p.loadRun net c servers).steps := by
  rw [← p.loadNow_eq_loadRun net update servers c]
  simp [load, steps, henabled, hstart]

/-- The timeline of a load is that of its steps. -/
theorem timeline_eq (c : Cancellation) :
    p.timeline net c servers = (p.steps net c servers).filterMap LoadStep.event? := by
  unfold timeline steps
  split
  · rfl
  · obtain ⟨steps, htakes, hrun⟩ := p.completes_plan net servers c
    rw [show p.loadRun net c servers = _ from hrun, htakes.events]
    rfl

end Provider

/-! ## What the servers see -/

/-- Servers that note the requests that reach them, with their replies. -/
def Servers.transcribed (net : Servers σ) : Servers (σ × List (Request × Reply)) where
  reply request s :=
    let (reply, servers) := net.reply request s.1
    (reply, servers, s.2 ++ [(request, reply)])

open LoadStep (exchange?) in
/-- The servers see the requests of a plan, in order, and no others. -/
theorem LoadPlan.run_transcribed (client : HttpClient) (c : Cancellation) (plan : LoadPlan)
    (g : Progress) (s : σ × List (Request × Reply)) :
    plan.run net.transcribed client c g s =
      let r := plan.run net client c g s.1
      ⟨r.located, r.steps, r.servers, s.2 ++ r.steps.filterMap LoadStep.exchange?⟩ := by
  induction plan generalizing g s with
  | ends located => simp [run]
  | attempt number next ih =>
    simp only [run]
    split
    · simp [LoadRun.cancelled]
    · simp [ih, LoadRun.behind, List.filterMap_cons, exchange?]
  | refuse f next ih =>
    simp only [run]
    split
    · simp [LoadRun.cancelled]
    · simp [ih, LoadRun.behind, List.filterMap_cons, exchange?]
  | ask request next ih =>
    rcases hreply : net.reply request s.1 with ⟨reply, servers⟩
    have htranscribed : net.transcribed.reply request s =
        (reply, servers, s.2 ++ [(request, reply)]) := by
      simp only [Servers.transcribed, hreply]
    rw [run_ask hreply, run_ask htranscribed]
    split
    · simp [LoadRun.cancelled]
    · split
      · simp [exchange?]
      · simp [ih, LoadRun.behind, exchange?]
  | walked outcome next ih => simp [run, ih, LoadRun.behind, List.filterMap_cons, exchange?]
  | pause length next ih =>
    simp only [run]
    split
    · simp [List.filterMap_cons, exchange?]
    · simp [ih, LoadRun.behind, List.filterMap_cons, exchange?]

/-! ## How plans end -/

/-- The failure of one of these base addresses, which is malformed. -/
def IsRefusal (bases : List String) (f : CandidateFailure) : Prop :=
  ∃ base ∈ bases, ∃ reason, Candidate.refusal? base = some reason ∧
    f = Candidate.refused base reason

/-- No walk has just ended. -/
def IsNoWalk (last : Option LoadStep) : Prop :=
  last.bind LoadStep.walk? = none

/-- A plan ends only where a walk has just ended, with what that walk has
determined, and looks for a cancellation elsewhere only.  It refuses malformed
base addresses and no others.  `last` is the step before it. -/
def LoadPlan.IsSound (bases : List String) (failFast : Bool) :
    LoadPlan → (last : Option LoadStep) → Prop
  | .ends located, last =>
    ∃ outcome, last = some (.walked outcome) ∧ located = ending failFast (.ok outcome)
  | .attempt number next, last =>
    IsNoWalk last ∧ next.IsSound bases failFast (some (.attempt number))
  | .refuse f next, last =>
    IsNoWalk last ∧ IsRefusal bases f ∧ next.IsSound bases failFast (some (.refused f))
  | .ask request next, last =>
    IsNoWalk last ∧
      ∀ outcome reply, (next outcome).IsSound bases failFast (some (.asked request reply))
  | .walked outcome next, _ => next.IsSound bases failFast (some (.walked outcome))
  | .pause length next, _ => next.IsSound bases failFast (some (.paused length))

section IsSound

variable {bases : List String} {failFast : Bool}

theorem Walker.isSound_rowPlan (w : Walker) {base : String} (hbase : base ∈ bases)
    (labels : List (Option String)) {next : RowEnd → LoadPlan}
    (hnext : ∀ e last, IsNoWalk last → (next e).IsSound bases failFast last)
    {last : Option LoadStep} (hlast : IsNoWalk last) :
    (w.rowPlan base next labels).IsSound bases failFast last := by
  induction labels generalizing last with
  | nil => exact hnext _ last hlast
  | cons label labels ih =>
    unfold rowPlan
    cases hrefusal : Candidate.refusal? base with
    | some reason =>
      rw [w.prepare_of_refusal? label hrefusal]
      exact ⟨hlast, ⟨base, hbase, reason, hrefusal, rfl⟩, hnext _ _ rfl⟩
    | none =>
      obtain ⟨c, request, -, hprepare, -⟩ := w.prepare_of_refusal?_eq_none label hrefusal
      rw [hprepare]
      refine ⟨hlast, fun outcome reply => ?_⟩
      rcases outcome with ⟨status, _ | e⟩ | _ | failure
      · exact ih rfl
      · exact hnext _ _ rfl
      · exact hnext _ _ rfl
      · exact hnext _ _ rfl

theorem Walker.isSound_rowsPlan (w : Walker) (labels : List (Option String))
    {next : WalkOutcome → LoadPlan}
    (hnext : ∀ outcome last, (next outcome).IsSound bases failFast last) {rest : List String}
    (hrest : ∀ base ∈ rest, base ∈ bases) (failures : List CandidateFailure) (lastEmpty : Bool)
    {last : Option LoadStep} (hlast : IsNoWalk last) :
    (w.rowsPlan labels next rest failures lastEmpty).IsSound bases failFast last := by
  induction rest generalizing failures lastEmpty last with
  | nil => exact hnext _ last
  | cons base rest ih =>
    obtain ⟨hbase, hrest⟩ := List.forall_mem_cons.1 hrest
    refine w.isSound_rowPlan hbase labels (fun e last hlast => ?_) hlast
    cases e with
    | found e => exact hnext _ last
    | notFound => exact hnext _ last
    | empty => exact ih hrest _ _ hlast
    | failed f => exact ih hrest _ _ hlast

/-- The induction is on the attempts that are left. -/
theorem LoadPlan.isSound_ofAttempts (w : Walker) (labels : List String) {b : Backoff}
    (left : b.canRetry) {last : Option LoadStep} (hlast : IsNoWalk last) :
    (ofAttempts (w.walkPlan bases labels) failFast b left).IsSound bases failFast last := by
  induction b, left using Backoff.induction_left generalizing last with
  | step b left ih =>
    rw [ofAttempts_eq]
    refine ⟨hlast, w.isSound_rowsPlan _ (fun outcome last => ?_) (fun _ h => h) [] false rfl⟩
    show (afterWalk _ failFast b outcome).IsSound bases failFast (some (.walked outcome))
    cases outcome with
    | found e => exact ⟨_, rfl, rfl⟩
    | noContent => exact ⟨_, rfl, rfl⟩
    | exhausted failures =>
      unfold afterWalk
      simp only
      split
      · exact ih ‹_› rfl
      · exact ⟨_, rfl, rfl⟩

/-- A load whose last step was this one, if it took any, was cancelled where no
walk had just ended, or ends with what its last walk has determined. -/
def EndsAfter (failFast : Bool) (last : Option LoadStep)
    (located : Except LoadError WalkOutcome) : Prop :=
  located = .error .cancelled ∧ IsNoWalk last ∨
    ∃ outcome, last = some (.walked outcome) ∧ located = ending failFast (.ok outcome)

/-- The run of a sound plan. -/
structure LoadRun.IsSound (bases : List String) (failFast : Bool) (last : Option LoadStep)
    (r : LoadRun σ) : Prop where
  refused : ∀ f, .refused f ∈ r.steps → IsRefusal bases f
  ended : EndsAfter failFast (r.steps.getLast?.or last) r.located

namespace LoadRun.IsSound

theorem behind {r : LoadRun σ} {step : LoadStep} {last : Option LoadStep}
    (h : r.IsSound bases failFast (some step))
    (hstep : ∀ f, step = .refused f → IsRefusal bases f) :
    (r.behind [step]).IsSound bases failFast last where
  refused f hf := by
    rcases List.mem_cons.1 hf with hf | hf
    · exact hstep f hf.symm
    · exact h.refused f hf
  ended := by
    have hlast : (r.behind [step]).steps.getLast?.or last = r.steps.getLast?.or (some step) := by
      simp [LoadRun.behind, List.getLast?_cons]
    rw [hlast]
    exact h.ended

/-- A load that looks was cancelled before its next step. -/
theorem of_look {last : Option LoadStep} (hlast : IsNoWalk last) (servers : σ) :
    (LoadRun.cancelled servers).IsSound bases failFast last where
  refused _ hf := nomatch hf
  ended := Or.inl ⟨rfl, hlast⟩

theorem of_wait {wait : LoadStep} (hwait : wait.walk? = none)
    (hrefused : ∀ f, wait ≠ .refused f) (servers : σ) (last : Option LoadStep) :
    (⟨.error .cancelled, [wait], servers⟩ : LoadRun σ).IsSound bases failFast last where
  refused f hf := absurd (List.mem_singleton.1 hf).symm (hrefused f)
  ended := Or.inl ⟨rfl, hwait⟩

end LoadRun.IsSound

theorem LoadPlan.isSound_run (client : HttpClient) (c : Cancellation) {plan : LoadPlan}
    {last : Option LoadStep} (h : plan.IsSound bases failFast last) (g : Progress) (servers : σ) :
    (plan.run net client c g servers).IsSound bases failFast last := by
  induction plan generalizing last g servers with
  | ends located =>
    obtain ⟨outcome, hlast, hlocated⟩ := h
    exact ⟨by simp [run], Or.inr ⟨outcome, by simp [run, hlast], hlocated⟩⟩
  | attempt number next ih =>
    rw [run]
    split
    · exact .of_look h.1 servers
    · exact (ih h.2 ..).behind (by simp)
  | refuse f next ih =>
    rw [run]
    split
    · exact .of_look h.1 servers
    · refine (ih h.2.2 ..).behind fun f' hf => ?_
      obtain rfl : f = f' := by simpa using hf
      exact h.2.1
  | ask request next ih =>
    rw [run_ask rfl]
    split
    · exact .of_look h.1 servers
    · split
      · exact .of_wait rfl (by simp) _ _
      · exact (ih _ (h.2 _ _) ..).behind (by simp)
  | walked outcome next ih => exact (ih h ..).behind (by simp)
  | pause length next ih =>
    rw [run]
    split
    · exact .of_wait rfl (by simp) _ _
    · exact (ih h ..).behind (by simp)

end IsSound

/-- The base addresses of a provider. -/
def Provider.baseAddresses (p : Provider) : List String :=
  (Discovery.baseUris p.locator p.options.discovery.enabled p.options.discovery.serviceId
    p.options.uris).1

theorem Provider.plan_eq (p : Provider) :
    p.plan = .ofAttempts (p.walker.walkPlan p.baseAddresses p.options.labels) p.options.failFast
      (.start p.options.retry) (Backoff.start_canRetry p.options.retry) := by
  unfold plan baseAddresses
  with_reducible rfl

theorem Provider.isSound_loadRun (c : Cancellation) (p : Provider) (servers : σ) :
    (p.loadRun net c servers).IsSound p.baseAddresses p.options.failFast none :=
  LoadPlan.isSound_run net p.client c
    (LoadPlan.isSound_ofAttempts p.walker p.options.labels
      (Backoff.start_canRetry p.options.retry) (show IsNoWalk none from rfl)) {} servers

end RemoteConfig
