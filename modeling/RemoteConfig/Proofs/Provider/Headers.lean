import Mathlib.Data.List.Forall2
import RemoteConfig.Proofs.Provider.Courses

/-!
# Loads that differ in headers

What a load does depends on the replies to its requests, and not on the headers
that it sends.  Two loads that ask the same addresses and get the same replies
take the same steps, up to the headers of their requests, and end alike.

* `LoadPlan.SameButHeaders` relates plans, and `LoadStep.SameButHeaders` steps.
* `LoadPlan.SameButHeaders.run` is the result about runs of plans.
* `Walker.sameButHeaders_ofAttempts` says that the plans of attempts differ in
  headers only if their walkers differ in client and credentials.
-/

namespace RemoteConfig

variable {σ τ : Type}

/-! ## Steps -/

/-- The steps are the same, except for the headers of their requests. -/
inductive LoadStep.SameButHeaders : LoadStep → LoadStep → Prop where
  | same (step : LoadStep) : SameButHeaders step step
  | asked {request request' : Request} (hurl : request.url = request'.url) (reply : Reply) :
    SameButHeaders (.asked request reply) (.asked request' reply)

/-- Outcomes do not depend on headers. -/
theorem HttpClient.outcome_congr {client client' : HttpClient}
    (htimeout : client.timeout = client'.timeout) {request request' : Request}
    (hurl : request.url = request'.url) (reply : Reply) :
    client.outcome request reply = client'.outcome request' reply := by
  rw [outcome, outcome, hurl, timedOut, timedOut, htimeout]

/-- Steps count alike. -/
theorem Metrics.noteSteps_sameButHeaders {client client' : HttpClient}
    (htimeout : client.timeout = client'.timeout) {steps steps' : List LoadStep}
    (h : List.Forall₂ LoadStep.SameButHeaders steps steps') (m : Metrics) :
    m.noteSteps client steps = m.noteSteps client' steps' := by
  induction h generalizing m with
  | nil => rfl
  | @cons step step' steps steps' hstep _ ih =>
    have hlabel : step.requestLabel? client = step'.requestLabel? client' := by
      cases hstep with
      | same step =>
        cases step with
        | asked request reply =>
          exact congrArg (some ·.label) (client.outcome_congr htimeout rfl reply)
        | _ => rfl
      | asked hurl reply => exact congrArg (some ·.label) (client.outcome_congr htimeout hurl reply)
    have hexhausted : step.isExhausted = step'.isExhausted := by
      cases hstep <;> rfl
    have hnote : m.noteStep client step = m.noteStep client' step' := by
      rw [noteStep, noteStep, hlabel, hexhausted]
    exact (congrArg (Metrics.noteSteps client · steps) hnote).trans (ih _)

/-! ## Plans -/

namespace LoadPlan

/-- The plans are the same, except for the headers of their requests. -/
inductive SameButHeaders : LoadPlan → LoadPlan → Prop where
  | ends (located : Except LoadError WalkOutcome) : SameButHeaders (.ends located) (.ends located)
  | attempt (number : Nat) {next next' : LoadPlan} (h : SameButHeaders next next') :
    SameButHeaders (.attempt number next) (.attempt number next')
  | refuse (failure : CandidateFailure) {next next' : LoadPlan} (h : SameButHeaders next next') :
    SameButHeaders (.refuse failure next) (.refuse failure next')
  | ask {request request' : Request} (hurl : request.url = request'.url)
    {next next' : FetchOutcome → LoadPlan}
    (h : ∀ outcome, SameButHeaders (next outcome) (next' outcome)) :
    SameButHeaders (.ask request next) (.ask request' next')
  | walked (outcome : WalkOutcome) {next next' : LoadPlan} (h : SameButHeaders next next') :
    SameButHeaders (.walked outcome next) (.walked outcome next')
  | pause (length : Duration) {next next' : LoadPlan} (h : SameButHeaders next next') :
    SameButHeaders (.pause length next) (.pause length next')

/-- The replies that a load gets from servers. -/
def replies (net : Servers σ) (client : HttpClient) (plan : LoadPlan) (servers : σ) : List Reply :=
  (plan.run net client .never {} servers).steps.filterMap LoadStep.reply?

variable (net : Servers σ) (client : HttpClient)

theorem replies_ask {request : Request} {next : FetchOutcome → LoadPlan} {servers servers' : σ}
    {reply : Reply} (h : net.reply request servers = (reply, servers')) :
    (ask request next).replies net client servers =
      reply :: (next (client.outcome request reply)).replies net client servers' := by
  rw [replies, run_never_ask net client h]
  rfl

theorem replies_pause (length : Duration) (next : LoadPlan) (servers : σ) :
    (pause length next).replies net client servers = next.replies net client servers := by
  rw [replies, run_never_pause]
  rfl

/-- With the same replies the plans are followed alike.  The servers may be
others. -/
theorem SameButHeaders.run {plan plan' : LoadPlan} (h : SameButHeaders plan plan')
    {client client' : HttpClient} (htimeout : client.timeout = client'.timeout)
    (net : Servers σ) (net' : Servers τ) (servers : σ) (servers' : τ)
    (hreplies : plan.replies net client servers = plan'.replies net' client' servers') :
    let r := plan.run net client .never {} servers
    let r' := plan'.run net' client' .never {} servers'
    r.located = r'.located ∧ List.Forall₂ LoadStep.SameButHeaders r.steps r'.steps := by
  induction h generalizing servers servers' with
  | ends located => exact ⟨rfl, .nil⟩
  | attempt _ _ ih =>
    unfold replies at hreplies
    rw [run_never_attempt, run_never_attempt] at hreplies ⊢
    obtain ⟨hlocated, hsteps⟩ := ih servers servers' hreplies
    exact ⟨hlocated, .cons (.same _) hsteps⟩
  | refuse _ _ ih =>
    unfold replies at hreplies
    rw [run_never_refuse, run_never_refuse] at hreplies ⊢
    obtain ⟨hlocated, hsteps⟩ := ih servers servers' hreplies
    exact ⟨hlocated, .cons (.same _) hsteps⟩
  | walked _ _ ih =>
    unfold replies at hreplies
    rw [run_never_walked, run_never_walked] at hreplies ⊢
    obtain ⟨hlocated, hsteps⟩ := ih servers servers' hreplies
    exact ⟨hlocated, .cons (.same _) hsteps⟩
  | @ask request request' hurl next next' _ ih =>
    rcases hnet : net.reply request servers with ⟨reply, left⟩
    rcases hnet' : net'.reply request' servers' with ⟨reply', left'⟩
    rw [replies_ask net client hnet, replies_ask net' client' hnet', List.cons.injEq] at hreplies
    obtain ⟨rfl, hrest⟩ := hreplies
    rw [run_never_ask net client hnet, run_never_ask net' client' hnet']
    rw [← client.outcome_congr htimeout hurl reply] at hrest ⊢
    obtain ⟨hlocated, hsteps⟩ := ih _ left left' hrest
    exact ⟨hlocated, .cons (.asked hurl reply) hsteps⟩
  | pause length _ ih =>
    rw [replies_pause, replies_pause] at hreplies
    rw [run_never_pause, run_never_pause]
    obtain ⟨hlocated, hsteps⟩ := ih servers servers' hreplies
    exact ⟨hlocated, .cons (.same _) hsteps⟩

end LoadPlan

/-! ## Walks and attempts -/

namespace Walker

variable {w w' : Walker}

/-- Both walkers ask the same address, or find the same fault with the base. -/
theorem prepare_congr (hname : w.name = w'.name) (hprofile : w.profile = w'.profile)
    (base : String) (label : Option String) :
    (∃ failure, w.prepare base label = .error failure ∧ w'.prepare base label = .error failure) ∨
      ∃ uri request request', w.prepare base label = .ok (uri, request) ∧
        w'.prepare base label = .ok (uri, request') ∧ request.url = request'.url := by
  unfold prepare
  rw [← hname, ← hprofile]
  cases Candidate.make base w.name w.profile label with
  | error failure => exact Or.inl ⟨_, rfl, rfl⟩
  | ok c =>
    simp only
    cases Url.read c.uri with
    | error fault => exact Or.inl ⟨_, rfl, rfl⟩
    | ok url =>
      simp only
      split
      · exact Or.inr ⟨_, _, _, rfl, rfl, rfl⟩
      · exact Or.inl ⟨_, rfl, rfl⟩

variable (hname : w.name = w'.name) (hprofile : w.profile = w'.profile)

include hname hprofile

theorem sameButHeaders_rowPlan (base : String) {next next' : RowEnd → LoadPlan}
    (hnext : ∀ e, LoadPlan.SameButHeaders (next e) (next' e)) (labels : List (Option String)) :
    LoadPlan.SameButHeaders (w.rowPlan base next labels) (w'.rowPlan base next' labels) := by
  induction labels with
  | nil => exact hnext .empty
  | cons label labels ih =>
    unfold rowPlan
    obtain ⟨failure, hw, hw'⟩ | ⟨uri, request, request', hw, hw', hurl⟩ :=
      prepare_congr hname hprofile base label
    · rw [hw, hw']
      exact .refuse failure (hnext (.failed failure))
    · rw [hw, hw']
      refine .ask hurl fun outcome => ?_
      rcases outcome with ⟨status, _ | e⟩ | _ | failure
      · exact ih
      · exact hnext (.found e)
      · exact hnext .notFound
      · exact hnext (.failed ⟨uri, failure⟩)

theorem sameButHeaders_rowsPlan (labels : List (Option String))
    {next next' : WalkOutcome → LoadPlan}
    (hnext : ∀ outcome, LoadPlan.SameButHeaders (next outcome) (next' outcome))
    (bases : List String) (failures : List CandidateFailure) (lastEmpty : Bool) :
    LoadPlan.SameButHeaders (w.rowsPlan labels next bases failures lastEmpty)
      (w'.rowsPlan labels next' bases failures lastEmpty) := by
  induction bases generalizing failures lastEmpty with
  | nil => exact hnext _
  | cons base bases ih =>
    unfold rowsPlan
    refine sameButHeaders_rowPlan hname hprofile base (fun e => ?_) labels
    cases e with
    | found e => exact hnext (.found e)
    | notFound => exact hnext .noContent
    | empty => exact ih failures true
    | failed f => exact ih (failures ++ [f]) false

theorem sameButHeaders_walkPlan (bases labels : List String) {next next' : WalkOutcome → LoadPlan}
    (hnext : ∀ outcome, LoadPlan.SameButHeaders (next outcome) (next' outcome)) :
    LoadPlan.SameButHeaders (w.walkPlan bases labels next) (w'.walkPlan bases labels next') :=
  sameButHeaders_rowsPlan hname hprofile (slots labels) hnext bases [] false

/-- The induction is on the attempts that are left. -/
theorem sameButHeaders_ofAttempts (bases labels : List String) (failFast : Bool) {b : Backoff}
    (left : b.canRetry) :
    LoadPlan.SameButHeaders (.ofAttempts (w.walkPlan bases labels) failFast b left)
      (.ofAttempts (w'.walkPlan bases labels) failFast b left) := by
  induction b, left using Backoff.induction_left with
  | step b left ih =>
    rw [LoadPlan.ofAttempts_eq, LoadPlan.ofAttempts_eq]
    refine .attempt _ (sameButHeaders_walkPlan hname hprofile bases labels fun outcome => ?_)
    refine .walked outcome ?_
    cases outcome with
    | found e => exact .ends _
    | noContent => exact .ends _
    | exhausted failures =>
      unfold LoadPlan.afterWalk
      simp only
      split
      · rename_i more
        exact .pause _ (ih more)
      · exact .ends _

end Walker

end RemoteConfig
