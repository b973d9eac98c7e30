import RemoteConfig.Proofs.Options.Validation
import RemoteConfig.Proofs.Provider.Ledger
import RemoteConfig.Proofs.Retry.Backoff

/-!
# Loads with valid options

Where every base address can be asked, a load refuses none of them, and an
exhausted walk has asked someone.

* `LoadPlan.Asks` says so of a plan, with one lemma for each loop that makes
  plans, and `LoadPlan.forall_steps` of the steps of its runs.
* `count_invalidUri_run` is the consequence for the counters of a provider.
* `accepted_options` puts it together with the rules for options.
-/

namespace RemoteConfig

variable {σ : Type}

/-! ## Failures of servers -/

/-- A failure of a server that was asked. -/
def FetchFailure.IsOfAnswer (f : FetchFailure) : Prop :=
  ∀ uri reason, f ≠ .invalidUri uri reason

theorem FetchFailure.isOfAnswer_of_label {f : FetchFailure} (h : f.label ≠ "invalid_uri") :
    f.IsOfAnswer := by
  rintro uri reason rfl
  exact h rfl

/-- Some servers were asked, and all of them failed. -/
structure AreOfAnswers (failures : List CandidateFailure) : Prop where
  ne_nil : failures ≠ []
  answers : ∀ f ∈ failures, f.failure.IsOfAnswer

/-- No base address is refused in a step, and a walk that ends exhausted in it has
asked someone. -/
def LoadStep.IsAsking : LoadStep → Prop
  | refused _ => False
  | walked outcome => ∀ failures, outcome = .exhausted failures → AreOfAnswers failures
  | _ => True

/-- A step that asks does not count as a malformed address. -/
theorem LoadStep.IsAsking.requestLabel?_ne {step : LoadStep} (h : step.IsAsking)
    (client : HttpClient) : step.requestLabel? client ≠ some "invalid_uri" := by
  cases step with
  | refused f => exact h.elim
  | asked request reply => simpa [requestLabel?] using client.label_outcome_ne request reply
  | attempt number => simp [requestLabel?]
  | interrupted request reply => simp [requestLabel?]
  | walked outcome => simp [requestLabel?]
  | paused length => simp [requestLabel?]

/-! ## Plans -/

/-- A plan refuses no base address, whatever the servers answer, and its exhausted
walks have asked someone. -/
def LoadPlan.Asks : LoadPlan → Prop
  | .ends _ => True
  | .attempt _ next => next.Asks
  | .refuse _ _ => False
  | .ask _ next => ∀ outcome : FetchOutcome, outcome.label ≠ "invalid_uri" → (next outcome).Asks
  | .walked outcome next => (LoadStep.walked outcome).IsAsking ∧ next.Asks
  | .pause _ next => next.Asks

section

variable {bases : List String}

/-- The induction is on the labels of the row. -/
theorem Walker.asks_rowPlan (w : Walker) {base : String} (hbase : Candidate.refusal? base = none)
    (labels : List (Option String)) {next : RowEnd → LoadPlan}
    (hnext : ∀ e, (∀ f, e = .failed f → f.failure.IsOfAnswer) → (next e).Asks) :
    (w.rowPlan base next labels).Asks := by
  induction labels with
  | nil => exact hnext .empty fun f h => nomatch h
  | cons label labels ih =>
    obtain ⟨c, request, -, hprepare, -⟩ := w.prepare_of_refusal?_eq_none label hbase
    rw [rowPlan, hprepare]
    intro outcome houtcome
    rcases outcome with ⟨status, _ | e⟩ | _ | failure
    · exact ih
    · exact hnext (.found e) fun f h => nomatch h
    · exact hnext .notFound fun f h => nomatch h
    · apply hnext
      rintro f ⟨⟩
      exact FetchFailure.isOfAnswer_of_label houtcome

/-- The induction is on the base addresses that are left.  Unless there is one,
the last row was empty or some row has failed. -/
theorem Walker.asks_rowsPlan (w : Walker) (labels : List (Option String))
    {next : WalkOutcome → LoadPlan}
    (hnext : ∀ outcome, (LoadStep.walked outcome).IsAsking → (next outcome).Asks)
    {rest : List String} (hrest : ∀ base ∈ rest, Candidate.refusal? base = none)
    {failures : List CandidateFailure} {lastEmpty : Bool}
    (hfailures : ∀ f ∈ failures, f.failure.IsOfAnswer)
    (hsome : rest ≠ [] ∨ lastEmpty = true ∨ failures ≠ []) :
    (w.rowsPlan labels next rest failures lastEmpty).Asks := by
  induction rest generalizing failures lastEmpty with
  | nil =>
    apply hnext
    intro failures' hexhausted
    rcases hsome with hnil | hlast | hne
    · exact absurd rfl hnil
    · rw [if_pos hlast] at hexhausted
      cases hexhausted
    · cases lastEmpty with
      | true => cases hexhausted
      | false =>
        obtain rfl : failures = failures' := WalkOutcome.exhausted.inj hexhausted
        exact ⟨hne, hfailures⟩
  | cons base rest ih =>
    obtain ⟨hbase, hrest⟩ := List.forall_mem_cons.1 hrest
    refine w.asks_rowPlan hbase labels fun e he => ?_
    cases e with
    | found e => exact hnext _ fun failures h => nomatch h
    | notFound => exact hnext _ fun failures h => nomatch h
    | empty => exact ih hrest hfailures (Or.inr (Or.inl rfl))
    | failed f =>
      refine ih hrest ?_ (Or.inr (Or.inr (by simp)))
      intro f' hf'
      rcases List.mem_append.1 hf' with hf' | hf'
      · exact hfailures f' hf'
      · obtain rfl := List.mem_singleton.1 hf'
        exact he _ rfl

/-- The induction is on the attempts that are left. -/
theorem LoadPlan.asks_ofAttempts (w : Walker) (labels : List String) (failFast : Bool)
    (hbases : ∀ base ∈ bases, Candidate.refusal? base = none) (hne : bases ≠ []) {b : Backoff}
    (left : b.canRetry) : (ofAttempts (w.walkPlan bases labels) failFast b left).Asks := by
  induction b, left using Backoff.induction_left with
  | step b left ih =>
    rw [ofAttempts_eq]
    refine w.asks_rowsPlan _ (fun outcome houtcome => ?_) hbases (by simp) (Or.inl hne)
    show (LoadStep.walked outcome).IsAsking ∧ (afterWalk _ failFast b outcome).Asks
    refine ⟨houtcome, ?_⟩
    cases outcome with
    | found e => trivial
    | noContent => trivial
    | exhausted failures =>
      unfold afterWalk
      simp only
      split
      · exact ih ‹_›
      · trivial

theorem LoadRun.forall_steps_behind {P : LoadStep → Prop} {r : LoadRun σ} {first : LoadStep} :
    (∀ step ∈ (r.behind [first]).steps, P step) ↔ P first ∧ ∀ step ∈ r.steps, P step := by
  simp [behind]

/-- Every step in a run of such a plan asks. -/
theorem LoadPlan.forall_steps (net : Servers σ) (client : HttpClient) (c : Cancellation)
    {plan : LoadPlan} (h : plan.Asks) (g : Progress) (servers : σ) :
    ∀ step ∈ (plan.run net client c g servers).steps, step.IsAsking := by
  induction plan generalizing g servers with
  | ends located => exact List.forall_mem_nil _
  | attempt number next ih =>
    rw [run]
    split
    · exact List.forall_mem_nil _
    · rw [LoadRun.forall_steps_behind]
      exact ⟨trivial, ih h _ _⟩
  | refuse f next ih => exact h.elim
  | ask request next ih =>
    rw [run_ask rfl]
    split
    · exact List.forall_mem_nil _
    · split
      · exact List.forall_mem_singleton.2 trivial
      · rw [LoadRun.forall_steps_behind]
        exact ⟨trivial, ih _ (h _ (client.label_outcome_ne _ _)) _ _⟩
  | walked outcome next ih =>
    rw [run, LoadRun.forall_steps_behind]
    exact ⟨h.1, ih h.2 _ _⟩
  | pause length next ih =>
    rw [run]
    split
    · exact List.forall_mem_singleton.2 trivial
    · rw [LoadRun.forall_steps_behind]
      exact ⟨trivial, ih h _ _⟩

end

/-! ## Loads -/

/-- Every base address of a provider can be asked, and there is one. -/
structure Provider.CanAsk (p : Provider) : Prop where
  bases : ∀ base ∈ p.baseAddresses, Candidate.refusal? base = none
  ne_nil : p.baseAddresses ≠ []

/-- Without a registry, what valid options name can be asked. -/
theorem Provider.canAsk_of_isValid {p : Provider} (h : p.options.validate.isValid = true)
    (hdiscovery : p.options.discovery.enabled = false) : p.CanAsk := by
  have hbases : p.baseAddresses = p.options.uris := by
    unfold baseAddresses Discovery.baseUris
    rw [hdiscovery]
    rfl
  constructor
  · rw [hbases]
    exact ClientOptions.refusal?_of_isValid h
  · rw [hbases]
    exact ClientOptions.uris_ne_nil_of_isValid h hdiscovery

namespace StartedLoad

variable (net : Servers σ) {l : StartedLoad σ} (hcan : l.provider.CanAsk)

include hcan

theorem isAsking : ∀ step ∈ l.steps net, step.IsAsking := by
  have hplan : l.provider.plan.Asks := by
    rw [Provider.plan_eq]
    exact LoadPlan.asks_ofAttempts _ _ _ hcan.bases hcan.ne_nil _
  unfold steps Provider.steps
  split
  · exact fun step hmem => nomatch hmem
  · exact LoadPlan.forall_steps net l.provider.client l.call.cancellation hplan {} l.servers

theorem countP_invalidUri (client : HttpClient) :
    ((l.steps net).countP fun step => step.requestLabel? client = some "invalid_uri") = 0 := by
  rw [List.countP_eq_zero]
  intro step hstep
  simpa using (isAsking net hcan step hstep).requestLabel?_ne client

theorem count_invalidUri :
    Metrics.count (l.after net).metrics.requests "invalid_uri" =
      Metrics.count l.provider.metrics.requests "invalid_uri" := by
  by_cases hstarts : l.provider.options.enabled = true ∧ l.call.cancellation ≠ .atStart
  · rw [(isCounted net hstarts.1 hstarts.2).requests, countP_invalidUri net hcan]
    rfl
  · rw [after, (l.provider.load_of_not_started net l.call.update l.servers
      (by simpa using hstarts)).1]

/-- The failures of a load that ended in an error are those of servers. -/
theorem areOfAnswers {failures : List CandidateFailure}
    (herror : l.result net = .error (.exhausted failures)) : AreOfAnswers failures := by
  by_cases hstarts : l.provider.options.enabled = true ∧ l.call.cancellation ≠ .atStart
  · have hends := endsAs net hstarts.1 hstarts.2
    rw [herror] at hends
    generalize hlast : (l.steps net).getLast? = last, l.label net = label at hends
    cases hends with
    | raised h failures =>
      exact isAsking net hcan _ (List.mem_of_getLast? hlast) failures rfl
  · have hnot := (l.provider.load_of_not_started net l.call.update l.servers
      (by simpa using hstarts)).1
    rw [result, hnot] at herror
    simp only at herror
    split at herror <;> cases herror

end StartedLoad

/-! ## Runs -/

theorem options_of_mem_startedLoads {net : Servers σ} {ops : List (Operation σ)} {p : Provider}
    {servers : σ} (hpolls : p.PollsIfEnabled) {l : StartedLoad σ}
    (hl : l ∈ startedLoads net ops (p, servers)) : l.provider.options = p.options := by
  induction ops generalizing p servers with
  | nil => cases hl
  | cons op ops ih =>
    rw [startedLoads, List.mem_append] at hl
    rcases hl with hl | hl
    · have hprovider : l.provider = p := by
        rw [Option.mem_toList, Operation.started?] at hl
        split at hl
        · split at hl
          · cases hl
            rfl
          · cases hl
        · cases hl
      rw [hprovider]
    · rw [ih (op.apply_pollsIfEnabled net hpolls servers) hl]
      exact op.apply_options net hpolls servers

/-- A provider with valid options never counts a malformed address. -/
theorem count_invalidUri_run {o : ClientOptions} (h : o.validate.isValid = true)
    (hdiscovery : o.discovery.enabled = false) (locator : Option Locator) (net : Servers σ)
    (ops : List (Operation σ)) (servers : σ) :
    Metrics.count (run net ops (.ofOptions o locator, servers)).1.metrics.requests
      "invalid_uri" = 0 := by
  have hpolls : (Provider.ofOptions o locator).PollsIfEnabled := fun h => by cases h
  have hledger := (IsLedger.ofOptions net o locator).run hpolls ops servers
  rw [List.nil_append] at hledger
  rw [hledger.requests, List.countP_eq_zero]
  intro step hstep
  obtain ⟨l, hl, hstep⟩ := List.mem_flatMap.1 hstep
  have hoptions : l.provider.options = o := options_of_mem_startedLoads hpolls hl
  have hcan : l.provider.CanAsk := by
    apply Provider.canAsk_of_isValid
    · rw [hoptions]
      exact h
    · rw [hoptions]
      exact hdiscovery
  simpa using (l.isAsking net hcan step hstep).requestLabel?_ne (.ofOptions o)

/-- The rules for options and the walks agree on base addresses.  A base address
has an error exactly if a candidate fails on it, for every name, profile and
label.  With valid options and without a registry, no load refuses an address
or counts one as malformed, every exhausted walk and every error of a load
names a failure, none of them for a malformed address, and retries follow the
options to the letter. -/
theorem validate_agrees (o : ClientOptions) :
    (∀ index name profile label,
      (∃ issue ∈ o.connectionIssues,
        issue.severity = .error ∧ issue.key = ClientOptions.uriKey index) ↔
      ∃ base failure, o.uris[index]? = some base ∧
        Candidate.make base name profile label = .error failure) ∧
    (o.validate.isValid = true → o.discovery.enabled = false →
      (∀ {σ : Type} (net : Servers σ) (l : StartedLoad σ), l.provider.options = o →
        Metrics.count (l.after net).metrics.requests "invalid_uri" =
          Metrics.count l.provider.metrics.requests "invalid_uri" ∧
        (∀ f, .refused f ∉ l.steps net) ∧
        (∀ failures, .walked (.exhausted failures) ∈ l.steps net → AreOfAnswers failures) ∧
        (∀ failures, l.result net = .error (.exhausted failures) → AreOfAnswers failures)) ∧
      (∀ {σ : Type} (locator : Option Locator) (net : Servers σ) (ops : List (Operation σ))
        (servers : σ),
        Metrics.count (run net ops (.ofOptions o locator, servers)).1.metrics.requests
          "invalid_uri" = 0) ∧
      (o.retry.enabled = true →
        (Backoff.start o.retry).begin.delay = .ofMillis o.retry.initialInterval.toNat ∧
        ∀ b, Backoff.Arises o.retry b → b.FollowsOptions o.retry)) := by
  refine ⟨fun index name profile label => ?_, fun h hdiscovery => ⟨?_, ?_, ?_⟩⟩
  · rw [ClientOptions.exists_uriIssue_iff]
    simp only [← ClientOptions.exists_failure_iff _ name profile label, exists_and_left]
  · intro σ net l hoptions
    subst hoptions
    have hcan := Provider.canAsk_of_isValid h hdiscovery
    have hasking := l.isAsking net hcan
    exact ⟨l.count_invalidUri net hcan, fun f hf => hasking _ hf,
      fun failures hmem => hasking _ hmem failures rfl,
      fun failures herror => l.areOfAnswers net hcan herror⟩
  · intro σ locator net ops servers
    exact count_invalidUri_run h hdiscovery locator net ops servers
  · intro henabled
    have hexact := ClientOptions.isExact_of_isValid h
    exact ⟨Backoff.delay_start hexact,
      fun b hb => Backoff.followsOptions_of_arises hb henabled hexact⟩

/-- Options for one server, with retries, that the rules accept. -/
def retryingOptions : ClientOptions where
  uri := "http://[::1]:8888"
  retry := { enabled := true }

/-- A load of a provider with these options, whose server does not answer, and one
of the backoff's later states. -/
theorem validate_agrees_retrying :
    retryingOptions.validate.isValid = true ∧ retryingOptions.discovery.enabled = false ∧
    retryingOptions.retry.enabled = true ∧
    (let net : Servers Unit := ⟨fun _ s => (.silence, s)⟩
    let l : StartedLoad Unit := ⟨⟨true, .never⟩, .ofOptions retryingOptions, ()⟩
    ∀ f, .refused f ∉ l.steps net) ∧
    (Backoff.start retryingOptions.retry).begin.grow.begin.FollowsOptions
      retryingOptions.retry := by
  have hvalid : retryingOptions.validate.isValid = true := by decide +kernel
  have hdiscovery : retryingOptions.discovery.enabled = false := rfl
  have henabled : retryingOptions.retry.enabled = true := rfl
  obtain ⟨hloads, -, hretry⟩ := (validate_agrees retryingOptions).2 hvalid hdiscovery
  exact ⟨hvalid, hdiscovery, henabled, (hloads _ _ rfl).2.1,
    (hretry henabled).2 _ (.begin (.grow (.begin .start)))⟩

end RemoteConfig
