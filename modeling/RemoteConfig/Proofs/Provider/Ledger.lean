import RemoteConfig.Proofs.Provider.Content
import RemoteConfig.Proofs.Provider.Plan

/-!
# Counters agree with what happened

Every counter of a provider is a sum over the loads that have started, and the
gauge of keys is the size of the snapshot.

* Steps.  `count_noteSteps` is what the steps of a load add to the counters.
* Loads.  `StartedLoad` is a load that obtained the lock, with all that it
  started from.  `IsCounted` says what it adds to each counter, and under which
  label it counts.
* Runs.  `IsLedger` says that the counters of a provider are the sums over the
  loads that have started so far, and `IsLedger.run` that every run keeps to that.
-/

namespace RemoteConfig

variable {σ : Type}

/-! ## Steps -/

namespace Metrics

/-- Steps count as requests and exhausted walks only. -/
theorem noteSteps_frame (client : HttpClient) (m : Metrics) (steps : List LoadStep) :
    ∃ requests walksExhausted, m.noteSteps client steps = { m with requests, walksExhausted } := by
  induction steps generalizing m with
  | nil => exact ⟨_, _, rfl⟩
  | cons step steps ih =>
    obtain ⟨requests, walksExhausted, h⟩ := ih (m.noteStep client step)
    refine ⟨requests, walksExhausted, h.trans ?_⟩
    unfold noteStep
    split
    · rfl
    · split <;> rfl

/-- Each step counts under its own label, if it has one. -/
theorem count_noteSteps (client : HttpClient) (m : Metrics) (steps : List LoadStep)
    (label : String) :
    count (m.noteSteps client steps).requests label =
      count m.requests label +
        steps.countP fun step => step.requestLabel? client = some label := by
  induction steps generalizing m with
  | nil => rfl
  | cons step steps ih =>
    refine (ih (m.noteStep client step)).trans ?_
    rw [List.countP_cons]
    unfold noteStep
    cases hlabel : step.requestLabel? client with
    | none =>
      simp only
      split <;> simp [recordWalkExhausted]
    | some own =>
      simp only [recordRequest, count_increment, decide_eq_true_eq, Option.some.injEq]
      omega

theorem walksExhausted_noteSteps (client : HttpClient) (m : Metrics) (steps : List LoadStep) :
    (m.noteSteps client steps).walksExhausted =
      m.walksExhausted + steps.countP LoadStep.isExhausted := by
  induction steps generalizing m with
  | nil => rfl
  | cons step steps ih =>
    refine (ih (m.noteStep client step)).trans ?_
    rw [List.countP_cons]
    unfold noteStep
    cases hlabel : step.requestLabel? client with
    | none =>
      simp only
      split
      · simp only [recordWalkExhausted]
        omega
      · rfl
    | some own =>
      -- Only requests have a label.
      have hnot : step.isExhausted = false := by
        cases step <;> simp [LoadStep.requestLabel?] at hlabel <;> rfl
      simp [recordRequest, hnot]

end Metrics

/-- A request never counts as a malformed address. -/
theorem HttpClient.label_outcome_ne (c : HttpClient) (request : Request) (reply : Reply) :
    (c.outcome request reply).label ≠ "invalid_uri" := by
  cases reply with
  | answer status mediaType body =>
    simp only [outcome, outcome?, Option.getD_some, classify]
    split
    · decide
    · split
      · simp [FetchOutcome.label, FetchFailure.label]
      · split
        · simp [FetchOutcome.label]
        · split
          · simp [FetchOutcome.label]
          · simp [FetchOutcome.label, FetchFailure.label]
  | broken reason => simp [outcome, outcome?, brokenFailure, FetchOutcome.label, FetchFailure.label]
  | silence => simp [outcome, outcome?, timedOut, FetchOutcome.label, FetchFailure.label]

/-- Where malformed base addresses alone are refused, the steps under the label of
malformed addresses are the refusals. -/
theorem LoadStep.countP_invalidUri (client : HttpClient) {bases : List String}
    {steps : List LoadStep} (h : ∀ f, refused f ∈ steps → IsRefusal bases f) :
    (steps.countP fun step => step.requestLabel? client = some "invalid_uri") =
      steps.countP isRefused := by
  refine List.countP_congr fun step hstep => ?_
  cases step with
  | refused f =>
    obtain ⟨base, -, reason, -, rfl⟩ := h f hstep
    simp [requestLabel?, isRefused, Candidate.refused, FetchFailure.label]
  | asked request reply =>
    simp [requestLabel?, isRefused, client.label_outcome_ne request reply]
  | _ => simp [requestLabel?, isRefused]

/-! ## Publications -/

/-- Between two providers a snapshot was published that is not the one before,
and counted, or none was. -/
inductive Publication (p q : Provider) : Prop where
  | none (hstore : q.store = p.store) (hreloads : q.metrics.reloads = p.metrics.reloads)
      (hkeys : q.metrics.keys = p.metrics.keys)
  | one (next : Snapshot) (hchanged : (p.snapshot.diff next).isEmpty = false)
      (hstore : q.store = { snapshot := next, publications := p.store.publications + 1 })
      (hreloads : q.metrics.reloads = p.metrics.reloads + 1)
      (hkeys : q.metrics.keys = next.size)

namespace Publication

variable {p q : Provider} (h : Publication p q)

include h

/-- A publication shows in the snapshot. -/
theorem reloads_eq (hwellFormed : p.snapshot.WellFormed) : q.metrics.reloads =
    p.metrics.reloads + if (p.snapshot.diff q.snapshot).isEmpty then 0 else 1 := by
  cases h with
  | none hstore hreloads =>
    have hsame : q.snapshot = p.snapshot := congrArg Store.snapshot hstore
    have hempty := (Snapshot.isEmpty_diff_iff hwellFormed hwellFormed).2 fun _ => rfl
    rw [hreloads, hsame, if_pos hempty, Nat.add_zero]
  | one next hchanged hstore hreloads =>
    have hnext : q.snapshot = next := congrArg Store.snapshot hstore
    rw [hreloads, hnext, if_neg (by simp [hchanged])]

theorem publications_eq_reloads (hbefore : p.store.publications = p.metrics.reloads) :
    q.store.publications = q.metrics.reloads := by
  cases h with
  | none hstore hreloads => rw [hstore, hreloads, hbefore]
  | one next hchanged hstore hreloads => rw [hstore, hreloads, hbefore]

theorem keys_eq_size (hbefore : p.metrics.keys = p.snapshot.size) :
    q.metrics.keys = q.snapshot.size := by
  cases h with
  | none hstore hreloads hkeys => rw [hkeys, hbefore, Provider.snapshot, Provider.snapshot, hstore]
  | one next hchanged hstore hreloads hkeys => rw [hkeys, Provider.snapshot, hstore]

end Publication

theorem Provider.publish_publication (p : Provider) (e : Environment) :
    Publication p (p.publish e) := by
  unfold publish
  generalize snapshotFor p.options e = next
  unfold Store.replace Store.update
  cases hempty : (p.store.snapshot.diff next).isEmpty with
  | true =>
    simp only [hempty, if_true]
    exact .none rfl rfl rfl
  | false =>
    simp only [hempty, Bool.false_eq_true, if_false]
    exact .one next hempty rfl rfl rfl

theorem Provider.conclude_publication (p : Provider) (update : Bool)
    (located : Except LoadError WalkOutcome) : Publication p (p.conclude update located).2 := by
  rcases located with e | ⟨e | _ | failures⟩
  · exact .none rfl rfl rfl
  · cases update with
    | false => exact .none rfl rfl rfl
    | true =>
      have hpublished := (p.fetched (some e)).publish_publication e
      simp only [conclude, if_true]
      generalize (p.fetched (some e)).publish e = q at hpublished
      rcases hpublished with
        ⟨hstore, hreloads, hkeys⟩ | ⟨next, hchanged, hstore, hreloads, hkeys⟩
      · exact .none hstore hreloads hkeys
      · exact .one next hchanged hstore hreloads hkeys
  · unfold conclude
    simp only
    split
    · exact .none rfl rfl rfl
    · exact .none rfl rfl rfl
  · exact .none rfl rfl rfl

/-! ## How loads end -/

/-- The ways in which a load can end, with what it returns, its last step and its
label.  A load that is cancelled may have taken no step. -/
inductive LoadEndsAs (o : ClientOptions) :
    Provider.LoadResult → Option LoadStep → String → Prop where
  | located (e : Environment) :
    LoadEndsAs o (.ok (some e)) (some (.walked (.found e))) "ok"
  | nothing (h : o.failFast = false) :
    LoadEndsAs o (.ok none) (some (.walked .noContent)) "empty"
  | notLocated (h : o.failFast = true) :
    LoadEndsAs o (.error (.notLocated o.name o.env)) (some (.walked .noContent)) "failed"
  | swallowed (h : o.failFast = false) (failures : List CandidateFailure) :
    LoadEndsAs o (.ok none) (some (.walked (.exhausted failures))) "failed"
  | raised (h : o.failFast = true) (failures : List CandidateFailure) :
    LoadEndsAs o (.error (.exhausted failures)) (some (.walked (.exhausted failures))) "failed"
  | cancelled {last : Option LoadStep} (h : IsNoWalk last) :
    LoadEndsAs o (.error .cancelled) last "cancelled"

theorem Provider.conclude_noContent_fst (p : Provider) (update : Bool) :
    (p.conclude update (.ok .noContent)).1 =
      if p.options.failFast then .error (.notLocated p.options.name p.options.env)
      else .ok none := by
  unfold conclude
  simp only
  rw [show (p.fetched none).options = p.options from rfl]
  split <;> rfl

theorem Provider.conclude_endsAs (p : Provider) (update : Bool)
    {located : Except LoadError WalkOutcome} {last : Option LoadStep}
    (h : EndsAfter p.options.failFast last located) :
    LoadEndsAs p.options (p.conclude update located).1 last
      (endLabel p.options.failFast located) := by
  rcases h with ⟨rfl, hlast⟩ | ⟨e | _ | failures, rfl, rfl⟩
  · exact .cancelled hlast
  · exact .located e
  · simp only [ending, endLabel, p.conclude_noContent_fst update]
    by_cases hfailFast : p.options.failFast = true
    · rw [if_pos hfailFast, if_pos hfailFast]
      exact .notLocated hfailFast
    · rw [if_neg hfailFast, if_neg hfailFast]
      exact .nothing (by simpa using hfailFast)
  · simp only [ending]
    by_cases hfailFast : p.options.failFast = true
    · rw [if_pos hfailFast]
      exact .raised hfailFast failures
    · rw [if_neg hfailFast]
      exact .swallowed (by simpa using hfailFast) failures

section

variable {o : ClientOptions} {result : Provider.LoadResult} {last : Option LoadStep}
  {label : String} (h : LoadEndsAs o result last label)

include h

theorem LoadEndsAs.ok_iff : label = "ok" ↔ ∃ e, result = .ok (some e) := by
  cases h <;> simp

theorem LoadEndsAs.empty_iff :
    label = "empty" ↔ o.failFast = false ∧ last = some (.walked .noContent) := by
  cases h with
  | cancelled hlast =>
    refine iff_of_false (by simp) fun ⟨_, hwalk⟩ => ?_
    rw [hwalk] at hlast
    cases hlast
  | _ => simp_all

theorem LoadEndsAs.failed_iff : label = "failed" ↔
    (∃ failures, result = .error (.exhausted failures)) ∨
    (result = .ok none ∧ ∃ failures, last = some (.walked (.exhausted failures))) ∨
    result = .error (.notLocated o.name o.env) := by
  cases h <;> simp

theorem LoadEndsAs.cancelled_iff : label = "cancelled" ↔ result = .error .cancelled := by
  cases h <;> simp

end

/-! ## Loads -/

/-- A load that obtained the lock: how it was called, and what it started from. -/
structure StartedLoad (σ : Type) where
  call : LoadCall
  provider : Provider
  servers : σ

namespace StartedLoad

variable (net : Servers σ) (l : StartedLoad σ)

/-- What the load returned. -/
def result : Provider.LoadResult :=
  (l.provider.load net l.call.update l.call.cancellation l.servers).1

/-- The provider behind the load. -/
def after : Provider :=
  (l.provider.load net l.call.update l.call.cancellation l.servers).2.1

/-- What happened in the load. -/
def steps : List LoadStep :=
  l.provider.steps net l.call.cancellation l.servers

/-- The label under which the load counts. -/
def label : String :=
  Provider.endLabel l.provider.options.failFast
    (l.provider.loadRun net l.call.cancellation l.servers).located

/-- The load published a changed snapshot. -/
def changes : Bool :=
  !(l.provider.snapshot.diff (l.after net).snapshot).isEmpty

/-- What a load adds to the counters. -/
structure IsCounted : Prop where
  /-- The load counts once, under its label. -/
  loads : ∀ label, Metrics.count (l.after net).metrics.loads label =
    Metrics.count l.provider.metrics.loads label + if l.label net = label then 1 else 0
  ok : l.label net = "ok" ↔ ∃ e, l.result net = .ok (some e)
  empty : l.label net = "empty" ↔ l.provider.options.failFast = false ∧
    (l.steps net).getLast? = some (.walked .noContent)
  failed : l.label net = "failed" ↔
    (∃ failures, l.result net = .error (.exhausted failures)) ∨
    (l.result net = .ok none ∧
      ∃ failures, (l.steps net).getLast? = some (.walked (.exhausted failures))) ∨
    l.result net = .error (.notLocated l.provider.options.name l.provider.options.env)
  cancelled : l.label net = "cancelled" ↔ l.result net = .error .cancelled
  walksExhausted : (l.after net).metrics.walksExhausted =
    l.provider.metrics.walksExhausted + (l.steps net).countP LoadStep.isExhausted
  /-- Requests and refusals count under their labels, and requests that are
  interrupted do not count. -/
  requests : ∀ label, Metrics.count (l.after net).metrics.requests label =
    Metrics.count l.provider.metrics.requests label +
      (l.steps net).countP fun step => step.requestLabel? l.provider.client = some label
  /-- Malformed base addresses are refused, and they alone. -/
  refused : ∀ f, .refused f ∈ l.steps net → IsRefusal l.provider.baseAddresses f
  invalidUri : Metrics.count (l.after net).metrics.requests "invalid_uri" =
    Metrics.count l.provider.metrics.requests "invalid_uri" +
      (l.steps net).countP LoadStep.isRefused
  /-- The servers see the requests among the steps, and no others. -/
  exchanges : (l.provider.load net.transcribed l.call.update l.call.cancellation
      (l.servers, [])).2.2.2 = (l.steps net).filterMap LoadStep.exchange?
  publication : Publication l.provider (l.after net)

variable {l} (henabled : l.provider.options.enabled = true)
  (hstart : l.call.cancellation ≠ .atStart)

include henabled hstart

theorem steps_eq : l.steps net =
    (l.provider.loadRun net l.call.cancellation l.servers).steps :=
  (l.provider.load_of_started net l.call.update l.servers henabled hstart).2

/-- The load ends as its run does, and the steps were counted before. -/
theorem concluded_eq :
    (l.result net, l.after net) =
      (l.provider.afterAttempts (l.provider.metrics.noteSteps l.provider.client
        (l.steps net))).conclude l.call.update
          (l.provider.loadRun net l.call.cancellation l.servers).located := by
  rw [steps_eq net henabled hstart]
  unfold result after
  rw [(l.provider.load_of_started net l.call.update l.servers henabled hstart).1]

theorem endsAs :
    LoadEndsAs l.provider.options (l.result net) (l.steps net).getLast? (l.label net) := by
  have hended := (l.provider.isSound_loadRun net l.call.cancellation l.servers).ended
  rw [← steps_eq net henabled hstart, Option.or_none] at hended
  have hresult := congrArg Prod.fst (concluded_eq net henabled hstart)
  generalize l.provider.metrics.noteSteps l.provider.client (l.steps net) = metrics at hresult
  rw [show l.result net = _ from hresult]
  exact (l.provider.afterAttempts metrics).conclude_endsAs l.call.update hended

theorem metrics_after : ∃ reloads keys, (l.after net).metrics =
    { l.provider.metrics.noteSteps l.provider.client (l.steps net) with
      loads := Metrics.increment l.provider.metrics.loads (l.label net)
      reloads, keys } := by
  have hafter : l.after net = _ := congrArg Prod.snd (concluded_eq net henabled hstart)
  obtain ⟨requests, walks, hnoted⟩ :=
    l.provider.metrics.noteSteps_frame l.provider.client (l.steps net)
  rw [hafter, hnoted]
  exact (l.provider.afterAttempts _).conclude_metrics ..

theorem publication_after : Publication l.provider (l.after net) := by
  have hafter : l.after net = _ := congrArg Prod.snd (concluded_eq net henabled hstart)
  obtain ⟨requests, walks, hnoted⟩ :=
    l.provider.metrics.noteSteps_frame l.provider.client (l.steps net)
  rw [hafter, hnoted]
  rcases (l.provider.afterAttempts _).conclude_publication l.call.update _ with
    ⟨hstore, hreloads, hkeys⟩ | ⟨next, hchanged, hstore, hreloads, hkeys⟩
  · exact .none hstore hreloads hkeys
  · exact .one next hchanged hstore hreloads hkeys

theorem isCounted : l.IsCounted net := by
  have hends := endsAs net henabled hstart
  obtain ⟨reloads, keys, hmetrics⟩ := metrics_after net henabled hstart
  have hrequests (label : String) : Metrics.count (l.after net).metrics.requests label =
      Metrics.count l.provider.metrics.requests label +
        (l.steps net).countP fun step => step.requestLabel? l.provider.client = some label := by
    rw [hmetrics]
    exact Metrics.count_noteSteps ..
  have hrefused := (l.provider.isSound_loadRun net l.call.cancellation l.servers).refused
  rw [← steps_eq net henabled hstart] at hrefused
  exact
    { loads := fun label => by rw [hmetrics]; exact Metrics.count_increment ..
      ok := hends.ok_iff
      empty := hends.empty_iff
      failed := hends.failed_iff
      cancelled := hends.cancelled_iff
      walksExhausted := by rw [hmetrics]; exact Metrics.walksExhausted_noteSteps ..
      requests := hrequests
      refused := hrefused
      invalidUri := by rw [hrequests, LoadStep.countP_invalidUri _ hrefused]
      exchanges := by
        rw [(l.provider.load_of_started net.transcribed l.call.update (l.servers, []) henabled
          hstart).1, steps_eq net henabled hstart]
        unfold Provider.loadRun
        rw [LoadPlan.run_transcribed]
        rfl
      publication := publication_after net henabled hstart }

end StartedLoad

/-! ## Runs -/

/-- The load that starts in an operation, if one obtains the lock. -/
def Operation.started? (op : Operation σ) (s : Provider × σ) : Option (StartedLoad σ) :=
  match op.call? s.1 with
  | some call =>
    if s.1.options.enabled = true ∧ call.cancellation ≠ .atStart then some ⟨call, s.1, s.2⟩
    else none
  | none => none

/-- The loads that start in operations, in order. -/
def startedLoads (net : Servers σ) : List (Operation σ) → Provider × σ → List (StartedLoad σ)
  | [], _ => []
  | op :: ops, s => (op.started? s).toList ++ startedLoads net ops (op.apply net s)

/-- The counters of a provider, given the loads that have started so far. -/
structure IsLedger (net : Servers σ) (o : ClientOptions) (started : List (StartedLoad σ))
    (p : Provider) : Prop where
  options : p.options = o
  client : p.client = .ofOptions o
  store : ∃ ended, StoreHolds o ended p
  counted : ∀ l ∈ started, l.IsCounted net
  loads : ∀ label, Metrics.count p.metrics.loads label =
    started.countP fun l => l.label net = label
  requests : ∀ label, Metrics.count p.metrics.requests label =
    (started.flatMap (·.steps net)).countP fun step =>
      step.requestLabel? (.ofOptions o) = some label
  walksExhausted : p.metrics.walksExhausted =
    (started.flatMap (·.steps net)).countP LoadStep.isExhausted
  reloads : p.metrics.reloads = started.countP (·.changes net)
  publications : p.store.publications = p.metrics.reloads
  keys : p.metrics.keys = p.snapshot.size

namespace IsLedger

variable {net : Servers σ} {o : ClientOptions} {started : List (StartedLoad σ)} {p : Provider}

theorem ofOptions (net : Servers σ) (o : ClientOptions) (locator : Option Locator) :
    IsLedger net o [] (.ofOptions o locator) := by
  have hmetrics : (Provider.ofOptions o locator).metrics =
      { keys := (Provider.ofOptions o locator).snapshot.size } := by
    unfold Provider.ofOptions Provider.snapshot Metrics.setKeys
    with_reducible rfl
  exact
    { options := rfl
      client := rfl
      store := ⟨[], StoreHolds.ofOptions o locator⟩
      counted := by simp
      loads := fun _ => by rw [hmetrics]; rfl
      requests := fun _ => by rw [hmetrics]; rfl
      walksExhausted := by rw [hmetrics]; rfl
      reloads := by rw [hmetrics]; rfl
      publications := by rw [hmetrics]; rfl
      keys := by rw [hmetrics] }

/-- A load that starts is entered. -/
theorem enter {l : StartedLoad σ} (h : IsLedger net o started l.provider)
    (henabled : l.provider.options.enabled = true) (hstart : l.call.cancellation ≠ .atStart) :
    IsLedger net o (started ++ [l]) (l.after net) := by
  obtain ⟨ended, hstore⟩ := h.store
  have hcounted : l.IsCounted net := StartedLoad.isCounted net henabled hstart
  obtain ⟨store, metrics, lastFetch, lookups, hframe⟩ :=
    l.provider.load_frame l.call.update net l.call.cancellation l.servers
  have hclient : (l.after net).client = l.provider.client := by rw [StartedLoad.after, hframe]
  exact
    { options := (l.provider.load_options ..).trans h.options
      client := hclient.trans h.client
      store := ⟨_, hstore.load h.options net l.call l.servers⟩
      counted := by simpa [or_imp, forall_and] using ⟨h.counted, hcounted⟩
      loads := fun label => by
        rw [hcounted.loads, h.loads, List.countP_append, List.countP_singleton]
        simp only [decide_eq_true_eq]
      requests := fun label => by
        rw [hcounted.requests, h.requests, h.client, List.flatMap_append, List.countP_append]
        simp
      walksExhausted := by
        rw [hcounted.walksExhausted, h.walksExhausted, List.flatMap_append, List.countP_append]
        simp
      reloads := by
        rw [hcounted.publication.reloads_eq hstore.wellFormed, h.reloads, List.countP_append,
          List.countP_singleton, StartedLoad.changes]
        cases (l.provider.snapshot.diff (l.after net).snapshot).isEmpty <;> rfl
      publications := hcounted.publication.publications_eq_reloads h.publications
      keys := hcounted.publication.keys_eq_size h.keys }

/-- Each operation enters the load that starts in it, and changes no counter
otherwise. -/
theorem apply (h : IsLedger net o started p) (hpolls : p.PollsIfEnabled) (op : Operation σ)
    (servers : σ) :
    IsLedger net o (started ++ (op.started? (p, servers)).toList)
      (op.apply net (p, servers)).1 := by
  have hflags {started : List (StartedLoad σ)} {p : Provider} (h : IsLedger net o started p)
      (polling stopped : Bool) : IsLedger net o started { p with polling, stopped } :=
    { h with store := h.store.imp fun _ hstore => ⟨hstore.wellFormed, hstore.content⟩ }
  unfold Operation.started?
  rcases op.apply_cases net hpolls servers with
    ⟨call, polling, -, hcall, heq⟩ | ⟨hcall, polling, stopped, -, heq⟩ | ⟨hcall, heq⟩
  · rw [hcall, heq]
    simp only
    split
    · rename_i hstarts
      exact hflags (h.enter (l := ⟨call, p, servers⟩) hstarts.1 hstarts.2) _ _
    · rename_i hnot
      rw [(p.load_of_not_started net call.update servers (by simpa using hnot)).1,
        Option.toList_none, List.append_nil]
      exact hflags h _ _
  · rw [hcall, heq]
    simp only [Option.toList_none, List.append_nil]
    exact hflags h _ _
  · obtain ⟨ended, hstore⟩ := h.store
    rw [hcall, heq, hstore.addClientOptions_eq_self h.options]
    simpa using h

end IsLedger

theorem IsLedger.run {net : Servers σ} {o : ClientOptions} {started : List (StartedLoad σ)}
    {p : Provider} (h : IsLedger net o started p) (hpolls : p.PollsIfEnabled)
    (ops : List (Operation σ)) (servers : σ) :
    IsLedger net o (started ++ startedLoads net ops (p, servers))
      (RemoteConfig.run net ops (p, servers)).1 := by
  induction ops generalizing started p servers with
  | nil =>
    rw [startedLoads, List.append_nil]
    exact h
  | cons op ops ih =>
    rw [startedLoads, ← List.append_assoc]
    exact ih (h.apply hpolls op servers) (op.apply_pollsIfEnabled net hpolls servers) _

end RemoteConfig
