import Mathlib.Data.List.Forall2
import RemoteConfig.Proofs.Provider.Content
import RemoteConfig.Proofs.Provider.Plan

/-!
# Loads with and without fail-fast

Fail-fast decides how a load reports that nothing was located, and nothing
else.  Two providers that differ in it alone, with the same servers and the same
loads, do the same things all along.  Any of the loads may be cut short, wherever a
load takes note of its cancellation.

* `mapEnds` changes how a plan ends.  The plans of attempts under fail-fast
  differ by that from those without: `ofAttempts_failFast`.
* `DifferInFailFast` is the relation of the two providers, which no load breaks.
* `SameButRaised` compares two loads, and `failFast_loads` is the result about
  sequences of them.
-/

namespace RemoteConfig

variable {σ : Type}

/-! ## Plans with other ends -/

namespace LoadPlan

variable (f : Except LoadError WalkOutcome → Except LoadError WalkOutcome)

/-- The plan with other ends. -/
def mapEnds : LoadPlan → LoadPlan
  | .ends located => .ends (f located)
  | .attempt number next => .attempt number next.mapEnds
  | .refuse failure next => .refuse failure next.mapEnds
  | .ask request next => .ask request fun outcome => (next outcome).mapEnds
  | .walked outcome next => .walked outcome next.mapEnds
  | .pause length next => .pause length next.mapEnds

/-- The run of a plan with other ends is the same up to its end. -/
theorem run_mapEnds (hf : f (.error .cancelled) = .error .cancelled) (net : Servers σ)
    (client : HttpClient) (c : Cancellation) (plan : LoadPlan) (g : Progress) (servers : σ) :
    (plan.mapEnds f).run net client c g servers =
      let r := plan.run net client c g servers
      { r with located := f r.located } := by
  induction plan generalizing g servers with
  | ends located => rfl
  | attempt number next ih =>
    simp only [mapEnds, run]
    split
    · simp [LoadRun.cancelled, hf]
    · simp [ih, LoadRun.behind]
  | refuse failure next ih =>
    simp only [mapEnds, run]
    split
    · simp [LoadRun.cancelled, hf]
    · simp [ih, LoadRun.behind]
  | ask request next ih =>
    rw [mapEnds, run_ask rfl, run_ask rfl]
    split
    · simp [LoadRun.cancelled, hf]
    · split
      · simp [hf]
      · simp [ih, LoadRun.behind]
  | walked outcome next ih => simp [mapEnds, run, ih, LoadRun.behind]
  | pause length next ih =>
    simp only [mapEnds, run]
    split
    · simp [hf]
    · simp [ih, LoadRun.behind]

theorem mapEnds_rowPlan (w : Walker) (base : String) (next : RowEnd → LoadPlan)
    (labels : List (Option String)) :
    (w.rowPlan base next labels).mapEnds f =
      w.rowPlan base (fun e => (next e).mapEnds f) labels := by
  induction labels with
  | nil => rfl
  | cons label labels ih =>
    unfold Walker.rowPlan
    rcases w.prepare base label with failure | ⟨uri, request⟩
    · rfl
    · simp only [mapEnds, ask.injEq, true_and]
      funext outcome
      rcases outcome with ⟨status, _ | e⟩ | _ | failure
      · exact ih
      · rfl
      · rfl
      · rfl

theorem mapEnds_rowsPlan (w : Walker) (labels : List (Option String))
    (next : WalkOutcome → LoadPlan) (bases : List String) (failures : List CandidateFailure)
    (lastEmpty : Bool) :
    (w.rowsPlan labels next bases failures lastEmpty).mapEnds f =
      w.rowsPlan labels (fun outcome => (next outcome).mapEnds f) bases failures lastEmpty := by
  induction bases generalizing failures lastEmpty with
  | nil => rfl
  | cons base bases ih =>
    unfold Walker.rowsPlan
    rw [mapEnds_rowPlan]
    congr 1
    funext e
    cases e with
    | found e => rfl
    | notFound => rfl
    | empty => exact ih ..
    | failed failure => exact ih ..

/-- Attempts under fail-fast differ in their end.  The induction is on the
attempts that are left. -/
theorem ofAttempts_failFast (w : Walker) (bases labels : List String) {b : Backoff}
    (left : b.canRetry) :
    ofAttempts (w.walkPlan bases labels) true b left =
      (ofAttempts (w.walkPlan bases labels) false b left).mapEnds (ending true) := by
  induction b, left using Backoff.induction_left with
  | step b left ih =>
    rw [ofAttempts_eq, ofAttempts_eq, mapEnds, Walker.walkPlan, Walker.walkPlan, mapEnds_rowsPlan]
    congr 2
    funext outcome
    rw [mapEnds]
    congr 1
    cases outcome with
    | found e => rfl
    | noContent => rfl
    | exhausted failures =>
      unfold afterWalk
      simp only
      split
      · rename_i more
        rw [mapEnds]
        exact congrArg _ (ih more)
      · rfl

end LoadPlan

/-! ## Loads side by side -/

/-- How a load went: what it returned, and what happened in it. -/
structure LoadReport where
  result : Provider.LoadResult
  steps : List LoadStep
  timeline : List LoadEvent

/-- The reports of loads one after the other. -/
def reports (net : Servers σ) : List LoadCall → Provider × σ → List LoadReport
  | [], _ => []
  | call :: calls, (p, servers) =>
    ⟨(p.load net call.update call.cancellation servers).1,
        p.steps net call.cancellation servers, p.timeline net call.cancellation servers⟩ ::
      reports net calls (p.load net call.update call.cancellation servers).2

/-- The call as an operation. -/
def LoadCall.operation (call : LoadCall) : Operation σ :=
  .load call.update call.cancellation

/-- The last walk of a load. -/
def lastWalk? (steps : List LoadStep) : Option WalkOutcome :=
  (steps.filterMap LoadStep.walk?).getLast?

/-- Two loads, with fail-fast and without, do the same things.  They return the
same, which is not nothing, or the first one raises what its last walk was. -/
inductive SameButRaised (o : ClientOptions) : LoadReport → LoadReport → Prop where
  | same {result : Provider.LoadResult} (steps : List LoadStep) (timeline : List LoadEvent)
      (hlocated : o.enabled = true → result ≠ .ok none) :
      SameButRaised o ⟨result, steps, timeline⟩ ⟨result, steps, timeline⟩
  | exhausted {failures : List CandidateFailure} {steps : List LoadStep}
      (timeline : List LoadEvent) (hlast : lastWalk? steps = some (.exhausted failures)) :
      SameButRaised o ⟨.error (.exhausted failures), steps, timeline⟩ ⟨.ok none, steps, timeline⟩
  | notLocated {steps : List LoadStep} (timeline : List LoadEvent)
      (hlast : lastWalk? steps = some .noContent) :
      SameButRaised o ⟨.error (.notLocated o.name o.env), steps, timeline⟩
        ⟨.ok none, steps, timeline⟩

/-- Both loads publish the same. -/
theorem SameButRaised.published? {o : ClientOptions} {r r' : LoadReport}
    (h : SameButRaised o r r') (update : Bool) :
    EndedLoad.published? ⟨update, r.result⟩ = EndedLoad.published? ⟨update, r'.result⟩ := by
  cases h with
  | same => rfl
  | exhausted hlast => cases update <;> rfl
  | notLocated hlast => cases update <;> rfl

theorem lastWalk?_of_getLast? {steps : List LoadStep} {outcome : WalkOutcome}
    (h : steps.getLast? = some (.walked outcome)) : lastWalk? steps = some outcome := by
  obtain ⟨front, rfl⟩ := List.getLast?_eq_some_iff.1 h
  simp [lastWalk?, LoadStep.walk?]

/-- The key of the option. -/
def failFastKey : String := "spring:cloud:config:failFast"

/-- The options with another value of fail-fast have other pairs under its key
only. -/
theorem lastValue?_failFast (o : ClientOptions) (failFast : Bool) {key : String}
    (hkey : Text.fold key ≠ Text.fold failFastKey) :
    Snapshot.lastValue? { o with failFast }.toPairs key = Snapshot.lastValue? o.toPairs key := by
  have hpairs (failFast : Bool) : { o with failFast }.toPairs =
      (ClientOptions.rootKey ++ ":" ++ "enabled", ClientOptions.boolText o.enabled) ::
        (failFastKey, ClientOptions.boolText failFast) :: o.toPairs.drop 2 := rfl
  have hother (failFast : Bool) : Snapshot.lastValue? { o with failFast }.toPairs key =
      (Snapshot.lastValue? (o.toPairs.drop 2) key).or
        (if Text.fold (ClientOptions.rootKey ++ ":" ++ "enabled") = Text.fold key then
          some (ClientOptions.boolText o.enabled) else none) := by
    rw [hpairs, Snapshot.lastValue?_cons, Snapshot.lastValue?_cons, if_neg hkey.symm,
      Option.or_none]
  exact (hother failFast).trans (hother o.failFast).symm

theorem Metrics.noteSteps_congr (client : HttpClient) (steps : List LoadStep) {m m' : Metrics}
    (hrequests : m.requests = m'.requests) (hwalks : m.walksExhausted = m'.walksExhausted) :
    (m.noteSteps client steps).requests = (m'.noteSteps client steps).requests ∧
      (m.noteSteps client steps).walksExhausted = (m'.noteSteps client steps).walksExhausted := by
  induction steps generalizing m m' with
  | nil => exact ⟨hrequests, hwalks⟩
  | cons step steps ih =>
    refine ih ?_ ?_
    · unfold noteStep
      split
      · exact congrArg (increment · _) hrequests
      · split <;> exact hrequests
    · unfold noteStep
      split
      · exact hwalks
      · split
        · exact congrArg (· + 1) hwalks
        · exact hwalks

namespace Provider

/-- Two providers that differ in fail-fast, and in what follows from it. -/
structure DifferInFailFast (fast slow : Provider) : Prop where
  options : fast.options = { slow.options with failFast := true }
  failFast : slow.options.failFast = false
  client : fast.client = slow.client
  locator : fast.locator = slow.locator
  lookups : fast.lookups = slow.lookups
  requests : fast.metrics.requests = slow.metrics.requests
  walksExhausted : fast.metrics.walksExhausted = slow.metrics.walksExhausted
  content : ∀ key, Text.fold key ≠ Text.fold failFastKey →
    fast.snapshot.get? key = slow.snapshot.get? key

namespace DifferInFailFast

variable {fast slow : Provider}

theorem walker (h : DifferInFailFast fast slow) : fast.walker = slow.walker := by
  unfold Provider.walker credentials
  rw [h.options, h.client]

theorem baseAddresses (h : DifferInFailFast fast slow) :
    fast.baseAddresses = slow.baseAddresses := by
  unfold Provider.baseAddresses
  rw [h.options, h.locator]
  rfl

theorem plan (h : DifferInFailFast fast slow) :
    fast.plan = slow.plan.mapEnds (ending true) := by
  have hfailFast : fast.options.failFast = true := by rw [h.options]
  have hretry : fast.options.retry = slow.options.retry := by rw [h.options]
  have hlabels : fast.options.labels = slow.options.labels := by
    rw [h.options]
    rfl
  rw [plan_eq, plan_eq, h.walker, h.baseAddresses, hlabels, hfailFast, h.failFast,
    ← LoadPlan.ofAttempts_failFast]
  simp only [hretry]

theorem loadRun (h : DifferInFailFast fast slow) (net : Servers σ) (c : Cancellation)
    (servers : σ) :
    fast.loadRun net c servers =
      let r := slow.loadRun net c servers
      { r with located := ending true r.located } := by
  unfold Provider.loadRun
  rw [h.plan, h.client, LoadPlan.run_mapEnds _ rfl]

/-- Both count the same steps. -/
theorem afterAttempts (h : DifferInFailFast fast slow) (steps : List LoadStep) :
    DifferInFailFast (fast.afterAttempts (fast.metrics.noteSteps fast.client steps))
      (slow.afterAttempts (slow.metrics.noteSteps slow.client steps)) where
  options := h.options
  failFast := h.failFast
  client := h.client
  locator := h.locator
  lookups := by
    show fast.lookups ++ _ = slow.lookups ++ _
    rw [h.lookups, h.locator, h.options]
    rfl
  requests := by
    rw [h.client]
    exact (Metrics.noteSteps_congr slow.client steps h.requests h.walksExhausted).1
  walksExhausted := by
    rw [h.client]
    exact (Metrics.noteSteps_congr slow.client steps h.requests h.walksExhausted).2
  content := h.content

/-- The ends of both loads leave the providers alike, if they publish the same. -/
theorem conclude (h : DifferInFailFast fast slow) (update : Bool)
    {located located' : Except LoadError WalkOutcome}
    (hpublished : EndedLoad.published? ⟨update, (fast.conclude update located).1⟩ =
      EndedLoad.published? ⟨update, (slow.conclude update located').1⟩) :
    DifferInFailFast (fast.conclude update located).2 (slow.conclude update located').2 := by
  obtain ⟨store, metrics, lastFetch, hframe⟩ := fast.conclude_frame update located
  obtain ⟨store', metrics', lastFetch', hframe'⟩ := slow.conclude_frame update located'
  obtain ⟨reloads, keys, hmetrics⟩ := fast.conclude_metrics update located
  obtain ⟨reloads', keys', hmetrics'⟩ := slow.conclude_metrics update located'
  refine
    { options := by rw [hframe, hframe']; exact h.options
      failFast := by rw [hframe']; exact h.failFast
      client := by rw [hframe, hframe']; exact h.client
      locator := by rw [hframe, hframe']; exact h.locator
      lookups := by rw [hframe, hframe']; exact h.lookups
      requests := by rw [hmetrics, hmetrics']; exact h.requests
      walksExhausted := by rw [hmetrics, hmetrics']; exact h.walksExhausted
      content := fun key hkey => ?_ }
  have hstore := fast.conclude_store update located
  have hstore' := slow.conclude_store update located'
  rw [← hpublished] at hstore'
  unfold snapshot
  rw [hstore, hstore']
  cases EndedLoad.published? ⟨update, (fast.conclude update located).1⟩ with
  | none => exact h.content key hkey
  | some e =>
    simp only [Store.replace_eq_update]
    rw [Store.sameContent_update _ _ key, Store.sameContent_update _ _ key]
    unfold snapshotFor
    rw [Snapshot.get?_setAll, Snapshot.get?_setAll, h.options, lastValue?_failFast _ _ hkey]

/-- What the two loads return, if they end with the same walk. -/
theorem conclude_result (h : DifferInFailFast fast slow) (update : Bool) {steps : List LoadStep}
    {located : Except LoadError WalkOutcome}
    (hlocated : located = .error .cancelled ∨ ∃ outcome,
      lastWalk? steps = some outcome ∧ located = .ok outcome) (timeline : List LoadEvent) :
    SameButRaised slow.options ⟨(fast.conclude update (ending true located)).1, steps, timeline⟩
      ⟨(slow.conclude update located).1, steps, timeline⟩ := by
  have hfailFast : fast.options.failFast = true := by rw [h.options]
  rcases hlocated with rfl | ⟨e | _ | failures, hlast, rfl⟩
  · exact .same steps timeline fun _ h => by cases h
  · exact .same steps timeline fun _ h => by cases h
  · simp only [Provider.conclude, ending, fetched, hfailFast, h.failFast, if_true]
    rw [h.options]
    exact .notLocated timeline hlast
  · exact .exhausted timeline hlast

/-- A load keeps the providers alike. -/
theorem load (h : DifferInFailFast fast slow) (net : Servers σ) (call : LoadCall) (servers : σ) :
    let after := fast.load net call.update call.cancellation servers
    let after' := slow.load net call.update call.cancellation servers
    DifferInFailFast after.2.1 after'.2.1 ∧ after.2.2 = after'.2.2 ∧
      SameButRaised slow.options
        ⟨after.1, fast.steps net call.cancellation servers,
          fast.timeline net call.cancellation servers⟩
        ⟨after'.1, slow.steps net call.cancellation servers,
          slow.timeline net call.cancellation servers⟩ := by
  intro after after'
  rw [timeline_eq, timeline_eq]
  have henabled : fast.options.enabled = slow.options.enabled := by rw [h.options]
  by_cases hstarts : slow.options.enabled = true → call.cancellation = .atStart
  · obtain ⟨hload, hsteps⟩ := fast.load_of_not_started net call.update servers
      (henabled ▸ hstarts)
    obtain ⟨hload', hsteps'⟩ := slow.load_of_not_started net call.update servers hstarts
    rw [show after = _ from hload, show after' = _ from hload', hsteps, hsteps', henabled]
    exact ⟨h, rfl, .same [] [] fun henabled => by simp [henabled]⟩
  · obtain ⟨henabled', hstart⟩ := Classical.not_imp.1 hstarts
    obtain ⟨hload, hsteps⟩ := fast.load_of_started net call.update servers
      (henabled.trans henabled') hstart
    obtain ⟨hload', hsteps'⟩ := slow.load_of_started net call.update servers henabled' hstart
    rw [show after = _ from hload, show after' = _ from hload', hsteps, hsteps', h.loadRun]
    have hsound := (slow.isSound_loadRun net call.cancellation servers).ended
    generalize slow.loadRun net call.cancellation servers = r at hsound
    have hlocated : r.located = .error .cancelled ∨ ∃ outcome,
        lastWalk? r.steps = some outcome ∧ r.located = .ok outcome := by
      rcases hsound with ⟨hcancelled, -⟩ | ⟨outcome, hlast, hlocated⟩
      · exact Or.inl hcancelled
      · refine Or.inr ⟨outcome, lastWalk?_of_getLast? (by simpa using hlast), ?_⟩
        rw [hlocated, h.failFast]
        cases outcome <;> rfl
    have hresult := (h.afterAttempts r.steps).conclude_result call.update hlocated
      (r.steps.filterMap LoadStep.event?)
    exact ⟨(h.afterAttempts r.steps).conclude call.update (hresult.published? call.update), rfl,
      hresult⟩

end DifferInFailFast

/-- Two new providers whose options differ in fail-fast. -/
theorem differInFailFast_ofOptions (o : ClientOptions) (locator : Option Locator) :
    DifferInFailFast (.ofOptions { o with failFast := true } locator)
      (.ofOptions { o with failFast := false } locator) where
  options := rfl
  failFast := rfl
  client := rfl
  locator := rfl
  lookups := rfl
  requests := by simp only [ofOptions, Metrics.setKeys]
  walksExhausted := by simp only [ofOptions, Metrics.setKeys]
  content key hkey := by
    rw [snapshot_ofOptions, snapshot_ofOptions]
    unfold builtFrom
    rw [Snapshot.get?_setAll, Snapshot.get?_setAll, lastValue?_failFast o true hkey,
      lastValue?_failFast o false hkey]

end Provider

/-! ## Sequences of loads -/

/-- Loads one after the other keep the providers alike. -/
theorem Provider.DifferInFailFast.loads {fast slow : Provider} (h : DifferInFailFast fast slow)
    (net : Servers σ) (calls : List LoadCall) (servers : σ) :
    let ops := calls.map LoadCall.operation
    let after := run net ops (fast, servers)
    let after' := run net ops (slow, servers)
    DifferInFailFast after.1 after'.1 ∧ after.2 = after'.2 ∧
      List.Forall₂ (SameButRaised slow.options) (reports net calls (fast, servers))
        (reports net calls (slow, servers)) := by
  induction calls generalizing fast slow servers with
  | nil => exact ⟨h, rfl, .nil⟩
  | cons call calls ih =>
    obtain ⟨hafter, hservers, hreport⟩ := h.load net call servers
    have hslow : (slow.load net call.update call.cancellation servers).2 =
        ((slow.load net call.update call.cancellation servers).2.1,
          (fast.load net call.update call.cancellation servers).2.2) :=
      Prod.ext rfl hservers.symm
    obtain ⟨hrun, hend, hreports⟩ := ih hafter _
    rw [slow.load_options, ← hslow] at hreports
    rw [← hslow] at hrun hend
    exact ⟨hrun, hend, .cons hreport hreports⟩

/-- Fail-fast only changes how a load reports that nothing was located.  Two
providers whose options differ in fail-fast, with the same servers, are driven
by the same loads, each of them cancelled at the same point or not at all.  All
along the same steps are taken, with the same requests, attempts, pauses and
walks; the timelines are the same, and the servers are left the same.  The counts
of requests and exhausted walks are the same, and the stores answer the same under
every key but that of the option.  Each load of the one returns what that of the
other does, unless this one returns nothing: then it raises the failures of the
last walk, or says that nothing was located. -/
theorem failFast_loads (o : ClientOptions) (locator : Option Locator) (net : Servers σ)
    (calls : List LoadCall) (servers : σ) :
    let fast := (Provider.ofOptions { o with failFast := true } locator, servers)
    let slow := (Provider.ofOptions { o with failFast := false } locator, servers)
    let after := run net (calls.map LoadCall.operation) fast
    let after' := run net (calls.map LoadCall.operation) slow
    List.Forall₂ (SameButRaised slow.1.options) (reports net calls fast)
        (reports net calls slow) ∧
      after.2 = after'.2 ∧
      after.1.metrics.requests = after'.1.metrics.requests ∧
      after.1.metrics.walksExhausted = after'.1.metrics.walksExhausted ∧
      after.1.lookups = after'.1.lookups ∧
      ∀ key, Text.fold key ≠ Text.fold failFastKey →
        after.1.store.get? key = after'.1.store.get? key := by
  intro fast slow after after'
  obtain ⟨hafter, hservers, hreports⟩ :=
    (Provider.differInFailFast_ofOptions o locator).loads net calls servers
  exact ⟨hreports, hservers, hafter.requests, hafter.walksExhausted, hafter.lookups,
    hafter.content⟩

end RemoteConfig
