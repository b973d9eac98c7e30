import RemoteConfig.Proofs.Provider.OwnOptions
import RemoteConfig.Proofs.Provider.Polling
import RemoteConfig.Proofs.Walk.Verdict
import RemoteConfig.Provider.Stopping

/-!
# Disabled clients

The provider of a disabled client does nothing.  Whatever it is asked, it stays
as it was built, except that it can be stopped, and its callers return at once.

* `Provider.asBuilt` are the states that such a provider can have.
* `Operation.apply_asBuilt` is what one operation does, and `run_asBuilt` what a
  sequence of them does.
* `PollingSystem.IsInert` is the invariant of concurrent callers, of the poll
  loop and of those who stop the provider.
* `disabled_run` is the result.
-/

namespace RemoteConfig

open Provider (LoadResult)

variable {σ : Type}

/-! ## What operations return -/

namespace Operation

/-- What an operation returns to its caller. -/
inductive Result where
  | nothing
  | loaded (result : LoadResult)
  | done (result : Except LoadError Unit)
  | started (started : Bool)
  | reported (report : HealthReport)

/-- Nothing was done, and this is no error. -/
def Result.isIdle : Result → Bool
  | nothing | loaded (.ok none) | done (.ok ()) | started false => true
  | reported report => report.status = .unknown
  | _ => false

/-- The result of an operation. -/
def result (net : Servers σ) : Operation σ → Provider × σ → Result
  | load update cancellation, (p, servers) => .loaded (p.load net update cancellation servers).1
  | loadBlocking runtime busy, (p, servers) => .done (p.loadBlocking net runtime busy servers).1
  | attach, (p, servers) => .done (p.attach net servers).1
  | health age cancellation, (p, servers) => .reported (p.health net age cancellation servers).1
  | startPolling hasRuntime, (p, _) => .started (p.startPolling hasRuntime).1
  | poll, _ | addClientOptions, _ | stop, _ | serve _, _ => .nothing

/-- The servers behind an operation that asks them nothing. -/
def serversBehind (servers : σ) : Operation σ → σ
  | serve servers' => servers'
  | _ => servers

end Operation

/-! ## States of the provider -/

namespace Provider

/-- The provider as it was built, stopped or not. -/
def asBuilt (o : ClientOptions) (locator : Option Locator) (stopped : Bool) : Provider :=
  { ofOptions o locator with stopped }

variable {o : ClientOptions} (locator : Option Locator) (stopped : Bool)

theorem storeHolds_asBuilt : StoreHolds o [] (asBuilt o locator stopped) :=
  ⟨(StoreHolds.ofOptions o locator).wellFormed, (StoreHolds.ofOptions o locator).content⟩

theorem addClientOptions_asBuilt :
    (asBuilt o locator stopped).addClientOptions = asBuilt o locator stopped :=
  (storeHolds_asBuilt locator stopped).addClientOptions_eq_self rfl

theorem pollerState_asBuilt_ne_running : (asBuilt o locator stopped).pollerState ≠ .running := by
  intro hrunning
  cases (pollerState_eq_running_iff.1 hrunning).2

/-- The store holds the options, and nothing else. -/
theorem get?_asBuilt (key : String) :
    (asBuilt o locator stopped).snapshot.get? key = Snapshot.lastValue? o.toPairs key := by
  rw [(storeHolds_asBuilt locator stopped).content, lastPublished?_nil, builtFrom, remotePart,
    Snapshot.get?_setAll, Snapshot.get?_empty, Option.or_none]

variable (h : o.enabled = false)

include h

theorem load_asBuilt (net : Servers σ) (update : Bool) (c : Cancellation) (servers : σ) :
    (asBuilt o locator stopped).load net update c servers =
      (.ok none, asBuilt o locator stopped, servers) := by
  have hload := ((asBuilt o locator stopped).load_of_not_started (c := c) net update servers
    fun henabled => Bool.noConfusion (h.symm.trans henabled)).1
  rwa [if_neg (by simp [asBuilt, ofOptions, h])] at hload

theorem startPolling_asBuilt (hasRuntime : Bool) :
    (asBuilt o locator stopped).startPolling hasRuntime = (false, asBuilt o locator stopped) := by
  simp [startPolling, asBuilt, ofOptions, h]

theorem health_asBuilt (net : Servers σ) (age : Duration) (c : Cancellation) (servers : σ) :
    ∃ details, (asBuilt o locator stopped).health net age c servers =
      (⟨.unknown, details⟩, asBuilt o locator stopped, servers) := by
  have hoff : (asBuilt o locator stopped).options.enabled = false := h
  unfold health
  rw [hoff]
  split
  · exact ⟨_, rfl⟩
  · exact ⟨_, rfl⟩

/-- No caller needs a load. -/
theorem needsLoad_asBuilt (kind : CallKind) :
    kind.needsLoad (asBuilt o locator stopped) = false := by
  have hoff : (asBuilt o locator stopped).options.enabled = false := h
  cases kind with
  | load | loadBlocking => exact hoff
  | health age => simp [CallKind.needsLoad, hoff]
  | poll => exact decide_eq_false (pollerState_asBuilt_ne_running locator stopped)

end Provider

/-! ## Operations -/

section Operations

variable {o : ClientOptions} (h : o.enabled = false) (locator : Option Locator) (net : Servers σ)

include h

/-- An operation stops the provider, or leaves it as it is. -/
theorem Operation.apply_asBuilt (op : Operation σ) (stopped : Bool) (servers : σ) :
    op.apply net (Provider.asBuilt o locator stopped, servers) =
      (Provider.asBuilt o locator (stopped || op.isStop), op.serversBehind servers) := by
  have hload := fun update c => Provider.load_asBuilt locator stopped h net update c servers
  have hstays {s : Provider × σ} (hs : s.1 = Provider.asBuilt o locator stopped) :
      s = (Provider.asBuilt o locator (stopped || false), s.2) := by
    rw [Bool.or_false, ← hs]
  cases op with
  | load update c => rw [apply, hload]; exact hstays rfl
  | loadBlocking runtime busy =>
    rw [apply, Provider.loadBlocking_state, hload, ite_self]
    exact hstays rfl
  | attach =>
    rw [apply, Provider.attach, hload]
    simp only
    rw [Provider.startPolling_asBuilt locator stopped h]
    exact hstays rfl
  | poll =>
    rw [apply, Provider.poll, if_neg (Provider.pollerState_asBuilt_ne_running locator stopped)]
    exact hstays rfl
  | health age c =>
    obtain ⟨details, hhealth⟩ := Provider.health_asBuilt locator stopped h net age c servers
    rw [apply, hhealth]
    exact hstays rfl
  | addClientOptions =>
    rw [apply, Provider.addClientOptions_asBuilt]
    exact hstays rfl
  | startPolling hasRuntime =>
    rw [apply, Provider.startPolling_asBuilt locator stopped h]
    exact hstays rfl
  | stop =>
    rw [isStop, Bool.or_true]
    rfl
  | serve servers' => exact hstays rfl

/-- It returns no error, even if it was cancelled before, and wherever its
caller blocks. -/
theorem Operation.isIdle_result (op : Operation σ) (stopped : Bool) (servers : σ) :
    (op.result net (Provider.asBuilt o locator stopped, servers)).isIdle = true := by
  have hload := fun update c => Provider.load_asBuilt locator stopped h net update c servers
  have hoff : (Provider.asBuilt o locator stopped).options.enabled = false := h
  cases op with
  | load update c =>
    rw [result, hload]
    rfl
  | loadBlocking runtime busy =>
    simp only [result, Provider.loadBlocking, hoff, Bool.and_false, Bool.false_and,
      Bool.false_eq_true, if_false, hload]
    rfl
  | attach =>
    simp only [result, Provider.attach, hload]
    rfl
  | health age c =>
    obtain ⟨details, hhealth⟩ := Provider.health_asBuilt locator stopped h net age c servers
    rw [result, hhealth]
    rfl
  | startPolling hasRuntime =>
    rw [result, Provider.startPolling_asBuilt locator stopped h]
    rfl
  | poll => rfl
  | addClientOptions => rfl
  | stop => rfl
  | serve servers' => rfl

theorem run_asBuilt (ops : List (Operation σ)) (stopped : Bool) (servers : σ) :
    run net ops (Provider.asBuilt o locator stopped, servers) =
      (Provider.asBuilt o locator (stopped || ops.any Operation.isStop),
        ops.foldl Operation.serversBehind servers) := by
  induction ops generalizing stopped servers with
  | nil => rw [List.any_nil, Bool.or_false, run, List.foldl_nil, List.foldl_nil]
  | cons op ops ih =>
    rw [run_cons, op.apply_asBuilt h, ih, Bool.or_assoc, List.any_cons, List.foldl_cons]

end Operations

/-! ## Callers, the poll loop and stops -/

namespace PollingSystem

/-- Nobody has moved, except for callers that have returned at once and for
those who stop the provider. -/
structure IsInert (o : ClientOptions) (locator : Option Locator) (s : PollingSystem) : Prop where
  provider : ∃ stopped, s.system.provider = Provider.asBuilt o locator stopped
  history : s.system.history = []
  callers : ∀ c ∈ s.system.callers, c.stage = .arrived ∨ c.stage = .dismissed c.kind.unneeded?
  loop : s.loop = .notStarted

namespace IsInert

variable {o : ClientOptions} {locator : Option Locator} {s : PollingSystem}

theorem ofProvider (stopped : Bool) :
    IsInert o locator (.ofProvider (.asBuilt o locator stopped)) where
  provider := ⟨stopped, rfl⟩
  history := rfl
  callers c hc := by cases hc
  loop := rfl

/-- Only the loop and the callers count, not those who stop the provider. -/
theorem of_same (hs : IsInert o locator s) {t : PollingSystem} (hsystem : t.system = s.system)
    (hloop : t.loop = s.loop) : IsInert o locator t where
  provider := hsystem ▸ hs.provider
  history := hsystem ▸ hs.history
  callers := hsystem ▸ hs.callers
  loop := hloop.trans hs.loop

/-- A caller that has arrived returns with its next move, with a load of nothing
or without a load.  It does not look whether it was cancelled, nor whether the
lock is free. -/
theorem move?_of_arrived (hs : IsInert o locator s) (h : o.enabled = false) {c : Caller}
    (hstage : c.stage = .arrived) (isFree : Bool) :
    c.move? s.system.provider isFree .proceed =
      some ⟨.dismissed c.kind.unneeded?, s.system.provider, none⟩ := by
  obtain ⟨stopped, hprovider⟩ := hs.provider
  have hneeds : c.kind.needsLoad s.system.provider = false := by
    rw [hprovider]
    exact Provider.needsLoad_asBuilt locator stopped h c.kind
  simp [Caller.move?, hstage, hneeds]

/-- There is no other move. -/
theorem move?_eq_some (hs : IsInert o locator s) (h : o.enabled = false) {c : Caller}
    (hc : c ∈ s.system.callers) {isFree : Bool} {cue : Cue} {m : Move}
    (hm : c.move? s.system.provider isFree cue = some m) :
    m = ⟨.dismissed c.kind.unneeded?, s.system.provider, none⟩ := by
  rcases hs.callers c hc with hstage | hstage
  · cases cue with
    | proceed => exact Option.some.inj (hm.symm.trans (hs.move?_of_arrived h hstage isFree))
    | answer reply => simp [Caller.move?, hstage] at hm
    | giveUp => simp [Caller.move?, hstage] at hm
  · cases cue <;> simp [Caller.move?, hstage] at hm

theorem stepCaller (hs : IsInert o locator s) (h : o.enabled = false) (action : Action) :
    IsInert o locator { s with system := s.system.step action } := by
  cases action with
  | call kind =>
    refine ⟨hs.provider, hs.history, fun c hc => ?_, hs.loop⟩
    rcases List.mem_append.1 hc with hc | hc
    · exact hs.callers c hc
    · exact Or.inl (by rw [List.mem_singleton.1 hc])
  | cancel i =>
    refine ⟨hs.provider, hs.history, fun c hc => ?_, hs.loop⟩
    obtain ⟨j, hj⟩ := List.mem_iff_getElem?.1 hc
    simp only [System.step, List.getElem?_modify, Option.map_eq_map, Option.map_eq_some_iff] at hj
    obtain ⟨before, hbefore, rfl⟩ := hj
    have hstage := hs.callers before (List.mem_of_getElem? hbefore)
    split
    · exact hstage
    · exact hstage
  | cue i cue =>
    cases hc : s.system.callers[i]? with
    | none =>
      have hstep : s.system.step (.cue i cue) = s.system := by simp only [System.step, hc]
      rw [hstep]
      exact hs
    | some c =>
      rw [System.step_cue hc]
      cases hm : c.move? s.system.provider s.system.holder.isNone cue with
      | none => exact hs
      | some m =>
        obtain rfl := hs.move?_eq_some h (List.mem_of_getElem? hc) hm
        refine ⟨hs.provider, (List.append_nil _).trans hs.history, fun d hd => ?_, hs.loop⟩
        rcases List.mem_or_eq_of_mem_set hd with hd | rfl
        · exact hs.callers d hd
        · exact Or.inr rfl

theorem cancel (hs : IsInert o locator s) : IsInert o locator s.cancel := by
  obtain ⟨stopped, hprovider⟩ := hs.provider
  unfold PollingSystem.cancel
  rw [hs.loop]
  exact ⟨⟨true, by rw [hprovider]; rfl⟩, hs.history, hs.callers, rfl⟩

theorem goOn (hs : IsInert o locator s) (place : Nat) : IsInert o locator (s.goOn place) := by
  unfold PollingSystem.goOn
  split
  · exact hs.cancel.of_same rfl rfl
  · split
    · exact hs.of_same rfl rfl
    · exact hs.of_same rfl rfl
  · split
    · exact hs.of_same rfl rfl
    · exact hs
  · exact hs
  · exact hs

/-- The loop never starts, so it has no tick and no end. -/
theorem step (hs : IsInert o locator s) (h : o.enabled = false) (action : PollingAction) :
    IsInert o locator (s.step action) := by
  have hnot {loop : PollLoop} (hloop : loop ≠ .notStarted) : s.loop ≠ loop :=
    fun heq => hloop (heq.symm.trans hs.loop)
  cases action with
  | caller action =>
    unfold PollingSystem.step
    simp only
    split
    · exact hs.stepCaller h action
    · exact hs
  | start hasRuntime =>
    obtain ⟨stopped, hprovider⟩ := hs.provider
    simp only [PollingSystem.step, hprovider, Provider.startPolling_asBuilt locator stopped h,
      Bool.false_eq_true, if_false]
    exact hs
  | tick =>
    rw [PollingSystem.step, if_neg (hnot PollLoop.noConfusion)]
    exact hs
  | finish =>
    unfold PollingSystem.step
    rw [hs.loop]
    exact hs
  | quit =>
    rw [PollingSystem.step, if_neg fun hquits => hnot PollLoop.noConfusion hquits.1]
    exact hs
  | stop => exact hs.of_same rfl rfl
  | goOn place => exact hs.goOn place

theorem run (hs : IsInert o locator s) (h : o.enabled = false) (schedule : List PollingAction) :
    IsInert o locator (s.run schedule) := by
  induction schedule generalizing s with
  | nil => exact hs
  | cons action schedule ih => exact ih (hs.step h action)

end IsInert

end PollingSystem

/-! ## Runs -/

/-- What is left of a run in the provider of a disabled client: nothing. -/
structure Provider.IsUntouched (o : ClientOptions) (p : Provider) : Prop where
  /-- The store holds the options, and nothing else. -/
  content : ∀ key, p.snapshot.get? key = Snapshot.lastValue? o.toPairs key
  /-- No token has fired. -/
  unfired : ∀ token, p.store.hasFired token = false
  lookups : p.lookups = []
  lastFetch : p.lastFetch = none
  notRunning : p.pollerState ≠ .running
  requests : p.metrics.requests = .empty
  loads : p.metrics.loads = .empty
  walksExhausted : p.metrics.walksExhausted = 0
  reloads : p.metrics.reloads = 0
  keys : p.metrics.keys = p.snapshot.size

theorem Provider.isUntouched_asBuilt (o : ClientOptions) (locator : Option Locator)
    (stopped : Bool) : (asBuilt o locator stopped).IsUntouched o where
  content := get?_asBuilt locator stopped
  unfired token := decide_eq_false (Nat.not_lt_zero token.issue)
  lookups := rfl
  lastFetch := rfl
  notRunning := pollerState_asBuilt_ne_running locator stopped
  requests := rfl
  loads := rfl
  walksExhausted := rfl
  reloads := rfl
  keys := by
    unfold asBuilt ofOptions snapshot Metrics.setKeys
    with_reducible rfl

/-- A disabled client is inert, whatever its other options are.  Operations leave
its provider untouched and return no error, and the servers behind a run are
those that have changed by themselves only.  This is so for all servers, also
for those that note every request. -/
theorem disabled_run {o : ClientOptions} (h : o.enabled = false) (locator : Option Locator)
    (net : Servers σ) (ops : List (Operation σ)) (servers : σ) :
    let s := run net ops (.ofOptions o locator, servers)
    s.1.IsUntouched o ∧
    s.2 = ops.foldl Operation.serversBehind servers ∧
    (∀ op : Operation σ, (op.result net s).isIdle = true) ∧
    (∀ (op : Operation (σ × List Request)) log, (∀ servers, op ≠ .serve servers) →
      (op.apply net.recorded (s.1, s.2, log)).2 = (s.2, log)) ∧
    -- So it is when callers, the poll loop and stops follow on each other in any order.
    ∀ schedule : List PollingAction,
      let during := (PollingSystem.ofProvider s.1).run schedule
      during.system.provider.IsUntouched o ∧ during.system.requests = [] ∧
      during.loop = .notStarted ∧
      ∀ c ∈ during.system.callers,
        c.stage = .dismissed c.kind.unneeded? ∨
        c.stage = .arrived ∧ ∀ isFree, c.move? during.system.provider isFree .proceed =
          some ⟨.dismissed c.kind.unneeded?, during.system.provider, none⟩ := by
  intro s
  have hs : s = (Provider.asBuilt o locator (false || ops.any Operation.isStop),
      ops.foldl Operation.serversBehind servers) := run_asBuilt h locator net ops false servers
  rw [hs]
  refine ⟨Provider.isUntouched_asBuilt o locator _, rfl,
    fun op => op.isIdle_result h locator net _ _, fun op log hop => ?_, fun schedule => ?_⟩
  · rw [op.apply_asBuilt h]
    cases op with
    | serve servers' => exact absurd rfl (hop servers')
    | _ => rfl
  · intro during
    have hinert : during.IsInert o locator :=
      (PollingSystem.IsInert.ofProvider _).run h schedule
    obtain ⟨stopped, hprovider⟩ := hinert.provider
    refine ⟨?_, by rw [System.requests, hinert.history, List.filterMap_nil], hinert.loop,
      fun c hc => ?_⟩
    · rw [hprovider]
      exact Provider.isUntouched_asBuilt o locator stopped
    · rcases hinert.callers c hc with hstage | hstage
      · exact Or.inr ⟨hstage, hinert.move?_of_arrived h hstage⟩
      · exact Or.inl hstage

/-- Options of a client that would look servers up, repeat its loads and poll,
if it were enabled. -/
def disabledOptions : ClientOptions where
  enabled := false
  failFast := true
  pollingInterval := 1000
  retry := { enabled := true }
  discovery := { enabled := true }

/-- Servers that count requests, and never answer. -/
def countingServers : Servers Nat where
  reply _ count := (.silence, count + 1)

/-- An attachment, polling, and loads that are cancelled before or block. -/
def busyOperations : List (Operation Nat) :=
  [.load true .atStart, .attach, .startPolling true, .poll, .loadBlocking .currentThread true,
    .health .zero .never, .addClientOptions, .stop, .attach]

/-- A registry that knows a server under every name. -/
def knowingRegistry : Locator where
  available := true
  resolve _ := ["http://[::1]"]

def busyRun : Provider × Nat :=
  run countingServers busyOperations (.ofOptions disabledOptions (some knowingRegistry), 0)

/-- No request is counted, and none is sent by a caller that is cancelled while
polling is started and stopped. -/
theorem disabled_run_busy :
    disabledOptions.enabled = false ∧ busyRun.1.IsUntouched disabledOptions ∧ busyRun.2 = 0 ∧
    ((PollingSystem.ofProvider busyRun.1).run [.caller (.call (.load true)), .caller (.cancel 0),
      .start true, .tick, .caller (.cue 0 .proceed), .stop, .goOn 0]).system.requests = [] := by
  have henabled : disabledOptions.enabled = false := rfl
  obtain ⟨huntouched, hservers, -, -, hschedule⟩ :=
    disabled_run henabled (some knowingRegistry) countingServers busyOperations 0
  exact ⟨henabled, huntouched, hservers, (hschedule _).2.1⟩

end RemoteConfig
