import RemoteConfig.Proofs.Provider.Ledger

/-!
# The life of a poller

A poller is started at most once and stopped for good.  While it runs, every
poll is a load whose end it survives, and afterwards no poll does anything.

* `Operation.apply_flags` is the case analysis: what each operation does to the
  two flags from which the state of a poller is read.
* `starts` lists the answers to all requests to start polling, with those that
  attachments make.
* `poller_run` is the result about runs.
-/

namespace RemoteConfig

variable {σ : Type}

/-! ## States -/

/-- How far a poller has come in its life. -/
def PollerState.rank : PollerState → Nat
  | notStarted => 0
  | running => 1
  | stopped => 2

namespace Provider

theorem pollerState_eq_stopped_iff {p : Provider} :
    p.pollerState = .stopped ↔ p.stopped = true := by
  unfold pollerState
  cases p.stopped <;> cases p.polling <;> simp

theorem pollerState_eq_running_iff {p : Provider} :
    p.pollerState = .running ↔ p.stopped = false ∧ p.polling = true := by
  unfold pollerState
  cases p.stopped <;> cases p.polling <;> simp

theorem pollerState_eq_notStarted_iff {p : Provider} :
    p.pollerState = .notStarted ↔ p.stopped = false ∧ p.polling = false := by
  unfold pollerState
  cases p.stopped <;> cases p.polling <;> simp

/-- A poller comes further where flags are set and none is taken back. -/
theorem rank_pollerState_le {p q : Provider} (hstopped : p.stopped = true → q.stopped = true)
    (hpolling : p.polling = true → q.polling = true) :
    p.pollerState.rank ≤ q.pollerState.rank := by
  unfold pollerState
  cases hp : p.stopped with
  | true => simp [hstopped hp]
  | false =>
    cases hq : q.stopped with
    | true => cases p.polling <;> simp [PollerState.rank]
    | false =>
      cases hpoll : p.polling with
      | true => simp [hpolling hpoll]
      | false => simp [PollerState.rank]

/-! ## Starting -/

theorem startPolling_eq_true_iff (p : Provider) (hasRuntime : Bool) :
    (p.startPolling hasRuntime).1 = true ↔
      p.pollerState = .notStarted ∧ p.options.enabled = true ∧ 0 < p.options.pollingInterval ∧
        hasRuntime = true := by
  have hinterval : p.options.pollingPause?.isSome = true ↔ 0 < p.options.pollingInterval := by
    unfold ClientOptions.pollingPause?
    split
    · rename_i hzero
      simp [hzero]
    · rename_i hne
      simp only [Option.isSome_some, true_iff]
      exact UInt64.pos_iff_ne_zero.2 hne
  rw [pollerState_eq_notStarted_iff, ← hinterval]
  unfold startPolling
  split
  · rename_i hstarts
    simp only [Bool.and_eq_true, Bool.not_eq_true'] at hstarts
    obtain ⟨⟨⟨⟨hpause, henabled⟩, hstopped⟩, hpolling⟩, hruntime⟩ := hstarts
    exact iff_of_true rfl ⟨⟨hstopped, hpolling⟩, henabled, hpause, hruntime⟩
  · rename_i hnot
    refine iff_of_false Bool.false_ne_true ?_
    rintro ⟨⟨hstopped, hpolling⟩, henabled, hpause, hruntime⟩
    apply hnot
    simp [hstopped, hpolling, henabled, hpause, hruntime]

/-- Starting sets one flag, and no other part of a provider. -/
theorem startPolling_snd (p : Provider) (hasRuntime : Bool) :
    (p.startPolling hasRuntime).2 =
      { p with polling := p.polling || (p.startPolling hasRuntime).1 } := by
  unfold startPolling
  split
  · simp
  · simp

theorem pollerState_startPolling (p : Provider) (hasRuntime : Bool) :
    (p.startPolling hasRuntime).2.pollerState =
      if (p.startPolling hasRuntime).1 then .running else p.pollerState := by
  cases hstarts : (p.startPolling hasRuntime).1 with
  | true =>
    have hstate := ((p.startPolling_eq_true_iff hasRuntime).1 hstarts).1
    rw [if_pos rfl, pollerState_eq_running_iff, startPolling_snd, hstarts, Bool.or_true]
    exact ⟨(pollerState_eq_notStarted_iff.1 hstate).1, rfl⟩
  | false =>
    rw [if_neg Bool.false_ne_true, startPolling_snd, hstarts, Bool.or_false]

theorem startPolling_load (p : Provider) (net : Servers σ) (update : Bool) (c : Cancellation)
    (servers : σ) (hasRuntime : Bool) :
    ((p.load net update c servers).2.1.startPolling hasRuntime).1 =
      (p.startPolling hasRuntime).1 := by
  obtain ⟨store, metrics, lastFetch, lookups, hframe⟩ := p.load_frame update net c servers
  rw [hframe]
  unfold startPolling
  simp only
  split
  · rfl
  · rfl

/-- How an attachment loads: a provider that was stopped loads nothing. -/
def attachLoad (net : Servers σ) (p : Provider) (servers : σ) : LoadResult × Provider × σ :=
  p.load net true (if p.stopped then .atStart else .never) servers

/-- An attachment fails if its load does, and starts polling otherwise if that is
possible. -/
theorem attach_cases (net : Servers σ) (p : Provider) (servers : σ) :
    (∃ e, (p.attachLoad net servers).1 = .error e ∧
      p.attach net servers = (.error e, (p.attachLoad net servers).2)) ∨
    (∃ found, (p.attachLoad net servers).1 = .ok found ∧
      p.attach net servers =
        (.ok (), ((p.attachLoad net servers).2.1.startPolling true).2,
          (p.attachLoad net servers).2.2)) := by
  unfold attach attachLoad
  rcases p.load net true (if p.stopped then .atStart else .never) servers with
    ⟨e | found, loaded, servers'⟩
  · exact Or.inl ⟨e, rfl, rfl⟩
  · exact Or.inr ⟨found, rfl, rfl⟩

/-- An attachment starts polling exactly if its load is no error and a request to
start polling would succeed. -/
theorem attach_starts_iff (net : Servers σ) (p : Provider) (servers : σ) :
    (p.pollerState = .notStarted ∧ (p.attach net servers).2.1.pollerState = .running) ↔
      (∀ e, (p.attachLoad net servers).1 ≠ .error e) ∧ (p.startPolling true).1 = true := by
  have hstate : (p.attachLoad net servers).2.1.pollerState = p.pollerState := by
    obtain ⟨store, metrics, lastFetch, lookups, hframe⟩ :=
      p.load_frame true net (if p.stopped then .atStart else .never) servers
    rw [attachLoad, hframe]
    rfl
  rcases p.attach_cases net servers with ⟨e, he, hattach⟩ | ⟨found, hfound, hattach⟩
  · rw [hattach, he]
    refine iff_of_false ?_ fun h => h.1 e rfl
    show ¬ (p.pollerState = .notStarted ∧
      (p.attachLoad net servers).2.1.pollerState = .running)
    rw [hstate]
    rintro ⟨hnot, hrunning⟩
    rw [hnot] at hrunning
    cases hrunning
  · have hanswer : ((p.attachLoad net servers).2.1.startPolling true).1 =
        (p.startPolling true).1 := p.startPolling_load net true _ servers true
    rw [hattach, hfound]
    show (p.pollerState = .notStarted ∧
      ((p.attachLoad net servers).2.1.startPolling true).2.pollerState = .running) ↔ _
    rw [pollerState_startPolling, hanswer, hstate]
    constructor
    · rintro ⟨hnot, hrunning⟩
      refine ⟨fun e h => (nomatch h), ?_⟩
      by_contra hno
      rw [if_neg hno, hnot] at hrunning
      cases hrunning
    · rintro ⟨-, hstarts⟩
      rw [if_pos hstarts]
      exact ⟨((p.startPolling_eq_true_iff true).1 hstarts).1, rfl⟩

end Provider

/-! ## One operation -/

namespace Operation

/-- The provider is stopped in an operation. -/
def isStop : Operation σ → Bool
  | stop => true
  | _ => false

/-- A tick of the poller has elapsed. -/
def isPoll : Operation σ → Bool
  | poll => true
  | _ => false

/-- A caller loads in order to update the store. -/
def isUpdate : Operation σ → Bool
  | load update _ => update
  | loadBlocking .. => true
  | _ => false

/-- The answer to a request to start polling, if an operation makes one. -/
def start? (net : Servers σ) : Operation σ → Provider × σ → Option Bool
  | startPolling hasRuntime, (p, _) => some (p.startPolling hasRuntime).1
  | attach, (p, servers) =>
    match p.attachLoad net servers with
    | (.ok _, p, _) => some (p.startPolling true).1
    | (.error _, _) => none
  | _, _ => none

variable (net : Servers σ) {p : Provider} (servers : σ)

/-- An operation starts polling if it is told so, and stops it if it is a stop. -/
theorem apply_flags (op : Operation σ) (h : p.PollsIfEnabled) :
    (op.apply net (p, servers)).1.stopped = (p.stopped || op.isStop) ∧
      (op.apply net (p, servers)).1.polling =
        (p.polling || (op.start? net (p, servers)).getD false) := by
  have hload (update : Bool) (c : Cancellation) :
      (p.load net update c servers).2.1.stopped = (p.stopped || false) ∧
        (p.load net update c servers).2.1.polling = (p.polling || false) := by
    obtain ⟨store, metrics, lastFetch, lookups, hframe⟩ := p.load_frame update net c servers
    rw [hframe, Bool.or_false, Bool.or_false]
    exact ⟨rfl, rfl⟩
  have hself : p.stopped = (p.stopped || false) ∧ p.polling = (p.polling || false) := by
    rw [Bool.or_false, Bool.or_false]
    exact ⟨rfl, rfl⟩
  cases op with
  | load update c => exact hload update c
  | loadBlocking runtime busy =>
    rw [apply, p.loadBlocking_state net runtime busy servers]
    split
    · exact hself
    · exact hload true .never
  | attach =>
    have hattached : (p.attachLoad net servers).2.1.stopped = (p.stopped || false) ∧
        (p.attachLoad net servers).2.1.polling = (p.polling || false) := hload true _
    rcases p.attach_cases net servers with ⟨e, he, hattach⟩ | ⟨found, hfound, hattach⟩
    · have hnone : start? net .attach (p, servers) = none := by
        rw [start?]
        rcases hcall : p.attachLoad net servers with ⟨_ | _, loaded⟩
        · rfl
        · rw [hcall] at he
          cases he
      rw [apply, hattach, hnone]
      exact hattached
    · have hsome : start? net .attach (p, servers) =
          some ((p.attachLoad net servers).2.1.startPolling true).1 := by
        rw [start?]
        rcases hcall : p.attachLoad net servers with ⟨_ | _, loaded⟩
        · rw [hcall] at hfound
          cases hfound
        · rfl
      rw [apply, hattach, hsome, Provider.startPolling_snd]
      simp only [Option.getD_some]
      rw [hattached.2, Bool.or_false]
      exact ⟨hattached.1, rfl⟩
  | poll =>
    rw [apply, Provider.poll_eq_load h]
    split
    · exact hload true .never
    · exact hself
  | health age c =>
    rw [apply, p.health_state net age c servers]
    split
    · exact hload false c
    · exact hself
  | addClientOptions =>
    obtain ⟨store, metrics, hset⟩ := p.addClientOptions_frame
    rw [apply, hset]
    exact hself
  | startPolling hasRuntime =>
    rw [apply, Provider.startPolling_snd]
    exact ⟨hself.1, rfl⟩
  | stop =>
    refine ⟨?_, hself.2⟩
    rw [isStop, Bool.or_true]
    rfl
  | serve servers' => exact hself

/-- A poller comes further in every operation, or stays where it is. -/
theorem rank_pollerState_apply (op : Operation σ) (h : p.PollsIfEnabled) :
    p.pollerState.rank ≤ (op.apply net (p, servers)).1.pollerState.rank := by
  obtain ⟨hstopped, hpolling⟩ := op.apply_flags net servers h
  apply Provider.rank_pollerState_le
  · intro hp
    rw [hstopped, hp, Bool.true_or]
  · intro hp
    rw [hpolling, hp, Bool.true_or]

/-- Nothing but a start starts polling, and nothing starts what has started. -/
theorem start?_of_polling (op : Operation σ) (hpolling : p.polling = true) :
    op.start? net (p, servers) ≠ some true := by
  have hno (q : Provider) (hq : q.polling = true) (hasRuntime : Bool) :
      (q.startPolling hasRuntime).1 ≠ true := by
    rw [Ne, Provider.startPolling_eq_true_iff, Provider.pollerState_eq_notStarted_iff, hq]
    rintro ⟨⟨-, hfalse⟩, -⟩
    cases hfalse
  cases op with
  | startPolling hasRuntime =>
    rw [start?, Ne, Option.some.injEq]
    exact hno p hpolling hasRuntime
  | attach =>
    have hload : (p.attachLoad net servers).2.1.polling = true :=
      (Provider.load_polling net true _ servers).trans hpolling
    rw [start?]
    rcases hcall : p.attachLoad net servers with ⟨_ | _, loaded, servers'⟩
    · exact fun h => nomatch h
    · rw [hcall] at hload
      rw [Ne, Option.some.injEq]
      exact hno loaded hload true
  | load | loadBlocking | poll | health | addClientOptions | stop | serve =>
    exact fun h => nomatch h

/-- While a poller runs, a poll is one load, which nobody cancels. -/
theorem apply_poll (h : p.PollsIfEnabled) (hrunning : p.pollerState = .running) :
    (poll.apply net (p, servers) = (p.load net true .never servers).2) ∧
      poll.started? (p, servers) = some ⟨⟨true, .never⟩, p, servers⟩ := by
  have henabled := h (Provider.pollerState_eq_running_iff.1 hrunning).2
  constructor
  · rw [apply, Provider.poll_eq_load h, if_pos hrunning]
    rfl
  · simp [started?, call?, hrunning, henabled]

end Operation

/-! ## Runs -/

/-- The answers to the requests to start polling, in order. -/
def starts (net : Servers σ) : List (Operation σ) → Provider × σ → List Bool
  | [], _ => []
  | op :: ops, s => (op.start? net s).toList ++ starts net ops (op.apply net s)

section

variable {net : Servers σ} {s : Provider × σ}

theorem run_cons (op : Operation σ) (ops : List (Operation σ)) (s : Provider × σ) :
    run net (op :: ops) s = run net ops (op.apply net s) := rfl

theorem rank_pollerState_run (h : s.1.PollsIfEnabled) (ops : List (Operation σ)) :
    s.1.pollerState.rank ≤ (run net ops s).1.pollerState.rank := by
  induction ops generalizing s with
  | nil => exact Nat.le_refl _
  | cons op ops ih =>
    exact Nat.le_trans (op.rank_pollerState_apply net s.2 h)
      (ih (op.apply_pollsIfEnabled net h s.2))

/-- Each start that succeeds sets the flag of polling, which nothing takes back:
there is no second one. -/
theorem count_starts (h : s.1.PollsIfEnabled) (ops : List (Operation σ)) :
    (starts net ops s).count true + (if s.1.polling then 1 else 0) =
      if (run net ops s).1.polling then 1 else 0 := by
  induction ops generalizing s with
  | nil => rw [starts, List.count_nil, Nat.zero_add, run, List.foldl_nil]
  | cons op ops ih =>
    have hflag : (op.apply net s).1.polling = (s.1.polling || (op.start? net s).getD false) :=
      (op.apply_flags net s.2 h).2
    have hno : s.1.polling = true → op.start? net s ≠ some true :=
      op.start?_of_polling net s.2
    have hnext : (op.apply net s).1.PollsIfEnabled := op.apply_pollsIfEnabled net h s.2
    rw [run_cons, ← ih hnext, starts, List.count_append, hflag]
    rcases hstart : op.start? net s with _ | _ | _
    · simp
    · simp
    · have hpolling : s.1.polling = false := by
        rw [← Bool.not_eq_true]
        exact fun hpolling => hno hpolling hstart
      simp [hpolling]
      omega

theorem stopped_run (h : s.1.PollsIfEnabled) (ops : List (Operation σ)) :
    (run net ops s).1.stopped = (s.1.stopped || ops.any Operation.isStop) := by
  induction ops generalizing s with
  | nil => rw [List.any_nil, Bool.or_false, run, List.foldl_nil]
  | cons op ops ih =>
    rw [run_cons, ih (op.apply_pollsIfEnabled net h s.2), (op.apply_flags net s.2 h).1,
      List.any_cons, Bool.or_assoc]

/-- No poll ends polling: as long as nobody stops it, a poller runs. -/
theorem running_run (h : s.1.PollsIfEnabled) (hrunning : s.1.pollerState = .running)
    {ops : List (Operation σ)} (hstops : ∀ op ∈ ops, op.isStop = false) :
    (run net ops s).1.pollerState = .running := by
  rw [Provider.pollerState_eq_running_iff] at hrunning ⊢
  constructor
  · rw [stopped_run h, hrunning.1, Bool.false_or, List.any_eq_false]
    intro op hop
    rw [hstops op hop]
    exact Bool.false_ne_true
  · have hcount := @count_starts σ net s h ops
    rw [if_pos hrunning.2] at hcount
    by_contra hnot
    rw [if_neg hnot] at hcount
    omega

/-! ## After a stop -/

/-- A poll of a stopped provider does nothing. -/
theorem Operation.apply_poll_of_stopped (hstopped : s.1.stopped = true) :
    poll.apply net s = s ∧ poll.started? s = none := by
  have hnot : ¬ s.1.pollerState = .running := by
    rw [Provider.pollerState_eq_running_iff, hstopped]
    rintro ⟨hfalse, -⟩
    cases hfalse
  constructor
  · show (s.1.poll net s.2).getD s = s
    rw [Provider.poll, if_neg hnot]
    rfl
  · simp [started?, call?, hnot]

/-- Polls of a stopped provider can be left out. -/
theorem run_filter_of_stopped (h : s.1.PollsIfEnabled) (hstopped : s.1.stopped = true)
    (ops : List (Operation σ)) :
    run net (ops.filter (!·.isPoll)) s = run net ops s ∧
      startedLoads net (ops.filter (!·.isPoll)) s = startedLoads net ops s := by
  induction ops generalizing s with
  | nil => exact ⟨rfl, rfl⟩
  | cons op ops ih =>
    have hnext : (op.apply net s).1.stopped = true := by
      rw [(op.apply_flags net s.2 h).1, hstopped, Bool.true_or]
    obtain ⟨hrun, hstarted⟩ := ih (op.apply_pollsIfEnabled net h s.2) hnext
    by_cases hpoll : op.isPoll = true
    · have hop : op = .poll := by
        cases op <;> first | rfl | cases hpoll
      subst hop
      obtain ⟨happly, hnone⟩ := @Operation.apply_poll_of_stopped σ net s hstopped
      rw [happly] at hrun hstarted
      rw [List.filter_cons_of_neg (by simp [hpoll]), run_cons, startedLoads, happly, hnone]
      exact ⟨hrun, hstarted⟩
    · rw [List.filter_cons_of_pos (by simp [hpoll]), run_cons, run_cons, startedLoads,
        startedLoads, hrun, hstarted]
      exact ⟨rfl, rfl⟩

/-- On a stopped provider only callers that load change the store. -/
theorem Operation.store_apply_of_stopped {o : ClientOptions} {ended : List EndedLoad}
    (h : s.1.PollsIfEnabled) (hoptions : s.1.options = o) (hholds : StoreHolds o ended s.1)
    (hstopped : s.1.stopped = true) {op : Operation σ} (hupdate : op.isUpdate = false) :
    (op.apply net s).1.store = s.1.store := by
  have hload (update : Bool) (c : Cancellation) (hnone : update = false ∨ c = .atStart) :
      (s.1.load net update c s.2).2.1.store = s.1.store := by
    rcases hnone with rfl | rfl
    · rw [Provider.load_store]
      rfl
    · rw [(s.1.load_of_not_started net update s.2 fun _ => rfl).1]
  rcases op.apply_cases net h s.2 with
    ⟨call, polling, -, hcall, heq⟩ | ⟨-, polling, stopped, -, heq⟩ | ⟨-, heq⟩
  · rw [heq]
    apply hload
    cases op with
    | load update c =>
      cases hcall
      exact Or.inl hupdate
    | loadBlocking runtime busy => cases hupdate
    | attach =>
      rw [call?, hstopped] at hcall
      cases hcall
      exact Or.inr rfl
    | poll =>
      rw [call?, Provider.pollerState_eq_stopped_iff.2 hstopped] at hcall
      cases hcall
    | health age c =>
      rw [call?] at hcall
      split at hcall
      · cases hcall
        exact Or.inl rfl
      · cases hcall
    | addClientOptions | startPolling | stop | serve => cases hcall
  · rw [heq]
  · rw [heq, hholds.addClientOptions_eq_self hoptions]

theorem store_run_of_stopped {o : ClientOptions} {ended : List EndedLoad}
    (h : s.1.PollsIfEnabled) (hoptions : s.1.options = o) (hholds : StoreHolds o ended s.1)
    (hstopped : s.1.stopped = true) {ops : List (Operation σ)}
    (hupdates : ∀ op ∈ ops, op.isUpdate = false) : (run net ops s).1.store = s.1.store := by
  induction ops generalizing ended s with
  | nil => rfl
  | cons op ops ih =>
    obtain ⟨hupdate, hupdates⟩ := List.forall_mem_cons.1 hupdates
    have hnext : (op.apply net s).1.PollsIfEnabled := op.apply_pollsIfEnabled net h s.2
    have hflag : (op.apply net s).1.stopped = (s.1.stopped || op.isStop) :=
      (op.apply_flags net s.2 h).1
    have hkept := (StoreHolds.isInvariant net o).apply hoptions h hholds op s.2
    rw [run_cons, ih hnext ((op.apply_options net h s.2).trans hoptions) hkept
      (by rw [hflag, hstopped, Bool.true_or]) hupdates]
    exact Operation.store_apply_of_stopped h hoptions hholds hstopped hupdate

end

/-! ## The whole life -/

/-- The life of a poller, in every run of a provider.

* It only goes from not started over running to stopped.
* Polling is started at most once.  A request succeeds exactly if polling was
  not started before, the client is enabled, the interval is not zero and there
  is a runtime.  An attachment starts polling exactly if its load is no error
  and a request would succeed.
* While the poller runs, a poll is one load, which nobody cancels.  It runs until
  it is stopped, however its loads end.
* Once stopped it stays so.  Polls do nothing then, and the store stays as it is
  until a caller loads in order to update it.
* At all times the store answers as it was last published. -/
theorem poller_run (o : ClientOptions) (locator : Option Locator) (net : Servers σ)
    (ops : List (Operation σ)) (servers : σ) :
    let start := (Provider.ofOptions o locator, servers)
    let s := run net ops start
    let p := s.1
    (∀ later, p.pollerState.rank ≤ (run net later s).1.pollerState.rank) ∧
    (starts net ops start).count true ≤ 1 ∧
    (∀ hasRuntime,
      ((p.startPolling hasRuntime).1 = true ↔
        p.pollerState = .notStarted ∧ o.enabled = true ∧ 0 < o.pollingInterval ∧
          hasRuntime = true) ∧
      (p.startPolling hasRuntime).2.pollerState =
        if (p.startPolling hasRuntime).1 then .running else p.pollerState) ∧
    ((p.pollerState = .notStarted ∧ (p.attach net s.2).2.1.pollerState = .running) ↔
      (∀ e, (p.attachLoad net s.2).1 ≠ .error e) ∧ (p.startPolling true).1 = true) ∧
    (p.pollerState = .running →
      Operation.poll.started? s = some ⟨⟨true, .never⟩, p, s.2⟩ ∧
      Operation.poll.apply net s = (p.load net true .never s.2).2 ∧
      ∀ later, (∀ op ∈ later, op.isStop = false) →
        (run net later s).1.pollerState = .running) ∧
    (∀ later, (run net (.stop :: later) s).1.pollerState = .stopped) ∧
    (p.pollerState = .stopped → ∀ later,
      run net (later.filter (!·.isPoll)) s = run net later s ∧
      startedLoads net (later.filter (!·.isPoll)) s = startedLoads net later s ∧
      ((∀ op ∈ later, op.isUpdate = false) → (run net later s).1.store = p.store)) ∧
    ∀ key, p.snapshot.get? key =
      (builtFrom o (lastPublished? (loads net ops start))).get? key := by
  intro start s p
  have hstart : start.1.PollsIfEnabled := fun h => by cases h
  have hpolls : s.1.PollsIfEnabled := run_pollsIfEnabled hstart ops
  have hoptions : p.options = o := run_options net ops o locator servers
  have hholds := (StoreHolds.isInvariant net o).run locator (.ofOptions o locator) ops servers
  refine ⟨rank_pollerState_run hpolls, ?_, fun hasRuntime => ⟨?_, ?_⟩, ?_, fun hrunning => ?_,
    fun later => ?_, fun hstopped later => ?_, hholds.content⟩
  · have hcount := @count_starts σ net start hstart ops
    split at hcount <;> split at hcount <;> omega
  · rw [← hoptions]
    exact p.startPolling_eq_true_iff hasRuntime
  · exact p.pollerState_startPolling hasRuntime
  · exact p.attach_starts_iff net s.2
  · obtain ⟨happly, hstarted⟩ := Operation.apply_poll net s.2 hpolls hrunning
    exact ⟨hstarted, happly, fun later hstops => running_run hpolls hrunning hstops⟩
  · have hstopped : (Operation.stop.apply net s).1.stopped = true := rfl
    rw [run_cons, Provider.pollerState_eq_stopped_iff,
      stopped_run (Operation.stop.apply_pollsIfEnabled net hpolls s.2), hstopped, Bool.true_or]
  · rw [Provider.pollerState_eq_stopped_iff] at hstopped
    obtain ⟨hrun, hstarted⟩ := @run_filter_of_stopped σ net s hpolls hstopped later
    exact ⟨hrun, hstarted, store_run_of_stopped hpolls hoptions hholds hstopped⟩

/-- Options of a client that polls. -/
def pollingOptions : ClientOptions where
  pollingInterval := 1000

/-- Polling goes on however often the servers do not answer. -/
theorem poller_run_silent :
    let net : Servers Unit := ⟨fun _ s => (.silence, s)⟩
    let s := run net [.startPolling true] (.ofOptions pollingOptions, ())
    s.1.pollerState = .running ∧
    (∀ n, (run net (List.replicate n .poll) s).1.pollerState = .running) ∧
    (run net [.stop, .startPolling true, .poll] s).1.pollerState = .stopped := by
  intro net s
  have hrunning : s.1.pollerState = .running := by
    have hstarts : ((Provider.ofOptions pollingOptions).startPolling true).1 = true := by
      rw [Provider.startPolling_eq_true_iff]
      exact ⟨rfl, rfl, by decide, rfl⟩
    show ((Provider.ofOptions pollingOptions).startPolling true).2.pollerState = .running
    rw [Provider.pollerState_startPolling, if_pos hstarts]
  obtain ⟨-, -, -, -, hruns, hstops, -⟩ :=
    poller_run pollingOptions none net [.startPolling true] ()
  refine ⟨hrunning, fun n => (hruns hrunning).2.2 _ ?_, hstops _⟩
  intro op hop
  rw [List.eq_of_mem_replicate hop]
  rfl

end RemoteConfig
