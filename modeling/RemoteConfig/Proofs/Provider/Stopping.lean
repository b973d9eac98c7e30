import RemoteConfig.Proofs.Provider.StoppingSteps

/-!
# What a stop waits for

One who has taken the handle of the poll loop returns behind the end of the
loop.  One who finds the handle taken returns at once, while the tick that the
other one waits for is still in flight.

* `HandleInvariant` says who has the handle of the loop, and `PollInvariant`
  which polls are over.  Each step keeps them.
* `pollDeeds_run` says what polls still do when the provider was stopped, and
  `isQuiet_iff` when this is nothing.
* `quiet_of_returned` is what a stop promises, and `returned_while_ticking` is a
  schedule on which a stop does not wait.
-/

namespace RemoteConfig

namespace PollingSystem

variable {s t : PollingSystem}

/-! ## Who has the handle -/

/-- What holds on every schedule about the loop, its handle and those who stop the
provider. -/
structure HandleInvariant (s : PollingSystem) : Prop where
  /-- The loop was started exactly if the provider says so. -/
  polling : s.system.provider.polling = true ↔ s.loop ≠ .notStarted
  /-- Whoever stops the provider has marked it first. -/
  stopped : ∀ stopper ∈ s.stoppers, stopper ≠ .arrived → s.system.provider.stopped = true
  /-- There is no handle before the loop was started. -/
  started : s.hasHandle = true ∨ .joining ∈ s.stoppers → s.loop ≠ .notStarted
  /-- As long as the loop has not ended, its handle is there, or someone waits with
  it. -/
  handle : s.loop ≠ .notStarted →
    s.hasHandle = true ∨ .joining ∈ s.stoppers ∨ s.loop = .ended
  /-- Whoever waits or has returned has not left the handle. -/
  taken : .joining ∈ s.stoppers ∨ .returned ∈ s.stoppers → s.hasHandle = false

/-- The stoppers when one of them has come further. -/
theorem mem_set_iff {stoppers : List Stopper} {place : Nat} {before behind : Stopper}
    (other : Stopper) (h : stoppers[place]? = some before) (hbefore : other ≠ before) :
    other ∈ stoppers.set place behind ↔ other ∈ stoppers ∨ other = behind := by
  obtain ⟨hplace, hget⟩ := List.getElem?_eq_some_iff.1 h
  constructor
  · exact List.mem_or_eq_of_mem_set
  · rintro (hmem | rfl)
    · obtain ⟨j, hj⟩ := List.mem_iff_getElem?.1 hmem
      have hne : place ≠ j := by
        rintro rfl
        rw [h] at hj
        exact hbefore (Option.some.inj hj).symm
      exact List.mem_of_getElem? ((List.getElem?_set_ne hne).trans hj)
    · exact List.mem_set hplace _

namespace HandleInvariant

theorem ofOptions (o : ClientOptions) (locator : Option Locator) :
    (ofProvider (.ofOptions o locator)).HandleInvariant where
  polling := iff_of_false nofun fun h => h rfl
  stopped _ h := nomatch h
  started h := by rcases h with h | h <;> cases h
  handle h := absurd rfl h
  taken h := by rcases h with h | h <;> cases h

/-- A loop that goes on has its handle where it was. -/
theorem goes_on (h : s.HandleInvariant) {loop : PollLoop} {system : System}
    (hloop : s.loop ≠ .notStarted) (hbefore : s.loop ≠ .ended) (hbehind : loop ≠ .notStarted)
    (hpolling : system.provider.polling = s.system.provider.polling)
    (hstopped : system.provider.stopped = s.system.provider.stopped) :
    ({ s with system, loop } : PollingSystem).HandleInvariant where
  polling := iff_of_true (hpolling.trans (h.polling.2 hloop)) hbehind
  stopped stopper hmem hne := hstopped.trans (h.stopped stopper hmem hne)
  started _ := hbehind
  handle _ := by
    rcases h.handle hloop with hhandle | hjoining | hended
    · exact Or.inl hhandle
    · exact Or.inr (Or.inl hjoining)
    · exact absurd hended hbefore
  taken := h.taken

theorem start (h : s.HandleInvariant) (hnotStarted : s.system.provider.pollerState = .notStarted) :
    ({ s with
      system := { s.system with provider := { s.system.provider with polling := true } }
      loop := .waiting
      hasHandle := true } : PollingSystem).HandleInvariant := by
  obtain ⟨hstopped, hpolling⟩ := Provider.pollerState_eq_notStarted_iff.1 hnotStarted
  have harrived : ∀ stopper ∈ s.stoppers, stopper = .arrived := by
    intro stopper hmem
    by_contra hne
    rw [h.stopped stopper hmem hne] at hstopped
    cases hstopped
  refine ⟨iff_of_true rfl nofun, fun stopper hmem hne => absurd (harrived stopper hmem) hne,
    fun _ => nofun, fun _ => Or.inl rfl, ?_⟩
  rintro (hmem | hmem)
  · cases harrived _ hmem
  · cases harrived _ hmem

/-- Someone comes to stop the provider, or cancels its loop. -/
theorem of_stoppers (h : s.HandleInvariant) {system : System} {stoppers : List Stopper}
    (hpolling : system.provider.polling = s.system.provider.polling)
    (hstopped : ∀ stopper ∈ stoppers, stopper ≠ .arrived → system.provider.stopped = true)
    (hjoining : .joining ∈ stoppers ↔ .joining ∈ s.stoppers)
    (hreturned : .returned ∈ stoppers ↔ .returned ∈ s.stoppers) :
    ({ s with system, stoppers } : PollingSystem).HandleInvariant where
  polling := by
    show system.provider.polling = true ↔ s.loop ≠ .notStarted
    rw [hpolling, h.polling]
  stopped := hstopped
  started := by
    show s.hasHandle = true ∨ .joining ∈ stoppers → s.loop ≠ .notStarted
    rw [hjoining]
    exact h.started
  handle := by
    show s.loop ≠ .notStarted → s.hasHandle = true ∨ .joining ∈ stoppers ∨ s.loop = .ended
    rw [hjoining]
    exact h.handle
  taken := by
    show .joining ∈ stoppers ∨ .returned ∈ stoppers → s.hasHandle = false
    rw [hjoining, hreturned]
    exact h.taken

theorem step (h : s.HandleInvariant) (hstep : s.Steps t) : t.HandleInvariant := by
  cases hstep with
  | stay => exact h
  | call =>
    obtain ⟨hpolling, hstopped⟩ := s.system.flags_step ‹_›
    exact h.of_stoppers hpolling (fun _ hmem hne => hstopped.trans (h.stopped _ hmem hne))
      Iff.rfl Iff.rfl
  | start hnotStarted => exact h.start hnotStarted
  | tick hwaiting =>
    exact h.goes_on (by rw [hwaiting]; exact nofun) (by rw [hwaiting]; exact nofun) nofun rfl rfl
  | finish hticking =>
    exact h.goes_on (by rw [hticking]; exact nofun) (by rw [hticking]; exact nofun) nofun rfl rfl
  | quit hwaiting =>
    exact h.goes_on (by rw [hwaiting]; exact nofun) (by rw [hwaiting]; exact nofun) nofun rfl rfl
  | stop =>
    have hmem (stopper : Stopper) (hne : stopper ≠ .arrived) :
        stopper ∈ s.stoppers ++ [.arrived] ↔ stopper ∈ s.stoppers := by
      rw [List.mem_append, List.mem_singleton, or_iff_left hne]
    exact h.of_stoppers rfl
      (fun stopper hstopper hne => h.stopped stopper ((hmem stopper hne).1 hstopper) hne)
      (hmem .joining nofun) (hmem .returned nofun)
  | @cancel place harrived =>
    have hcancelled := s.isCancelledFrom_cancel
    have hmem (stopper : Stopper) (hne : stopper ≠ .arrived) (hne' : stopper ≠ .cancelled) :
        stopper ∈ s.stoppers.set place .cancelled ↔ stopper ∈ s.stoppers := by
      rw [mem_set_iff stopper harrived hne, or_iff_left hne']
    have hstep := h.of_stoppers hcancelled.polling (fun _ _ _ => hcancelled.stopped)
      (hmem .joining nofun nofun) (hmem .returned nofun nofun)
    rw [← hcancelled.loop, ← hcancelled.hasHandle] at hstep
    exact hstep
  | @take place hcancelled hhandle =>
    have hstopped := h.stopped _ (List.mem_of_getElem? hcancelled) nofun
    have hjoining : .joining ∈ s.stoppers.set place .joining :=
      (mem_set_iff .joining hcancelled nofun).2 (Or.inr rfl)
    exact ⟨h.polling, fun _ _ _ => hstopped, fun _ => h.started (Or.inl hhandle),
      fun _ => Or.inr (Or.inl hjoining), fun _ => rfl⟩
  | @miss place hcancelled hnone =>
    have hstopped := h.stopped _ (List.mem_of_getElem? hcancelled) nofun
    have hjoining : .joining ∈ s.stoppers.set place .returned ↔ .joining ∈ s.stoppers := by
      rw [mem_set_iff .joining hcancelled nofun, or_iff_left nofun]
    refine ⟨h.polling, fun _ _ _ => hstopped, ?_, ?_, fun _ => hnone⟩
    · show s.hasHandle = true ∨ .joining ∈ s.stoppers.set place .returned → s.loop ≠ .notStarted
      rw [hjoining]
      exact h.started
    · show s.loop ≠ .notStarted → s.hasHandle = true ∨
        .joining ∈ s.stoppers.set place .returned ∨ s.loop = .ended
      rw [hjoining]
      exact h.handle
  | @join place hjoining hended =>
    have hmem := List.mem_of_getElem? hjoining
    exact ⟨h.polling, fun _ _ _ => h.stopped _ hmem nofun, fun _ => h.started (Or.inr hmem),
      fun _ => Or.inr (Or.inr hended), fun _ => h.taken (Or.inl hmem)⟩

theorem run (h : s.HandleInvariant) (schedule : List PollingAction) :
    (s.run schedule).HandleInvariant := by
  induction schedule generalizing s with
  | nil => exact h
  | cons action schedule ih => exact ih (h.step (s.steps action))

end HandleInvariant

/-! ## Which polls are over -/

/-- What holds on every schedule about the polls of the loop. -/
structure PollInvariant (s : PollingSystem) : Prop where
  /-- At most the poll of the current tick is not over. -/
  othersOver : ∀ (i : Nat) (c : Caller), s.system.callers[i]? = some c → c.kind = .poll →
    s.loop ≠ .ticking i → c.stage.isOver = true
  /-- When the provider was stopped, a poll that waits for the lock gives up. -/
  entered : s.system.provider.stopped = true → ∀ (i : Nat) (c : Caller),
    s.system.callers[i]? = some c → c.kind = .poll → c.isActive = true →
      c.stage.hasEntered = true
  /-- Whatever was done was done by a caller. -/
  known : ∀ e ∈ s.system.history, e.1 < s.system.callers.length

/-- A poll that may still do something. -/
def IsActivePoll (s : PollingSystem) (i : Nat) : Prop :=
  ∃ c, s.system.callers[i]? = some c ∧ c.kind = .poll ∧ c.isActive = true

/-- An active poll is that of the tick in flight. -/
theorem IsActivePoll.ticking {i : Nat} (h : s.IsActivePoll i) (hpolls : s.PollInvariant) :
    s.loop = .ticking i := by
  obtain ⟨c, hc, hkind, hactive⟩ := h
  by_contra hloop
  have hover := hpolls.othersOver i c hc hkind hloop
  rw [Caller.isOver_of_isActive hactive] at hover
  cases hover

/-- A tick that is not over stays the current one. -/
theorem Steps.ticking (h : s.Steps t) (hhandle : s.HandleInvariant) {i : Nat}
    (hticking : s.loop = .ticking i) : t.loop = .ticking i ∨ s.isOver i = true := by
  cases h with
  | stay | call | stop | take | miss | join => exact Or.inl hticking
  | start hnotStarted =>
    have hpolling := hhandle.polling.2 (by rw [hticking]; exact nofun)
    rw [(Provider.pollerState_eq_notStarted_iff.1 hnotStarted).2] at hpolling
    cases hpolling
  | tick hwaiting | quit hwaiting =>
    rw [hticking] at hwaiting
    cases hwaiting
  | @finish j hticking' hover =>
    rw [hticking] at hticking'
    obtain rfl := PollLoop.ticking.inj hticking'
    exact Or.inr hover
  | cancel => exact Or.inl (s.isCancelledFrom_cancel.loop.trans hticking)

/-- A stop that cancels the loop makes its poll give up unless it is inside the
lock. -/
theorem hasEntered_cancel (h : s.PollInvariant) {i : Nat} {c : Caller}
    (hc : s.cancel.system.callers[i]? = some c) (hkind : c.kind = .poll)
    (hactive : c.isActive = true) : c.stage.hasEntered = true := by
  rcases s.callers_cancel with ⟨hidle, hcallers⟩ | ⟨j, hticking, hcallers⟩
  · rw [hcallers] at hc
    have hactivePoll : s.IsActivePoll i := ⟨c, hc, hkind, hactive⟩
    exact absurd (hactivePoll.ticking h) (hidle i)
  · rw [hcallers] at hc
    obtain ⟨before, hbefore, rfl⟩ := System.exists_caller_cancel hc
    by_cases hij : j = i
    · rw [if_pos hij] at hkind hactive ⊢
      exact Caller.hasEntered_of_isActive hactive rfl (by rw [hkind]; rfl)
    · rw [if_neg hij] at hkind hactive
      have hactivePoll : s.IsActivePoll i := ⟨before, hbefore, hkind, hactive⟩
      have hticking' := hactivePoll.ticking h
      rw [hticking] at hticking'
      exact absurd (PollLoop.ticking.inj hticking') hij

/-- A provider that was stopped needs no polls. -/
theorem needsLoad_poll {p : Provider} (h : p.stopped = true) :
    CallKind.needsLoad p .poll = false := by
  unfold CallKind.needsLoad
  rw [Provider.pollerState_eq_stopped_iff.2 h]
  rfl

/-- In a provider that was stopped no poll becomes active. -/
theorem Steps.exists_active (h : s.Steps t) (hstopped : s.system.provider.stopped = true)
    {i : Nat} {c : Caller} (hc : t.system.callers[i]? = some c) (hkind : c.kind = .poll)
    (hactive : c.isActive = true) :
    ∃ before, s.system.callers[i]? = some before ∧ before.kind = .poll ∧
      before.isActive = true ∧ before.Follows s.system.provider c := by
  rcases h.exists_caller hc with ⟨before, hbefore, hfollows⟩ | ⟨-, harrived, -⟩
  · have hpoll := hfollows.kind.symm.trans hkind
    refine ⟨before, hbefore, hpoll, ?_, hfollows⟩
    rcases hfollows.active hactive with hwas | hneeds
    · exact hwas
    · rw [hpoll, needsLoad_poll hstopped] at hneeds
      cases hneeds
  · rw [Caller.isActive, harrived] at hactive
    cases hactive

namespace PollInvariant

theorem ofOptions (o : ClientOptions) (locator : Option Locator) :
    (ofProvider (.ofOptions o locator)).PollInvariant where
  othersOver _ _ h := nomatch h
  entered h := nomatch h
  known _ h := nomatch h

theorem othersOver_step (h : s.PollInvariant) (hhandle : s.HandleInvariant) (hstep : s.Steps t)
    {i : Nat} {c : Caller} (hc : t.system.callers[i]? = some c) (hkind : c.kind = .poll)
    (hloop : t.loop ≠ .ticking i) : c.stage.isOver = true := by
  rcases hstep.exists_caller hc with ⟨before, hbefore, hfollows⟩ | ⟨-, -, hticking⟩
  · have hwas : before.stage.isOver = true := by
      by_cases hticking : s.loop = .ticking i
      · rcases hstep.ticking hhandle hticking with hstays | hover
        · exact absurd hstays hloop
        · rw [isOver, hbefore] at hover
          exact hover
      · exact h.othersOver i before hbefore (hfollows.kind.symm.trans hkind) hticking
    rw [hfollows.remains hwas]
    exact hwas
  · exact absurd (hticking hkind) hloop

theorem entered_step (h : s.PollInvariant) (hstep : s.Steps t)
    (hstopped : t.system.provider.stopped = true) {i : Nat} {c : Caller}
    (hc : t.system.callers[i]? = some c) (hkind : c.kind = .poll) (hactive : c.isActive = true) :
    c.stage.hasEntered = true := by
  by_cases hwas : s.system.provider.stopped = true
  · obtain ⟨before, hbefore, hpoll, hbeforeActive, hfollows⟩ :=
      hstep.exists_active hwas hc hkind hactive
    exact hfollows.entered (h.entered hwas i before hbefore hpoll hbeforeActive)
  · -- Only a cancellation of the loop stops the provider.
    cases hstep with
    | stay | start | tick | finish | quit | stop | take | miss | join => exact absurd hstopped hwas
    | call => exact absurd ((s.system.flags_step _).2.symm.trans hstopped) hwas
    | cancel => exact s.hasEntered_cancel h hc hkind hactive

theorem known_step (h : s.PollInvariant) (hstep : s.Steps t) {e : Nat × Deed}
    (he : e ∈ t.system.history) : e.1 < t.system.callers.length := by
  obtain ⟨new, hhistory, hnew⟩ := hstep.history
  rw [hhistory, List.mem_append] at he
  refine Nat.lt_of_lt_of_le ?_ hstep.length_callers
  rcases he with he | he
  · exact h.known e he
  · obtain ⟨c, hc, -⟩ := hnew e he
    exact (List.getElem?_eq_some_iff.1 hc).1

theorem step (h : s.PollInvariant) (hhandle : s.HandleInvariant) (hstep : s.Steps t) :
    t.PollInvariant where
  othersOver _ _ := h.othersOver_step hhandle hstep
  entered hstopped _ _ := h.entered_step hstep hstopped
  known _ := h.known_step hstep

theorem run (h : s.PollInvariant) (hhandle : s.HandleInvariant) (schedule : List PollingAction) :
    (s.run schedule).PollInvariant := by
  induction schedule generalizing s with
  | nil => exact h
  | cons action schedule ih =>
    exact ih (h.step hhandle (s.steps action)) (hhandle.step (s.steps action))

end PollInvariant

/-! ## What is left to polls -/

/-- What polls do in a step is done by an active one. -/
theorem Steps.pollDeeds (h : s.Steps t) (hpolls : s.PollInvariant) : ∃ new,
    t.pollDeeds = s.pollDeeds ++ new ∧ ∀ e ∈ new, s.IsActivePoll e.1 := by
  obtain ⟨new, hhistory, hnew⟩ := h.history
  refine ⟨new.filter fun e => t.isPoll e.1, ?_, fun e he => ?_⟩
  · unfold PollingSystem.pollDeeds
    rw [hhistory, List.filter_append]
    congr 1
    exact List.filter_congr fun e he => h.isPoll (hpolls.known e he)
  · obtain ⟨he, hpoll⟩ := List.mem_filter.1 he
    obtain ⟨c, hc, hactive⟩ := hnew e he
    rw [h.isPoll (List.getElem?_eq_some_iff.1 hc).1, PollingSystem.isPoll, hc] at hpoll
    exact ⟨c, hc, of_decide_eq_true hpoll, hactive⟩

/-- Once the provider was stopped, polls do only what those that are active have left
to do. -/
theorem pollDeeds_run (hhandle : s.HandleInvariant) (hpolls : s.PollInvariant)
    (hstopped : s.system.provider.stopped = true) (later : List PollingAction) : ∃ new,
    (s.run later).pollDeeds = s.pollDeeds ++ new ∧ ∀ e ∈ new, s.IsActivePoll e.1 := by
  induction later generalizing s with
  | nil => exact ⟨[], (List.append_nil _).symm, List.forall_mem_nil _⟩
  | cons action later ih =>
    have hstep := s.steps action
    obtain ⟨new, hdeeds, hnew⟩ := hstep.pollDeeds hpolls
    obtain ⟨rest, hrun, hrest⟩ :=
      ih (hhandle.step hstep) (hpolls.step hhandle hstep) (hstep.stopped hstopped)
    refine ⟨new ++ rest, ?_, fun e he => ?_⟩
    · rw [← List.append_assoc, ← hdeeds]
      exact hrun
    · rcases List.mem_append.1 he with he | he
      · exact hnew e he
      · obtain ⟨c, hc, hkind, hactive⟩ := hrest e he
        obtain ⟨before, hbefore, hpoll, hwas, -⟩ := hstep.exists_active hstopped hc hkind hactive
        exact ⟨before, hbefore, hpoll, hwas⟩

/-! ## When polls are quiet -/

/-- No tick is in flight, none starts any more, and polls do nothing any more. -/
def IsQuiet (s : PollingSystem) : Prop :=
  ∀ later, (s.run later).isTicking = false ∧ (s.run later).pollDeeds = s.pollDeeds

theorem loop_run (hstopped : s.system.provider.stopped = true)
    (hloop : s.loop = .notStarted ∨ s.loop = .ended) (later : List PollingAction) :
    (s.run later).loop = s.loop := by
  induction later generalizing s with
  | nil => rfl
  | cons action later ih =>
    have hstep := s.steps action
    have hsame := hstep.loop_of_stopped hstopped hloop
    exact (ih (hstep.stopped hstopped) (by rwa [hsame])).trans hsame

/-- The polls of a provider that was stopped are quiet exactly if its loop is not
there, or has ended. -/
theorem isQuiet_iff (hhandle : s.HandleInvariant) (hpolls : s.PollInvariant)
    (hstopped : s.system.provider.stopped = true) :
    s.IsQuiet ↔ s.loop = .notStarted ∨ s.loop = .ended := by
  constructor
  · intro h
    cases hloop : s.loop with
    | notStarted => exact Or.inl rfl
    | ended => exact Or.inr rfl
    | ticking i =>
      have hticking : s.isTicking = false := (h []).1
      rw [isTicking, hloop] at hticking
      cases hticking
    | waiting =>
      have hticking := (h [.tick]).1
      change (s.step .tick).isTicking = false at hticking
      rw [step, if_pos hloop] at hticking
      cases hticking
  · intro hloop later
    refine ⟨?_, ?_⟩
    · rw [isTicking, loop_run hstopped hloop later]
      rcases hloop with hloop | hloop <;> rw [hloop]
    · obtain ⟨new, hdeeds, hnew⟩ := pollDeeds_run hhandle hpolls hstopped later
      have hnone : new = [] := by
        rw [List.eq_nil_iff_forall_not_mem]
        intro e he
        have hticking := (hnew e he).ticking hpolls
        rw [hticking] at hloop
        rcases hloop with hloop | hloop <;> cases hloop
      rw [hdeeds, hnone, List.append_nil]

/-! ## Those who stop -/

/-- Whoever waits with the handle waits until the loop has ended. -/
theorem Steps.joining (h : s.Steps t) {place : Nat}
    (hjoining : s.stoppers[place]? = some .joining) :
    t.stoppers[place]? = some .joining ∨ t.loop = .ended := by
  have hset {other : Nat} {before behind : Stopper} (hother : s.stoppers[other]? = some before)
      (hne : before ≠ .joining) : (s.stoppers.set other behind)[place]? = some .joining := by
    have hplace : other ≠ place := by
      rintro rfl
      rw [hjoining] at hother
      exact hne (Option.some.inj hother).symm
    rw [List.getElem?_set_ne hplace, hjoining]
  cases h with
  | stay | call | start | tick | finish => exact Or.inl hjoining
  | quit => exact Or.inr rfl
  | stop =>
    left
    show (s.stoppers ++ [.arrived])[place]? = some .joining
    rw [List.getElem?_append_left (List.getElem?_eq_some_iff.1 hjoining).1, hjoining]
  | cancel harrived => exact Or.inl (hset harrived nofun)
  | take hcancelled => exact Or.inl (hset hcancelled nofun)
  | miss hcancelled => exact Or.inl (hset hcancelled nofun)
  | join _ hended => exact Or.inr hended

/-- Whoever has returned with the handle has seen the loop end. -/
theorem ended_of_joining (hhandle : s.HandleInvariant) {place : Nat}
    (hjoining : s.stoppers[place]? = some .joining) {later : List PollingAction}
    (hreturned : (s.run later).stoppers[place]? = some .returned) :
    (s.run later).loop = .ended := by
  induction later generalizing s with
  | nil =>
    change s.stoppers[place]? = some .returned at hreturned
    rw [hjoining] at hreturned
    cases hreturned
  | cons action later ih =>
    have hstep := s.steps action
    have hstopped := hstep.stopped
      (hhandle.stopped _ (List.mem_of_getElem? hjoining) nofun)
    rcases hstep.joining hjoining with hstays | hended
    · exact ih (hhandle.step hstep) hstays hreturned
    · exact (loop_run hstopped (Or.inr hended) later).trans hended

theorem run_append (s : PollingSystem) (first later : List PollingAction) :
    s.run (first ++ later) = (s.run first).run later :=
  List.foldl_append

/-! ## What a stop promises -/

section

variable (o : ClientOptions) (locator : Option Locator) (schedule : List PollingAction)

/-- The state of a provider of these options behind a schedule. -/
def after : PollingSystem :=
  (ofProvider (.ofOptions o locator)).run schedule

/-- What a stop that has returned promises.  The polls are quiet if it had the
handle of the loop, and if nobody else waits with it.  In any case the poll of the
tick in flight, which is inside the lock, is all that is left to polls. -/
theorem quiet_of_returned :
    (∀ first later (place : Nat), schedule = first ++ later →
      (after o locator first).stoppers[place]? = some .joining →
      (after o locator schedule).stoppers[place]? = some .returned →
      (after o locator schedule).IsQuiet) ∧
    (.returned ∈ (after o locator schedule).stoppers →
      ((after o locator schedule).IsQuiet ↔
        (.joining ∈ (after o locator schedule).stoppers →
          (after o locator schedule).loop = .ended)) ∧
      ∀ later, ∃ new,
        ((after o locator schedule).run later).pollDeeds =
          (after o locator schedule).pollDeeds ++ new ∧
        ∀ e ∈ new, (after o locator schedule).loop = .ticking e.1 ∧
          ∃ c, (after o locator schedule).system.callers[e.1]? = some c ∧
            c.kind = .poll ∧ c.stage.hasEntered = true ∧ c.stage.isOver = false) := by
  have hinitial := HandleInvariant.ofOptions o locator
  have hhandle : (after o locator schedule).HandleInvariant := hinitial.run schedule
  have hpolls : (after o locator schedule).PollInvariant :=
    (PollInvariant.ofOptions o locator).run hinitial schedule
  refine ⟨fun first later place hsplit hjoining hreturned => ?_, fun hreturned => ⟨?_, ?_⟩⟩
  · have hstopped := hhandle.stopped _ (List.mem_of_getElem? hreturned) nofun
    rw [isQuiet_iff hhandle hpolls hstopped]
    rw [hsplit, after, run_append] at hreturned ⊢
    exact Or.inr (ended_of_joining (hinitial.run first) hjoining hreturned)
  · have hstopped := hhandle.stopped _ hreturned nofun
    rw [isQuiet_iff hhandle hpolls hstopped]
    constructor
    · rintro (hnotStarted | hended) hjoining
      · exact absurd hnotStarted (hhandle.started (Or.inr hjoining))
      · exact hended
    · intro hended
      by_cases hnotStarted : (after o locator schedule).loop = .notStarted
      · exact Or.inl hnotStarted
      · rcases hhandle.handle hnotStarted with hhas | hjoining | hloop
        · rw [hhandle.taken (Or.inr hreturned)] at hhas
          cases hhas
        · exact Or.inr (hended hjoining)
        · exact Or.inr hloop
  · intro later
    have hstopped := hhandle.stopped _ hreturned nofun
    obtain ⟨new, hdeeds, hnew⟩ := pollDeeds_run hhandle hpolls hstopped later
    refine ⟨new, hdeeds, fun e he => ⟨(hnew e he).ticking hpolls, ?_⟩⟩
    obtain ⟨c, hc, hkind, hactive⟩ := hnew e he
    exact ⟨c, hc, hkind, hpolls.entered hstopped e.1 c hc hkind hactive,
      Caller.isOver_of_isActive hactive⟩

end

/-! ## Two schedules -/

/-- Options of a client that polls a server on its own host. -/
def loopbackOptions : ClientOptions where
  uri := "http://[::1]"
  pollingInterval := 1000

/-- An environment with one property. -/
def environmentDocument : String :=
  "\x7b\"name\":\"a\",\"propertySources\":[\x7b\"name\":\"s\",\"source\":\x7b\"k\":\"v\"\x7d\x7d]\x7d"

/-- The first caller goes on so many times. -/
def proceeds (n : Nat) : List PollingAction :=
  List.replicate n (.caller (.cue 0 .proceed))

/-- A tick that is inside the lock, and someone who takes the handle meanwhile. -/
def stopMidTick : List PollingAction :=
  [.start true, .tick] ++ proceeds 3 ++ [.stop, .goOn 0, .goOn 0]

/-- The rest of that tick: the request, what becomes of it, and the end of the
load. -/
def restOfTick (reply : Reply) : List PollingAction :=
  proceeds 1 ++ [.caller (.cue 0 (.answer reply))] ++ proceeds 4

/-- A stop alone waits for the tick. -/
theorem quiet_of_returned_alone :
    let schedule := stopMidTick ++ ([.goOn 0] ++ restOfTick .silence ++ [.finish, .quit, .goOn 0])
    (after loopbackOptions none (stopMidTick ++ [.goOn 0])).stoppers = [.joining] ∧
    (after loopbackOptions none schedule).stoppers = [.returned] ∧
    (after loopbackOptions none schedule).IsQuiet := by
  intro schedule
  have hfirst : (after loopbackOptions none stopMidTick).stoppers[0]? = some .joining := by
    decide +kernel
  have hlast : (after loopbackOptions none schedule).stoppers = [.returned] := by decide +kernel
  refine ⟨by decide +kernel, hlast, ?_⟩
  refine (quiet_of_returned loopbackOptions none schedule).1 stopMidTick _ 0 rfl hfirst ?_
  rw [hlast]
  rfl

/-- A stop that overlaps with it does not: it returns while the tick is in flight,
which then sends a request and publishes what is answered. -/
theorem returned_while_ticking :
    let s := after loopbackOptions none (stopMidTick ++ [.stop, .goOn 1, .goOn 1])
    let rest := restOfTick (.answer 200 none (Text.bytes environmentDocument))
    let deeds := ((s.run rest).pollDeeds.drop s.pollDeeds.length).map (·.2)
    s.stoppers = [.joining, .returned] ∧ s.isTicking = true ∧ ¬ s.IsQuiet ∧
    (deeds.any (·.request?.isSome) && deeds.any (·.snapshot?.isSome)) = true := by
  intro s rest deeds
  have hticking : s.isTicking = true := by decide +kernel
  refine ⟨by decide +kernel, hticking, fun hquiet => ?_, by decide +kernel⟩
  have hnot : s.isTicking = false := (hquiet []).1
  rw [hticking] at hnot
  cases hnot

end PollingSystem

end RemoteConfig
