import RemoteConfig.Proofs.Provider.Callers
import RemoteConfig.Proofs.Provider.Polling
import RemoteConfig.Provider.Stopping

/-!
# Steps of a provider that polls

What one step of callers, of the poll loop, or of those who stop it can do, and
what it leaves alone.

* `Caller.Follows` is what a step leaves of a caller, and `Caller.isActive` says
  who may do something that others see.
* `System.exists_caller_step` and `System.history_step` are about the steps of
  callers, and `System.flags_step` says that they do not touch the flags of
  polling.
* `PollingSystem.Steps` lists what a step of all can do, and `steps` says that
  nothing is missing.
-/

namespace RemoteConfig

/-! ## Steps of callers -/

namespace Caller

variable {p : Provider} {isFree : Bool} {c : Caller} {m : Move} {cue : Cue}

/-- The next move of the caller may be one that others see. -/
def isActive (c : Caller) : Bool :=
  match c.stage with
  | .waiting => !(c.isCancelled && c.kind.canLeave)
  | .running _ | .asking .. | .pausing _ | .concluded _ => true
  | .arrived | .dismissed _ | .returned _ => false

theorem isOver_of_isActive (h : c.isActive = true) : c.stage.isOver = false := by
  obtain ⟨kind, stage, isCancelled⟩ := c
  cases stage with
  | dismissed | returned => cases h
  | arrived | waiting | running | asking | pausing | concluded => rfl

/-- A caller inside the lock is active. -/
theorem isActive_of_hasEntered (h : c.stage.hasEntered = true) (hover : c.stage.isOver = false) :
    c.isActive = true := by
  obtain ⟨kind, stage, isCancelled⟩ := c
  cases stage with
  | running | asking | pausing | concluded => rfl
  | returned => cases hover
  | arrived | waiting | dismissed => cases h

/-- A caller that is to leave the wait for the lock is active inside it only. -/
theorem hasEntered_of_isActive (h : c.isActive = true) (hcancelled : c.isCancelled = true)
    (hleaves : c.kind.canLeave = true) : c.stage.hasEntered = true := by
  cases hstage : c.stage with
  | waiting =>
    rw [isActive, hstage, hcancelled, hleaves] at h
    cases h
  | running | asking | pausing | concluded => rfl
  | arrived | dismissed | returned =>
    rw [isActive, hstage] at h
    cases h

/-- A caller that is over stays as it is. -/
theorem move?_of_isOver (h : c.stage.isOver = true) : c.move? p isFree cue = none := by
  obtain ⟨kind, stage, isCancelled⟩ := c
  cases stage with
  | dismissed | returned => rfl
  | arrived | waiting | running | asking | pausing | concluded => cases h

/-- What a step leaves of the caller `before`. -/
structure Follows (p : Provider) (before behind : Caller) : Prop where
  kind : behind.kind = before.kind
  remains : before.stage.isOver = true → behind.stage = before.stage
  entered : before.stage.hasEntered = true → behind.stage.hasEntered = true
  /-- Nobody becomes active whose call does not need a load. -/
  active : behind.isActive = true → before.isActive = true ∨ before.kind.needsLoad p = true

theorem Follows.refl (p : Provider) (c : Caller) : c.Follows p c :=
  ⟨rfl, fun _ => rfl, id, Or.inl⟩

/-- A caller may be cancelled where it stands. -/
theorem Follows.stays (p : Provider) (c : Caller) (flag : Bool) :
    c.Follows p { c with isCancelled := c.isCancelled || flag } := by
  refine ⟨rfl, fun _ => rfl, id, fun h => Or.inl ?_⟩
  obtain ⟨kind, stage, isCancelled⟩ := c
  cases stage with
  | waiting =>
    cases isCancelled with
    | false => rfl
    | true => exact h
  | running | asking | pausing | concluded => rfl
  | arrived | dismissed | returned => cases h

/-- A caller that is not active does nothing that others see.  It returns, or goes
on to wait for its load. -/
theorem isActive_or_of_move? (h : c.move? p isFree cue = some m) :
    c.isActive = true ∨ m.deed = none ∧ (m.stage.isOver = true ∨ c.kind.needsLoad p = true) := by
  by_cases hentered : c.stage.hasEntered = true
  · left
    refine isActive_of_hasEntered hentered ?_
    rw [← Bool.not_eq_true]
    intro hover
    rw [move?_of_isOver hover] at h
    cases h
  unfold move? at h
  cases hstage : c.stage with
  | arrived =>
    cases cue with
    | proceed =>
      simp only [hstage, Option.some.injEq] at h
      subst h
      refine Or.inr ⟨rfl, ?_⟩
      by_cases hneeds : c.kind.needsLoad p = true
      · exact Or.inr hneeds
      · left
        simp only [hneeds]
        rfl
    | answer | giveUp => simp only [hstage, reduceCtorEq] at h
  | waiting =>
    by_cases hleaves : (c.isCancelled && c.kind.canLeave) = true
    · cases cue with
      | proceed =>
        simp only [hstage, hleaves, if_true, Option.some.injEq] at h
        subst h
        exact Or.inr ⟨rfl, Or.inl rfl⟩
      | answer | giveUp => simp only [hstage, reduceCtorEq] at h
    · left
      rw [isActive, hstage]
      simp only [hleaves, Bool.not_false]
  | dismissed => simp only [hstage, reduceCtorEq] at h
  | running | asking | pausing | concluded | returned =>
    rw [hstage] at hentered
    exact absurd rfl hentered

theorem Follows.of_move? (h : c.move? p isFree cue = some m) :
    c.Follows p { c with stage := m.stage } := by
  refine ⟨rfl, fun hover => ?_, (moves h).hasEntered, fun hactive => ?_⟩
  · rw [move?_of_isOver hover] at h
    cases h
  · rcases isActive_or_of_move? h with hbefore | ⟨-, hover | hneeds⟩
    · exact Or.inl hbefore
    · have hnotOver := isOver_of_isActive hactive
      rw [hover] at hnotOver
      cases hnotOver
    · exact Or.inr hneeds

end Caller

namespace System

variable {s : System}

/-- A caller behind a cancellation. -/
theorem exists_caller_cancel {i j : Nat} {c : Caller}
    (h : (s.step (.cancel j)).callers[i]? = some c) : ∃ before, s.callers[i]? = some before ∧
      c = if j = i then { before with isCancelled := true } else before := by
  rw [step, List.getElem?_modify, Option.map_eq_map, Option.map_eq_some_iff] at h
  obtain ⟨before, hbefore, rfl⟩ := h
  exact ⟨before, hbefore, rfl⟩

/-- In a step a caller arrives, or there are as many as before. -/
theorem callers_step (s : System) (action : Action) :
    (∃ kind, action = .call kind ∧ (s.step action).callers = s.callers ++ [({ kind } : Caller)]) ∨
      (s.step action).callers.length = s.callers.length := by
  cases action with
  | call kind => exact Or.inl ⟨kind, rfl, rfl⟩
  | cancel j => exact Or.inr (List.length_modify _ _ _)
  | cue j cue =>
    right
    cases hj : s.callers[j]? with
    | none => simp only [step, hj]
    | some mover =>
      rw [step_cue hj]
      cases mover.move? s.provider s.holder.isNone cue with
      | none => rfl
      | some m => exact List.length_set

/-- Callers stay. -/
theorem length_callers_step (s : System) (action : Action) :
    s.callers.length ≤ (s.step action).callers.length := by
  rcases s.callers_step action with ⟨kind, -, heq⟩ | hlength
  · rw [heq, List.length_append]
    exact Nat.le_add_right _ _
  · exact Nat.le_of_eq hlength.symm

/-- A caller behind a step was there before, or has come with it. -/
theorem exists_caller_step {action : Action} {i : Nat} {c : Caller}
    (h : (s.step action).callers[i]? = some c) :
    (∃ before, s.callers[i]? = some before ∧ before.Follows s.provider c) ∨
    (∃ kind, action = .call kind ∧ i = s.callers.length ∧ c = { kind }) := by
  cases hbefore : s.callers[i]? with
  | some before =>
    refine Or.inl ⟨before, rfl, ?_⟩
    rcases caller_step hbefore action with ⟨cue, m, -, hm, heq⟩ | ⟨-, hstays, -⟩
    · rw [heq, getElem?_perform_self hbefore] at h
      obtain rfl := Option.some.inj h
      exact .of_move? hm
    · rw [hstays] at h
      obtain rfl := Option.some.inj h
      exact .stays _ _ _
  | none =>
    have hnot := List.getElem?_eq_none_iff.1 hbefore
    obtain ⟨hi, -⟩ := List.getElem?_eq_some_iff.1 h
    rcases s.callers_step action with ⟨kind, rfl, heq⟩ | hlength
    · rw [heq, List.length_append, List.length_singleton] at hi
      obtain rfl : i = s.callers.length := by omega
      rw [heq, List.getElem?_concat_length] at h
      exact Or.inr ⟨kind, rfl, rfl, (Option.some.inj h).symm⟩
    · omega

/-- What others see in a step was done by an active caller. -/
theorem history_step (s : System) (action : Action) : ∃ new,
    (s.step action).history = s.history ++ new ∧
      ∀ e ∈ new, ∃ c, s.callers[e.1]? = some c ∧ c.isActive = true := by
  have hnothing (h : (s.step action).history = s.history) : ∃ new,
      (s.step action).history = s.history ++ new ∧
        ∀ e ∈ new, ∃ c, s.callers[e.1]? = some c ∧ c.isActive = true :=
    ⟨[], by rw [h, List.append_nil], List.forall_mem_nil _⟩
  cases action with
  | call kind => exact hnothing rfl
  | cancel j => exact hnothing rfl
  | cue j cue =>
    rcases hj : s.callers[j]? with _ | mover
    · exact hnothing (by simp only [step, hj])
    rcases hmove : mover.move? s.provider s.holder.isNone cue with _ | m
    · exact hnothing (by rw [step_cue hj, hmove]; rfl)
    rw [step_cue hj, hmove]
    refine ⟨m.deed.toList.map (j, ·), rfl, fun e he => ?_⟩
    obtain ⟨deed, hdeed, rfl⟩ := List.mem_map.1 he
    refine ⟨mover, hj, ?_⟩
    rcases Caller.isActive_or_of_move? hmove with hactive | ⟨hnone, -⟩
    · exact hactive
    · rw [hnone] at hdeed
      cases hdeed

/-- Callers do not touch the flags of polling. -/
theorem flags_step (s : System) (action : Action) :
    (s.step action).provider.polling = s.provider.polling ∧
      (s.step action).provider.stopped = s.provider.stopped := by
  rcases s.step_cases action with hunmoved | ⟨i, c, m, -, hmoves, hstep⟩
  · rw [hunmoved.provider]
    exact ⟨rfl, rfl⟩
  · rw [hstep]
    show m.provider.polling = s.provider.polling ∧ m.provider.stopped = s.provider.stopped
    cases hmoves with
    | outside => exact ⟨rfl, rfl⟩
    | acquire => exact ⟨rfl, rfl⟩
    | wait => exact ⟨rfl, rfl⟩
    | take => exact ⟨rfl, rfl⟩
    | @conclude located =>
      obtain ⟨store, metrics, lastFetch, hframe⟩ := s.provider.conclude_frame c.kind.update located
      show (s.provider.conclude c.kind.update located).2.polling = _ ∧
        (s.provider.conclude c.kind.update located).2.stopped = _
      rw [hframe]
      exact ⟨rfl, rfl⟩
    | release => exact ⟨rfl, rfl⟩

end System

namespace PollingSystem

variable {s t : PollingSystem}

/-! ## Steps of all -/

/-- What a step can do. -/
inductive Steps (s : PollingSystem) : PollingSystem → Prop where
  | stay : Steps s s
  | call {action : Action} (admitted : s.admits action = true) :
      Steps s { s with system := s.system.step action }
  | start (notStarted : s.system.provider.pollerState = .notStarted) :
      Steps s { s with
        system := { s.system with provider := { s.system.provider with polling := true } }
        loop := .waiting
        hasHandle := true }
  | tick (waiting : s.loop = .waiting) :
      Steps s { s with
        system := s.system.step (.call .poll), loop := .ticking s.system.callers.length }
  | finish {i : Nat} (ticking : s.loop = .ticking i) (finished : s.isOver i = true) :
      Steps s { s with loop := .waiting }
  | quit (waiting : s.loop = .waiting) (stopped : s.system.provider.stopped = true) :
      Steps s { s with loop := .ended }
  | stop : Steps s { s with stoppers := s.stoppers ++ [.arrived] }
  | cancel {place : Nat} (arrived : s.stoppers[place]? = some .arrived) :
      Steps s { s.cancel with stoppers := s.stoppers.set place .cancelled }
  | take {place : Nat} (cancelled : s.stoppers[place]? = some .cancelled)
      (handle : s.hasHandle = true) :
      Steps s { s with hasHandle := false, stoppers := s.stoppers.set place .joining }
  | miss {place : Nat} (cancelled : s.stoppers[place]? = some .cancelled)
      (noHandle : s.hasHandle = false) :
      Steps s { s with stoppers := s.stoppers.set place .returned }
  | join {place : Nat} (joining : s.stoppers[place]? = some .joining) (ended : s.loop = .ended) :
      Steps s { s with stoppers := s.stoppers.set place .returned }

theorem steps_goOn (s : PollingSystem) (place : Nat) : s.Steps (s.goOn place) := by
  unfold goOn
  split
  · exact .cancel ‹_›
  · split
    · exact .take ‹_› ‹_›
    · exact .miss ‹_› (Bool.eq_false_iff.2 ‹_›)
  · split
    · exact .join ‹_› ‹_›
    · exact .stay
  · exact .stay
  · exact .stay

theorem steps (s : PollingSystem) (action : PollingAction) : s.Steps (s.step action) := by
  cases action with
  | caller action =>
    unfold step
    simp only
    split
    · exact .call ‹_›
    · exact .stay
  | start hasRuntime =>
    unfold step
    cases hstarts : (s.system.provider.startPolling hasRuntime).1 with
    | false =>
      simp only [hstarts, Bool.false_eq_true, if_false]
      exact .stay
    | true =>
      simp only [hstarts, if_true, Provider.startPolling_snd, Bool.or_true]
      exact .start ((s.system.provider.startPolling_eq_true_iff hasRuntime).1 hstarts).1
  | tick =>
    unfold step
    simp only
    split
    · exact .tick ‹_›
    · exact .stay
  | finish =>
    unfold step
    simp only
    split
    · split
      · exact .finish ‹_› ‹_›
      · exact .stay
    · exact .stay
  | quit =>
    unfold step
    simp only
    split
    · rename_i hquits
      exact .quit hquits.1 hquits.2
    · exact .stay
  | stop => exact .stop
  | goOn place => exact s.steps_goOn place

/-- What cancelling the loop does not touch. -/
structure IsCancelledFrom (s t : PollingSystem) : Prop where
  loop : t.loop = s.loop
  hasHandle : t.hasHandle = s.hasHandle
  polling : t.system.provider.polling = s.system.provider.polling
  stopped : t.system.provider.stopped = true
  history : t.system.history = s.system.history

theorem isCancelledFrom_cancel (s : PollingSystem) : s.IsCancelledFrom s.cancel := by
  unfold cancel
  split
  · exact ⟨rfl, rfl, rfl, rfl, rfl⟩
  · exact ⟨rfl, rfl, rfl, rfl, rfl⟩

/-- The callers of a cancelled loop. -/
theorem callers_cancel (s : PollingSystem) :
    (∀ i, s.loop ≠ .ticking i) ∧ s.cancel.system.callers = s.system.callers ∨
      ∃ i, s.loop = .ticking i ∧
        s.cancel.system.callers = (s.system.step (.cancel i)).callers := by
  unfold cancel
  split
  · exact Or.inr ⟨_, ‹_›, rfl⟩
  · exact Or.inl ⟨‹_›, rfl⟩

/-- A step is nothing to the callers, or is a step of theirs.  Only a tick calls
for a poll. -/
theorem Steps.callers (h : s.Steps t) :
    (t.system.callers = s.system.callers ∧ t.system.history = s.system.history) ∨
    ∃ call, t.system.callers = (s.system.step call).callers ∧
      t.system.history = (s.system.step call).history ∧
      (call = .call .poll → t.loop = .ticking s.system.callers.length) := by
  cases h with
  | stay | start | finish | quit | stop | take | miss | join => exact Or.inl ⟨rfl, rfl⟩
  | call hadmitted =>
    refine Or.inr ⟨_, rfl, rfl, fun hpoll => ?_⟩
    rw [hpoll] at hadmitted
    cases hadmitted
  | tick => exact Or.inr ⟨_, rfl, rfl, fun _ => rfl⟩
  | cancel =>
    have hhistory := s.isCancelledFrom_cancel.history
    rcases s.callers_cancel with ⟨-, hcallers⟩ | ⟨i, -, hcallers⟩
    · exact Or.inl ⟨hcallers, hhistory⟩
    · exact Or.inr ⟨.cancel i, hcallers, hhistory, nofun⟩

/-- A caller behind a step was there before, or is the poll of a tick that starts, or
is no poll. -/
theorem Steps.exists_caller (h : s.Steps t) {i : Nat} {c : Caller}
    (hc : t.system.callers[i]? = some c) :
    (∃ before, s.system.callers[i]? = some before ∧ before.Follows s.system.provider c) ∨
    (i = s.system.callers.length ∧ c.stage = .arrived ∧
      (c.kind = .poll → t.loop = .ticking i)) := by
  rcases h.callers with ⟨hcallers, -⟩ | ⟨call, hcallers, -, hpoll⟩
  · rw [hcallers] at hc
    exact Or.inl ⟨c, hc, .refl _ _⟩
  · rw [hcallers] at hc
    rcases System.exists_caller_step hc with hbefore | ⟨kind, rfl, rfl, rfl⟩
    · exact Or.inl hbefore
    · exact Or.inr ⟨rfl, rfl, fun hkind => hpoll (congrArg Action.call hkind)⟩

theorem Steps.length_callers (h : s.Steps t) :
    s.system.callers.length ≤ t.system.callers.length := by
  rcases h.callers with ⟨hcallers, -⟩ | ⟨call, hcallers, -⟩
  · exact Nat.le_of_eq (congrArg List.length hcallers.symm)
  · rw [hcallers]
    exact s.system.length_callers_step call

/-- A caller polls behind a step if it did before. -/
theorem Steps.isPoll (h : s.Steps t) {i : Nat} (hi : i < s.system.callers.length) :
    t.isPoll i = s.isPoll i := by
  have hbefore := List.getElem?_eq_getElem hi
  have hbehind := List.getElem?_eq_getElem (Nat.lt_of_lt_of_le hi h.length_callers)
  unfold PollingSystem.isPoll
  rcases h.exists_caller hbehind with ⟨before, hget, hfollows⟩ | ⟨hnew, -⟩
  · rw [hbehind, hget, Option.any_some, Option.any_some, hfollows.kind]
  · omega

/-- What is seen of a step was done by an active caller. -/
theorem Steps.history (h : s.Steps t) : ∃ new,
    t.system.history = s.system.history ++ new ∧
      ∀ e ∈ new, ∃ c, s.system.callers[e.1]? = some c ∧ c.isActive = true := by
  rcases h.callers with ⟨-, hhistory⟩ | ⟨call, -, hhistory, -⟩
  · exact ⟨[], by rw [hhistory, List.append_nil], List.forall_mem_nil _⟩
  · rw [hhistory]
    exact s.system.history_step call

/-- A provider that was stopped stays so. -/
theorem Steps.stopped (h : s.Steps t) (hstopped : s.system.provider.stopped = true) :
    t.system.provider.stopped = true := by
  cases h with
  | stay | start | finish | quit | stop | take | miss | join => exact hstopped
  | call => exact (s.system.flags_step _).2.trans hstopped
  | tick => exact hstopped
  | cancel => exact s.isCancelledFrom_cancel.stopped

/-- A stopped provider whose loop is not there, or has ended, does not poll again. -/
theorem Steps.loop_of_stopped (h : s.Steps t) (hstopped : s.system.provider.stopped = true)
    (hloop : s.loop = .notStarted ∨ s.loop = .ended) : t.loop = s.loop := by
  cases h with
  | stay | call | stop | take | miss | join => rfl
  | start hnotStarted =>
    rw [(Provider.pollerState_eq_notStarted_iff.1 hnotStarted).1] at hstopped
    cases hstopped
  | tick hwaiting | quit hwaiting =>
    rw [hwaiting] at hloop
    rcases hloop with hloop | hloop <;> cases hloop
  | finish hticking =>
    rw [hticking] at hloop
    rcases hloop with hloop | hloop <;> cases hloop
  | cancel => exact s.isCancelledFrom_cancel.loop

end PollingSystem

end RemoteConfig
