import RemoteConfig.Proofs.Provider.Courses
import RemoteConfig.Provider.Callers

/-!
# What callers do

* `Caller.moves` is the case analysis on the moves of a caller, and
  `System.step_cases` is that on steps.
* `System.provider_run` is the induction on schedules for what is known of the
  provider.
* `System.dismissed_run` says that a caller that was dismissed stays so, and
  `System.refused_step` that one which cannot wait is dismissed if the lock is
  held.
* `System.exists_run_eq_loadNow` says that a caller that is alone can load as
  a load does that nothing keeps waiting, and `System.exists_run_eq_cancelBehind`
  that a load which waits for another one can be cancelled as `cancelBehind` says.
-/

namespace RemoteConfig

open Provider (LoadResult)

/-! ## Moves -/

namespace Stage

/-- The caller has had the lock. -/
def hasEntered : Stage → Bool
  | arrived | waiting | dismissed _ => false
  | running _ | asking .. | pausing _ | concluded _ | returned _ => true

/-- What is left of a load under way. -/
def left? : Stage → Option LoadPlan
  | running plan => some plan
  | asking request next => some (.ask request next)
  | pausing next => some next
  | _ => none

/-- The load waits for the end of a pause. -/
def isPausing : Stage → Bool
  | pausing _ => true
  | _ => false

theorem hasEntered_of_left? {stage : Stage} {left : LoadPlan} (h : stage.left? = some left) :
    stage.hasEntered = true := by
  cases stage <;> first | rfl | cases h

end Stage

theorem Move.holder_eq {m : Move} {i : Nat} {before : Option Nat}
    (hacquires : m.deed ≠ some .acquires) (hreleases : m.deed ≠ some .releases) :
    m.holder i before = before := by
  unfold holder
  split
  · exact absurd ‹_› hacquires
  · exact absurd ‹_› hreleases
  · rfl

/-- The moves of a caller. -/
inductive Caller.Moves (p : Provider) (isFree : Bool) (c : Caller) : Move → Prop where
  /-- The caller waits, or is dismissed. -/
  | outside {stage : Stage} (before : c.stage.hasEntered = false)
      (behind : stage.hasEntered = false) : Moves p isFree c ⟨stage, p, none⟩
  | acquire (before : c.stage = .waiting) (free : isFree = true) :
      Moves p isFree c ⟨.running p.plan, p.resolved, some .acquires⟩
  /-- The load begins or ends a wait, or takes note of a cancellation where it looks
  or in a pause. -/
  | wait {stage : Stage} {left left' : LoadPlan} (sent : Option Request)
      (before : c.stage.left? = some left) (behind : stage.left? = some left')
      (goes : left' = left ∨
        left' = .cancelled ∧ (left.isCheckpoint = true ∨ c.stage = .pausing left))
      (ends : stage.isPausing = false) :
      Moves p isFree c ⟨stage, p, sent.map fun request => .works (.sends request)⟩
  /-- The load takes a step of its plan, or gives up a request. -/
  | take {stage : Stage} {left left' : LoadPlan} {step : LoadStep}
      (before : c.stage.left? = some left) (behind : stage.left? = some left')
      (goes : left.Goes p.client step left' ∨
        left' = .cancelled ∧
          ∃ request next, left = .ask request next ∧ step = .interrupted request .silence)
      (pauses : stage.isPausing = true → ∃ length, left = .pause length left') :
      Moves p isFree c (.taking p step stage)
  | conclude {located : Except LoadError WalkOutcome}
      (before : c.stage = .running (.ends located)) :
      Moves p isFree c ((LoadPlan.ends located).move p c.kind.update)
  | release {result : LoadResult} (before : c.stage = .concluded result) :
      Moves p isFree c ⟨.returned result, p, some .releases⟩

namespace Caller

variable {p : Provider} {isFree : Bool} {c : Caller} {m : Move}

theorem move?_of_running {plan : LoadPlan} (hstage : c.stage = .running plan)
    (hflag : c.isCancelled = false) :
    c.move? p isFree .proceed = some (plan.move p c.kind.update) := by
  simp [move?, hstage, hflag]

theorem moves_of_running {plan : LoadPlan} (hstage : c.stage = .running plan) :
    c.Moves p isFree (plan.move p c.kind.update) := by
  have hleft : c.stage.left? = some plan := by rw [hstage]; rfl
  cases plan with
  | ends located => exact .conclude hstage
  | attempt number next => exact .take hleft rfl (Or.inl (.attempt number next)) nofun
  | refuse f next => exact .take hleft rfl (Or.inl (.refuse f next)) nofun
  | ask request next => exact .wait (some request) hleft rfl (Or.inl rfl) rfl
  | walked outcome next => exact .take hleft rfl (Or.inl (.walked outcome next)) nofun
  | pause length next => exact .take hleft rfl (Or.inl (.pause length next)) fun _ => ⟨_, rfl⟩

/-- What a caller can do in a move.  The cases are those of the stage that it has
reached. -/
theorem moves {cue : Cue} (h : c.move? p isFree cue = some m) : c.Moves p isFree m := by
  unfold move? at h
  split at h
  · rename_i hstage
    obtain rfl := Option.some.inj h
    refine .outside (by rw [hstage]; rfl) ?_
    split <;> rfl
  · rename_i hstage
    have hentered : c.stage.hasEntered = false := by rw [hstage]; rfl
    split at h
    · obtain rfl := Option.some.inj h
      exact .outside hentered rfl
    · split at h
      · rename_i hfree
        obtain rfl := Option.some.inj h
        exact .acquire hstage hfree
      · split at h
        · obtain rfl := Option.some.inj h
          exact .outside hentered rfl
        · cases h
  · rename_i plan hstage
    split at h
    · rename_i hlooks
      obtain rfl := Option.some.inj h
      simp only [Bool.and_eq_true] at hlooks
      exact .wait none (by rw [hstage]; rfl) rfl (Or.inr ⟨rfl, Or.inl hlooks.2⟩) rfl
    · obtain rfl := Option.some.inj h
      exact moves_of_running hstage
  · rename_i request next reply hstage
    obtain rfl := Option.some.inj h
    exact .take (by rw [hstage]; rfl) rfl (Or.inl (.ask request next reply)) nofun
  · rename_i request next hstage
    split at h
    · obtain rfl := Option.some.inj h
      exact .take (by rw [hstage]; rfl) rfl (Or.inr ⟨rfl, request, next, rfl, rfl⟩) nofun
    · cases h
  · rename_i next hstage
    obtain rfl := Option.some.inj h
    exact .wait none (by rw [hstage]; rfl) rfl (Or.inl rfl) rfl
  · rename_i next hstage
    split at h
    · obtain rfl := Option.some.inj h
      exact .wait none (by rw [hstage]; rfl) rfl (Or.inr ⟨rfl, Or.inr hstage⟩) rfl
    · cases h
  · rename_i result hstage
    obtain rfl := Option.some.inj h
    exact .release hstage
  · cases h

end Caller

/-! ## Steps -/

namespace System

variable {s s' : System} {i : Nat} {c : Caller}

theorem getElem?_perform_self (hc : s.callers[i]? = some c) (m : Move) :
    (s.perform i c m).callers[i]? = some { c with stage := m.stage } := by
  obtain ⟨hi, -⟩ := List.getElem?_eq_some_iff.1 hc
  exact List.getElem?_set_self hi

/-- Another caller's move leaves a caller where it stands. -/
theorem getElem?_perform_of_ne {j : Nat} (hij : j ≠ i) (c : Caller) (m : Move) :
    (s.perform j c m).callers[i]? = s.callers[i]? :=
  List.getElem?_set_ne hij

/-- How a caller that has had the lock came to load, and where it stands. -/
def entered? (s : System) (i : Nat) : Option (CallKind × Stage) :=
  s.callers[i]?.bind fun c => if c.stage.hasEntered then some (c.kind, c.stage) else none

theorem entered?_eq_some (hc : s.callers[i]? = some c) (h : c.stage.hasEntered = true) :
    s.entered? i = some (c.kind, c.stage) := by
  simp [entered?, hc, h]

theorem entered?_eq_none (hc : s.callers[i]? = some c) (h : c.stage.hasEntered = false) :
    s.entered? i = none := by
  simp [entered?, hc, h]

theorem entered?_perform (hc : s.callers[i]? = some c) (m : Move) (j : Nat) :
    (s.perform i c m).entered? j =
      if i = j then (if m.stage.hasEntered then some (c.kind, m.stage) else none)
      else s.entered? j := by
  obtain ⟨hi, -⟩ := List.getElem?_eq_some_iff.1 hc
  unfold entered? perform
  rw [List.getElem?_set]
  by_cases hij : i = j
  · simp [hij, hij ▸ hi]
  · simp [hij]

/-- Nothing has happened that concerns the lock. -/
structure Unmoved (s s' : System) : Prop where
  provider : s'.provider = s.provider
  holder : s'.holder = s.holder
  history : s'.history = s.history
  entered : ∀ i, s'.entered? i = s.entered? i

theorem Unmoved.refl (s : System) : Unmoved s s :=
  ⟨rfl, rfl, rfl, fun _ => rfl⟩

theorem unmoved_call (s : System) (kind : CallKind) : Unmoved s (s.step (.call kind)) where
  provider := rfl
  holder := rfl
  history := rfl
  entered i := by
    unfold entered? step
    simp only [List.getElem?_append, List.getElem?_singleton]
    split
    · rfl
    · rename_i hi
      rw [List.getElem?_eq_none (Nat.le_of_not_lt hi)]
      split <;> rfl

theorem unmoved_cancel (s : System) (i : Nat) : Unmoved s (s.step (.cancel i)) where
  provider := rfl
  holder := rfl
  history := rfl
  entered j := by
    unfold entered? step
    simp only [List.getElem?_modify]
    cases s.callers[j]? with
    | none => rfl
    | some c =>
      simp only [Option.map_eq_map, Option.map_some, Option.bind_some]
      split <;> rfl

theorem unmoved_outside (hc : s.callers[i]? = some c) {stage : Stage}
    (hbefore : c.stage.hasEntered = false) (hbehind : stage.hasEntered = false) :
    Unmoved s (s.perform i c ⟨stage, s.provider, none⟩) where
  provider := rfl
  holder := rfl
  history := List.append_nil _
  entered j := by
    rw [entered?_perform hc]
    split
    · rename_i hij
      rw [← hij, entered?_eq_none hc hbefore, if_neg (by simp [hbehind])]
    · rfl

theorem step_cue (hc : s.callers[i]? = some c) (cue : Cue) :
    s.step (.cue i cue) =
      (c.move? s.provider s.holder.isNone cue).elim s (s.perform i c) := by
  simp only [step, hc]

/-- A step leaves the lock alone, or is a move of one caller. -/
theorem step_cases (s : System) (action : Action) :
    Unmoved s (s.step action) ∨
      ∃ i c m, s.callers[i]? = some c ∧ c.Moves s.provider s.holder.isNone m ∧
        s.step action = s.perform i c m := by
  cases action with
  | call kind => exact Or.inl (unmoved_call s kind)
  | cancel i => exact Or.inl (unmoved_cancel s i)
  | cue i cue =>
    cases hc : s.callers[i]? with
    | none =>
      have hstep : s.step (.cue i cue) = s := by simp only [step, hc]
      rw [hstep]
      exact Or.inl (Unmoved.refl s)
    | some c =>
      rw [step_cue hc]
      cases hm : c.move? s.provider s.holder.isNone cue with
      | none => exact Or.inl (Unmoved.refl s)
      | some m => exact Or.inr ⟨i, c, m, hc, Caller.moves hm, rfl⟩

end System

/-! ## The provider -/

/-- A move counts steps, notes questions to the registry, or concludes a load. -/
theorem Caller.Moves.provider_cases {p : Provider} {isFree : Bool} {c : Caller} {m : Move}
    (h : c.Moves p isFree m) :
    (∃ steps lookups,
      m.provider = { p with metrics := p.metrics.noteSteps p.client steps, lookups }) ∨
    ∃ located, m.provider = (p.conclude c.kind.update located).2 := by
  cases h with
  | outside => exact Or.inl ⟨[], _, rfl⟩
  | acquire => exact Or.inl ⟨[], _, rfl⟩
  | wait => exact Or.inl ⟨[], _, rfl⟩
  | @take _ _ _ step => exact Or.inl ⟨[step], _, rfl⟩
  | @conclude located => exact Or.inr ⟨located, rfl⟩
  | release => exact Or.inl ⟨[], _, rfl⟩

/-- Who has had the lock has had it for good. -/
theorem Caller.Moves.hasEntered {p : Provider} {isFree : Bool} {c : Caller} {m : Move}
    (h : c.Moves p isFree m) (hentered : c.stage.hasEntered = true) :
    m.stage.hasEntered = true := by
  cases h with
  | outside before =>
    rw [before] at hentered
    cases hentered
  | acquire => rfl
  | wait _ _ behind => exact Stage.hasEntered_of_left? behind
  | take _ behind => exact Stage.hasEntered_of_left? behind
  | conclude => rfl
  | release => rfl

/-- What steps of loads and their ends keep, every schedule keeps. -/
theorem System.provider_run {Inv : Provider → Prop}
    (hnote : ∀ p steps lookups, Inv p →
      Inv { p with metrics := p.metrics.noteSteps p.client steps, lookups })
    (hconclude : ∀ p update located, Inv p → Inv (p.conclude update located).2)
    {s : System} (h : Inv s.provider) (schedule : List Action) :
    Inv (s.run schedule).provider := by
  induction schedule generalizing s with
  | nil => exact h
  | cons action schedule ih =>
    refine ih ?_
    rcases s.step_cases action with hunmoved | ⟨i, c, m, -, hm, heq⟩
    · rw [hunmoved.provider]
      exact h
    · have hprovider : (s.step action).provider = m.provider := by rw [heq, perform]
      rw [hprovider]
      rcases hm.provider_cases with ⟨steps, lookups, hp⟩ | ⟨located, hp⟩
      · rw [hp]
        exact hnote s.provider steps lookups h
      · rw [hp]
        exact hconclude s.provider c.kind.update located h

/-! ## One caller among others -/

namespace System

variable {s : System} {i : Nat} {c : Caller}

/-- What a caller has done, in order. -/
def deedsOf (s : System) (i : Nat) : List Deed :=
  s.history.filterMap fun e => if e.1 = i then some e.2 else none

theorem deedsOf_perform_self (s : System) (i : Nat) (c : Caller) (m : Move) :
    (s.perform i c m).deedsOf i = s.deedsOf i ++ m.deed.toList := by
  unfold deedsOf perform
  cases m.deed <;> simp

theorem deedsOf_perform_of_ne {j : Nat} (hji : j ≠ i) (c : Caller) (m : Move) :
    (s.perform j c m).deedsOf i = s.deedsOf i := by
  unfold deedsOf perform
  cases m.deed <;> simp [hji]

/-- In a step a caller makes a move of its own, or it stays where it stands. -/
theorem caller_step (hc : s.callers[i]? = some c) (action : Action) :
    (∃ cue m, action = .cue i cue ∧ c.move? s.provider s.holder.isNone cue = some m ∧
      s.step action = s.perform i c m) ∨
    (∀ cue, action = .cue i cue → c.move? s.provider s.holder.isNone cue = none) ∧
      (s.step action).callers[i]? =
        some { c with isCancelled := c.isCancelled || action = .cancel i } ∧
      (s.step action).deedsOf i = s.deedsOf i := by
  cases action with
  | call kind =>
    obtain ⟨hi, -⟩ := List.getElem?_eq_some_iff.1 hc
    refine Or.inr ⟨nofun, ((List.getElem?_append_left hi).trans hc).trans ?_, rfl⟩
    simp
  | cancel j =>
    refine Or.inr ⟨nofun, ?_, rfl⟩
    rw [step, List.getElem?_modify, hc]
    by_cases hji : j = i <;> simp [hji]
  | cue j cue =>
    by_cases hji : j = i
    · subst hji
      cases hm : c.move? s.provider s.holder.isNone cue with
      | none =>
        refine Or.inr ⟨fun cue' heq => ?_, ?_⟩
        · obtain ⟨-, rfl⟩ := Action.cue.inj heq
          exact hm
        · rw [step_cue hc, hm]
          exact ⟨hc.trans (by simp), rfl⟩
      | some m =>
        refine Or.inl ⟨cue, m, rfl, hm, ?_⟩
        rw [step_cue hc, hm]
        rfl
    · refine Or.inr ⟨fun cue' heq => absurd (Action.cue.inj heq).1 hji, ?_⟩
      have hsame : c = { c with isCancelled := c.isCancelled || Action.cue j cue = .cancel i } := by
        simp
      rw [← hsame]
      cases hj : s.callers[j]? with
      | none => exact ⟨by simpa only [step, hj] using hc, by simp only [step, hj]⟩
      | some c' =>
        rw [step_cue hj]
        cases c'.move? s.provider s.holder.isNone cue with
        | none => exact ⟨hc, rfl⟩
        | some m =>
          exact ⟨(getElem?_perform_of_ne hji c' m).trans hc, deedsOf_perform_of_ne hji c' m⟩

/-- A caller that cannot wait is dismissed if another holds the lock. -/
theorem refused_step {j : Nat} (hc : s.callers[i]? = some c)
    (hkind : c.kind = .loadBlocking .currentThread) (hstage : c.stage = .waiting)
    (hheld : s.holder = some j) :
    s.step (.cue i .proceed) =
      { s with
        callers := s.callers.set i
          { c with stage := .dismissed (some (.error .blockingUnsupported)) } } := by
  have hmove : c.move? s.provider s.holder.isNone .proceed =
      some ⟨.dismissed (some (.error .blockingUnsupported)), s.provider, none⟩ := by
    simp [Caller.move?, hstage, hkind, hheld, CallKind.canLeave]
  rw [step_cue hc, hmove]
  simp [perform, Move.holder]

/-- A caller that was dismissed does not move again. -/
theorem dismissed_step {result : Option LoadResult} (hc : s.callers[i]? = some c)
    (hstage : c.stage = .dismissed result) (action : Action) :
    ∃ c', (s.step action).callers[i]? = some c' ∧ c'.stage = .dismissed result := by
  rcases caller_step hc action with ⟨cue, m, rfl, hm, -⟩ | ⟨-, hc', -⟩
  · have hstays : c.move? s.provider s.holder.isNone cue = none := by
      simp [Caller.move?, hstage]
    cases hstays.symm.trans hm
  · exact ⟨_, hc', hstage⟩

theorem dismissed_run {result : Option LoadResult} (hc : s.callers[i]? = some c)
    (hstage : c.stage = .dismissed result) (schedule : List Action) :
    ∃ c', (s.run schedule).callers[i]? = some c' ∧ c'.stage = .dismissed result := by
  induction schedule generalizing s c with
  | nil => exact ⟨c, hc, hstage⟩
  | cons action schedule ih =>
    obtain ⟨c', hc', hstage'⟩ := dismissed_step hc hstage action
    exact ih hc' hstage'

end System

/-! ## A caller alone -/

namespace System

variable {s : System} {i : Nat} {c : Caller}

theorem run_append (s : System) (first second : List Action) :
    s.run (first ++ second) = (s.run first).run second :=
  List.foldl_append

/-- A caller can come to a stage, with these steps behind it. -/
def Reaches (s : System) (i : Nat) (c : Caller) (steps : List LoadStep) (stage : Stage) : Prop :=
  ∃ schedule,
    (s.run schedule).provider =
      { s.provider with metrics := s.provider.metrics.noteSteps s.provider.client steps } ∧
    (s.run schedule).callers = s.callers.set i { c with stage }

namespace Reaches

theorem refl (hc : s.callers[i]? = some c) : s.Reaches i c [] c.stage := by
  obtain ⟨hi, rfl⟩ := List.getElem?_eq_some_iff.1 hc
  exact ⟨[], rfl, (List.set_getElem_self hi).symm⟩

theorem of_cue {cue : Cue} {m : Move} {first second : List LoadStep} {stage : Stage}
    (hc : s.callers[i]? = some c) (hm : c.move? s.provider s.holder.isNone cue = some m)
    (hprovider : m.provider =
      { s.provider with metrics := s.provider.metrics.noteSteps s.provider.client first })
    (h : (s.perform i c m).Reaches i { c with stage := m.stage } second stage) :
    s.Reaches i c (first ++ second) stage := by
  obtain ⟨schedule, hprovider', hcallers⟩ := h
  refine ⟨.cue i cue :: schedule, ?_⟩
  have hrun : s.run (.cue i cue :: schedule) = (s.perform i c m).run schedule := by
    show (s.step _).run schedule = _
    rw [step_cue hc, hm]
    rfl
  rw [hrun, hprovider', hcallers]
  refine ⟨?_, List.set_set _⟩
  simp only [perform, hprovider, Metrics.noteSteps_append]

/-- A wait begins or ends without a step. -/
theorem of_wait {cue : Cue} {m : Move} {steps : List LoadStep} {stage : Stage}
    (hc : s.callers[i]? = some c) (hm : c.move? s.provider s.holder.isNone cue = some m)
    (hprovider : m.provider = s.provider)
    (h : (s.perform i c m).Reaches i { c with stage := m.stage } steps stage) :
    s.Reaches i c steps stage :=
  List.nil_append steps ▸ of_cue hc hm hprovider h

end Reaches

/-- A caller can follow its plan as any servers reply. -/
theorem reaches_ends {σ : Type} (net : Servers σ) {plan : LoadPlan} (servers : σ)
    (hc : s.callers[i]? = some c) (hstage : c.stage = .running plan)
    (hflag : c.isCancelled = false) :
    s.Reaches i c (plan.run net s.provider.client .never {} servers).steps
      (.running (.ends (plan.run net s.provider.client .never {} servers).located)) := by
  induction plan generalizing s c servers with
  | ends located =>
    have hhere := Reaches.refl hc
    rw [hstage] at hhere
    exact hhere
  | attempt number next ih =>
    rw [LoadPlan.run_never_attempt]
    exact .of_cue hc (Caller.move?_of_running hstage hflag) rfl
      (ih servers (getElem?_perform_self hc _) rfl hflag)
  | refuse f next ih =>
    rw [LoadPlan.run_never_refuse]
    exact .of_cue hc (Caller.move?_of_running hstage hflag) rfl
      (ih servers (getElem?_perform_self hc _) rfl hflag)
  | ask request next ih =>
    -- One move sends the request, and the next one takes the answer.
    rcases hreply : net.reply request servers with ⟨reply, servers'⟩
    rw [LoadPlan.run_never_ask _ _ hreply]
    refine .of_wait hc (Caller.move?_of_running hstage hflag) rfl ?_
    have hasked := getElem?_perform_self hc
      (LoadPlan.move s.provider c.kind.update (.ask request next))
    exact @Reaches.of_cue _ _ _ (.answer reply) _ [.asked request reply] _ _ hasked rfl rfl
      (ih _ servers' (getElem?_perform_self hasked _) rfl hflag)
  | walked outcome next ih =>
    rw [LoadPlan.run_never_walked]
    exact .of_cue hc (Caller.move?_of_running hstage hflag) rfl
      (ih servers (getElem?_perform_self hc _) rfl hflag)
  | pause length next ih =>
    -- One move begins the pause, and the next one ends it.
    rw [LoadPlan.run_never_pause]
    refine .of_cue hc (Caller.move?_of_running hstage hflag) rfl ?_
    have hpaused := getElem?_perform_self hc
      (LoadPlan.move s.provider c.kind.update (.pause length next))
    exact @Reaches.of_wait _ _ _ .proceed ⟨.running next, _, none⟩ _ _ hpaused rfl rfl
      (ih servers (getElem?_perform_self hpaused _) rfl hflag)

/-- A caller whose plan has come to its end concludes the load and releases the
lock. -/
theorem run_of_ends {located : Except LoadError WalkOutcome} (hc : s.callers[i]? = some c)
    (hstage : c.stage = .running (.ends located)) {result : LoadResult} {next : Provider}
    (hconclude : s.provider.conclude c.kind.update located = (result, next)) :
    (s.run [.cue i .proceed, .cue i .proceed]).provider = next ∧
      (s.run [.cue i .proceed, .cue i .proceed]).callers =
        s.callers.set i { c with stage := .returned result } ∧
      (s.run [.cue i .proceed, .cue i .proceed]).holder = none := by
  let m := (LoadPlan.ends located).move s.provider c.kind.update
  have hmove : c.move? s.provider s.holder.isNone .proceed = some m := by
    simp [Caller.move?, hstage, LoadPlan.isCheckpoint, m]
  have hstep : s.step (.cue i .proceed) = s.perform i c m := by
    rw [step_cue hc, hmove]
    rfl
  have hrun : s.run [.cue i .proceed, .cue i .proceed] =
      (s.perform i c m).perform i { c with stage := m.stage }
        ⟨.returned (s.provider.conclude c.kind.update located).1, m.provider, some .releases⟩ := by
    show (s.step (.cue i .proceed)).step (.cue i .proceed) = _
    rw [hstep, step_cue (getElem?_perform_self hc m)]
    rfl
  have hnext : m.provider = next := congrArg Prod.snd hconclude
  rw [hrun, hconclude, hnext]
  exact ⟨rfl, List.set_set _, rfl⟩

/-- A caller that has acquired the lock can load as a load does that nothing keeps
waiting. -/
theorem exists_run_of_resolved {σ : Type} (net : Servers σ) (servers : σ) {p : Provider}
    (hprovider : s.provider = p.resolved) (hc : s.callers[i]? = some c)
    (hstage : c.stage = .running p.plan) (hflag : c.isCancelled = false) :
    ∃ schedule,
      let load := p.loadNow net c.kind.update .never servers
      (s.run schedule).provider = load.2.1 ∧
        (s.run schedule).callers = s.callers.set i { c with stage := .returned load.1 } ∧
        (s.run schedule).holder = none := by
  obtain ⟨schedule, hnoted, hcallers⟩ := reaches_ends net servers hc hstage hflag
  rw [hprovider] at hnoted hcallers
  obtain ⟨hi, -⟩ := List.getElem?_eq_some_iff.1 hc
  have hcaller := (congrArg (·[i]?) hcallers).trans (List.getElem?_set_self hi)
  obtain ⟨hnext, hreturned, hfree⟩ := run_of_ends hcaller rfl rfl
  refine ⟨schedule ++ [.cue i .proceed, .cue i .proceed], ?_⟩
  rw [run_append, p.loadNow_eq_loadRun net c.kind.update servers, hnext, hreturned, hfree, hnoted,
    hcallers, List.set_set]
  exact ⟨rfl, rfl, rfl⟩

/-- The call of a caller that is alone, up to the plan of its load. -/
def entrance (kind : CallKind) : List Action :=
  [.call kind, .cue 0 .proceed, .cue 0 .proceed]

theorem run_entrance (p : Provider) {kind : CallKind} (hneeds : kind.needsLoad p = true) :
    System.run { provider := p } (entrance kind) =
      { provider := p.resolved
        callers := [{ kind, stage := .running p.plan }]
        holder := some 0
        history := [(0, .acquires)] } := by
  simp [entrance, run, step, Caller.move?, hneeds, perform, Move.holder]

/-- A caller that is alone can load as a load does that nothing keeps waiting. -/
theorem exists_run_eq_loadNow {σ : Type} (net : Servers σ) (servers : σ) (p : Provider)
    {kind : CallKind} (hneeds : kind.needsLoad p = true) :
    ∃ schedule,
      let s := System.run { provider := p } schedule
      let load := p.loadNow net kind.update .never servers
      s.provider = load.2.1 ∧ s.callers = [{ kind, stage := .returned load.1 }] ∧
        s.holder = none := by
  have hentered := run_entrance p hneeds
  obtain ⟨schedule, hrun⟩ := exists_run_of_resolved net servers (i := 0)
    (congrArg System.provider hentered) (by rw [hentered]; rfl) rfl rfl
  refine ⟨entrance kind ++ schedule, ?_⟩
  rw [run_append]
  rw [hentered] at hrun ⊢
  exact hrun

/-- A second load comes while the first has the lock, and waits. -/
def arrival : List Action :=
  entrance (.load true) ++ [.call (.load true), .cue 1 .proceed]

theorem run_arrival (p : Provider) (henabled : p.options.enabled = true) :
    System.run { provider := p } arrival =
      { provider := p.resolved
        callers := [{ kind := .load true, stage := .running p.plan },
          { kind := .load true, stage := .waiting }]
        holder := some 0
        history := [(0, .acquires)] } := by
  have hneeds : (CallKind.load true).needsLoad p = true := henabled
  have hneeds' : (CallKind.load true).needsLoad p.resolved = true := henabled
  rw [arrival, run_append, run_entrance p hneeds]
  simp [run, step, Caller.move?, hneeds', perform, Move.holder]

/-- The second load can be cancelled while it waits, and the first one goes on. -/
theorem exists_run_eq_cancelBehind {σ : Type} (net : Servers σ) (servers : σ) (p : Provider)
    (henabled : p.options.enabled = true) :
    ∃ rest,
      let s := System.run { provider := p } (arrival ++ [.cancel 1, .cue 1 .proceed] ++ rest)
      let (pair, behind, _) := p.cancelBehind net servers
      s.provider = behind ∧ s.holder = none ∧
        s.callers = [{ kind := .load true, stage := .returned pair.first },
          { kind := .load true, stage := .dismissed (some pair.second), isCancelled := true }] := by
  have hleft : System.run { provider := p } (arrival ++ [.cancel 1, .cue 1 .proceed]) =
      { provider := p.resolved
        callers := [{ kind := .load true, stage := .running p.plan },
          { kind := .load true, stage := .dismissed (some (.error .cancelled)),
            isCancelled := true }]
        holder := some 0
        history := [(0, .acquires)] } := by
    rw [run_append, run_arrival p henabled]
    rfl
  obtain ⟨rest, hprovider, hcallers, hholder⟩ := exists_run_of_resolved net servers (i := 0)
    (congrArg System.provider hleft) (by rw [hleft]; rfl) rfl rfl
  refine ⟨rest, ?_⟩
  have hload : p.load net true .never servers = p.loadNow net true .never servers := by
    simp [Provider.load, henabled]
  rw [run_append]
  simp only [Provider.cancelBehind]
  have hstart : p.load net true .atStart servers = (.error .cancelled, p, servers) := by
    simp [Provider.load, henabled]
  rw [hstart, hload]
  rw [hleft] at hprovider hcallers hholder ⊢
  exact ⟨hprovider, hholder, hcallers⟩

end System

end RemoteConfig
