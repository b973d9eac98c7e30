import RemoteConfig.Proofs.Provider.Turns
import RemoteConfig.Retry.Scripted

/-!
# Loads that are cancelled

Whatever others do at the same time, a load that is cancelled winds up: it begins
nothing any more, and a few moves bring it to its end.

* `Stage.outcome` is what a load returns that was cancelled in some stage.
* `Stage.WindsUp` says what such a load does from one stage to another, and
  `Caller.windsUp` that each of its moves does so.  `HasCancelled.run` follows it
  along a schedule, and `HasCancelled.isOver_of_rounds` says when it has returned.
* `Provider.Spared` compares the provider before and behind, and
  `System.IsUnderWay.spared_next` says that a load which ends cancelled leaves
  nothing.
* `load_of_cancel` is the result, and `cancelled_load_located` a load that does not
  say that it was cancelled.
-/

namespace RemoteConfig

open Provider (LoadResult)

/-! ## What a cancelled load returns -/

/-- A load, an attempt or a request begins. -/
def Deed.begins : Deed → Bool
  | acquires | works (.sends _) | works (.takes (.attempt _)) => true
  | _ => false

namespace LoadPlan

/-- How the attempts of a cancelled load end that has this left.  They do so at
the next look or wait, if there is one before their end. -/
def stopped : LoadPlan → Except LoadError WalkOutcome
  | ends located => located
  | walked _ next => next.stopped
  | attempt .. | refuse .. | ask .. | pause .. => .error .cancelled

/-- A cancelled load that has this left makes no more moves than this. -/
def movesLeft : LoadPlan → Nat
  | ends _ => 2
  | attempt .. | refuse .. | ask .. => 3
  | pause .. => 5
  | walked _ next => next.movesLeft + 1

variable {plan : LoadPlan}

theorem stopped_of_isCheckpoint (h : plan.isCheckpoint = true) :
    plan.stopped = .error .cancelled := by
  cases plan <;> first | rfl | cases h

theorem movesLeft_of_isCheckpoint (h : plan.isCheckpoint = true) : plan.movesLeft = 3 := by
  cases plan <;> first | rfl | cases h

theorem movesLeft_le (h : plan.IsPaced) : plan.movesLeft ≤ 6 := by
  cases plan with
  | walked outcome next =>
    obtain ⟨hfollows, -⟩ := h
    cases next with
    | ends | pause => simp [movesLeft]
    | attempt | refuse | ask | walked => cases hfollows
  | _ => simp [movesLeft]

end LoadPlan

namespace Stage

/-- What a load returns that was cancelled in this stage, with what it has done
since.  If it waited for an answer it may have taken the answer first. -/
def outcome (p : Provider) (update : Bool) (since : List Deed) : Stage → LoadResult
  | arrived | waiting | pausing _ => .error .cancelled
  | running plan => (p.conclude update plan.stopped).1
  | asking request next =>
    match since with
    | .works (.takes (.asked _ reply)) :: _ =>
      (p.conclude update (next (p.client.outcome request reply)).stopped).1
    | _ => .error .cancelled
  | dismissed result => result.getD (.error .cancelled)
  | concluded result | returned result => result

/-- A cancelled load makes no more moves than this. -/
def movesLeft : Stage → Nat
  | dismissed _ | returned _ => 0
  | waiting | concluded _ => 1
  | arrived => 2
  | pausing _ => 4
  | asking .. => 7
  | running plan => plan.movesLeft

/-- The load looks behind each pause whether it was cancelled. -/
def IsPaced : Stage → Prop
  | running plan => plan.IsPaced
  | asking _ next => ∀ outcome, (next outcome).IsPaced
  | pausing next => next.isCheckpoint = true ∧ next.IsPaced
  | arrived | waiting | dismissed _ | concluded _ | returned _ => True

variable {stage : Stage}

theorem movesLeft_le (h : stage.IsPaced) : stage.movesLeft ≤ 7 := by
  cases stage with
  | running plan => exact Nat.le_succ_of_le (LoadPlan.movesLeft_le h)
  | _ => simp [movesLeft]

/-- A cancelled load has made a move, or stands where it stood. -/
def IsNearer (behind before : Stage) : Prop :=
  behind.movesLeft < before.movesLeft ∨ behind = before

theorem IsNearer.le {behind before : Stage} (h : behind.IsNearer before) :
    behind.movesLeft ≤ before.movesLeft := by
  rcases h with hless | rfl
  · exact Nat.le_of_lt hless
  · exact Nat.le_refl _

theorem IsNearer.trans {behind mid before : Stage} (h : behind.IsNearer mid)
    (h' : mid.IsNearer before) : behind.IsNearer before := by
  rcases h with hless | rfl
  · exact Or.inl (Nat.lt_of_lt_of_le hless h'.le)
  · exact h'

theorem ne_dismissed_of_left? {left : LoadPlan} (h : stage.left? = some left) :
    stage ≠ .dismissed none := by
  rintro rfl
  cases h

theorem isOver_iff : stage.isOver = true ↔ stage.movesLeft = 0 := by
  cases stage with
  | running plan => cases plan <;> simp [isOver, movesLeft, LoadPlan.movesLeft]
  | _ => simp [isOver, movesLeft]

end Stage

/-- The second provider has the options and the client of the first. -/
structure Provider.SameSetup (p q : Provider) : Prop where
  options : q.options = p.options
  client : q.client = p.client

theorem Provider.SameSetup.trans {p q r : Provider} (h : p.SameSetup q) (h' : q.SameSetup r) :
    p.SameSetup r :=
  ⟨h'.options.trans h.options, h'.client.trans h.client⟩

/-- What a load returns depends on the options alone. -/
theorem Provider.SameSetup.conclude_fst {p q : Provider} (h : p.SameSetup q) (update : Bool)
    (located : Except LoadError WalkOutcome) :
    (q.conclude update located).1 = (p.conclude update located).1 := by
  rcases located with e | ⟨e | _ | failures⟩
  · rfl
  · rfl
  · rw [conclude_noContent_fst, conclude_noContent_fst, h.options]
  · rfl

/-! ## Moves of cancelled loads -/

/-- Between two stages a cancelled load has wound up, and has done this. -/
structure Stage.WindsUp (p : Provider) (update : Bool) (before : Stage) (since : List Deed)
    (behind : Stage) : Prop where
  begins : ∀ deed ∈ since, deed.begins = false
  outcome : ∀ more, behind.outcome p update more = before.outcome p update (since ++ more)
  isPaced : behind.IsPaced
  entered : behind.hasEntered = before.hasEntered
  answered : behind ≠ .dismissed none

namespace Stage.WindsUp

variable {p : Provider} {update : Bool} {before mid behind : Stage} {since more : List Deed}

theorem refl (hpaced : before.IsPaced) (hanswered : before ≠ .dismissed none) :
    before.WindsUp p update [] before :=
  ⟨List.forall_mem_nil _, fun _ => rfl, hpaced, rfl, hanswered⟩

theorem trans (h : before.WindsUp p update since mid) (h' : mid.WindsUp p update more behind) :
    before.WindsUp p update (since ++ more) behind where
  begins deed hdeed := (List.mem_append.1 hdeed).elim (h.begins deed) (h'.begins deed)
  outcome rest := by rw [h'.outcome, h.outcome, List.append_assoc]
  isPaced := h'.isPaced
  entered := h'.entered.trans h.entered
  answered := h'.answered

end Stage.WindsUp

namespace Caller

variable {p q : Provider} {isFree update : Bool} {stage : Stage} {cue : Cue} {m : Move}

/-- A cancelled load that has a plan left looks, or takes a step that begins
nothing. -/
theorem windsUp_of_running (hsetup : p.SameSetup q) {plan : LoadPlan} (hpaced : plan.IsPaced)
    (h : move? q isFree ⟨.load update, .running plan, true⟩ .proceed = some m) :
    Stage.WindsUp p update (.running plan) m.deed.toList m.stage ∧
      m.stage.movesLeft < plan.movesLeft := by
  by_cases hlooks : plan.isCheckpoint = true
  · have hm : m = ⟨.running .cancelled, q, none⟩ := by
      simpa [move?, CallKind.canStop, hlooks] using h.symm
    subst hm
    refine ⟨⟨List.forall_mem_nil _, fun more => ?_, trivial, rfl,
      Stage.ne_dismissed_of_left? rfl⟩, ?_⟩
    · simp only [Stage.outcome, LoadPlan.stopped_of_isCheckpoint hlooks]
      rfl
    · simp [Stage.movesLeft, LoadPlan.movesLeft_of_isCheckpoint hlooks, LoadPlan.cancelled,
        LoadPlan.movesLeft]
  · have hm : m = plan.move q update := by
      simpa [move?, CallKind.canStop, CallKind.update, hlooks] using h.symm
    subst hm
    cases plan with
    | ends located =>
      refine ⟨⟨fun deed hdeed => ?_, fun more => ?_, trivial, rfl, by simp [LoadPlan.move]⟩,
        Nat.lt_succ_self _⟩
      · obtain ⟨snapshot, -, rfl⟩ := Option.map_eq_some_iff.1 (Option.mem_toList.1 hdeed)
        rfl
      · exact hsetup.conclude_fst update located
    | walked outcome next =>
      exact ⟨⟨by simp [LoadPlan.move, Move.taking, Deed.begins], fun more => rfl, hpaced.2, rfl,
        Stage.ne_dismissed_of_left? rfl⟩, Nat.lt_succ_self _⟩
    | pause length next =>
      exact ⟨⟨by simp [LoadPlan.move, Move.taking, Deed.begins], fun more => rfl, hpaced, rfl,
        Stage.ne_dismissed_of_left? rfl⟩, Nat.lt_succ_self _⟩
    | attempt | refuse | ask => exact absurd rfl hlooks

/-- A cancelled load that waits for an answer takes it, or gives up. -/
theorem windsUp_of_asking (hsetup : p.SameSetup q) {request : Request}
    {next : FetchOutcome → LoadPlan} (hpaced : ∀ outcome, (next outcome).IsPaced)
    (h : move? q isFree ⟨.load update, .asking request next, true⟩ cue = some m) :
    Stage.WindsUp p update (.asking request next) m.deed.toList m.stage ∧
      m.stage.movesLeft < 7 := by
  cases cue with
  | proceed => cases h
  | answer reply =>
    have hm : m = .taking q (.asked request reply)
        (.running (next (p.client.outcome request reply))) := by
      simpa only [move?, hsetup.client, Option.some.injEq] using h.symm
    subst hm
    have hnext := hpaced (p.client.outcome request reply)
    refine ⟨⟨by simp [Move.taking, Deed.begins], fun more => rfl, hnext, rfl,
      Stage.ne_dismissed_of_left? rfl⟩, ?_⟩
    simp only [Move.taking, Stage.movesLeft]
    exact Nat.lt_succ_of_le (LoadPlan.movesLeft_le hnext)
  | giveUp =>
    have hm : m = .taking q (.interrupted request .silence) (.running .cancelled) := by
      simpa [move?, CallKind.canStop] using h.symm
    subst hm
    refine ⟨⟨by simp [Move.taking, Deed.begins], fun more => rfl, trivial, rfl,
      Stage.ne_dismissed_of_left? rfl⟩, ?_⟩
    simp [Move.taking, Stage.movesLeft, LoadPlan.cancelled, LoadPlan.movesLeft]

/-- A cancelled load that pauses looks behind the pause, or cuts it short. -/
theorem windsUp_of_pausing {next : LoadPlan} (hlooks : next.isCheckpoint = true)
    (hpaced : next.IsPaced)
    (h : move? q isFree ⟨.load update, .pausing next, true⟩ cue = some m) :
    Stage.WindsUp p update (.pausing next) m.deed.toList m.stage ∧ m.stage.movesLeft < 4 := by
  cases cue with
  | proceed =>
    have hm : m = ⟨.running next, q, none⟩ := by simpa [move?] using h.symm
    subst hm
    refine ⟨⟨by simp, fun more => ?_, hpaced, rfl, by simp⟩, ?_⟩
    · simp only [Stage.outcome, LoadPlan.stopped_of_isCheckpoint hlooks]
      rfl
    · simp [Stage.movesLeft, LoadPlan.movesLeft_of_isCheckpoint hlooks]
  | answer => cases h
  | giveUp =>
    have hm : m = ⟨.running .cancelled, q, none⟩ := by
      simpa [move?, CallKind.canStop] using h.symm
    subst hm
    refine ⟨⟨by simp, fun more => rfl, trivial, rfl, by simp⟩, ?_⟩
    simp [Stage.movesLeft, LoadPlan.cancelled, LoadPlan.movesLeft]

/-- With each of its moves a cancelled load winds up.  The cases are those of the
stage that it has reached. -/
theorem windsUp (hsetup : p.SameSetup q) (henabled : p.options.enabled = true)
    (hpaced : stage.IsPaced)
    (h : move? q isFree ⟨.load update, stage, true⟩ cue = some m) :
    stage.WindsUp p update m.deed.toList m.stage ∧ m.stage.movesLeft < stage.movesLeft := by
  cases stage with
  | arrived =>
    cases cue with
    | proceed =>
      have hm : m = ⟨.waiting, q, none⟩ := by
        simpa [move?, CallKind.needsLoad, hsetup.options, henabled] using h.symm
      subst hm
      exact ⟨⟨by simp, fun more => rfl, trivial, rfl, by simp⟩, Nat.lt_succ_self _⟩
    | answer | giveUp => cases h
  | waiting =>
    cases cue with
    | proceed =>
      have hm : m = ⟨.dismissed (some (.error .cancelled)), q, none⟩ := by
        simpa [move?, CallKind.canLeave, CallKind.left?] using h.symm
      subst hm
      exact ⟨⟨by simp, fun more => rfl, trivial, rfl, by simp⟩, Nat.lt_succ_self _⟩
    | answer | giveUp => cases h
  | dismissed result => cases cue <;> cases h
  | running plan =>
    cases cue with
    | proceed => exact windsUp_of_running hsetup hpaced h
    | answer | giveUp => cases h
  | asking request next => exact windsUp_of_asking hsetup hpaced h
  | pausing next => exact windsUp_of_pausing hpaced.1 hpaced.2 h
  | concluded result =>
    cases cue with
    | proceed =>
      have hm : m = ⟨.returned result, q, some .releases⟩ := by simpa [move?] using h.symm
      subst hm
      exact ⟨⟨by simp [Deed.begins], fun more => rfl, trivial, rfl, by simp⟩, Nat.lt_succ_self _⟩
    | answer | giveUp => cases h
  | returned result => cases cue <;> cases h

/-- A cancelled load that is not over can give up its request, or go on. -/
theorem isSome_move? (hover : stage.isOver = false) :
    (∀ q isFree, (move? q isFree ⟨.load update, stage, true⟩ .giveUp).isSome = true) ∨
      ∀ q isFree, (move? q isFree ⟨.load update, stage, true⟩ .proceed).isSome = true := by
  cases stage with
  | dismissed | returned => cases hover
  | asking request next => exact Or.inl fun q isFree => rfl
  | running plan =>
    refine Or.inr fun q isFree => ?_
    simp only [move?]
    split <;> rfl
  | arrived | waiting | pausing | concluded => exact Or.inr fun q isFree => rfl

end Caller

/-! ## Schedules behind a cancellation -/

namespace System

/-- Schedules leave options and client as they are. -/
theorem sameSetup_run (s : System) (schedule : List Action) :
    s.provider.SameSetup (s.run schedule).provider := by
  refine @provider_run s.provider.SameSetup (fun _ _ _ h => ⟨h.options, h.client⟩)
    (fun q update located h => ?_) s ⟨rfl, rfl⟩ schedule
  obtain ⟨store, metrics, lastFetch, hframe⟩ := q.conclude_frame update located
  rw [hframe]
  exact ⟨h.options, h.client⟩

/-- A caller has a load in this stage that was cancelled. -/
structure HasCancelled (p : Provider) (s : System) (i : Nat) (update : Bool) (stage : Stage) :
    Prop where
  caller : s.callers[i]? = some { kind := .load update, stage, isCancelled := true }
  setup : p.SameSetup s.provider
  isPaced : stage.IsPaced
  answered : stage ≠ .dismissed none

namespace HasCancelled

variable {p : Provider} {s : System} {i : Nat} {update : Bool} {stage : Stage}

theorem refl (h : HasCancelled p s i update stage) : stage.WindsUp p update [] stage :=
  .refl h.isPaced h.answered

theorem step (h : HasCancelled p s i update stage) (henabled : p.options.enabled = true)
    (action : Action) : ∃ stage' since,
      HasCancelled p (s.step action) i update stage' ∧
      (s.step action).deedsOf i = s.deedsOf i ++ since ∧
      stage.WindsUp p update since stage' ∧ stage'.IsNearer stage ∧
      ∀ cue, action = .cue i cue →
        (Caller.move? s.provider s.holder.isNone ⟨.load update, stage, true⟩ cue).isSome = true →
        stage'.movesLeft < stage.movesLeft := by
  have hsetup : p.SameSetup (s.step action).provider := h.setup.trans (s.sameSetup_run [action])
  rcases caller_step h.caller action with ⟨cue, m, -, hm, heq⟩ | ⟨hstays, hc, hdeeds⟩
  · obtain ⟨hwinds, hless⟩ := Caller.windsUp h.setup henabled h.isPaced hm
    refine ⟨m.stage, m.deed.toList, ⟨?_, hsetup, hwinds.isPaced, hwinds.answered⟩, ?_, hwinds,
      Or.inl hless, fun _ _ _ => hless⟩
    · rw [heq, getElem?_perform_self h.caller]
    · rw [heq, deedsOf_perform_self]
  · refine ⟨stage, [], ⟨hc, hsetup, h.isPaced, h.answered⟩, by rw [hdeeds, List.append_nil],
      h.refl, Or.inr rfl, fun cue hcue hmoves => ?_⟩
    rw [hstays cue hcue] at hmoves
    cases hmoves

theorem run (h : HasCancelled p s i update stage) (henabled : p.options.enabled = true)
    (schedule : List Action) : ∃ stage' since,
      HasCancelled p (s.run schedule) i update stage' ∧
      (s.run schedule).deedsOf i = s.deedsOf i ++ since ∧
      stage.WindsUp p update since stage' ∧ stage'.IsNearer stage := by
  induction schedule generalizing s stage with
  | nil => exact ⟨stage, [], h, (List.append_nil _).symm, h.refl, Or.inr rfl⟩
  | cons action schedule ih =>
    obtain ⟨mid, since, hmid, hdeeds, hwinds, hnearer, -⟩ := h.step henabled action
    obtain ⟨stage', more, hend, hdeeds', hwinds', hnearer'⟩ := ih hmid
    refine ⟨stage', since ++ more, hend, ?_, hwinds.trans hwinds', hnearer'.trans hnearer⟩
    rw [← List.append_assoc, ← hdeeds]
    exact hdeeds'

end HasCancelled

/-- So often a caller may take note of its cancellation, and then go on. -/
def rounds (i : Nat) : Nat → List Action
  | 0 => []
  | n + 1 => .cue i .giveUp :: .cue i .proceed :: rounds i n

namespace HasCancelled

variable {p : Provider} {s : System} {i : Nat} {update : Bool} {stage : Stage}

/-- In a round a cancelled load makes a move, unless it is over. -/
theorem round (h : HasCancelled p s i update stage) (henabled : p.options.enabled = true)
    (between : List Action) : ∃ stage',
      HasCancelled p (((s.step (.cue i .giveUp)).run between).step (.cue i .proceed)) i update
        stage' ∧
      stage'.movesLeft ≤ stage.movesLeft - 1 := by
  obtain ⟨first, -, hfirst, -, -, hnearer, hgaveUp⟩ := h.step henabled (.cue i .giveUp)
  obtain ⟨second, -, hsecond, -, -, hnearer'⟩ := hfirst.run henabled between
  obtain ⟨stage', -, hend, -, -, hnearer'', hwent⟩ := hsecond.step henabled (.cue i .proceed)
  refine ⟨stage', hend, ?_⟩
  cases hover : stage.isOver with
  | true =>
    have hzero := Stage.isOver_iff.1 hover
    have hle := (hnearer''.trans (hnearer'.trans hnearer)).le
    omega
  | false =>
    refine Nat.le_sub_one_of_lt ?_
    rcases Caller.isSome_move? hover with hgives | hgoes
    · exact Nat.lt_of_le_of_lt (hnearer''.trans hnearer').le (hgaveUp _ rfl (hgives ..))
    · rcases hnearer'.trans hnearer with hless | rfl
      · exact Nat.lt_of_le_of_lt hnearer''.le hless
      · exact hwent _ rfl (hgoes ..)

/-- A cancelled load is over when it was given its rounds, whatever happens in
between. -/
theorem isOver_of_rounds (h : HasCancelled p s i update stage) (henabled : p.options.enabled = true)
    {n : Nat} (hleft : stage.movesLeft ≤ n) {schedule : List Action}
    (hrounds : (rounds i n).Sublist schedule) : ∃ stage',
      HasCancelled p (s.run schedule) i update stage' ∧ stage'.isOver = true := by
  induction n generalizing s stage schedule with
  | zero =>
    obtain ⟨stage', -, hend, -, -, hnearer⟩ := h.run henabled schedule
    exact ⟨stage', hend, Stage.isOver_iff.2 (Nat.le_zero.1 (Nat.le_trans hnearer.le hleft))⟩
  | succ n ih =>
    obtain ⟨first, rest, rfl, hgiveUp, hlater⟩ := List.cons_sublist_iff.1 hrounds
    obtain ⟨before, between, rfl⟩ := List.append_of_mem hgiveUp
    obtain ⟨second, rest, rfl, hproceed, hrest⟩ := List.cons_sublist_iff.1 hlater
    obtain ⟨between', behind, rfl⟩ := List.append_of_mem hproceed
    obtain ⟨stage₁, -, h₁, -, -, hnearer⟩ := h.run henabled before
    obtain ⟨stage₂, h₂, hless⟩ := h₁.round henabled (between ++ between')
    have hleft₂ : stage₂.movesLeft ≤ n := by
      have hle := hnearer.le
      omega
    have hrun : s.run (before ++ .cue i .giveUp :: between ++
          (between' ++ .cue i .proceed :: behind ++ rest)) =
        ((((s.run before).step (.cue i .giveUp)).run (between ++ between')).step
          (.cue i .proceed)).run (behind ++ rest) := by
      simp [System.run]
    rw [hrun]
    exact ih h₂ hleft₂ (hrest.trans (List.sublist_append_right behind rest))

end HasCancelled

end System

/-! ## What cancelled loads leave -/

/-- Between two states of a provider so many cancelled loads were counted.
Otherwise no load has left anything but counts of requests and walks. -/
structure Provider.Spared (before : Provider) (cancelled : Nat) (behind : Provider) : Prop where
  store : behind.store = before.store
  lastFetch : behind.lastFetch = before.lastFetch
  reloads : behind.metrics.reloads = before.metrics.reloads
  keys : behind.metrics.keys = before.metrics.keys
  loads : ∀ label, Metrics.count behind.metrics.loads label =
    Metrics.count before.metrics.loads label + if label = "cancelled" then cancelled else 0

namespace Provider.Spared

variable {before mid behind : Provider} {m n : Nat}

theorem refl (p : Provider) : p.Spared 0 p :=
  ⟨rfl, rfl, rfl, rfl, fun label => by simp⟩

theorem trans (h : before.Spared m mid) (h' : mid.Spared n behind) :
    before.Spared (m + n) behind where
  store := h'.store.trans h.store
  lastFetch := h'.lastFetch.trans h.lastFetch
  reloads := h'.reloads.trans h.reloads
  keys := h'.keys.trans h.keys
  loads label := by
    rw [h'.loads, h.loads]
    split <;> omega

theorem resolved (p : Provider) : p.Spared 0 p.resolved :=
  ⟨rfl, rfl, rfl, rfl, fun label => by simp [Provider.resolved]⟩

theorem taking (p : Provider) (step : LoadStep) (stage : Stage) :
    p.Spared 0 (Move.taking p step stage).provider := by
  obtain ⟨requests, walksExhausted, hnoted⟩ := p.metrics.noteSteps_frame p.client [step]
  have hmetrics : (Move.taking p step stage).provider.metrics =
      { p.metrics with requests, walksExhausted } := hnoted
  exact ⟨rfl, rfl, by rw [hmetrics], by rw [hmetrics], fun label => by simp [hmetrics]⟩

/-- A load that ends cancelled counts as that. -/
theorem conclude (p : Provider) (update : Bool) {located : Except LoadError WalkOutcome}
    (h : (p.conclude update located).1 = .error .cancelled) :
    p.Spared 1 (p.conclude update located).2 := by
  have hcancelled : located = .error .cancelled := by
    rcases located with e | ⟨e | _ | failures⟩
    · exact congrArg Except.error (Except.error.inj h)
    · cases h
    · rw [conclude_noContent_fst] at h
      split at h <;> cases h
    · cases h
  subst hcancelled
  refine ⟨rfl, rfl, rfl, rfl, fun label => ?_⟩
  show Metrics.count (Metrics.increment p.metrics.loads "cancelled") label = _
  rw [Metrics.count_increment]
  simp only [eq_comm]

end Provider.Spared

/-- While a caller has the lock, the moves of others leave the provider alone. -/
theorem IsSerial.provider_of_held {p : Provider} {s : System} {past : List Turn}
    {current : Option Turn} (h : IsSerial p s past current) {i j : Nat} {c : Caller} {m : Move}
    (hc : s.callers[j]? = some c) (hm : c.Moves s.provider s.holder.isNone m) (hji : j ≠ i)
    (hheld : s.holder = some i) : m.provider = s.provider := by
  have houtside {left : LoadPlan} (hleft : c.stage.left? = some left) : False := by
    obtain ⟨t, rfl, rfl, -⟩ := h.current_of_left? hc hleft
    exact hji (Option.some.inj (h.holder.symm.trans hheld))
  cases hm with
  | outside | wait | release => rfl
  | acquire _ hfree =>
    rw [hheld] at hfree
    cases hfree
  | take hbefore => exact (houtside hbefore).elim
  | conclude hbefore => exact (houtside (by rw [hbefore]; rfl)).elim

namespace System

/-- The caller has the lock, or has had it.  Until its load is over, and also if it
ends cancelled, it has left nothing behind. -/
def Spares (s : System) (i : Nat) (before : Provider) : Prop :=
  ∃ kind stage, s.entered? i = some (kind, stage) ∧
    (stage.left?.isSome = true → before.Spared 0 s.provider) ∧
    (stage = .concluded (.error .cancelled) → before.Spared 1 s.provider)

variable {p before : Provider} {s : System} {past : List Turn} {current : Option Turn} {i : Nat}

/-- Its own moves keep to that. -/
theorem Spares.perform (h : s.Spares i before) {c : Caller} {m : Move}
    (hc : s.callers[i]? = some c) (hm : c.Moves s.provider s.holder.isNone m) :
    (s.perform i c m).Spares i before := by
  obtain ⟨kind, stage, hseen, hleft, -⟩ := h
  have hentered : c.stage.hasEntered = true := by
    by_contra hnot
    rw [entered?_eq_none hc (by simpa using hnot)] at hseen
    cases hseen
  obtain ⟨rfl, rfl⟩ :=
    Prod.mk.inj (Option.some.inj ((entered?_eq_some hc hentered).symm.trans hseen))
  refine ⟨c.kind, m.stage, ?_, ?_⟩
  · rw [entered?_perform hc, if_pos rfl, if_pos (hm.hasEntered hentered)]
  · show (m.stage.left?.isSome = true → before.Spared 0 m.provider) ∧
      (m.stage = .concluded (.error .cancelled) → before.Spared 1 m.provider)
    have hunderWay {left : LoadPlan} (hbefore : c.stage.left? = some left) :
        before.Spared 0 s.provider := hleft (by rw [hbefore]; rfl)
    cases hm with
    | outside hbefore =>
      rw [hbefore] at hentered
      cases hentered
    | acquire hbefore =>
      rw [hbefore] at hentered
      cases hentered
    | wait sent hbefore hbehind =>
      exact ⟨fun _ => hunderWay hbefore, fun hover => absurd
        (hbehind.symm.trans (congrArg Stage.left? hover)) (Option.some_ne_none _)⟩
    | take hbefore hbehind =>
      exact ⟨fun _ => (hunderWay hbefore).trans (.taking ..), fun hover => absurd
        (hbehind.symm.trans (congrArg Stage.left? hover)) (Option.some_ne_none _)⟩
    | conclude hbefore =>
      refine ⟨fun hleft => ?_, fun hover => ?_⟩
      · cases hleft
      · exact (hunderWay (by rw [hbefore]; rfl)).trans (.conclude _ _ (Stage.concluded.inj hover))
    | release => exact ⟨by simp [Stage.left?], by simp⟩

theorem Spares.step (h : s.Spares i before) (hserial : IsSerial p s past current)
    (action : Action) : (s.step action).Spares i before := by
  rcases s.step_cases action with hunmoved | ⟨j, c, m, hc, hm, heq⟩
  · obtain ⟨kind, stage, hseen, hspared⟩ := h
    refine ⟨kind, stage, (hunmoved.entered i).trans hseen, ?_⟩
    rw [hunmoved.provider]
    exact hspared
  · rw [heq]
    by_cases hji : j = i
    · subst hji
      exact h.perform hc hm
    · obtain ⟨kind, stage, hseen, hspared⟩ := h
      refine ⟨kind, stage, ?_, ?_⟩
      · rw [entered?_perform hc, if_neg hji]
        exact hseen
      · rcases hserial.inside i kind stage hseen with hheld | ⟨result, rfl⟩
        · rw [System.perform, hserial.provider_of_held hc hm hji hheld]
          exact hspared
        · exact ⟨by simp [Stage.left?], by simp⟩

theorem Spares.run (h : s.Spares i before) (hserial : IsSerial p s past current)
    (schedule : List Action) : (s.run schedule).Spares i before := by
  induction schedule generalizing s past current with
  | nil => exact h
  | cons action schedule ih =>
    obtain ⟨past, current, hserial'⟩ := hserial.step action
    exact ih (h.step hserial action) hserial'

/-! ## Loads that are cancelled before they have the lock -/

theorem entered?_isSome_step {s : System} {i : Nat} (h : (s.entered? i).isSome = true)
    (action : Action) : ((s.step action).entered? i).isSome = true := by
  rcases s.step_cases action with hunmoved | ⟨j, c, m, hc, hm, heq⟩
  · rw [hunmoved.entered]
    exact h
  · rw [heq, entered?_perform hc]
    by_cases hji : j = i
    · subst hji
      by_cases hentered : c.stage.hasEntered = true
      · rw [if_pos rfl, if_pos (hm.hasEntered hentered)]
        rfl
      · rw [entered?_eq_none hc (by simpa using hentered)] at h
        cases h
    · rw [if_neg hji]
      exact h

theorem entered?_isSome_run {s : System} {i : Nat} (h : (s.entered? i).isSome = true)
    (schedule : List Action) : ((s.run schedule).entered? i).isSome = true := by
  induction schedule generalizing s with
  | nil => exact h
  | cons action schedule ih => exact ih (entered?_isSome_step h action)

/-- The moves of a caller leave the provider alone until it has the lock. -/
theorem provider_step_of_not_entered {s : System} {i : Nat} {cue : Cue}
    (h : (s.step (.cue i cue)).entered? i = none) :
    (s.step (.cue i cue)).provider = s.provider := by
  cases hc : s.callers[i]? with
  | none => simp only [step, hc]
  | some c =>
    rw [step_cue hc] at h ⊢
    cases hm : c.move? s.provider s.holder.isNone cue with
    | none => rfl
    | some m =>
      rw [hm] at h
      have hnot : m.stage.hasEntered = false := by
        by_contra hentered
        rw [Option.elim_some, entered?_perform hc, if_pos rfl,
          if_pos (by simpa using hentered)] at h
        cases h
      show m.provider = s.provider
      cases Caller.moves hm with
      | outside => rfl
      | wait => rfl
      | release => rfl
      | acquire | conclude => cases hnot
      | take _ hbehind => cases hnot.symm.trans (Stage.hasEntered_of_left? hbehind)

end System

/-- In every schedule loads look behind their pauses. -/
theorem IsSerial.isPaced {p : Provider} {s : System} {past : List Turn} {current : Option Turn}
    (h : IsSerial p s past current) {i : Nat} {c : Caller} (hc : s.callers[i]? = some c) :
    c.stage.IsPaced := by
  have hpaced {left : LoadPlan} (hleft : c.stage.left? = some left) :
      left.IsPaced ∧ (c.stage.isPausing = true → left.isCheckpoint = true) := by
    obtain ⟨t, -, -, -, -, hstands⟩ := h.current_of_left? hc hleft
    obtain ⟨-, -, -, hled | ⟨rfl, -⟩, hlooks⟩ := hstands.of_left? hleft
    · exact ⟨hled.isPaced t.provider.isPaced_plan, hlooks⟩
    · exact ⟨trivial, hlooks⟩
  cases hstage : c.stage with
  | running plan => exact (hpaced (by rw [hstage]; rfl)).1
  | asking request next => exact (@hpaced (.ask request next) (by rw [hstage]; rfl)).1
  | pausing next =>
    obtain ⟨hnext, hlooks⟩ := @hpaced next (by rw [hstage]; rfl)
    exact ⟨hlooks (by rw [hstage]; rfl), hnext⟩
  | arrived | waiting | dismissed | concluded | returned => trivial

/-! ## The result -/

/-- What a load has returned, or is about to. -/
def Stage.result? : Stage → Option LoadResult
  | dismissed result => result
  | concluded result | returned result => some result
  | arrived | waiting | running _ | asking .. | pausing _ => none

theorem Stage.outcome_of_result? {stage : Stage} {result : LoadResult}
    (h : stage.result? = some result) (p : Provider) (update : Bool) (since : List Deed) :
    stage.outcome p update since = result := by
  cases stage with
  | dismissed result' =>
    obtain rfl : result' = some result := h
    rfl
  | concluded | returned => exact Option.some.inj h
  | arrived | waiting | running | asking | pausing => cases h

namespace System

variable {p : Provider} {i : Nat}

/-- A caller that never has the lock does nothing that others see, and leaves the
provider alone. -/
theorem leaves_alone {schedule : List Action}
    (hnot : (System.run { provider := p } schedule).entered? i = none) :
    (System.run { provider := p } schedule).deedsOf i = [] ∧
      ∀ first cue rest, schedule = first ++ .cue i cue :: rest →
        ((System.run { provider := p } first).step (.cue i cue)).provider =
          (System.run { provider := p } first).provider := by
  obtain ⟨past, current, hserial⟩ := (IsSerial.start p).run schedule
  refine ⟨List.filterMap_eq_nil_iff.2 fun e he => if_neg (hserial.not_mem_of_not_entered hnot e he),
    fun first cue rest hschedule => provider_step_of_not_entered ?_⟩
  rw [← Option.not_isSome_iff_eq_none]
  intro hsome
  have hlater := entered?_isSome_run hsome rest
  have hrun : ((System.run { provider := p } first).step (.cue i cue)).run rest =
      System.run { provider := p } schedule := by
    rw [hschedule, run_append]
    rfl
  rw [hrun, hnot] at hlater
  cases hlater

/-- Its load has begun and is not over. -/
def IsUnderWay (s : System) (i : Nat) : Prop :=
  ∃ c, s.callers[i]? = some c ∧ c.stage.left?.isSome = true

/-- A step with which a load gets under way leaves nothing yet. -/
theorem IsUnderWay.before {s : System} {action : Action} (h : (s.step action).IsUnderWay i) :
    s.IsUnderWay i ∨ s.provider.Spared 0 (s.step action).provider := by
  rcases s.step_cases action with hunmoved | ⟨j, c, m, hc, hm, heq⟩
  · right
    rw [hunmoved.provider]
    exact .refl _
  · obtain ⟨c', hc', hleft⟩ := h
    rw [heq] at hc' ⊢
    by_cases hji : j = i
    · subst hji
      rw [getElem?_perform_self hc] at hc'
      obtain rfl := Option.some.inj hc'
      cases hm with
      | acquire => exact Or.inr (.resolved _)
      | wait _ hbefore | take hbefore => exact Or.inl ⟨c, hc, by rw [hbefore]; rfl⟩
      | outside _ hbehind =>
        obtain ⟨left, hleft⟩ := Option.isSome_iff_exists.1 hleft
        cases hbehind.symm.trans (Stage.hasEntered_of_left? hleft)
      | conclude | release => cases hleft
    · rw [getElem?_perform_of_ne hji] at hc'
      exact Or.inl ⟨c', hc', hleft⟩

/-- A load that ends cancelled leaves nothing, from any point on at which it is
under way. -/
theorem IsUnderWay.spared {first rest : List Action}
    (h : (System.run { provider := p } first).IsUnderWay i) {c : Caller}
    (hc : (System.run { provider := p } (first ++ rest)).callers[i]? = some c)
    (hconcluded : c.stage = .concluded (.error .cancelled)) :
    (System.run { provider := p } first).provider.Spared 1
      (System.run { provider := p } (first ++ rest)).provider := by
  obtain ⟨past, current, hserial⟩ := (IsSerial.start p).run first
  obtain ⟨before, hbefore, hleft⟩ := h
  obtain ⟨left, hleft'⟩ := Option.isSome_iff_exists.1 hleft
  have hspares : (System.run { provider := p } first).Spares i
      (System.run { provider := p } first).provider :=
    ⟨before.kind, before.stage, entered?_eq_some hbefore (Stage.hasEntered_of_left? hleft'),
      fun _ => .refl _, fun hover => by rw [hover] at hleft; cases hleft⟩
  obtain ⟨kind, stage, hseen, -, hspared⟩ := hspares.run hserial rest
  rw [← run_append] at hseen hspared
  rw [entered?_eq_some hc (by rw [hconcluded]; rfl)] at hseen
  obtain ⟨-, rfl⟩ := Prod.mk.inj (Option.some.inj hseen)
  exact hspared hconcluded

/-- The same from the point on at which it acquires the lock. -/
theorem IsUnderWay.spared_next {first rest : List Action} {action : Action}
    (h : (System.run { provider := p } (first ++ [action])).IsUnderWay i) {c : Caller}
    (hc : (System.run { provider := p } (first ++ action :: rest)).callers[i]? = some c)
    (hconcluded : c.stage = .concluded (.error .cancelled)) :
    (System.run { provider := p } first).provider.Spared 1
      (System.run { provider := p } (first ++ action :: rest)).provider := by
  have hrun : System.run { provider := p } (first ++ [action]) =
      (System.run { provider := p } first).step action := run_append ..
  rcases (hrun ▸ h).before with hbefore | hnothing
  · exact hbefore.spared hc hconcluded
  · have hsplit : first ++ action :: rest = first ++ [action] ++ rest := by simp
    rw [hsplit] at hc ⊢
    have hlater := h.spared hc hconcluded
    rw [hrun] at hlater
    exact hnothing.trans hlater

variable {before : List Action} {update flag : Bool} {stage : Stage}

/-- Behind its cancellation a load stands where it stood. -/
theorem HasCancelled.of_cancel
    (hcaller : (System.run { provider := p } before).callers[i]? =
      some { kind := .load update, stage, isCancelled := flag })
    (hover : stage.isOver = false) :
    HasCancelled p (System.run { provider := p } (before ++ [.cancel i])) i update stage ∧
      (System.run { provider := p } (before ++ [.cancel i])).deedsOf i =
        (System.run { provider := p } before).deedsOf i := by
  obtain ⟨past, current, hserial⟩ := (IsSerial.start p).run (before ++ [.cancel i])
  have hsetup := sameSetup_run { provider := p } (before ++ [.cancel i])
  have hrun : System.run { provider := p } (before ++ [.cancel i]) =
      (System.run { provider := p } before).step (.cancel i) := run_append ..
  rw [hrun] at hserial hsetup ⊢
  rcases caller_step hcaller (.cancel i) with ⟨cue, m, hcue, -⟩ | ⟨-, hc, hdeeds⟩
  · cases hcue
  · have hcancelled : ((System.run { provider := p } before).step (.cancel i)).callers[i]? =
        some { kind := .load update, stage, isCancelled := true } := by
      simpa using hc
    refine ⟨⟨hcancelled, hsetup, hserial.isPaced hcancelled, ?_⟩, hdeeds⟩
    rintro rfl
    cases hover

end System

theorem Stage.isSome_result? {stage : Stage} (hover : stage.isOver = true)
    (hanswered : stage ≠ .dismissed none) : stage.result?.isSome = true := by
  cases stage with
  | dismissed result =>
    cases result with
    | none => exact absurd rfl hanswered
    | some result => rfl
  | returned result => rfl
  | arrived | waiting | running | asking | pausing | concluded => cases hover

/-- What becomes of a load that is cancelled before it is over, whatever else
happens before and after.  It acquires no lock, sends no request and begins no
attempt any more.  It returns that it was cancelled, unless nothing is left of it
but the end of its last walk, be it at once or by the answer to the request that
it waits for: what it returns then is given by `Stage.outcome`.  Once it is given
seven rounds it has returned.  Without the lock it never does anything.  If it
returns that it was cancelled it leaves nothing but counts from when it acquires
the lock, and among the counts of loads only that of cancelled ones has grown, by
one. -/
theorem load_of_cancel {p : Provider} {before : List Action} {i : Nat} {update flag : Bool}
    {stage : Stage} (henabled : p.options.enabled = true)
    (hcaller : (System.run { provider := p } before).callers[i]? =
      some { kind := .load update, stage, isCancelled := flag })
    (hover : stage.isOver = false) (after : List Action) :
    let run := System.run { provider := p }
    let schedule := before ++ [.cancel i] ++ after
    ∃ stage' since,
      (run schedule).callers[i]? =
        some { kind := .load update, stage := stage', isCancelled := true } ∧
      (run schedule).deedsOf i = (run before).deedsOf i ++ since ∧
      (∀ deed ∈ since, deed.begins = false) ∧
      (∀ result, stage'.result? = some result → result = stage.outcome p update since) ∧
      ((System.rounds i 7).Sublist after → stage'.isOver = true ∧ stage'.result?.isSome = true) ∧
      (stage.hasEntered = false → (run schedule).deedsOf i = [] ∧
        ∀ first cue rest, schedule = first ++ .cue i cue :: rest →
          ((run first).step (.cue i cue)).provider = (run first).provider) ∧
      (stage' = .concluded (.error .cancelled) → ∀ first action rest,
        schedule = first ++ action :: rest →
        (run first).IsUnderWay i ∨ (run (first ++ [action])).IsUnderWay i →
        (run first).provider.Spared 1 (run schedule).provider) := by
  intro run schedule
  obtain ⟨hcancelled, hsame⟩ := System.HasCancelled.of_cancel hcaller hover
  obtain ⟨stage', since, hend, hdeeds, hwinds, -⟩ := hcancelled.run henabled after
  rw [hsame, ← System.run_append] at hdeeds
  rw [← System.run_append] at hend
  refine ⟨stage', since, hend.caller, hdeeds, hwinds.begins, fun result hresult => ?_,
    fun hrounds => ?_, fun hentered => ?_,
    fun hconcluded first action rest hschedule hunderWay => ?_⟩
  · have houtcome := hwinds.outcome []
    rw [Stage.outcome_of_result? hresult, List.append_nil] at houtcome
    exact houtcome
  · obtain ⟨stage'', hend', hover'⟩ := hcancelled.isOver_of_rounds henabled
      (Stage.movesLeft_le hcancelled.isPaced) hrounds
    rw [← System.run_append] at hend'
    obtain rfl : stage'' = stage' := by simpa using hend'.caller.symm.trans hend.caller
    exact ⟨hover', Stage.isSome_result? hover' hend.answered⟩
  · exact System.leaves_alone (System.entered?_eq_none hend.caller (hwinds.entered.trans hentered))
  · have hend' := hend.caller
    show (run first).provider.Spared 1 (run schedule).provider
    rw [show before ++ [.cancel i] ++ after = first ++ action :: rest from hschedule] at hend'
    rw [hschedule]
    rcases hunderWay with hnow | hnext
    · exact hnow.spared hend' hconcluded
    · exact hnext.spared_next hend' hconcluded

/-- A load is cancelled when it has just acquired the lock. -/
theorem load_of_cancel_under_lock :
    let p := Provider.ofOptions { uri := "http://[::1]" }
    let schedule := System.entrance (.load true) ++ [.cancel 0] ++ System.rounds 0 7
    ∃ c, (System.run { provider := p } schedule).callers[0]? = some c ∧
      c.stage.isOver = true ∧ c.stage.result? = some (.error .cancelled) := by
  intro p schedule
  have hentered : (System.run { provider := p } (System.entrance (.load true))).callers[0]? =
      some { kind := .load true, stage := .running p.plan, isCancelled := false } := by
    rw [System.run_entrance p rfl]
    rfl
  obtain ⟨stage, since, hc, -, -, houtcome, hreturns, -⟩ :=
    load_of_cancel rfl hentered rfl (System.rounds 0 7)
  obtain ⟨hover, hsome⟩ := hreturns (List.Sublist.refl _)
  obtain ⟨result, hresult⟩ := Option.isSome_iff_exists.1 hsome
  refine ⟨_, hc, hover, ?_⟩
  have hstopped : p.plan.stopped = .error .cancelled := by
    rw [Provider.plan_eq, LoadPlan.ofAttempts_eq]
    rfl
  rw [hresult, houtcome result hresult, Stage.outcome, hstopped]
  rfl

/-- The document of an environment. -/
def answeredDocument : String :=
  "\x7b\"name\":\"app\"\x7d"

/-- A load that is cancelled while it waits for its only request takes the answer
that has come.  It returns the environment and notes it, and does not count as
cancelled.  Nor do attempts look behind the last of them: cancelled in that one,
they end as they would without. -/
theorem cancelled_load_located :
    let p := Provider.ofOptions { uri := "http://[::1]" }
    let asks := System.entrance (.load false) ++ [.cue 0 .proceed, .cue 0 .proceed]
    let takes := [.cue 0 (.answer (.answer 200 none (Text.bytes answeredDocument))),
      .cue 0 .proceed, .cue 0 .proceed, .cue 0 .proceed]
    let s := System.run { provider := p } asks
    let s' := System.run { provider := p } (asks ++ [.cancel 0] ++ takes)
    (p.options.enabled = true ∧ s.callers.map (·.stage.isOver) = [false] ∧
      s.requests.length = 1 ∧ s.provider.lastFetch = none) ∧
    ((s'.callers.map fun c => (c.isCancelled, c.stage.isOver, c.stage.result?.map Except.isOk)) =
        [(true, true, some true)] ∧
      s'.provider.lastFetch.join.isSome = true ∧
      Metrics.count s'.provider.metrics.loads "ok" = 1 ∧
      Metrics.count s'.provider.metrics.loads "cancelled" = 0) ∧
    (Rehearsal.run [.cancels] none {} false).1 = .ok (.exhausted []) := by
  decide +kernel

end RemoteConfig
