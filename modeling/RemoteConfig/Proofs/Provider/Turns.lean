import Mathlib.Data.List.Nodup
import RemoteConfig.Proofs.Provider.Callers
import RemoteConfig.Proofs.Provider.Ledger

/-!
# Loads take turns

Whatever callers do at the same time, their loads run one after the other.

* A `Turn` is what one caller does from acquiring the lock to releasing it.
* `IsSerial` says that the history is made of turns, of which only the last can
  be under way, and that each turn is a load of the provider that the turn
  before has left.  `IsSerial.run` shows that every schedule keeps to that.
* `loads_take_turns` reads off what this means for callers, requests and
  snapshots.
-/

namespace RemoteConfig

open Provider (LoadResult)

/-! ## Turns -/

/-- What a caller does from acquiring the lock on. -/
structure Turn where
  caller : Nat
  kind : CallKind
  /-- The provider when the lock was acquired. -/
  provider : Provider
  work : List Work := []
  result? : Option LoadResult := none
  published? : Option Snapshot := none
  isOver : Bool := false

namespace Turn

/-- The steps of the load so far. -/
def steps (t : Turn) : List LoadStep :=
  t.work.filterMap fun
    | .takes step => some step
    | .sends _ => none

/-- The deeds of the turn so far. -/
def deeds (t : Turn) : List Deed :=
  .acquires :: t.work.map .works ++ t.published?.toList.map .publishes ++
    if t.isOver then [.releases] else []

/-- What the history shows of the turn. -/
def entries (t : Turn) : List (Nat × Deed) :=
  t.deeds.map (t.caller, ·)

/-- The turn with more work. -/
def doing (t : Turn) (work : List Work) : Turn :=
  { t with work := t.work ++ work }

theorem steps_doing (t : Turn) (work : List Work) :
    (t.doing work).steps = t.steps ++ work.filterMap fun
      | .takes step => some step
      | .sends _ => none :=
  List.filterMap_append

theorem deeds_doing {t : Turn} (hpublished : t.published? = none) (hover : t.isOver = false)
    (work : List Work) : (t.doing work).deeds = t.deeds ++ work.map .works := by
  simp [deeds, doing, hpublished, hover]

/-- The provider with what the steps so far have counted. -/
def noted (t : Turn) : Provider :=
  t.provider.afterAttempts (t.provider.metrics.noteSteps t.provider.client t.steps)

theorem noted_doing (t : Turn) (step : LoadStep) :
    (t.doing [.takes step]).noted =
      { t.noted with metrics := t.noted.metrics.noteStep t.noted.client step } := by
  rw [noted, steps_doing]
  simp only [List.filterMap_cons, List.filterMap_nil, Metrics.noteSteps_append, doing]
  rfl

/-- What the turn has published is the snapshot that stands, and if nothing was
published it is that from before the turn. -/
def Shows (t : Turn) (p : Provider) : Prop :=
  t.published? = none ∧ p.snapshot = t.provider.snapshot ∨ t.published? = some p.snapshot

/-- The turn is a load that gives a result and leaves a provider behind: the load
that nothing keeps waiting, with the steps of the turn and the replies in them.
It may have been cancelled where it looked or waited, and was if it says so. -/
structure IsLoad (t : Turn) (result : LoadResult) (next : Provider) : Prop where
  load : ∃ c, c ≠ .atStart ∧ (c = .never ∨ result = .error .cancelled) ∧
    (t.provider.loadRun .replaying c (t.steps.filterMap LoadStep.reply?)).steps = t.steps ∧
    t.provider.loadNow .replaying t.kind.update c (t.steps.filterMap LoadStep.reply?) =
      (result, next, [])
  shows : t.Shows next

/-- The load of a turn has come to what is left of its plan, or was cut short. -/
def HasLeft (t : Turn) (left : LoadPlan) : Prop :=
  t.provider.plan.Leads t.provider.client t.steps left ∨
    left = .cancelled ∧ t.provider.plan.IsCut t.provider.client t.steps

/-- The load of a turn has reached a stage, with a provider.  It looks behind a
pause whether it was cancelled. -/
inductive Stands (t : Turn) (p : Provider) : Stage → Prop where
  | underWay {stage : Stage} {left : LoadPlan} (reached : stage.left? = some left)
      (unfinished : t.result? = none) (unpublished : t.published? = none)
      (counted : p = t.noted) (has : t.HasLeft left)
      (looks : stage.isPausing = true → left.isCheckpoint = true) :
      Stands t p stage
  | concluded {result : LoadResult} (finished : t.result? = some result)
      (load : t.IsLoad result p) : Stands t p (.concluded result)

variable {t : Turn} {p : Provider} {stage : Stage}

theorem Stands.hasEntered (h : t.Stands p stage) : stage.hasEntered = true := by
  cases h with
  | underWay reached => exact Stage.hasEntered_of_left? reached
  | concluded => rfl

theorem Stands.shows (h : t.Stands p stage) : t.Shows p := by
  cases h with
  | underWay reached unfinished unpublished counted => exact Or.inl ⟨unpublished, counted ▸ rfl⟩
  | concluded finished load => exact load.shows

/-- A load under way has its plan left, or nothing but its end. -/
theorem Stands.of_left? {left : LoadPlan} (h : t.Stands p stage)
    (hleft : stage.left? = some left) :
    t.result? = none ∧ t.published? = none ∧ p = t.noted ∧ t.HasLeft left ∧
      (stage.isPausing = true → left.isCheckpoint = true) := by
  cases h with
  | underWay reached unfinished unpublished counted has looks =>
    obtain rfl := Option.some.inj (reached.symm.trans hleft)
    exact ⟨unfinished, unpublished, counted, has, looks⟩
  | concluded => cases hleft

theorem Stands.of_concluded {result : LoadResult} (h : t.Stands p (.concluded result)) :
    t.result? = some result ∧ t.IsLoad result p := by
  cases h with
  | underWay reached => cases reached
  | concluded finished load => exact ⟨finished, load⟩

end Turn

namespace Turn

variable {t : Turn} {p : Provider}

/-- The turn with its load concluded. -/
def concluding (t : Turn) (located : Except LoadError WalkOutcome) : Turn :=
  { t with
    result? := some (t.noted.conclude t.kind.update located).1
    published? := t.noted.published? (t.noted.conclude t.kind.update located).2 }

/-- A load that has come to its end goes as one does that nothing keeps waiting. -/
theorem HasLeft.loadRun_eq {located : Except LoadError WalkOutcome}
    (h : t.HasLeft (.ends located)) :
    ∃ c, c ≠ .atStart ∧ (c = .never ∨ located = .error .cancelled) ∧
      t.provider.loadRun .replaying c (t.steps.filterMap LoadStep.reply?) =
        ⟨located, t.steps, []⟩ := by
  rcases h with hleads | ⟨hcancelled, c, hstart, hrun⟩
  · refine ⟨.never, nofun, Or.inl rfl, ?_⟩
    have hrun := hleads.run (c := .never) (g := {}) rfl []
    rw [List.append_nil] at hrun
    rw [Provider.loadRun, hrun]
    simp [LoadPlan.run, LoadRun.behind]
  · obtain rfl := LoadPlan.ends.inj hcancelled
    exact ⟨c, hstart, Or.inr rfl, hrun⟩

/-- A load ends as its plan does, or was cancelled. -/
theorem isLoad_concluding {located : Except LoadError WalkOutcome}
    (hhas : t.HasLeft (.ends located)) :
    (t.concluding located).IsLoad (t.noted.conclude t.kind.update located).1
      (t.noted.conclude t.kind.update located).2 where
  load := by
    obtain ⟨c, hstart, hcancelled, hrun⟩ := hhas.loadRun_eq
    refine ⟨c, hstart, hcancelled.imp_right fun hlocated => ?_, congrArg LoadRun.steps hrun, ?_⟩
    · rw [hlocated]
      rfl
    · show t.provider.loadNow _ t.kind.update c (t.steps.filterMap LoadStep.reply?) = _
      rw [t.provider.loadNow_eq_loadRun, hrun]
      rfl
  shows := by
    unfold Shows concluding Provider.published?
    rcases t.noted.conclude_publication t.kind.update located with
      ⟨hstore, -, -⟩ | ⟨next, -, hstore, -, -⟩
    · exact Or.inl ⟨if_pos (congrArg Store.publications hstore), congrArg Store.snapshot hstore⟩
    · exact Or.inr (if_neg (by simp [hstore]))

theorem deeds_concluding (hpublished : t.published? = none) (hover : t.isOver = false)
    (located : Except LoadError WalkOutcome) :
    (t.concluding located).deeds = t.deeds ++
      (t.noted.published? (t.noted.conclude t.kind.update located).2).toList.map .publishes := by
  simp [deeds, concluding, hpublished, hover]

end Turn

/-! ## One turn after the other -/

/-- Loads that come one after the other, from a provider to a provider. -/
inductive InTurn (p : Provider) : List Turn → Provider → Prop where
  | nil : InTurn p [] p
  | snoc {turns : List Turn} {t : Turn} {result : LoadResult} {next : Provider}
      (before : InTurn p turns t.provider) (finished : t.result? = some result)
      (load : t.IsLoad result next) : InTurn p (turns ++ [t]) next

/-- What callers have done so far is one turn after the other.  The last one may
be under way. -/
structure IsSerial (p : Provider) (s : System) (past : List Turn) (current : Option Turn) :
    Prop where
  history : s.history = (past ++ current.toList).flatMap Turn.entries
  holder : s.holder = current.map Turn.caller
  distinct : ((past ++ current.toList).map Turn.caller).Nodup
  done : ∀ t ∈ past, t.isOver = true ∧ ∃ result, t.result? = some result ∧
    s.entered? t.caller = some (t.kind, .returned result)
  underWay : ∀ t, current = some t → t.isOver = false ∧ ∃ stage, t.Stands s.provider stage ∧
    s.entered? t.caller = some (t.kind, stage)
  inside : ∀ i kind stage, s.entered? i = some (kind, stage) →
    s.holder = some i ∨ ∃ result, stage = .returned result
  inTurn : InTurn p past (current.elim s.provider Turn.provider)

namespace IsSerial

variable {p : Provider} {s s' : System} {past : List Turn} {current : Option Turn} {t : Turn}
  {i : Nat} {c : Caller}

theorem start (p : Provider) : IsSerial p { provider := p } [] none where
  history := rfl
  holder := rfl
  distinct := List.nodup_nil
  done := by simp
  underWay := by simp
  inside := by simp [System.entered?]
  inTurn := .nil

theorem unmoved (h : IsSerial p s past current) (hs : s.Unmoved s') :
    IsSerial p s' past current where
  history := hs.history.trans h.history
  holder := hs.holder.trans h.holder
  distinct := h.distinct
  done := by simpa only [hs.entered] using h.done
  underWay := by simpa only [hs.entered, hs.provider] using h.underWay
  inside := by simpa only [hs.entered, hs.holder] using h.inside
  inTurn := by simpa only [hs.provider] using h.inTurn

/-- Who has a turn now has had none before. -/
theorem caller_ne (h : IsSerial p s past (some t)) {t' : Turn} (ht : t' ∈ past) :
    t'.caller ≠ t.caller := by
  have hdistinct := h.distinct
  rw [Option.toList_some, List.map_append, List.map_singleton] at hdistinct
  exact (List.nodup_append.1 hdistinct).2.2 _ (List.mem_map_of_mem ht) _ (by simp)

/-- Who acquires the lock has not had a turn, and begins one. -/
theorem acquire (h : IsSerial p s past current) (hc : s.callers[i]? = some c)
    (hstage : c.stage = .waiting) (hfree : s.holder.isNone = true) :
    IsSerial p (s.perform i c ⟨.running s.provider.plan, s.provider.resolved, some .acquires⟩)
      past (some { caller := i, kind := c.kind, provider := s.provider }) := by
  obtain rfl : current = none := by
    have hholder := Option.isNone_iff_eq_none.1 hfree
    rw [h.holder] at hholder
    exact Option.map_eq_none_iff.1 hholder
  have hentered : s.entered? i = none := System.entered?_eq_none hc (by rw [hstage]; rfl)
  have hnew : ∀ t ∈ past, t.caller ≠ i := by
    rintro t ht rfl
    obtain ⟨-, result, -, hreturned⟩ := h.done t ht
    cases hentered.symm.trans hreturned
  have hdistinct := h.distinct
  rw [Option.toList_none, List.append_nil] at hdistinct
  refine
    { history := ?_, holder := rfl, distinct := ?_, done := fun t ht => ?_, underWay := ?_
      inside := fun j kind stage hj => ?_, inTurn := h.inTurn }
  · show s.history ++ _ = _
    rw [h.history]
    simp [Turn.entries, Turn.deeds]
  · rw [Option.toList_some, List.map_append, List.nodup_append]
    exact ⟨hdistinct, by simp, by simpa using hnew⟩
  · rw [System.entered?_perform hc, if_neg (hnew t ht).symm]
    exact h.done t ht
  · rintro t ⟨⟩
    refine ⟨rfl, .running s.provider.plan, .underWay rfl rfl rfl rfl (Or.inl (.refl _)) nofun, ?_⟩
    rw [System.entered?_perform hc, if_pos rfl]
    rfl
  · rw [System.entered?_perform hc] at hj
    split at hj
    · rename_i hij
      exact Or.inl (congrArg some hij)
    · rcases h.inside j kind stage hj with hholder | hreturned
      · rw [h.holder] at hholder
        cases hholder
      · exact Or.inr hreturned

/-- A caller that has entered and not returned has the turn that is under way. -/
theorem current_of_entered (h : IsSerial p s past current) (hc : s.callers[i]? = some c)
    (hentered : c.stage.hasEntered = true) (hstays : ∀ result, c.stage ≠ .returned result) :
    ∃ t, current = some t ∧ t.caller = i ∧ t.kind = c.kind ∧ t.isOver = false ∧
      t.Stands s.provider c.stage := by
  have hhere := System.entered?_eq_some hc hentered
  have hholder : s.holder = some i := (h.inside i _ _ hhere).resolve_right fun ⟨result, hr⟩ =>
    hstays result hr
  rw [h.holder] at hholder
  obtain ⟨t, rfl, rfl⟩ := Option.map_eq_some_iff.1 hholder
  obtain ⟨hover, stage, hstands, hseen⟩ := h.underWay t rfl
  obtain ⟨hkind, rfl⟩ := Prod.mk.inj (Option.some.inj (hseen.symm.trans hhere))
  exact ⟨t, rfl, rfl, hkind, hover, hstands⟩

theorem current_of_left? (h : IsSerial p s past current) (hc : s.callers[i]? = some c)
    {left : LoadPlan} (hleft : c.stage.left? = some left) :
    ∃ t, current = some t ∧ t.caller = i ∧ t.kind = c.kind ∧ t.isOver = false ∧
      t.Stands s.provider c.stage :=
  h.current_of_entered hc (Stage.hasEntered_of_left? hleft) fun result hreturned => by
    rw [hreturned] at hleft
    cases hleft

/-- The caller whose turn it is goes on with it. -/
theorem goOn (h : IsSerial p s past (some t)) (hc : s.callers[t.caller]? = some c)
    (hkind : t.kind = c.kind) {m : Move} {t' : Turn} (hcaller : t'.caller = t.caller)
    (hkind' : t'.kind = t.kind) (hprovider : t'.provider = t.provider)
    (hover : t'.isOver = false) (hdeeds : t'.deeds = t.deeds ++ m.deed.toList)
    (hholder : m.holder t.caller s.holder = s.holder) (hstands : t'.Stands m.provider m.stage) :
    IsSerial p (s.perform t.caller c m) past (some t') where
  history := by
    show s.history ++ _ = _
    rw [h.history]
    simp [Turn.entries, hcaller, hdeeds]
  holder := by
    show m.holder t.caller s.holder = _
    rw [hholder, h.holder, Option.map_some, Option.map_some, hcaller]
  distinct := by
    have hdistinct := h.distinct
    rw [Option.toList_some, List.map_append, List.map_singleton] at hdistinct ⊢
    rw [hcaller]
    exact hdistinct
  done := fun t'' ht => by
    rw [System.entered?_perform hc, if_neg (h.caller_ne ht).symm]
    exact h.done t'' ht
  underWay := by
    rintro _ ⟨⟩
    refine ⟨hover, m.stage, hstands, ?_⟩
    rw [System.entered?_perform hc, if_pos hcaller.symm, if_pos hstands.hasEntered, hkind', hkind]
  inside := fun j kind stage hj => by
    show m.holder t.caller s.holder = _ ∨ _
    rw [hholder]
    rw [System.entered?_perform hc] at hj
    split at hj
    · rename_i hij
      rw [h.holder, ← hij]
      exact Or.inl rfl
    · exact h.inside j kind stage hj
  inTurn := by
    show InTurn p past t'.provider
    rw [hprovider]
    exact h.inTurn

/-- Who releases the lock ends the turn. -/
theorem release (h : IsSerial p s past (some t)) (hc : s.callers[t.caller]? = some c)
    (hkind : t.kind = c.kind) (hover : t.isOver = false) {result : LoadResult}
    (hresult : t.result? = some result) (hload : t.IsLoad result s.provider) :
    IsSerial p (s.perform t.caller c ⟨.returned result, s.provider, some .releases⟩)
      (past ++ [{ t with isOver := true }]) none where
  history := by
    show s.history ++ _ = _
    rw [h.history]
    simp [Turn.entries, Turn.deeds, hover]
  holder := rfl
  distinct := by
    have hdistinct := h.distinct
    rw [Option.toList_some, List.map_append] at hdistinct
    rw [Option.toList_none, List.append_nil, List.map_append]
    exact hdistinct
  done := fun t' ht => by
    rw [System.entered?_perform hc]
    rcases List.mem_append.1 ht with ht | ht
    · rw [if_neg (h.caller_ne ht).symm]
      exact h.done t' ht
    · obtain rfl := List.mem_singleton.1 ht
      exact ⟨rfl, result, hresult, by simp [Stage.hasEntered, hkind]⟩
  underWay := by simp
  inside := fun j kind stage hj => by
    rw [System.entered?_perform hc] at hj
    split at hj
    · obtain ⟨-, rfl⟩ := Prod.mk.inj (Option.some.inj hj)
      exact Or.inr ⟨result, rfl⟩
    · rename_i hother
      rcases h.inside j kind stage hj with hholder | hreturned
      · rw [h.holder] at hholder
        exact absurd (Option.some.inj hholder) hother
      · exact Or.inr hreturned
  inTurn := .snoc h.inTurn hresult ⟨hload.load, hload.shows⟩

/-- The load of the caller begins or ends a wait, or takes note of a
cancellation. -/
theorem wait (h : IsSerial p s past current) (hc : s.callers[i]? = some c) {stage : Stage}
    {left left' : LoadPlan} (hbefore : c.stage.left? = some left)
    (hbehind : stage.left? = some left')
    (hgoes : left' = left ∨
      left' = .cancelled ∧ (left.isCheckpoint = true ∨ c.stage = .pausing left))
    (hends : stage.isPausing = false) (sent : Option Request) :
    ∃ t, IsSerial p
      (s.perform i c ⟨stage, s.provider, sent.map fun request => .works (.sends request)⟩)
      past (some t) := by
  obtain ⟨t, rfl, rfl, hkind, hover, hstands⟩ := h.current_of_left? hc hbefore
  obtain ⟨hunfinished, hunpublished, hcounted, hhas, hlooks⟩ := hstands.of_left? hbefore
  let t' := t.doing (sent.toList.map .sends)
  have hsteps : t'.steps = t.steps := by
    cases sent <;> simp [t', Turn.steps_doing]
  have hnoted : s.provider = t'.noted := by
    rw [Turn.noted, hsteps]
    exact hcounted
  have hhas' : t'.HasLeft left' := by
    rw [Turn.HasLeft, hsteps]
    rcases hgoes with rfl | ⟨rfl, hnotes⟩
    · exact hhas
    · have hlook : left.isCheckpoint = true :=
        hnotes.elim id fun hpausing => hlooks (by rw [hpausing]; rfl)
      rcases hhas with hled | ⟨-, hcut⟩
      · exact Or.inr ⟨rfl, hled.isCut_of_look hlook⟩
      · exact Or.inr ⟨rfl, hcut⟩
  refine ⟨t', h.goOn hc hkind rfl rfl rfl hover ?_ ?_
    (.underWay hbehind hunfinished hunpublished hnoted hhas' fun hpausing => ?_)⟩
  · rw [Turn.deeds_doing hunpublished hover]
    cases sent <;> rfl
  · cases sent <;> rfl
  · rw [hends] at hpausing
    cases hpausing

/-- The load of the caller takes a step. -/
theorem take (h : IsSerial p s past current) (hc : s.callers[i]? = some c) {stage : Stage}
    {left left' : LoadPlan} {step : LoadStep} (hbefore : c.stage.left? = some left)
    (hbehind : stage.left? = some left')
    (hgoes : left.Goes s.provider.client step left' ∨
      left' = .cancelled ∧
        ∃ request next, left = .ask request next ∧ step = .interrupted request .silence)
    (hpauses : stage.isPausing = true → ∃ length, left = .pause length left') :
    ∃ t, IsSerial p (s.perform i c (.taking s.provider step stage)) past (some t) := by
  obtain ⟨t, rfl, rfl, hkind, hover, hstands⟩ := h.current_of_left? hc hbefore
  obtain ⟨hunfinished, hunpublished, hcounted, hhas, -⟩ := hstands.of_left? hbefore
  let t' := t.doing [.takes step]
  have hnoted : (Move.taking s.provider step stage).provider = t'.noted := by
    rw [Turn.noted_doing, ← hcounted]
    rfl
  have hclient : s.provider.client = t.provider.client := by rw [hcounted]; rfl
  have hhas' : t'.HasLeft left' := by
    rw [Turn.HasLeft, Turn.steps_doing]
    rcases hgoes with hgoes | ⟨rfl, request, next, rfl, rfl⟩
    · rcases hhas with hled | ⟨rfl, -⟩
      · exact Or.inl (hled.snoc (hclient ▸ hgoes))
      · cases hgoes
    · rcases hhas with hled | ⟨hended, -⟩
      · exact Or.inr ⟨rfl, hled.isCut_of_request⟩
      · cases hended
  refine ⟨t', h.goOn hc hkind rfl rfl rfl hover (Turn.deeds_doing hunpublished hover _) rfl
    (.underWay hbehind hunfinished hunpublished hnoted hhas' fun hpausing => ?_)⟩
  obtain ⟨length, rfl⟩ := hpauses hpausing
  rcases hhas with hled | ⟨hended, -⟩
  · exact (hled.isPaced t.provider.isPaced_plan).1
  · cases hended

/-- The load of the caller ends. -/
theorem conclude (h : IsSerial p s past current) (hc : s.callers[i]? = some c)
    {located : Except LoadError WalkOutcome} (hstage : c.stage = .running (.ends located)) :
    ∃ t, IsSerial p (s.perform i c ((LoadPlan.ends located).move s.provider c.kind.update))
      past (some t) := by
  have hbefore : c.stage.left? = some (.ends located) := by rw [hstage]; rfl
  obtain ⟨t, rfl, rfl, hkind, hover, hstands⟩ := h.current_of_left? hc hbefore
  obtain ⟨hunfinished, hunpublished, hcounted, hhas, -⟩ := hstands.of_left? hbefore
  have hdeeds := Turn.deeds_concluding hunpublished hover located
  have hload := Turn.isLoad_concluding hhas
  rw [← hcounted, hkind] at hdeeds hload
  refine ⟨t.concluding located, h.goOn hc hkind rfl rfl rfl hover ?_ ?_ (.concluded ?_ hload)⟩
  · rw [hdeeds, LoadPlan.move]
    cases s.provider.published? (s.provider.conclude c.kind.update located).2 <;> rfl
  · exact Move.holder_eq (by simp [LoadPlan.move]) (by simp [LoadPlan.move])
  · rw [Turn.concluding, ← hcounted, hkind]

theorem move (h : IsSerial p s past current) (hc : s.callers[i]? = some c) {m : Move}
    (hm : c.Moves s.provider s.holder.isNone m) :
    ∃ past current, IsSerial p (s.perform i c m) past current := by
  cases hm with
  | outside before behind => exact ⟨_, _, h.unmoved (System.unmoved_outside hc before behind)⟩
  | acquire before free => exact ⟨_, _, h.acquire hc before free⟩
  | wait sent before behind goes ends =>
    obtain ⟨t, ht⟩ := h.wait hc before behind goes ends sent
    exact ⟨_, _, ht⟩
  | take before behind goes pauses =>
    obtain ⟨t, ht⟩ := h.take hc before behind goes pauses
    exact ⟨_, _, ht⟩
  | conclude before =>
    obtain ⟨t, ht⟩ := h.conclude hc before
    exact ⟨_, _, ht⟩
  | release before =>
    obtain ⟨t, rfl, rfl, hkind, hover, hstands⟩ :=
      h.current_of_entered hc (by rw [before]; rfl) (by simp [before])
    rw [before] at hstands
    obtain ⟨hfinished, hload⟩ := hstands.of_concluded
    exact ⟨_, _, h.release hc hkind hover hfinished hload⟩

theorem step (h : IsSerial p s past current) (action : Action) :
    ∃ past current, IsSerial p (s.step action) past current := by
  rcases s.step_cases action with hs | ⟨i, c, m, hc, hm, heq⟩
  · exact ⟨past, current, h.unmoved hs⟩
  · rw [heq]
    exact h.move hc hm

/-- Whatever the schedule, callers take turns. -/
theorem run (h : IsSerial p s past current) (schedule : List Action) :
    ∃ past current, IsSerial p (s.run schedule) past current := by
  induction schedule generalizing s past current with
  | nil => exact ⟨past, current, h⟩
  | cons action schedule ih =>
    obtain ⟨past, current, h⟩ := h.step action
    exact ih h

end IsSerial

/-! ## What the history shows of turns -/

/-- What concerns a caller stands together in a log. -/
def IsBlock {α : Type} (i : Nat) (log : List (Nat × α)) : Prop :=
  ∃ before block behind, log = before ++ block ++ behind ∧ (∀ e ∈ block, e.1 = i) ∧
    ∀ e ∈ before ++ behind, e.1 ≠ i

/-- It still does if the log is cut down to some of its entries. -/
theorem IsBlock.filterMap {α β : Type} {i : Nat} {log : List (Nat × α)} (h : IsBlock i log)
    {f : Nat × α → Option (Nat × β)} (hf : ∀ e e', f e = some e' → e'.1 = e.1) :
    IsBlock i (log.filterMap f) := by
  obtain ⟨before, block, behind, rfl, hblock, hothers⟩ := h
  refine ⟨before.filterMap f, block.filterMap f, behind.filterMap f, by simp, fun e' he' => ?_,
    fun e' he' => ?_⟩
  · obtain ⟨e, he, hfe⟩ := List.mem_filterMap.1 he'
    rw [hf e e' hfe]
    exact hblock e he
  · rw [← List.filterMap_append] at he'
    obtain ⟨e, he, hfe⟩ := List.mem_filterMap.1 he'
    rw [hf e e' hfe]
    exact hothers e he

namespace Turn

theorem caller_of_mem_entries {t : Turn} {e : Nat × Deed} (he : e ∈ t.entries) :
    e.1 = t.caller := by
  obtain ⟨d, -, rfl⟩ := List.mem_map.1 he
  rfl

theorem acquires_mem_entries (t : Turn) : (t.caller, .acquires) ∈ t.entries :=
  List.mem_map_of_mem (by simp [deeds])

theorem releases_mem_entries_iff (t : Turn) :
    (t.caller, .releases) ∈ t.entries ↔ t.isOver = true := by
  unfold entries deeds
  cases t.isOver <;> simp

variable {turns : List Turn}

/-- Only a turn of a caller shows what concerns it. -/
theorem ne_of_mem_flatMap_entries {i : Nat} (h : ∀ t ∈ turns, t.caller ≠ i) :
    ∀ e ∈ turns.flatMap entries, e.1 ≠ i := fun e he => by
  obtain ⟨t, ht, he⟩ := List.mem_flatMap.1 he
  rw [caller_of_mem_entries he]
  exact h t ht

/-- A turn shows all that concerns its caller. -/
theorem entries_of_mem {t : Turn} (hdistinct : (turns.map Turn.caller).Nodup) (ht : t ∈ turns) :
    ∃ before behind, turns.flatMap entries = before ++ t.entries ++ behind ∧
      ∀ e ∈ before ++ behind, e.1 ≠ t.caller := by
  obtain ⟨before, behind, rfl⟩ := List.append_of_mem ht
  refine ⟨before.flatMap entries, behind.flatMap entries, by simp, ?_⟩
  rw [List.map_append, List.map_cons, List.nodup_middle, ← List.map_append] at hdistinct
  rw [← List.flatMap_append]
  exact ne_of_mem_flatMap_entries fun t' ht' heq =>
    (List.nodup_cons.1 hdistinct).1 (heq ▸ List.mem_map_of_mem ht')

theorem isBlock_entries (hdistinct : (turns.map Turn.caller).Nodup) (i : Nat) :
    IsBlock i (turns.flatMap entries) := by
  by_cases hi : ∃ t ∈ turns, t.caller = i
  · obtain ⟨t, ht, rfl⟩ := hi
    obtain ⟨before, behind, heq, hothers⟩ := entries_of_mem hdistinct ht
    exact ⟨before, t.entries, behind, heq, fun e => caller_of_mem_entries, hothers⟩
  · exact ⟨turns.flatMap entries, [], [], by simp, by simp, by
      simpa using ne_of_mem_flatMap_entries fun t ht hti => hi ⟨t, ht, hti⟩⟩

theorem deeds_of_mem {t : Turn} (hdistinct : (turns.map Turn.caller).Nodup) (ht : t ∈ turns) :
    ((turns.flatMap entries).filterMap fun e => if e.1 = t.caller then some e.2 else none) =
      t.deeds := by
  obtain ⟨before, behind, heq, hothers⟩ := entries_of_mem hdistinct ht
  have hnone {log : List (Nat × Deed)} (h : ∀ e ∈ log, e.1 ≠ t.caller) :
      (log.filterMap fun e => if e.1 = t.caller then some e.2 else none) = [] :=
    List.filterMap_eq_nil_iff.2 fun e he => if_neg (h e he)
  rw [heq, List.filterMap_append, List.filterMap_append,
    hnone fun e he => hothers e (List.mem_append_left _ he),
    hnone fun e he => hothers e (List.mem_append_right _ he), List.nil_append, List.append_nil,
    entries, List.filterMap_map]
  simp

theorem acquirers_entries (turns : List Turn) :
    (turns.flatMap entries).filterMap (fun e => if e.2 = .acquires then some e.1 else none) =
      turns.map Turn.caller := by
  induction turns with
  | nil => rfl
  | cons t turns ih =>
    rw [List.flatMap_cons, List.filterMap_append, ih, List.map_cons]
    cases hover : t.isOver <;> cases hpublished : t.published? <;>
      simp [entries, deeds, hover, hpublished]

/-- The snapshot of a turn, with its publisher. -/
def publication (t : Turn) : List (Nat × Snapshot) :=
  t.published?.toList.map (t.caller, ·)

theorem publications_entries (turns : List Turn) :
    (turns.flatMap entries).filterMap (fun e => e.2.snapshot?.map (e.1, ·)) =
      turns.flatMap publication := by
  induction turns with
  | nil => rfl
  | cons t turns ih =>
    rw [List.flatMap_cons, List.filterMap_append, ih, List.flatMap_cons]
    cases hover : t.isOver <;> cases hpublished : t.published? <;>
      simp [entries, deeds, publication, Deed.snapshot?, hover, hpublished]

/-- Each turn publishes once at most. -/
theorem publishers_sublist (turns : List Turn) :
    ((turns.flatMap publication).map Prod.fst).Sublist (turns.map Turn.caller) := by
  induction turns with
  | nil => exact .slnil
  | cons t turns ih =>
    have hone : (t.publication.map Prod.fst).Sublist [t.caller] := by
      cases hpublished : t.published? <;> simp [publication, hpublished]
    rw [List.flatMap_cons, List.map_append, List.map_cons]
    exact hone.append ih

end Turn

namespace IsSerial

variable {p : Provider} {s : System} {past : List Turn} {current : Option Turn}
  (h : IsSerial p s past current)

include h

/-- A caller is between acquiring the lock and releasing it if it holds the lock. -/
theorem isInside_iff (i : Nat) : s.IsInside i ↔ s.holder = some i := by
  unfold System.IsInside
  rw [h.history, h.holder]
  constructor
  · rintro ⟨hacquires, hreleases⟩
    obtain ⟨t, ht, he⟩ := List.mem_flatMap.1 hacquires
    obtain rfl : i = t.caller := Turn.caller_of_mem_entries he
    rcases List.mem_append.1 ht with hpast | hcurrent
    · exact absurd (List.mem_flatMap.2 ⟨t, ht, t.releases_mem_entries_iff.2 (h.done t hpast).1⟩)
        hreleases
    · rw [Option.mem_toList.1 hcurrent, Option.map_some]
  · intro hholder
    obtain ⟨t, rfl, rfl⟩ := Option.map_eq_some_iff.1 hholder
    refine ⟨List.mem_flatMap.2 ⟨t, by simp, t.acquires_mem_entries⟩, fun hreleases => ?_⟩
    obtain ⟨t', ht', he⟩ := List.mem_flatMap.1 hreleases
    rcases List.mem_append.1 ht' with hpast | hcurrent
    · exact h.caller_ne hpast (Turn.caller_of_mem_entries he).symm
    · obtain rfl : t = t' := Option.some.inj (Option.mem_toList.1 hcurrent)
      rw [t.releases_mem_entries_iff, (h.underWay t rfl).1] at he
      cases he

theorem isBlock_requests (i : Nat) : IsBlock i s.requests := by
  unfold System.requests
  rw [h.history]
  refine (Turn.isBlock_entries h.distinct i).filterMap fun e e' he => ?_
  obtain ⟨request, -, rfl⟩ := Option.map_eq_some_iff.1 he
  rfl

theorem deedsOf_eq {t : Turn} (ht : t ∈ past ++ current.toList) :
    s.deedsOf t.caller = t.deeds := by
  rw [System.deedsOf, h.history, Turn.deeds_of_mem h.distinct ht]

theorem acquirers_eq : s.acquirers = (past ++ current.toList).map Turn.caller := by
  rw [System.acquirers, h.history, Turn.acquirers_entries]

theorem publications_eq : s.publications = (past ++ current.toList).flatMap Turn.publication := by
  rw [System.publications, h.history, Turn.publications_entries]

end IsSerial

/-- The snapshot that was published last, or the initial one. -/
def lastPublished (initial : Snapshot) (publications : List (Nat × Snapshot)) : Snapshot :=
  (publications.getLast?.map Prod.snd).getD initial

theorem Turn.Shows.lastPublished_append {t : Turn} {p : Provider} {initial : Snapshot}
    {publications : List (Nat × Snapshot)} (h : t.Shows p)
    (hbefore : t.provider.snapshot = lastPublished initial publications) :
    p.snapshot = lastPublished initial (publications ++ t.publication) := by
  unfold Turn.publication lastPublished
  rcases h with ⟨hpublished, hsame⟩ | hpublished
  · rw [hpublished, Option.toList_none, List.map_nil, List.append_nil, hsame]
    exact hbefore
  · simp [hpublished]

theorem InTurn.snapshot_eq {p q : Provider} {turns : List Turn} (h : InTurn p turns q) :
    q.snapshot = lastPublished p.snapshot (turns.flatMap Turn.publication) := by
  induction h with
  | nil => rfl
  | snoc before finished load ih =>
    rw [List.flatMap_append, List.flatMap_singleton]
    exact load.shows.lastPublished_append ih

theorem IsSerial.snapshot_eq {p : Provider} {s : System} {past : List Turn}
    {current : Option Turn} (h : IsSerial p s past current) :
    s.provider.snapshot = lastPublished p.snapshot s.publications := by
  rw [h.publications_eq, List.flatMap_append]
  cases current with
  | none => simpa using h.inTurn.snapshot_eq
  | some t =>
    obtain ⟨-, stage, hstands, -⟩ := h.underWay t rfl
    rw [Option.toList_some, List.flatMap_singleton]
    exact hstands.shows.lastPublished_append h.inTurn.snapshot_eq

/-- A caller that has not had the lock has done nothing. -/
theorem IsSerial.not_mem_of_not_entered {p : Provider} {s : System} {past : List Turn}
    {current : Option Turn} (h : IsSerial p s past current) {i : Nat}
    (hentered : s.entered? i = none) : ∀ e ∈ s.history, e.1 ≠ i := by
  intro e he hi
  rw [h.history] at he
  obtain ⟨t, ht, he⟩ := List.mem_flatMap.1 he
  obtain rfl : t.caller = i := (Turn.caller_of_mem_entries he).symm.trans hi
  rcases List.mem_append.1 ht with hpast | hcurrent
  · obtain ⟨-, result, -, hreturned⟩ := h.done t hpast
    cases hentered.symm.trans hreturned
  · obtain ⟨-, stage, -, hseen⟩ := h.underWay t (Option.mem_toList.1 hcurrent)
    cases hentered.symm.trans hseen

/-- The loads of callers never interleave, whatever the schedule.  One caller at
most is between acquiring the lock and releasing it.  The requests of a load
stand together among all requests.  Each caller acquires the lock once at most,
snapshots are published in the order in which it was acquired, and the last one
stands.  A caller that blocks the only thread of its runtime, and finds the
lock held, is told so at once: this changes nothing but its own stage, and it
never does anything else. -/
theorem loads_take_turns (p : Provider) (schedule : List Action) :
    let s := System.run { provider := p } schedule
    (∀ i j, s.IsInside i → s.IsInside j → i = j) ∧
    (∀ i, IsBlock i s.requests) ∧
    s.acquirers.Nodup ∧
    (s.publications.map Prod.fst).Sublist s.acquirers ∧
    s.provider.snapshot = lastPublished p.snapshot s.publications ∧
    ∀ i j c, s.callers[i]? = some c → c.kind = .loadBlocking .currentThread →
      c.stage = .waiting → s.IsInside j →
        let refused := s.step (.cue i .proceed)
        let unsupported := Stage.dismissed (some (.error .blockingUnsupported))
        refused = { s with callers := s.callers.set i { c with stage := unsupported } } ∧
        ∀ more, (∃ c', (refused.run more).callers[i]? = some c' ∧ c'.stage = unsupported) ∧
          ∀ e ∈ (refused.run more).history, e.1 ≠ i := by
  intro s
  obtain ⟨past, current, h⟩ := (IsSerial.start p).run schedule
  have hdistinct : s.acquirers.Nodup := h.acquirers_eq ▸ h.distinct
  refine ⟨fun i j hi hj => ?_, h.isBlock_requests, hdistinct, ?_, h.snapshot_eq, ?_⟩
  · have hholder := (h.isInside_iff i).1 hi
    rw [(h.isInside_iff j).1 hj] at hholder
    exact (Option.some.inj hholder).symm
  · rw [h.publications_eq, h.acquirers_eq]
    exact Turn.publishers_sublist _
  · intro i j c hc hkind hstage hj refused unsupported
    have hrefused := System.refused_step hc hkind hstage (h.isInside_iff j |>.1 hj)
    refine ⟨hrefused, fun more => ?_⟩
    obtain ⟨hi, -⟩ := List.getElem?_eq_some_iff.1 hc
    have hcaller : refused.callers[i]? = some { c with stage := unsupported } :=
      (congrArg (·.callers[i]?) hrefused).trans (List.getElem?_set_self hi)
    obtain ⟨c', hc', hstage'⟩ := System.dismissed_run hcaller rfl more
    obtain ⟨past, current, h⟩ := h.step (.cue i .proceed)
    obtain ⟨past, current, h⟩ := h.run more
    have hentered := System.entered?_eq_none hc' (by rw [hstage']; rfl)
    exact ⟨⟨c', hc', hstage'⟩, h.not_mem_of_not_entered hentered⟩

end RemoteConfig
