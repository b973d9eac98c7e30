import Mathlib.Data.List.Forall2
import RemoteConfig.Proofs.Provider.Turns

/-!
# Counters of runs and schedules

The counters of a provider are sums over the loads that obtained the lock.  This
holds when operations come one after the other, and also when callers load at the
same time.

* `Provider.TalliesWith` says that the counters of a provider are the sums over
  some loads.
* `System.Made` says that a caller has made a load, with the same steps and the
  same result.  By `InTurn.exists_loads` turns are loads that callers made.
* `ledger_run` is the result.
-/

namespace RemoteConfig

variable {σ : Type}

/-! ## Sums over loads -/

/-- The tokens handed out so far, and how many of them have fired. -/
theorem Store.countP_hasFired (s : Store) :
    ((List.range (s.token.issue + 1)).map ChangeToken.mk).countP s.hasFired = s.publications := by
  have hfired : ∀ n ∈ List.range s.publications, (s.hasFired ∘ ChangeToken.mk) n = true := by
    simp [hasFired]
  rw [List.countP_map, token, List.range_succ, List.countP_append, List.countP_eq_length.2 hfired]
  simp [hasFired]

/-- The counters of a provider are the sums over these loads, each of which counts
once under one label, and nothing else is counted.  The number of reloads is that
of the tokens that have fired, and the gauge of keys is the size of the snapshot. -/
structure Provider.TalliesWith (net : Servers σ) (o : ClientOptions)
    (started : List (StartedLoad σ)) (p : Provider) : Prop where
  counted : ∀ l ∈ started, l.IsCounted net
  loads : ∀ label, Metrics.count p.metrics.loads label =
    started.countP fun l => l.label net = label
  walksExhausted : p.metrics.walksExhausted =
    (started.flatMap (·.steps net)).countP LoadStep.isExhausted
  requests : ∀ label, Metrics.count p.metrics.requests label =
    (started.flatMap (·.steps net)).countP fun step =>
      step.requestLabel? (.ofOptions o) = some label
  reloads : p.metrics.reloads = started.countP (·.changes net)
  tokens : p.metrics.reloads =
    ((List.range (p.store.token.issue + 1)).map ChangeToken.mk).countP p.store.hasFired
  keys : p.metrics.keys = p.snapshot.size

theorem IsLedger.talliesWith {net : Servers σ} {o : ClientOptions}
    {started : List (StartedLoad σ)} {p : Provider} (h : IsLedger net o started p) :
    p.TalliesWith net o started :=
  { h with tokens := h.publications.symm.trans p.store.countP_hasFired.symm }

/-! ## Loads of callers -/

/-- The step of a load that a deed is. -/
def Deed.step? : Deed → Option LoadStep
  | works (.takes step) => some step
  | acquires | works (.sends _) | publishes _ | releases => none

/-- A caller has made this load: its steps are those of the load, and it has
returned what the load returns. -/
structure System.Made (s : System) (i : Nat) (l : StartedLoad (List Reply)) : Prop where
  steps : (s.deedsOf i).filterMap Deed.step? = l.steps .replaying
  returned : ∃ c, s.callers[i]? = some c ∧ c.kind.update = l.call.update ∧
    c.stage = .returned (l.result .replaying)

/-- A turn is this load. -/
structure Turn.Is (t : Turn) (l : StartedLoad (List Reply)) : Prop where
  update : t.kind.update = l.call.update
  steps : t.steps = l.steps .replaying
  finished : t.result? = some (l.result .replaying)

/-- The deeds of a turn are what the load does. -/
theorem Turn.filterMap_step?_deeds (t : Turn) : t.deeds.filterMap Deed.step? = t.steps := by
  have hwork : (t.work.map Deed.works).filterMap Deed.step? = t.steps := by
    rw [List.filterMap_map]
    refine List.filterMap_congr fun work _ => ?_
    cases work <;> rfl
  have hpublished : (t.published?.toList.map Deed.publishes).filterMap Deed.step? = [] := by
    cases t.published? <;> rfl
  have hover : (if t.isOver then [Deed.releases] else []).filterMap Deed.step? = [] := by
    cases t.isOver <;> rfl
  rw [deeds, List.cons_append, List.cons_append, List.filterMap_cons_none rfl,
    List.filterMap_append, List.filterMap_append, hwork, hpublished, hover, List.append_nil,
    List.append_nil]

/-- Turns are loads one after the other, and the counters are sums over them. -/
theorem InTurn.exists_loads {o : ClientOptions} {p q : Provider} {turns : List Turn}
    (h : InTurn p turns q) (henabled : o.enabled = true) (hstart : IsLedger .replaying o [] p) :
    ∃ loads, List.Forall₂ Turn.Is turns loads ∧ IsLedger .replaying o loads q := by
  induction h with
  | nil => exact ⟨[], .nil, hstart⟩
  | @snoc turns t result next before finished load ih =>
    obtain ⟨loads, hloads, hledger⟩ := ih
    obtain ⟨c, hc, -, hsteps, hload⟩ := load.load
    have henabled' : t.provider.options.enabled = true := hledger.options ▸ henabled
    let l : StartedLoad (List Reply) :=
      ⟨⟨t.kind.update, c⟩, t.provider, t.steps.filterMap LoadStep.reply?⟩
    have hl : l.provider.load .replaying l.call.update l.call.cancellation l.servers =
        (result, next, []) := by
      rw [← hload]
      simp [l, Provider.load, henabled', hc]
    have hresult : l.result .replaying = result := congrArg Prod.fst hl
    have hafter : l.after .replaying = next := congrArg (·.2.1) hl
    have hsteps' : l.steps .replaying = t.steps :=
      (StartedLoad.steps_eq .replaying henabled' hc).trans hsteps
    refine ⟨loads ++ [l], ?_, hafter ▸ hledger.enter henabled' hc⟩
    refine List.rel_append hloads (.cons ⟨rfl, hsteps'.symm, ?_⟩ .nil)
    rw [finished, hresult]

/-- When nobody has the lock, all loads that obtained it have returned. -/
theorem IsSerial.exists_made {p : Provider} {s : System} {past : List Turn}
    (h : IsSerial p s past none) {loads : List (StartedLoad (List Reply))}
    (hloads : List.Forall₂ Turn.Is past loads) : List.Forall₂ s.Made s.acquirers loads := by
  rw [h.acquirers_eq, Option.toList_none, List.append_nil, List.forall₂_map_left_iff]
  refine ((List.forall₂_and_left _ _).2 ⟨fun t ht => ht, hloads⟩).imp fun t l ⟨ht, hl⟩ => ?_
  obtain ⟨-, result, hresult, hseen⟩ := h.done t ht
  obtain ⟨c, hc, hentered⟩ := Option.bind_eq_some_iff.1 hseen
  have hcaller : c.kind = t.kind ∧ c.stage = .returned result := by
    split at hentered
    · exact Prod.mk.inj (Option.some.inj hentered)
    · cases hentered
  refine ⟨?_, c, hc, ?_, ?_⟩
  · rw [h.deedsOf_eq (List.mem_append_left _ ht), t.filterMap_step?_deeds, hl.steps]
  · rw [hcaller.1, hl.update]
  · rw [hcaller.2, Option.some.inj (hresult.symm.trans hl.finished)]

/-- The counters of a provider agree with what happened.  Each load that obtained
the lock is counted once under one label, which says how it ended, and adds its
requests, refusals and exhausted walks to the other counters.  This holds for
every run of operations.  It also holds on every schedule of callers, when nobody
has the lock: the loads are then those that the callers made that acquired it. -/
theorem ledger_run (o : ClientOptions) (locator : Option Locator) (net : Servers σ)
    (ops : List (Operation σ)) (servers : σ) :
    let p := Provider.ofOptions o locator
    (run net ops (p, servers)).1.TalliesWith net o (startedLoads net ops (p, servers)) ∧
    ∀ schedule, o.enabled = true → (System.run { provider := p } schedule).holder = none →
      let s := System.run { provider := p } schedule
      ∃ loads, List.Forall₂ s.Made s.acquirers loads ∧
        s.provider.TalliesWith .replaying o loads := by
  intro p
  have hpolls : p.PollsIfEnabled := fun h => by cases h
  have hledger := (IsLedger.ofOptions net o locator).run hpolls ops servers
  refine ⟨hledger.talliesWith, fun schedule henabled hfree => ?_⟩
  obtain ⟨past, current, hserial⟩ := (IsSerial.start p).run schedule
  obtain rfl : current = none := Option.map_eq_none_iff.1 (hserial.holder.symm.trans hfree)
  obtain ⟨loads, hloads, hledger⟩ :=
    hserial.inTurn.exists_loads henabled (.ofOptions .replaying o locator)
  exact ⟨loads, hserial.exists_made hloads, hledger.talliesWith⟩

end RemoteConfig
