import RemoteConfig.Proofs.Provider.Callers
import RemoteConfig.Proofs.Provider.LastFetch
import RemoteConfig.Proofs.Provider.Ledger
import RemoteConfig.Proofs.Walk.Verdict

/-!
# Health checks

A health check reports on a fetch: the most recent one if it is young enough,
or one that the check makes.  It looks at the store and does not touch it.

* `SameButFetch` is what a check leaves alone.  Every step of a load that does
  not update keeps it, alone or between steps of other callers.
* `Provider.Checks` is the case analysis on checks.
* `HasFetched` says that a load that has returned without an error left a fetch
  behind, whoever else loads.
* `health_run` is the result.
-/

namespace RemoteConfig

variable {σ : Type}

/-! ## What is left alone -/

/-- The store, with the tokens that it has handed out, is the same, and so are
the counters of publications and the state of polling. -/
structure SameButFetch (p q : Provider) : Prop where
  store : q.store = p.store
  keys : q.metrics.keys = p.metrics.keys
  reloads : q.metrics.reloads = p.metrics.reloads
  pollerState : q.pollerState = p.pollerState

namespace SameButFetch

variable {p q r : Provider}

theorem refl (p : Provider) : SameButFetch p p := ⟨rfl, rfl, rfl, rfl⟩

theorem trans (h : SameButFetch p q) (h' : SameButFetch q r) : SameButFetch p r where
  store := h'.store.trans h.store
  keys := h'.keys.trans h.keys
  reloads := h'.reloads.trans h.reloads
  pollerState := h'.pollerState.trans h.pollerState

theorem note (p : Provider) (steps : List LoadStep) (lookups : List LocatorCall) :
    SameButFetch p { p with metrics := p.metrics.noteSteps p.client steps, lookups } := by
  obtain ⟨requests, walksExhausted, hnoted⟩ := p.metrics.noteSteps_frame p.client steps
  rw [hnoted]
  exact ⟨rfl, rfl, rfl, rfl⟩

theorem conclude (p : Provider) (located : Except LoadError WalkOutcome) :
    SameButFetch p (p.conclude false located).2 := by
  rcases located with e | ⟨e | _ | failures⟩
  · exact ⟨rfl, rfl, rfl, rfl⟩
  · exact ⟨rfl, rfl, rfl, rfl⟩
  · unfold Provider.conclude
    simp only
    split <;> exact ⟨rfl, rfl, rfl, rfl⟩
  · exact ⟨rfl, rfl, rfl, rfl⟩

theorem load (p : Provider) (net : Servers σ) (cancellation : Cancellation) (servers : σ) :
    SameButFetch p (p.load net false cancellation servers).2.1 := by
  by_cases hstart : p.options.enabled = true → cancellation = .atStart
  · rw [(p.load_of_not_started net false servers hstart).1]
    exact refl p
  · obtain ⟨henabled, hstart⟩ := Classical.not_imp.1 hstart
    rw [(p.load_of_started net false servers henabled hstart).1]
    exact (note p _ _).trans (conclude _ _)

/-- Between any steps of others, a step of a health check leaves this alone. -/
theorem step_health {s : System} {i : Nat} {c : Caller} (hc : s.callers[i]? = some c)
    {age : Duration} (hkind : c.kind = .health age) (cue : Cue) :
    SameButFetch s.provider (s.step (.cue i cue)).provider := by
  rw [System.step_cue hc]
  cases hm : c.move? s.provider s.holder.isNone cue with
  | none => exact refl s.provider
  | some m =>
    show SameButFetch s.provider m.provider
    rcases (Caller.moves hm).provider_cases with ⟨steps, lookups, hp⟩ | ⟨located, hp⟩
    · rw [hp]
      exact note s.provider steps lookups
    · rw [hp, hkind]
      exact conclude s.provider located

end SameButFetch

/-! ## Reports -/

/-- The report says of a fetch whether it located an environment with property
sources, and which ones. -/
structure HealthReport.Tells (r : HealthReport) (fetch : Option Environment) : Prop where
  up : r.status = .up ↔ ∃ e, fetch = some e ∧ e.propertySources ≠ []
  down : r.status = .down ↔ ¬∃ e, fetch = some e ∧ e.propertySources ≠ []
  names : ∀ e, fetch = some e → e.propertySources ≠ [] →
    r.details.lookup "propertySources" = some (.texts (e.propertySources.map (·.name)))

namespace Provider

theorem status_fetchReport_ne_unknown (fetch : Option Environment) :
    (fetchReport fetch).status ≠ .unknown := by
  unfold fetchReport
  split
  · split <;> exact HealthStatus.noConfusion
  · exact HealthStatus.noConfusion

theorem tells_fetchReport (fetch : Option Environment) : (fetchReport fetch).Tells fetch := by
  have hup := status_fetchReport fetch
  have hdown : (fetchReport fetch).status = .down ↔ (fetchReport fetch).status ≠ .up := by
    have hknown := status_fetchReport_ne_unknown fetch
    cases hstatus : (fetchReport fetch).status with
    | up => decide
    | down => decide
    | unknown => exact absurd hstatus hknown
  refine ⟨hup, hdown.trans (not_congr hup), ?_⟩
  rintro e rfl hsources
  have hnot : e.propertySources.isEmpty = false := by simpa using hsources
  simp only [fetchReport, hnot, Bool.false_eq_true, if_false, Environment.sourceNames]
  rfl

/-- How a check can go. -/
inductive Checks (net : Servers σ) (age : Duration) (cancellation : Cancellation) (p : Provider)
    (servers : σ) : HealthReport × Provider × σ → Prop where
  | disabled (reason : String) (off : (p.options.health.enabled && p.options.enabled) = false) :
    Checks net age cancellation p servers
      (⟨.unknown, [("reason", .text reason)]⟩, p, servers)
  | reused {fetch : Option Environment}
      (on : (p.options.health.enabled && p.options.enabled) = true) (young : p.reusableFetch age = some fetch) :
    Checks net age cancellation p servers (fetchReport fetch, p, servers)
  | failed {e : LoadError} {p' : Provider} {servers' : σ}
      (on : (p.options.health.enabled && p.options.enabled) = true)
      (old : p.reusableFetch age = none)
      (load : p.load net false cancellation servers = (.error e, p', servers')) :
    Checks net age cancellation p servers (⟨.down, [("error", .text e.message)]⟩, p', servers')
  | fetched {located : Option Environment} {p' : Provider} {servers' : σ}
      (on : (p.options.health.enabled && p.options.enabled) = true)
      (old : p.reusableFetch age = none)
      (load : p.load net false cancellation servers = (.ok located, p', servers'))
      (noted : p'.lastFetch = some located) :
    Checks net age cancellation p servers (fetchReport located, p', servers')

/-- The cases are those of the check.  A load without an error leaves a fetch
behind, so no check comes to have none to report on. -/
theorem checks_health (net : Servers σ) (age : Duration) (cancellation : Cancellation)
    (p : Provider) (servers : σ) :
    p.Checks net age cancellation servers (p.health net age cancellation servers) := by
  unfold health
  cases hhealth : p.options.health.enabled with
  | false => exact .disabled _ (by rw [hhealth]; rfl)
  | true =>
    cases henabled : p.options.enabled with
    | false => exact .disabled _ (by rw [henabled, Bool.and_false])
    | true =>
      have hon : (p.options.health.enabled && p.options.enabled) = true := by
        rw [hhealth, henabled]
        rfl
      simp only [Bool.not_true, Bool.false_eq_true, if_false]
      cases hfetch : p.reusableFetch age with
      | some fetch => exact .reused hon hfetch
      | none =>
        simp only
        rcases hload : p.load net false cancellation servers with ⟨e | located, p', servers'⟩
        · exact .failed hon hfetch hload
        · have hnoted : p'.lastFetch = some located := by
            have hlast := p.load_lastFetch false net cancellation servers
            rw [hload, henabled, if_pos rfl] at hlast
            exact hlast
          simp only [hnoted]
          exact .fetched hon hfetch hload hnoted

variable {net : Servers σ} {age : Duration} {cancellation : Cancellation} {p : Provider}
  {servers : σ} {result : HealthReport × Provider × σ}

theorem Checks.sameButFetch (h : p.Checks net age cancellation servers result) :
    SameButFetch p result.2.1 := by
  have hload := SameButFetch.load p net cancellation servers
  cases h with
  | disabled => exact .refl p
  | reused => exact .refl p
  | failed on old load => rwa [load] at hload
  | fetched on old load => rwa [load] at hload

/-- A check goes to servers only if there is no fetch to reuse. -/
theorem Checks.eq_or (h : p.Checks net age cancellation servers result) :
    result.2 = (p, servers) ∨
      (p.options.health.enabled && p.options.enabled) = true ∧ p.reusableFetch age = none := by
  cases h with
  | disabled => exact Or.inl rfl
  | reused => exact Or.inl rfl
  | failed on old => exact Or.inr ⟨on, old⟩
  | fetched on old => exact Or.inr ⟨on, old⟩

theorem Checks.status_ne_unknown (h : p.Checks net age cancellation servers result)
    (hon : (p.options.health.enabled && p.options.enabled) = true) :
    result.1.status ≠ .unknown := by
  cases h with
  | disabled reason off => exact Bool.noConfusion (off.symm.trans hon)
  | reused => exact status_fetchReport_ne_unknown _
  | failed => exact HealthStatus.noConfusion
  | fetched => exact status_fetchReport_ne_unknown _

theorem Checks.of_reusable (h : p.Checks net age cancellation servers result)
    (hon : (p.options.health.enabled && p.options.enabled) = true) {fetch : Option Environment}
    (hyoung : p.reusableFetch age = some fetch) : result = (fetchReport fetch, p, servers) := by
  cases h with
  | disabled reason off => exact Bool.noConfusion (off.symm.trans hon)
  | reused on young => rw [Option.some.inj (young.symm.trans hyoung)]
  | failed on old => cases old.symm.trans hyoung
  | fetched on old => cases old.symm.trans hyoung

/-- What a check makes of its own load. -/
theorem Checks.of_not_reusable (h : p.Checks net age cancellation servers result)
    (hon : (p.options.health.enabled && p.options.enabled) = true)
    (hold : p.reusableFetch age = none) :
    result.2 = (p.load net false cancellation servers).2 ∧
    (∀ e, (p.load net false cancellation servers).1 = .error e →
      result.1 = ⟨.down, [("error", .text e.message)]⟩) ∧
    ∀ located, (p.load net false cancellation servers).1 = .ok located →
      result.2.1.lastFetch = some located ∧ result.1.Tells located := by
  cases h with
  | disabled reason off => exact Bool.noConfusion (off.symm.trans hon)
  | reused on young => cases young.symm.trans hold
  | failed on old load =>
    rw [load]
    refine ⟨rfl, ?_, ?_⟩
    · rintro e ⟨⟩
      rfl
    · rintro located ⟨⟩
  | fetched on old load noted =>
    rw [load]
    refine ⟨rfl, ?_, ?_⟩
    · rintro e ⟨⟩
    · rintro located ⟨⟩
      exact ⟨noted, tells_fetchReport _⟩

end Provider

/-! ## Checks among other callers -/

/-- The load of this stage has ended without an error. -/
def Stage.hasLoaded : Stage → Bool
  | concluded (.ok _) | returned (.ok _) => true
  | _ => false

theorem Stage.hasLoaded_of_left? {stage : Stage} {left : LoadPlan}
    (h : stage.left? = some left) : stage.hasLoaded = false := by
  cases stage <;> first | rfl | cases h

theorem Stage.hasLoaded_of_not_hasEntered {stage : Stage} (h : stage.hasEntered = false) :
    stage.hasLoaded = false := by
  cases stage <;> first | rfl | cases h

/-- Once a load has ended without an error there is a most recent fetch. -/
def HasFetched (s : System) : Prop :=
  ∀ i kind stage, s.entered? i = some (kind, stage) → stage.hasLoaded = true →
    s.provider.lastFetch.isSome

/-- The end of attempts leaves a fetch behind if there was one before, and also
if it is not an error. -/
theorem Provider.isSome_lastFetch_conclude (p : Provider) (update : Bool)
    (located : Except LoadError WalkOutcome)
    (h : p.lastFetch.isSome ∨ ∃ e, (p.conclude update located).1 = .ok e) :
    (p.conclude update located).2.lastFetch.isSome := by
  rcases located with e | ⟨e | _ | failures⟩
  · rcases h with hbefore | ⟨e', he'⟩
    · exact hbefore
    · cases he'
  · cases update with
    | false => rfl
    | true =>
      obtain ⟨store, metrics, hpublish⟩ := (p.fetched (some e)).publish_frame e
      simp only [conclude, if_true, hpublish]
      rfl
  · unfold conclude
    simp only
    split <;> rfl
  · rfl

namespace HasFetched

variable {s : System} {i : Nat} {c : Caller}

theorem start (p : Provider) : HasFetched { provider := p } := by
  simp [HasFetched, System.entered?]

/-- A caller moves to a stage in which its load has ended, or in which it has
not. -/
theorem perform (h : HasFetched s) (hc : s.callers[i]? = some c) {m : Move}
    (hkeeps : s.provider.lastFetch.isSome → m.provider.lastFetch.isSome)
    (hloaded : m.stage.hasLoaded = true → m.provider.lastFetch.isSome) :
    HasFetched (s.perform i c m) := by
  intro j kind stage hj hstage
  rw [System.entered?_perform hc] at hj
  split at hj
  · split at hj
    · obtain ⟨-, rfl⟩ := Prod.mk.inj (Option.some.inj hj)
      exact hloaded hstage
    · cases hj
  · exact hkeeps (h j kind stage hj hstage)

theorem step (h : HasFetched s) (action : Action) : HasFetched (s.step action) := by
  rcases s.step_cases action with hs | ⟨i, c, m, hc, hm, heq⟩
  · intro j kind stage hj
    rw [hs.provider]
    exact h j kind stage (hs.entered j ▸ hj)
  · rw [heq]
    cases hm with
    | outside before behind =>
      exact h.perform hc id fun hloaded =>
        absurd hloaded (Bool.eq_false_iff.1 (Stage.hasLoaded_of_not_hasEntered behind))
    | acquire => exact h.perform hc id fun hloaded => by cases hloaded
    | wait sent before behind =>
      exact h.perform hc id fun hloaded =>
        absurd hloaded (Bool.eq_false_iff.1 (Stage.hasLoaded_of_left? behind))
    | take before behind =>
      exact h.perform hc id fun hloaded =>
        absurd hloaded (Bool.eq_false_iff.1 (Stage.hasLoaded_of_left? behind))
    | @conclude located =>
      have hlast := s.provider.isSome_lastFetch_conclude c.kind.update located
      refine h.perform hc (fun hbefore => hlast (Or.inl hbefore)) fun hloaded => hlast (Or.inr ?_)
      simp only [LoadPlan.move] at hloaded
      cases hresult : (s.provider.conclude c.kind.update located).1 with
      | ok e => exact ⟨e, rfl⟩
      | error e => simp [hresult, Stage.hasLoaded] at hloaded
    | @release result before =>
      refine h.perform hc id fun hloaded => ?_
      have hentered : c.stage.hasEntered = true := by rw [before]; rfl
      refine h i c.kind c.stage (System.entered?_eq_some hc hentered) ?_
      rw [before]
      cases result <;> exact hloaded

theorem run (h : HasFetched s) (schedule : List Action) : HasFetched (s.run schedule) := by
  induction schedule generalizing s with
  | nil => exact h
  | cons action schedule ih => exact ih (h.step action)

end HasFetched

/-! ## Runs -/

/-- Health checks in every state that a provider can reach.  They leave the
store, its tokens, the counters of publications and the state of polling alone,
and where they are enabled they always tell how healthy the provider is. -/
theorem health_run (o : ClientOptions) (locator : Option Locator) (net : Servers σ)
    (ops : List (Operation σ)) (servers : σ) :
    let s := run net ops (.ofOptions o locator, servers)
    (∀ age cancellation,
      let check := s.1.health net age cancellation s.2
      SameButFetch s.1 check.2.1 ∧
      -- Servers are asked only if no fetch is young enough,
      (∀ log, (s.1.health net.recorded age cancellation (s.2, log)).2.2.2 ≠ log →
        o.health.enabled = true ∧ o.enabled = true ∧
          (s.1.lastFetch = none ∨ s.1.timeToLive.nanos ≤ age.nanos)) ∧
      (o.health.enabled = true → o.enabled = true →
        check.1.status ≠ .unknown ∧
        -- and otherwise the report is on that fetch.
        (∀ fetch, s.1.reusableFetch age = some fetch →
          s.1.lastFetch = some fetch ∧ check.2 = s ∧ check.1.Tells fetch ∧
          -- It stays the same as long as no load notes another.
          ∀ later age' cancellation', (∀ l ∈ loads net later s, l.recorded? = none) →
            let s' := run net later s
            (s'.1.reusableFetch age').isSome →
              (s'.1.health net age' cancellation' s'.2).1 = check.1) ∧
        -- A check that asks servers loads, and reports on what it has fetched.
        (s.1.reusableFetch age = none →
          let load := s.1.load net false cancellation s.2
          check.2 = load.2 ∧
          (∀ e, load.1 = .error e → check.1 = ⟨.down, [("error", .text e.message)]⟩) ∧
          ∀ located, load.1 = .ok located →
            check.2.1.lastFetch = some located ∧ check.1.Tells located))) ∧
    -- Among other callers a check touches nothing more, and it finds a fetch to
    -- report on when its load has returned without an error.
    ∀ schedule i c age,
      let during := System.run { provider := s.1 } schedule
      during.callers[i]? = some c → c.kind = .health age →
        (∀ cue, SameButFetch during.provider (during.step (.cue i cue)).provider) ∧
        ∀ located, c.stage = .returned (.ok located) → during.provider.lastFetch.isSome := by
  intro s
  have hoptions : s.1.options = o := run_options net ops o locator servers
  have hfetch : FetchHolds o (loads net ops (.ofOptions o locator, servers)) s.1 :=
    (FetchHolds.isInvariant net o).run locator (.ofOptions o locator) ops servers
  have hpolls : s.1.PollsIfEnabled := run_pollsIfEnabled (fun hpolling => by cases hpolling) ops
  refine ⟨fun age cancellation => ?_, fun schedule i c age => ?_⟩
  · intro check
    have hcheck := s.1.checks_health net age cancellation s.2
    refine ⟨hcheck.sameButFetch, fun log hlog => ?_, fun hhealth henabled => ?_⟩
    · rcases (s.1.checks_health net.recorded age cancellation (s.2, log)).eq_or with
        hsame | ⟨hon, hold⟩
      · exact absurd (congrArg (·.2.2) hsame) hlog
      · rw [hoptions, Bool.and_eq_true] at hon
        exact ⟨hon.1, hon.2, Provider.reusableFetch_eq_none_iff.1 hold⟩
    · have hon {p : Provider} (hp : p.options = o) :
          (p.options.health.enabled && p.options.enabled) = true := by
        rw [hp, hhealth, henabled]
        rfl
      refine ⟨hcheck.status_ne_unknown (hon hoptions), fun fetch hyoung => ?_,
        hcheck.of_not_reusable (hon hoptions)⟩
      have hreused : check = (Provider.fetchReport fetch, s) :=
        hcheck.of_reusable (hon hoptions) hyoung
      have hlast : s.1.lastFetch = some fetch := (Provider.reusableFetch_eq_some_iff.1 hyoung).2
      rw [hreused]
      refine ⟨hlast, rfl, Provider.tells_fetchReport fetch, ?_⟩
      intro later age' cancellation' hlater s' hyoung'
      have hlast' : s'.1.lastFetch = some fetch :=
        (hfetch.lastFetch_run_eq hoptions hpolls hlater).trans hlast
      have hoptions' : s'.1.options = o := by
        rw [show s' = _ from (run_append ops later _).symm]
        exact run_options net (ops ++ later) o locator servers
      obtain ⟨fetch', hfetch'⟩ := Option.isSome_iff_exists.1 hyoung'
      have hsame : fetch' = fetch :=
        Option.some.inj ((Provider.reusableFetch_eq_some_iff.1 hfetch').2.symm.trans hlast')
      rw [(s'.1.checks_health net age' cancellation' s'.2).of_reusable (hon hoptions') hfetch',
        hsame]
  · intro during hc hkind
    refine ⟨SameButFetch.step_health hc hkind, fun located hstage => ?_⟩
    have hentered : c.stage.hasEntered = true := by rw [hstage]; rfl
    have hloaded : c.stage.hasLoaded = true := by rw [hstage]; rfl
    exact ((HasFetched.start s.1).run schedule) i c.kind c.stage
      (System.entered?_eq_some hc hentered) hloaded

end RemoteConfig
