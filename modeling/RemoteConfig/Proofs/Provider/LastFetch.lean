import RemoteConfig.Proofs.Provider.Run

/-!
# The most recent fetch

What a provider keeps as its most recent fetch, and what a health check makes
of it.

* `lastRecorded?` is what the loads of a run have noted.
* `FetchHolds` is the invariant of runs.
* `lastFetch_run` is the result: the most recent fetch is that of the most
  recent load that was not cancelled, unless the failure of all candidates was
  raised by it.  Such a load notes nothing, and the fetch before it stays.
* `lastFetch_stale` is a run that ends with such a load.
-/

namespace RemoteConfig

variable {σ : Type}

/-! ## What loads note -/

namespace EndedLoad

/-- The environment that the load located. -/
def located (l : EndedLoad) : Option Environment :=
  match l.result with
  | .ok e => e
  | .error _ => none

def isCancelled (l : EndedLoad) : Bool :=
  match l.result with
  | .error e => e.isCancelled
  | .ok _ => false

/-- The failure of all candidates was raised. -/
def isRaised (l : EndedLoad) : Bool :=
  match l.result with
  | .error (.exhausted _) => true
  | _ => false

/-- The load ended as loads of a client with these options can end. -/
def IsPossible (o : ClientOptions) (l : EndedLoad) : Prop :=
  ∀ e, l.result = .error e →
    e = .cancelled ∨
      (o.failFast = true ∧ (e = .notLocated o.name o.env ∨ ∃ failures, e = .exhausted failures))

variable {o : ClientOptions} {l : EndedLoad}

theorem recorded?_of_isCancelled (h : l.isCancelled = true) : l.recorded? = none := by
  unfold isCancelled at h
  split at h
  · rename_i e he
    unfold recorded?
    cases e with
    | cancelled => rw [he]
    | _ => cases h
  · cases h

/-- A load notes what it located, unless it raises the failure of all
candidates. -/
theorem recorded?_of_isPossible (hpossible : l.IsPossible o) (h : l.isCancelled = false) :
    l.recorded? = if l.isRaised then none else some l.located := by
  unfold recorded? isRaised located
  cases hresult : l.result with
  | ok e => rfl
  | error e =>
    rcases hpossible e hresult with rfl | ⟨-, rfl | ⟨failures, rfl⟩⟩
    · simp [isCancelled, hresult, LoadError.isCancelled] at h
    · rfl
    · rfl

theorem located_of_isRaised (h : l.isRaised = true) : l.located = none := by
  unfold isRaised at h
  split at h
  · rename_i hresult
    simp [located, hresult]
  · cases h

theorem failFast_of_isRaised (hpossible : l.IsPossible o) (h : l.isRaised = true) :
    o.failFast = true := by
  unfold isRaised at h
  split at h
  · rename_i failures hresult
    rcases hpossible _ hresult with hcancelled | ⟨hfast, -⟩
    · cases hcancelled
    · exact hfast
  · cases h

end EndedLoad

/-- What the most recent load that noted something located. -/
def lastRecorded? (ended : List EndedLoad) : Option (Option Environment) :=
  ended.reverse.findSome? EndedLoad.recorded?

/-- The load is the most recent one that was not cancelled, and others have
ended before it. -/
def IsLastCompleted (ended before : List EndedLoad) (l : EndedLoad) : Prop :=
  l.isCancelled = false ∧
    ∃ after, ended = before ++ l :: after ∧ ∀ l' ∈ after, l'.isCancelled = true

theorem lastRecorded?_append (first second : List EndedLoad) :
    lastRecorded? (first ++ second) = (lastRecorded? second).or (lastRecorded? first) := by
  unfold lastRecorded?
  rw [List.reverse_append, List.findSome?_append]

theorem lastRecorded?_singleton (l : EndedLoad) : lastRecorded? [l] = l.recorded? := by
  unfold lastRecorded?
  rw [List.reverse_singleton, List.findSome?_singleton]

theorem lastRecorded?_eq_none_iff {ended : List EndedLoad} :
    lastRecorded? ended = none ↔ ∀ l ∈ ended, l.recorded? = none := by
  unfold lastRecorded?
  simp only [List.findSome?_eq_none_iff, List.mem_reverse]

theorem lastRecorded?_eq_none {ended : List EndedLoad}
    (h : ∀ l ∈ ended, l.isCancelled = true) : lastRecorded? ended = none :=
  lastRecorded?_eq_none_iff.2 fun l hl => EndedLoad.recorded?_of_isCancelled (h l hl)

/-- The most recent completed load decides what is noted, unless it raises the
failure of all candidates. -/
theorem lastRecorded?_of_isLastCompleted {o : ClientOptions} {ended before : List EndedLoad}
    {l : EndedLoad} (hpossible : ∀ l ∈ ended, l.IsPossible o)
    (hlast : IsLastCompleted ended before l) :
    lastRecorded? ended = if l.isRaised then lastRecorded? before else some l.located := by
  obtain ⟨hcompleted, after, rfl, hafter⟩ := hlast
  have hl : l.IsPossible o := hpossible l (by simp)
  rw [← List.singleton_append, lastRecorded?_append, lastRecorded?_append,
    lastRecorded?_eq_none hafter, Option.none_or, lastRecorded?_singleton,
    EndedLoad.recorded?_of_isPossible hl hcompleted]
  cases l.isRaised <;> rfl

/-! ## Runs -/

/-- The most recent fetch of a provider is what its loads have noted. -/
structure FetchHolds (o : ClientOptions) (ended : List EndedLoad) (p : Provider) : Prop where
  lastFetch : p.lastFetch = if o.enabled then lastRecorded? ended else none
  possible : ∀ l ∈ ended, l.IsPossible o

namespace FetchHolds

variable {o : ClientOptions} {ended : List EndedLoad} {p : Provider}

theorem load (h : FetchHolds o ended p) (hoptions : p.options = o) (net : Servers σ)
    (call : LoadCall) (servers : σ) :
    FetchHolds o (ended ++ [call.ended net p servers])
      (p.load net call.update call.cancellation servers).2.1 where
  lastFetch := by
    rw [p.load_lastFetch, hoptions, h.lastFetch, lastRecorded?_append, lastRecorded?_singleton]
    unfold LoadCall.ended
    cases o.enabled <;> rfl
  possible l hl := by
    rcases List.mem_append.1 hl with hl | hl
    · exact h.possible l hl
    · rw [List.mem_singleton] at hl
      subst hl hoptions
      intro e he
      exact p.load_error call.update net call.cancellation servers he

theorem addClientOptions (h : FetchHolds o ended p) :
    FetchHolds o ended p.addClientOptions where
  lastFetch := by
    obtain ⟨store, metrics, hset⟩ := p.addClientOptions_frame
    rw [hset]
    exact h.lastFetch
  possible := h.possible

theorem isInvariant (net : Servers σ) (o : ClientOptions) :
    IsInvariant net o (FetchHolds o) where
  load _ _ call servers hoptions h := h.load hoptions net call servers
  flags _ _ _ _ h := ⟨h.lastFetch, h.possible⟩
  clientOptions _ _ _ h := h.addClientOptions

theorem ofOptions (o : ClientOptions) (locator : Option Locator) :
    FetchHolds o [] (.ofOptions o locator) where
  lastFetch := by
    cases o.enabled <;> rfl
  possible l hl := by cases hl

/-- The most recent fetch stays the same while no load notes another. -/
theorem lastFetch_run_eq (h : FetchHolds o ended p) (hoptions : p.options = o)
    (hpolls : p.PollsIfEnabled) {net : Servers σ} {ops : List (Operation σ)} {servers : σ}
    (hops : ∀ l ∈ loads net ops (p, servers), l.recorded? = none) :
    (RemoteConfig.run net ops (p, servers)).1.lastFetch = p.lastFetch := by
  have hrun := (isInvariant net o).run_of hoptions hpolls h ops servers
  rw [hrun.lastFetch, lastRecorded?_append, lastRecorded?_eq_none_iff.2 hops, Option.none_or,
    h.lastFetch]

end FetchHolds

/-! ## Health -/

namespace Provider

theorem status_fetchReport (fetch : Option Environment) :
    (fetchReport fetch).status = .up ↔ ∃ e, fetch = some e ∧ e.propertySources ≠ [] := by
  cases fetch with
  | none => simp [fetchReport, fetchReport.nothingLocated]
  | some e =>
    unfold fetchReport
    split
    · rename_i e' heq
      obtain rfl := Option.some.inj heq
      by_cases hsources : e.propertySources.isEmpty <;>
        simp_all [fetchReport.nothingLocated]
    · rename_i heq
      cases heq

theorem reusableFetch_eq_some_iff {p : Provider} {age : Duration} {fetch : Option Environment} :
    p.reusableFetch age = some fetch ↔
      age.nanos < p.timeToLive.nanos ∧ p.lastFetch = some fetch := by
  unfold reusableFetch
  split <;> simp [*]

theorem reusableFetch_eq_none_iff {p : Provider} {age : Duration} :
    p.reusableFetch age = none ↔ p.lastFetch = none ∨ p.timeToLive.nanos ≤ age.nanos := by
  unfold reusableFetch
  split
  · rename_i hyoung
    rw [or_iff_left (Nat.not_le_of_lt hyoung)]
  · rename_i hold
    exact iff_of_true rfl (Or.inr (Nat.le_of_not_lt hold))

/-- A health check that finds a fetch to reuse reports on it. -/
theorem health_of_isSome (net : Servers σ) {age : Duration} (cancellation : Cancellation)
    {p : Provider} (servers : σ) (henabled : p.options.enabled = true)
    (hhealth : p.options.health.enabled = true) (hreuse : (p.reusableFetch age).isSome = true) :
    (p.health net age cancellation servers).1.status = .up ↔
      ∃ e, p.lastFetch = some (some e) ∧ e.propertySources ≠ [] := by
  obtain ⟨fetch, hfetch⟩ := Option.isSome_iff_exists.1 hreuse
  have hlast : p.lastFetch = some fetch := (reusableFetch_eq_some_iff.1 hfetch).2
  unfold health
  simp only [hhealth, henabled, hfetch, hlast, Bool.not_true, Bool.false_eq_true, if_false,
    Option.some.injEq]
  exact status_fetchReport fetch

end Provider

/-! ## The most recent fetch after runs -/

/-- The most recent fetch after every run.  A disabled client has none, and so
has one whose loads were all cancelled.  Otherwise the most recent completed
load is noted, unless it raised the failure of all candidates, which it does
under fail-fast only: what was noted before stays then, and it is what that load
located only if nothing was located before either.  A health check that reuses
a fetch reports on what is noted. -/
theorem lastFetch_run (o : ClientOptions) (locator : Option Locator) (net : Servers σ)
    (ops : List (Operation σ)) (servers : σ) :
    let start := (Provider.ofOptions o locator, servers)
    let ended := loads net ops start
    let s := run net ops start
    (o.enabled = false → s.1.lastFetch = none) ∧
    ((∀ l ∈ ended, l.isCancelled = true) → s.1.lastFetch = none) ∧
    (∀ l ∈ ended, l.isRaised = true → o.failFast = true) ∧
    ∀ before l, o.enabled = true → IsLastCompleted ended before l →
      let noted := if l.isRaised then lastRecorded? before else some l.located
      s.1.lastFetch = noted ∧
      (s.1.lastFetch = some l.located ↔
        ¬(l.isRaised = true ∧ lastRecorded? before ≠ some none)) ∧
      ∀ age cancellation, o.health.enabled = true → (s.1.reusableFetch age).isSome = true →
        ((s.1.health net age cancellation s.2).1.status = .up ↔
          ∃ e, noted = some (some e) ∧ e.propertySources ≠ []) := by
  intro start ended s
  have hholds : FetchHolds o ended s.1 :=
    (FetchHolds.isInvariant net o).run locator (FetchHolds.ofOptions o locator) ops servers
  have hoptions : s.1.options = o := run_options net ops o locator servers
  refine ⟨fun hdisabled => ?_, fun hcancelled => ?_, fun l hl hraised => ?_, ?_⟩
  · rw [hholds.lastFetch, hdisabled]
    rfl
  · rw [hholds.lastFetch, lastRecorded?_eq_none hcancelled, ite_self]
  · exact EndedLoad.failFast_of_isRaised (hholds.possible l hl) hraised
  · intro before l henabled hlast noted
    have hnoted : s.1.lastFetch = noted := by
      rw [hholds.lastFetch, henabled, if_pos rfl,
        lastRecorded?_of_isLastCompleted hholds.possible hlast]
    refine ⟨hnoted, ?_, fun age cancellation hhealth hreuse => ?_⟩
    · rw [hnoted]
      by_cases hraised : l.isRaised = true
      · have hlocated : l.located = none := EndedLoad.located_of_isRaised hraised
        simp [noted, hraised, hlocated]
      · simp [noted, hraised]
    · rw [← hnoted]
      exact Provider.health_of_isSome net cancellation s.2 (hoptions ▸ henabled)
        (hoptions ▸ hhealth) hreuse

/-! ## A stale fetch -/

/-- An environment with one property source, as servers send it. -/
def smallDocument : String :=
  "\x7b\"name\":\"a\",\"propertySources\":[\x7b\"name\":\"s\",\"source\":\x7b\x7d\x7d]\x7d"

/-- Servers that answer one request with an environment and fail from then on. -/
def fadingServers : Servers Bool where
  reply _ fresh :=
    (if fresh then .answer 200 none (Text.bytes smallDocument) else .answer 500 none [], false)

/-- The second load locates nothing, and the health check reports on the first
one. -/
theorem lastFetch_stale :
    let start : Provider × Bool :=
      (.ofOptions { uri := "http://[::1]", failFast := true }, true)
    let ops : List (Operation Bool) := [.load false .never, .load false .never]
    let s := run fadingServers ops start
    (loads fadingServers ops start).map (·.isRaised) = [false, true] ∧
      s.1.lastFetch.join.isSome = true ∧
      (s.1.health fadingServers .zero .never s.2).1.status = .up := by
  decide +kernel

end RemoteConfig
