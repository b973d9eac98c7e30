import RemoteConfig.Proofs.Provider.Load
import RemoteConfig.Provider.Health
import RemoteConfig.Provider.Overlap

/-!
# Runs of a provider

A run is a sequence of operations on a provider that was built from options.
Loads run one at a time, so what overlaps is a run too: the load that waits
comes second, and one that is cancelled while it waits does not start.

* `Operation.apply` does one operation, and `Operation.ended?` is the load that
  ended in it, if there was one.
* `run` and `loads` do so for a whole sequence.
* `Operation.apply_cases` is the case analysis on operations: each is a load,
  the setting of flags, or the setting of options.
* `run_induction` is the induction on runs.  What it shows may speak about the
  loads that have ended so far.
-/

namespace RemoteConfig

variable {σ : Type}

/-! ## Operations -/

/-- Something that happens to a provider.  An attachment during which the
provider is stopped is a load that is cancelled, and a stop. -/
inductive Operation (σ : Type) where
  | load (update : Bool) (cancellation : Cancellation)
  | loadBlocking (runtime : Runtime) (busy : Bool)
  | attach
  | poll
  | health (age : Duration) (cancellation : Cancellation)
  | addClientOptions
  | startPolling (hasRuntime : Bool)
  | stop
  /-- The servers change by themselves. -/
  | serve (servers : σ)

/-- How a load is called. -/
structure LoadCall where
  update : Bool
  cancellation : Cancellation

/-- The load that ended with a call. -/
def LoadCall.ended (net : Servers σ) (call : LoadCall) (p : Provider) (servers : σ) :
    EndedLoad :=
  ⟨call.update, (p.load net call.update call.cancellation servers).1⟩

namespace Operation

/-- Does an operation. -/
def apply (net : Servers σ) : Operation σ → Provider × σ → Provider × σ
  | load update cancellation, (p, servers) => (p.load net update cancellation servers).2
  | loadBlocking runtime busy, (p, servers) => (p.loadBlocking net runtime busy servers).2
  | attach, (p, servers) => (p.attach net servers).2
  | poll, (p, servers) => (p.poll net servers).getD (p, servers)
  | health age cancellation, (p, servers) => (p.health net age cancellation servers).2
  | addClientOptions, (p, servers) => (p.addClientOptions, servers)
  | startPolling hasRuntime, (p, servers) => ((p.startPolling hasRuntime).2, servers)
  | stop, (p, servers) => (p.stop, servers)
  | serve servers, (p, _) => (p, servers)

/-- How an operation loads, if it does.  A blocking load may be refused, polls
need a poller, and a health check loads if it has no fetch to reuse. -/
def call? (p : Provider) : Operation σ → Option LoadCall
  | load update cancellation => some ⟨update, cancellation⟩
  | loadBlocking runtime busy =>
    if runtime = .currentThread && p.options.enabled && busy then none else some ⟨true, .never⟩
  | attach => some ⟨true, if p.stopped then .atStart else .never⟩
  | poll => if p.pollerState = .running then some ⟨true, .never⟩ else none
  | health age cancellation =>
    if p.options.health.enabled && p.options.enabled && (p.reusableFetch age).isNone then
      some ⟨false, cancellation⟩
    else none
  | addClientOptions | startPolling _ | stop | serve _ => none

/-- The load that ends in an operation. -/
def ended? (net : Servers σ) (op : Operation σ) (s : Provider × σ) : Option EndedLoad :=
  (op.call? s.1).map fun call => call.ended net s.1 s.2

end Operation

/-- The state after operations. -/
def run (net : Servers σ) (ops : List (Operation σ)) (s : Provider × σ) : Provider × σ :=
  ops.foldl (fun s op => op.apply net s) s

/-- The loads that end in operations, in order. -/
def loads (net : Servers σ) : List (Operation σ) → Provider × σ → List EndedLoad
  | [], _ => []
  | op :: ops, s => (op.ended? net s).toList ++ loads net ops (op.apply net s)

theorem run_append {net : Servers σ} (ops later : List (Operation σ)) (s : Provider × σ) :
    run net (ops ++ later) s = run net later (run net ops s) :=
  List.foldl_append

theorem run_append_singleton (net : Servers σ) (ops : List (Operation σ)) (op : Operation σ)
    (s : Provider × σ) : run net (ops ++ [op]) s = op.apply net (run net ops s) :=
  run_append ops [op] s

theorem loads_append_singleton (net : Servers σ) (ops : List (Operation σ)) (op : Operation σ)
    (s : Provider × σ) :
    loads net (ops ++ [op]) s = loads net ops s ++ (op.ended? net (run net ops s)).toList := by
  induction ops generalizing s with
  | nil => simp [loads, run]
  | cons first ops ih =>
    rw [List.cons_append, loads, ih, loads, List.append_assoc]
    rfl

/-! ## Polling -/

namespace Provider

/-- Only providers of enabled clients poll. -/
def PollsIfEnabled (p : Provider) : Prop :=
  p.polling = true → p.options.enabled = true

theorem addClientOptions_frame (p : Provider) :
    ∃ store metrics, p.addClientOptions = { p with store, metrics } := by
  unfold addClientOptions
  simp only
  split
  · exact ⟨_, _, rfl⟩
  · exact ⟨_, _, rfl⟩

variable {p : Provider}

theorem PollsIfEnabled.startPolling_frame (h : p.PollsIfEnabled) (hasRuntime : Bool) :
    ∃ polling, (polling = true → p.options.enabled = true) ∧
      (p.startPolling hasRuntime).2 = { p with polling } := by
  unfold Provider.startPolling
  split
  · rename_i hstart
    simp only [Bool.and_eq_true] at hstart
    exact ⟨true, fun _ => hstart.1.1.1.2, rfl⟩
  · exact ⟨p.polling, h, rfl⟩

theorem load_polling (net : Servers σ) (update : Bool) (cancellation : Cancellation)
    (servers : σ) : (p.load net update cancellation servers).2.1.polling = p.polling := by
  obtain ⟨store, metrics, lastFetch, lookups, h⟩ := p.load_frame update net cancellation servers
  rw [h]

theorem load_options (net : Servers σ) (update : Bool) (cancellation : Cancellation)
    (servers : σ) : (p.load net update cancellation servers).2.1.options = p.options := by
  obtain ⟨store, metrics, lastFetch, lookups, h⟩ := p.load_frame update net cancellation servers
  rw [h]

theorem PollsIfEnabled.load (h : p.PollsIfEnabled) (net : Servers σ) (update : Bool)
    (cancellation : Cancellation) (servers : σ) :
    (p.load net update cancellation servers).2.1.PollsIfEnabled := by
  unfold PollsIfEnabled
  rw [load_polling, load_options]
  exact h

/-- A poll is a load. -/
theorem poll_eq_load (h : p.PollsIfEnabled) (net : Servers σ) (servers : σ) :
    p.poll net servers =
      if p.pollerState = .running then some (p.load net true .never servers).2 else none := by
  unfold poll
  split
  · rename_i hrunning
    have hpolling : p.polling = true := by
      unfold pollerState at hrunning
      split at hrunning
      · cases hrunning
      · split at hrunning
        · assumption
        · cases hrunning
    have henabled : p.options.enabled = true := h hpolling
    simp [load, henabled]
  · rfl

/-! ## What loads in other operations do -/

theorem loadBlocking_state (net : Servers σ) (runtime : Runtime) (busy : Bool) (p : Provider)
    (servers : σ) :
    (p.loadBlocking net runtime busy servers).2 =
      if runtime = .currentThread && p.options.enabled && busy then (p, servers)
      else (p.load net true .never servers).2 := by
  unfold loadBlocking
  split <;> rfl

theorem attach_state (h : p.PollsIfEnabled) (net : Servers σ) (servers : σ) :
    ∃ polling, (polling = true → p.options.enabled = true) ∧ (p.attach net servers).2.1 =
      { (p.load net true (if p.stopped then .atStart else .never) servers).2.1 with polling } := by
  unfold attach
  generalize (if p.stopped = true then Cancellation.atStart else .never) = cancellation
  have hloaded := h.load net true cancellation servers
  rw [← load_options net true cancellation servers]
  split
  · rename_i p' servers' heq
    rw [heq] at hloaded ⊢
    exact ⟨p'.polling, hloaded, rfl⟩
  · rename_i p' servers' heq
    rw [heq] at hloaded ⊢
    exact hloaded.startPolling_frame true

theorem health_state (net : Servers σ) (age : Duration) (cancellation : Cancellation)
    (p : Provider) (servers : σ) :
    (p.health net age cancellation servers).2 =
      if p.options.health.enabled && p.options.enabled && (p.reusableFetch age).isNone then
        (p.load net false cancellation servers).2
      else (p, servers) := by
  unfold health
  cases p.options.health.enabled with
  | false => rfl
  | true =>
    cases p.options.enabled with
    | false => rfl
    | true =>
      cases p.reusableFetch age with
      | some fetch => rfl
      | none =>
        simp only [Bool.not_true, Bool.false_eq_true, if_false, Option.isNone_none, Bool.and_true,
          if_true]
        split
        · rename_i heq
          rw [heq]
        · rename_i heq
          split <;> rw [heq]

end Provider

/-! ## One operation -/

namespace Operation

/-- An operation loads and perhaps starts polling, or it sets flags of polling,
or it sets the options in the store again. -/
theorem apply_cases (net : Servers σ) (op : Operation σ) {p : Provider} (h : p.PollsIfEnabled)
    (servers : σ) :
    (∃ (call : LoadCall) (polling : Bool), (polling = true → p.options.enabled = true) ∧
      op.call? p = some call ∧
      (op.apply net (p, servers)).1 =
        { (p.load net call.update call.cancellation servers).2.1 with polling }) ∨
    (op.call? p = none ∧
      ∃ polling stopped, (polling = true → p.options.enabled = true) ∧
        (op.apply net (p, servers)).1 = { p with polling, stopped }) ∨
    (op.call? p = none ∧
      (op.apply net (p, servers)).1 = p.addClientOptions) := by
  have hload (call : LoadCall) :
      (p.load net call.update call.cancellation servers).2.1.polling = true →
        p.options.enabled = true := by
    rw [Provider.load_polling]
    exact h
  cases op with
  | load update cancellation =>
    exact Or.inl ⟨⟨update, cancellation⟩, _, hload ⟨update, cancellation⟩, rfl, rfl⟩
  | loadBlocking runtime busy =>
    have hstate := p.loadBlocking_state net runtime busy servers
    simp only [apply, call?, hstate]
    split
    · exact Or.inr (Or.inl ⟨rfl, p.polling, p.stopped, h, rfl⟩)
    · exact Or.inl ⟨⟨true, .never⟩, _, hload ⟨true, .never⟩, rfl, rfl⟩
  | attach =>
    obtain ⟨polling, hpolling, hstate⟩ := Provider.attach_state h net servers
    exact Or.inl ⟨⟨true, if p.stopped then .atStart else .never⟩, polling, hpolling, rfl, hstate⟩
  | poll =>
    have hstate := Provider.poll_eq_load h net servers
    simp only [apply, call?, hstate]
    split
    · exact Or.inl ⟨⟨true, .never⟩, _, hload ⟨true, .never⟩, rfl, rfl⟩
    · exact Or.inr (Or.inl ⟨rfl, p.polling, p.stopped, h, rfl⟩)
  | health age cancellation =>
    have hstate := p.health_state net age cancellation servers
    simp only [apply, call?, hstate]
    split
    · exact Or.inl ⟨⟨false, cancellation⟩, _, hload ⟨false, cancellation⟩, rfl, rfl⟩
    · exact Or.inr (Or.inl ⟨rfl, p.polling, p.stopped, h, rfl⟩)
  | addClientOptions => exact Or.inr (Or.inr ⟨rfl, by rw [apply]⟩)
  | startPolling hasRuntime =>
    obtain ⟨polling, hpolling, hstart⟩ := h.startPolling_frame hasRuntime
    exact Or.inr (Or.inl ⟨rfl, polling, p.stopped, hpolling, hstart⟩)
  | stop => exact Or.inr (Or.inl ⟨rfl, p.polling, true, h, rfl⟩)
  | serve servers => exact Or.inr (Or.inl ⟨rfl, p.polling, p.stopped, h, rfl⟩)

theorem apply_options (net : Servers σ) (op : Operation σ) {p : Provider} (h : p.PollsIfEnabled)
    (servers : σ) : (op.apply net (p, servers)).1.options = p.options := by
  rcases op.apply_cases net h servers with
    ⟨call, polling, -, -, heq⟩ | ⟨-, polling, stopped, -, heq⟩ | ⟨-, heq⟩
  · rw [heq]
    exact Provider.load_options ..
  · rw [heq]
  · obtain ⟨store, metrics, hset⟩ := p.addClientOptions_frame
    rw [heq, hset]

theorem apply_pollsIfEnabled (net : Servers σ) (op : Operation σ) {p : Provider}
    (h : p.PollsIfEnabled) (servers : σ) : (op.apply net (p, servers)).1.PollsIfEnabled := by
  unfold Provider.PollsIfEnabled
  rw [op.apply_options net h servers]
  rcases op.apply_cases net h servers with
    ⟨call, polling, hpolling, -, heq⟩ | ⟨-, polling, stopped, hpolling, heq⟩ | ⟨-, heq⟩
  · rw [heq]
    exact hpolling
  · rw [heq]
    exact hpolling
  · obtain ⟨store, metrics, hset⟩ := p.addClientOptions_frame
    rw [heq, hset]
    exact h

end Operation

/-! ## Runs -/

/-- A property of a provider and the loads that have ended, which no operation
breaks. -/
structure IsInvariant (net : Servers σ) (o : ClientOptions)
    (Inv : List EndedLoad → Provider → Prop) : Prop where
  load : ∀ ended p (call : LoadCall) servers, p.options = o → Inv ended p →
    Inv (ended ++ [call.ended net p servers])
      (p.load net call.update call.cancellation servers).2.1
  flags : ∀ ended p polling stopped, Inv ended p → Inv ended { p with polling, stopped }
  clientOptions : ∀ ended p, p.options = o → Inv ended p → Inv ended p.addClientOptions

namespace IsInvariant

variable {net : Servers σ} {o : ClientOptions} {Inv : List EndedLoad → Provider → Prop}

theorem apply (hinv : IsInvariant net o Inv) {ended : List EndedLoad} {p : Provider}
    (hoptions : p.options = o) (hpolls : p.PollsIfEnabled) (h : Inv ended p) (op : Operation σ)
    (servers : σ) :
    Inv (ended ++ (op.ended? net (p, servers)).toList) (op.apply net (p, servers)).1 := by
  rcases op.apply_cases net hpolls servers with
    ⟨call, polling, -, hcall, heq⟩ | ⟨hcall, polling, stopped, -, heq⟩ | ⟨hcall, heq⟩
  · rw [Operation.ended?, hcall, heq]
    exact hinv.flags _ _ _ _ (hinv.load ended p call servers hoptions h)
  · rw [Operation.ended?, hcall, heq, Option.map_none, Option.toList_none, List.append_nil]
    exact hinv.flags _ _ _ _ h
  · rw [Operation.ended?, hcall, heq, Option.map_none, Option.toList_none, List.append_nil]
    exact hinv.clientOptions _ _ hoptions h

/-- An invariant holds after every run that starts where it holds. -/
theorem run_of (hinv : IsInvariant net o Inv) {ended : List EndedLoad} {p : Provider}
    (hoptions : p.options = o) (hpolls : p.PollsIfEnabled) (h : Inv ended p)
    (ops : List (Operation σ)) (servers : σ) :
    Inv (ended ++ loads net ops (p, servers)) (run net ops (p, servers)).1 := by
  induction ops generalizing ended p servers with
  | nil =>
    rw [loads, List.append_nil]
    exact h
  | cons op ops ih =>
    rw [loads, ← List.append_assoc]
    exact ih ((op.apply_options net hpolls servers).trans hoptions)
      (op.apply_pollsIfEnabled net hpolls servers) (hinv.apply hoptions hpolls h op servers) _

/-- An invariant that a new provider has holds after every run. -/
theorem run (hinv : IsInvariant net o Inv) (locator : Option Locator)
    (h : Inv [] (.ofOptions o locator)) (ops : List (Operation σ)) (servers : σ) :
    Inv (loads net ops (.ofOptions o locator, servers))
      (RemoteConfig.run net ops (.ofOptions o locator, servers)).1 := by
  have hpolls : (Provider.ofOptions o locator).PollsIfEnabled := fun hpolling => by
    cases hpolling
  have hrun := hinv.run_of rfl hpolls h ops servers
  rw [List.nil_append] at hrun
  exact hrun

end IsInvariant

theorem run_pollsIfEnabled {net : Servers σ} {s : Provider × σ} (h : s.1.PollsIfEnabled)
    (ops : List (Operation σ)) : (run net ops s).1.PollsIfEnabled := by
  induction ops generalizing s with
  | nil => exact h
  | cons op ops ih => exact ih (op.apply_pollsIfEnabled net h s.2)

/-- Operations keep the options. -/
theorem run_options (net : Servers σ) (ops : List (Operation σ)) (o : ClientOptions)
    (locator : Option Locator) (servers : σ) :
    (run net ops (.ofOptions o locator, servers)).1.options = o := by
  have hinv : IsInvariant net o fun _ p => p.options = o :=
    { load := fun _ p call servers _ h =>
        (p.load_options net call.update call.cancellation servers).trans h
      flags := fun _ _ _ _ h => h
      clientOptions := fun _ p _ h => by
        obtain ⟨store, metrics, hset⟩ := p.addClientOptions_frame
        rw [hset]
        exact h }
  exact hinv.run locator rfl ops servers

end RemoteConfig
