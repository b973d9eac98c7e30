import RemoteConfig.Proofs.Provider.Callers
import RemoteConfig.Proofs.Provider.Content
import RemoteConfig.Proofs.Store.Tokens

/-!
# The provider's own options

The options are set last in every snapshot that is published, so they win over
whatever servers answer, and setting them again does nothing.

* `OwnsOptions` is the invariant.  Operations keep it, and so does every step of
  a caller.
* `options_win` is the result.
-/

namespace RemoteConfig

variable {σ : Type}

/-- The provider has these options, and its store is what loads have made of
them. -/
structure OwnsOptions (o : ClientOptions) (p : Provider) : Prop where
  options : p.options = o
  store : ∃ ended, StoreHolds o ended p

namespace OwnsOptions

variable {o : ClientOptions} {p : Provider}

theorem run (o : ClientOptions) (locator : Option Locator) (net : Servers σ)
    (ops : List (Operation σ)) (servers : σ) :
    OwnsOptions o (RemoteConfig.run net ops (.ofOptions o locator, servers)).1 where
  options := run_options net ops o locator servers
  store := ⟨_, (StoreHolds.isInvariant net o).run locator (.ofOptions o locator) ops servers⟩

theorem conclude (h : OwnsOptions o p) (update : Bool) (located : Except LoadError WalkOutcome) :
    OwnsOptions o (p.conclude update located).2 where
  options := by
    obtain ⟨store, metrics, lastFetch, hframe⟩ := p.conclude_frame update located
    rw [hframe]
    exact h.options
  store := by
    obtain ⟨ended, hstore⟩ := h.store
    exact ⟨_, hstore.conclude h.options update located⟩

/-- However the loads of callers interleave, the options stay. -/
theorem run_callers {s : System} (h : OwnsOptions o s.provider) (schedule : List Action) :
    OwnsOptions o (s.run schedule).provider := by
  refine System.provider_run (fun p steps lookups hp => ?_) (fun p update located hp => ?_) h
    schedule
  · obtain ⟨ended, hstore⟩ := hp.store
    exact ⟨hp.options, ended, hstore.wellFormed, hstore.content⟩
  · exact hp.conclude update located

/-- The store answers what the options say, before all else. -/
theorem get?_eq (h : OwnsOptions o p) {key value : String}
    (hvalue : Snapshot.lastValue? o.toPairs key = some value) :
    p.snapshot.get? key = some value := by
  obtain ⟨ended, hstore⟩ := h.store
  rw [hstore.content key, builtFrom, Snapshot.get?_setAll, hvalue, Option.some_or]

theorem isSome_get? (h : OwnsOptions o p) {pair : String × String} (hpair : pair ∈ o.toPairs) :
    (p.snapshot.get? pair.1).isSome := by
  cases hvalue : Snapshot.lastValue? o.toPairs pair.1 with
  | none => exact absurd rfl (Snapshot.lastValue?_eq_none_iff.1 hvalue pair hpair)
  | some value => rw [h.get?_eq hvalue, Option.isSome_some]

theorem addClientOptions_eq_self (h : OwnsOptions o p) : p.addClientOptions = p := by
  obtain ⟨ended, hstore⟩ := h.store
  exact hstore.addClientOptions_eq_self h.options

/-- Whoever waits for a change of the store keeps waiting. -/
theorem update_withOptions_eq_self (h : OwnsOptions o p) {w : WatchedStore}
    (hw : w.store = p.store) : (w.update (Provider.withOptions o)).2 = w := by
  obtain ⟨ended, hstore⟩ := h.store
  obtain ⟨diff, hempty, hupdate⟩ := hstore.update_withOptions
  refine WatchedStore.update_of_isEmpty ?_
  rw [WatchedStore.fst_update, hw, hupdate]
  exact hempty

end OwnsOptions

/-- The options win in every state that a provider can reach, by operations and
then by callers that load at the same time, whatever the servers answer.  Each
key of the options is there, in any case, with the value of the last pair that
has it.  So setting the options again changes nothing in the provider, fires no
token of its store and wakes nobody who waits on one. -/
theorem options_win (o : ClientOptions) (locator : Option Locator) (net : Servers σ)
    (ops : List (Operation σ)) (servers : σ) (schedule : List Action) :
    let reached := (run net ops (.ofOptions o locator, servers)).1
    let p := (System.run { provider := reached } schedule).provider
    (∀ pair ∈ o.toPairs, (p.snapshot.get? pair.1).isSome) ∧
    (∀ before pair after, o.toPairs = before ++ pair :: after →
      (∀ later ∈ after, Text.fold later.1 ≠ Text.fold pair.1) →
        ∀ key, Text.fold key = Text.fold pair.1 → p.snapshot.get? key = some pair.2) ∧
    p.addClientOptions = p ∧
    ∀ watched : WatchedStore, watched.store = p.store →
      (watched.update (Provider.withOptions o)).2 = watched := by
  intro reached p
  have h : OwnsOptions o p := (OwnsOptions.run o locator net ops servers).run_callers schedule
  refine ⟨fun pair hpair => h.isSome_get? hpair, fun before pair after hpairs hlast key hkey => ?_,
    h.addClientOptions_eq_self, fun watched hw => h.update_withOptions_eq_self hw⟩
  refine h.get?_eq ?_
  rw [hpairs]
  exact Snapshot.lastValue?_append_cons hlast hkey.symm

end RemoteConfig
