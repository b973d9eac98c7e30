import RemoteConfig.Proofs.Options.Overlay
import RemoteConfig.Proofs.Provider.FetchMark
import RemoteConfig.Proofs.Provider.Headers

/-!
# Options that differ in their secrets

The password and the token of a client are sent in headers, and they are pairs
of its options like all others.  So two clients that differ in them alone, and
are answered alike, load alike, and their stores differ in these pairs.

* `ClientOptions.DifferInSecrets` is the relation of the options, and
  `SameButSecret` that of the pairs that they are written as.
* `lastValue?_secret` says that a secret stands under its key, which no other
  option has.
* `sameButSecrets_builtFrom` relates the snapshots that are built from options,
  and `sameContent_iff` says that the same environments make a difference to them.
* `Provider.SameButSecrets` relates providers, and `SameButSecrets.load` is the
  result about loads.
-/

namespace RemoteConfig

/-! ## Secrets -/

namespace ClientOptions

/-- An option that is a secret. -/
inductive Secret where
  | password
  | token
  deriving Repr, DecidableEq

namespace Secret

/-- The slot in which a secret stands. -/
def slot : Secret → Slot
  | password => .password
  | token => .token

/-- The key of a secret. -/
def key (s : Secret) : String :=
  s.slot.fullKey

/-- The text of a secret, if it is set. -/
def text? (o : ClientOptions) : Secret → Option String
  | password => o.password
  | token => o.token

end Secret

/-- The options are the same, except for the texts of secrets. -/
structure DifferInSecrets (o o' : ClientOptions) : Prop where
  rest : o' = { o with password := o'.password, token := o'.token }
  secrets : ∀ s : Secret, (s.text? o).isSome = (s.text? o').isSome

/-- The pairs are the same, or those of a secret with its texts. -/
inductive SameButSecret (o o' : ClientOptions) : String × String → String × String → Prop where
  | same (p : String × String) : SameButSecret o o' p p
  | secret (s : Secret) {v v' : String} (text : s.text? o = some v) (text' : s.text? o' = some v') :
    SameButSecret o o' (s.key, v) (s.key, v')

theorem SameButSecret.key {o o' : ClientOptions} {p p' : String × String}
    (h : SameButSecret o o' p p') : p.1 = p'.1 := by
  cases h <;> rfl

/-! ## Pairs of options -/

theorem Secret.pairs_slot (o : ClientOptions) (s : Secret) :
    s.slot.pairs o = ((s.text? o).map fun v => (s.key, v)).toList := by
  cases s <;> rfl

theorem Slot.fold_fullKey_eq_iff (t t' : Slot) :
    Text.fold t.fullKey = Text.fold t'.fullKey ↔ Text.fold t.key = Text.fold t'.key := by
  unfold fullKey
  rw [Text.fold_append (rootKey ++ ":"), Text.fold_append (rootKey ++ ":"),
    String.append_right_inj]

/-- No other slot has the key of a secret. -/
theorem eq_slot_of_fold {s : Secret} {t : Slot} (ht : t ∈ Slot.named)
    (hkey : Text.fold t.fullKey = Text.fold s.key) : t = s.slot := by
  rw [Secret.key, Slot.fold_fullKey_eq_iff] at hkey
  revert t
  cases s <;> decide

/-- Neither has a header. -/
theorem fold_header_ne_key (s : Secret) (field : String) :
    Text.fold (Slot.header field).fullKey ≠ Text.fold s.key := by
  intro h
  rw [Secret.key, Slot.fold_fullKey_eq_iff, Slot.key, Text.fold_append, ← String.toList_inj,
    String.toList_append] at h
  have hfront : (Text.fold "headers:").toList <+: (Text.fold s.slot.key).toList := ⟨_, h⟩
  revert hfront
  cases s <;> decide

/-- A pair with the key of a secret has its text. -/
theorem text?_of_mem_toPairs {o : ClientOptions} {s : Secret} {p : String × String}
    (hp : p ∈ o.toPairs) (hkey : Text.fold p.1 = Text.fold s.key) : s.text? o = some p.2 := by
  rw [toPairs_eq_append, List.mem_append] at hp
  rcases hp with hp | hp
  · obtain ⟨t, ht, hp⟩ := List.mem_flatMap.1 hp
    have hslot : t = s.slot := by
      refine eq_slot_of_fold ht ?_
      obtain ⟨v, -, rfl⟩ := Option.map_eq_some_iff.1 (Option.mem_toList.1 hp)
      exact hkey
    rw [hslot, Secret.pairs_slot] at hp
    obtain ⟨v, hv, rfl⟩ := Option.map_eq_some_iff.1 (Option.mem_toList.1 hp)
    exact hv
  · obtain ⟨header, -, rfl⟩ := List.mem_map.1 hp
    exact absurd hkey (fold_header_ne_key s header.1)

theorem mem_toPairs_of_text? {o : ClientOptions} {s : Secret} {v : String}
    (hv : s.text? o = some v) : (s.key, v) ∈ o.toPairs := by
  rw [toPairs_eq_append]
  refine List.mem_append_left _ (List.mem_flatMap.2 ⟨s.slot, by cases s <;> decide, ?_⟩)
  rw [Secret.pairs_slot, hv]
  exact List.mem_singleton_self _

/-- The texts of secrets are looked up under their keys. -/
theorem lastValue?_secret (o : ClientOptions) (s : Secret) :
    Snapshot.lastValue? o.toPairs s.key = s.text? o := by
  cases hv : s.text? o with
  | none =>
    refine Snapshot.lastValue?_eq_none_iff.2 fun p hp hkey => ?_
    rw [text?_of_mem_toPairs hp hkey] at hv
    cases hv
  | some v =>
    refine Snapshot.lastValue?_eq_some (mem_toPairs_of_text? hv) rfl fun q hq hkey => ?_
    exact Option.some.inj ((text?_of_mem_toPairs hq hkey).symm.trans hv)

namespace DifferInSecrets

variable {o o' : ClientOptions} (h : DifferInSecrets o o')

include h

theorem exists_eq : ∃ password token, o' = { o with password, token } :=
  ⟨_, _, h.rest⟩

/-- What does not look at secrets is the same for both. -/
theorem apply_eq {α : Sort*} (f : ClientOptions → α)
    (hf : ∀ password token, f { o with password, token } = f o) : f o = f o' := by
  obtain ⟨password, token, rfl⟩ := h.exists_eq
  exact (hf password token).symm

theorem forall₂_pairs_secret (s : Secret) :
    List.Forall₂ (SameButSecret o o') (s.slot.pairs o) (s.slot.pairs o') := by
  have hset := h.secrets s
  rw [Secret.pairs_slot, Secret.pairs_slot]
  cases htext : s.text? o with
  | none =>
    rw [htext] at hset
    have htext' : s.text? o' = none := by simpa using hset
    rw [htext']
    exact .nil
  | some v =>
    rw [htext] at hset
    obtain ⟨v', htext'⟩ := Option.isSome_iff_exists.1 hset.symm
    rw [htext']
    exact .cons (.secret s htext htext') .nil

/-- The other slots hold the same. -/
theorem forall₂_pairs (t : Slot) :
    List.Forall₂ (SameButSecret o o') (t.pairs o) (t.pairs o') := by
  cases t with
  | password => exact h.forall₂_pairs_secret .password
  | token => exact h.forall₂_pairs_secret .token
  | _ =>
    rw [← h.apply_eq (Slot.pairs · _) fun _ _ => rfl]
    exact List.forall₂_same.2 fun p _ => .same p

/-- The pairs of the options differ in the texts of secrets. -/
theorem forall₂_toPairs : List.Forall₂ (SameButSecret o o') o.toPairs o'.toPairs := by
  rw [toPairs_eq_append, toPairs_eq_append, ← h.apply_eq ClientOptions.headers fun _ _ => rfl]
  refine List.rel_append ?_ (List.forall₂_same.2 fun p _ => .same p)
  induction Slot.named with
  | nil => exact .nil
  | cons t slots ih =>
    rw [List.flatMap_cons, List.flatMap_cons]
    exact List.rel_append (h.forall₂_pairs t) ih

end DifferInSecrets

end ClientOptions

open ClientOptions (DifferInSecrets SameButSecret Secret)

/-! ## Snapshots -/

namespace Snapshot

variable {o o' : ClientOptions}

/-- The entries are the same, or those of a secret with its texts. -/
def SameButSecrets (o o' : ClientOptions) (s s' : Snapshot) : Prop :=
  List.Forall₂ (fun p p' => p.1 = p'.1 ∧
    SameButSecret o o' (p.2.key, p.2.value) (p'.2.key, p'.2.value))
    s.entries.toList s'.entries.toList

theorem SameButSecrets.refl (s : Snapshot) : SameButSecrets o o' s s :=
  List.forall₂_same.2 fun _ _ => ⟨rfl, .same _⟩

variable {s s' : Snapshot} (h : SameButSecrets o o' s s')

include h

theorem SameButSecrets.setAll {pairs pairs' : List (String × String)}
    (hpairs : List.Forall₂ (SameButSecret o o') pairs pairs') :
    SameButSecrets o o' (s.setAll pairs) (s'.setAll pairs') := by
  induction hpairs generalizing s s' with
  | nil => exact h
  | @cons p p' pairs pairs' hp _ ih =>
    obtain ⟨key, value⟩ := p
    obtain ⟨key', value'⟩ := p'
    obtain rfl : key = key' := hp.key
    have hset : SameButSecrets o o' (s.set key value) (s'.set key value') :=
      TextMap.forall₂_insertPair
        (R := fun _ (e e' : Entry) => SameButSecret o o' (e.key, e.value) (e'.key, e'.value)) hp h
    exact ih hset

theorem SameButSecrets.pairs : List.Forall₂ (SameButSecret o o') s.pairs s'.pairs := by
  unfold Snapshot.pairs
  rw [List.forall₂_map_left_iff, List.forall₂_map_right_iff]
  exact h.imp fun _ _ hp => hp.2

theorem SameButSecrets.size : s.size = s'.size :=
  h.length_eq

end Snapshot

/-! ## What is built -/

namespace ClientOptions.DifferInSecrets

variable {o o' : ClientOptions} (h : DifferInSecrets o o')

include h

theorem sameButSecrets_builtFrom (source : Option Environment) :
    Snapshot.SameButSecrets o o' (builtFrom o source) (builtFrom o' source) :=
  (Snapshot.SameButSecrets.refl _).setAll h.forall₂_toPairs

theorem map_fst_toPairs : o.toPairs.map Prod.fst = o'.toPairs.map Prod.fst := by
  rw [← List.forall₂_eq_eq_eq, List.forall₂_map_left_iff, List.forall₂_map_right_iff]
  exact h.forall₂_toPairs.imp fun _ _ hp => hp.key

theorem lastValue?_eq_none_iff (key : String) :
    Snapshot.lastValue? o.toPairs key = none ↔ Snapshot.lastValue? o'.toPairs key = none := by
  have hkeys (o : ClientOptions) : Snapshot.lastValue? o.toPairs key = none ↔
      ∀ k ∈ o.toPairs.map Prod.fst, Text.fold k ≠ Text.fold key := by
    rw [Snapshot.lastValue?_eq_none_iff, List.forall_mem_map]
  rw [hkeys, hkeys, h.map_fst_toPairs]

/-- The same environments make a difference to what is built. -/
theorem sameContent_iff (e f : Option Environment) :
    Snapshot.SameContent (builtFrom o e) (builtFrom o f) ↔
      Snapshot.SameContent (builtFrom o' e) (builtFrom o' f) := by
  have hremote (o : ClientOptions) : Snapshot.SameContent (builtFrom o e) (builtFrom o f) ↔
      ∀ key, Snapshot.lastValue? o.toPairs key = none →
        (remotePart e).get? key = (remotePart f).get? key := by
    refine forall_congr' fun key => ?_
    rw [get?_builtFrom, get?_builtFrom]
    cases Snapshot.lastValue? o.toPairs key with
    | some v => simp
    | none => simp
  rw [hremote, hremote]
  exact forall_congr' fun key => imp_congr_left (h.lastValue?_eq_none_iff key)

end ClientOptions.DifferInSecrets

/-! ## Providers -/

namespace Provider

/-- A publication replaces the store and is counted, unless it makes no
difference. -/
theorem publish_eq (p : Provider) (e : Environment) :
    p.publish e =
      if (p.snapshot.diff (builtFrom p.options (some e))).isEmpty then p
      else { p with
        store :=
          { snapshot := builtFrom p.options (some e), publications := p.store.publications + 1 }
        metrics := p.metrics.recordReload (builtFrom p.options (some e)).size } := by
  unfold publish Store.replace Store.update snapshot
  rw [snapshotFor_eq]
  by_cases hempty : (p.store.snapshot.diff (builtFrom p.options (some e))).isEmpty
  · simp only [if_pos hempty]
  · simp only [if_neg hempty]

/-- The providers are the same, except for the texts of secrets. -/
structure SameButSecrets (p p' : Provider) : Prop where
  options : DifferInSecrets p.options p'.options
  timeout : p.client.timeout = p'.client.timeout
  locator : p.locator = p'.locator
  metrics : p.metrics = p'.metrics
  /-- The stores are built from the same environment. -/
  stores : ∃ source, p.snapshot = builtFrom p.options source ∧
    p'.snapshot = builtFrom p'.options source

namespace SameButSecrets

theorem ofOptions {o o' : ClientOptions} (h : DifferInSecrets o o') (locator : Option Locator) :
    SameButSecrets (.ofOptions o locator) (.ofOptions o' locator) where
  options := h
  timeout := by
    obtain ⟨password, token, rfl⟩ := h.exists_eq
    rfl
  locator := rfl
  metrics := congrArg (Metrics.setKeys {}) (h.sameButSecrets_builtFrom none).size
  stores := ⟨none, snapshot_ofOptions o locator, snapshot_ofOptions o' locator⟩

variable {p p' : Provider} (h : SameButSecrets p p')

include h

theorem recordLoad (label : String) :
    SameButSecrets (p.recordLoad label) (p'.recordLoad label) :=
  { h with metrics := congrArg (Metrics.recordLoad · label) h.metrics }

theorem fetched (e e' : Option Environment) : SameButSecrets (p.fetched e) (p'.fetched e') where
  options := h.options
  timeout := h.timeout
  locator := h.locator
  metrics := h.metrics
  stores := h.stores

theorem publish (e : Environment) : SameButSecrets (p.publish e) (p'.publish e) := by
  obtain ⟨source, hsnapshot, hsnapshot'⟩ := h.stores
  have hempty : (p.snapshot.diff (builtFrom p.options (some e))).isEmpty ↔
      (p'.snapshot.diff (builtFrom p'.options (some e))).isEmpty := by
    rw [hsnapshot, hsnapshot',
      Snapshot.isEmpty_diff_iff (wellFormed_builtFrom ..) (wellFormed_builtFrom ..),
      Snapshot.isEmpty_diff_iff (wellFormed_builtFrom ..) (wellFormed_builtFrom ..)]
    exact h.options.sameContent_iff source (some e)
  rw [publish_eq, publish_eq]
  by_cases hsame : (p.snapshot.diff (builtFrom p.options (some e))).isEmpty
  · rw [if_pos hsame, if_pos (hempty.1 hsame)]
    exact h
  · rw [if_neg hsame, if_neg (mt hempty.2 hsame)]
    have hsize := (h.options.sameButSecrets_builtFrom (some e)).size
    constructor
    · exact h.options
    · exact h.timeout
    · exact h.locator
    · simp only [hsize, h.metrics]
    · exact ⟨some e, by unfold snapshot; with_reducible rfl, by unfold snapshot; with_reducible rfl⟩

/-- The attempts end in the same result. -/
theorem conclude (update : Bool) (located : Except LoadError WalkOutcome) :
    (p.conclude update located).1 = (p'.conclude update located).1 ∧
      SameButSecrets (p.conclude update located).2 (p'.conclude update located).2 := by
  have hname := h.options.apply_eq ClientOptions.name fun _ _ => rfl
  have henv := h.options.apply_eq ClientOptions.env fun _ _ => rfl
  have hfailFast := h.options.apply_eq ClientOptions.failFast fun _ _ => rfl
  have hfetched (e : Option Environment) := h.fetched e e
  unfold Provider.conclude
  rcases located with e | ⟨e | _ | failures⟩
  · exact ⟨rfl, h.recordLoad _⟩
  · cases update with
    | false => exact ⟨rfl, (hfetched _).recordLoad _⟩
    | true =>
      simp only [if_true, true_and]
      exact ((hfetched _).publish e).recordLoad _
  · have hoptions (p : Provider) : (p.fetched none).options = p.options := rfl
    simp only [hoptions, ← hname, ← henv, ← hfailFast]
    split
    · exact ⟨rfl, (hfetched _).recordLoad _⟩
    · exact ⟨rfl, (hfetched _).recordLoad _⟩
  · exact ⟨rfl, (hfetched _).recordLoad _⟩

theorem afterAttempts {metrics metrics' : Metrics} (hmetrics : metrics = metrics') :
    SameButSecrets (p.afterAttempts metrics) (p'.afterAttempts metrics') :=
  { h with metrics := hmetrics }

/-- The plans differ in what the requests carry. -/
theorem plan : LoadPlan.SameButHeaders p.plan p'.plan := by
  have hbases : p.baseAddresses = p'.baseAddresses := by
    unfold baseAddresses
    rw [h.locator]
    exact h.options.apply_eq (fun o => (Discovery.baseUris p'.locator o.discovery.enabled
      o.discovery.serviceId o.uris).1) fun _ _ => rfl
  have hsame := h.options.apply_eq (fun o => LoadPlan.ofAttempts
    (p'.walker.walkPlan p.baseAddresses o.labels) o.failFast (.start o.retry)
    (Backoff.start_canRetry o.retry)) fun _ _ => rfl
  rw [plan_eq, plan_eq, ← hbases]
  refine hsame ▸ Walker.sameButHeaders_ofAttempts ?_ ?_ ..
  · exact h.options.apply_eq ClientOptions.name fun _ _ => rfl
  · exact h.options.apply_eq ClientOptions.env fun _ _ => rfl

end SameButSecrets

/-- The replies that a load gets, unless it is cancelled. -/
def replies {σ : Type} (net : Servers σ) (p : Provider) (servers : σ) : List Reply :=
  (p.steps net .never servers).filterMap LoadStep.reply?

/-- With the same replies a load ends alike, and leaves the providers the same
except for the texts of secrets.  The servers may be others. -/
theorem SameButSecrets.load {σ τ : Type} {p p' : Provider} (h : SameButSecrets p p')
    (net : Servers σ) (net' : Servers τ) (update : Bool) (servers : σ) (servers' : τ)
    (hreplies : p.replies net servers = p'.replies net' servers') :
    (p.load net update .never servers).1 = (p'.load net' update .never servers').1 ∧
      SameButSecrets (p.load net update .never servers).2.1
        (p'.load net' update .never servers').2.1 := by
  have henabled := h.options.apply_eq ClientOptions.enabled fun _ _ => rfl
  by_cases hstarts : p.options.enabled = true
  · obtain ⟨hload, hsteps⟩ := p.load_of_started net update servers (c := .never) hstarts (by simp)
    obtain ⟨hload', hsteps'⟩ :=
      p'.load_of_started net' update servers' (c := .never) (henabled ▸ hstarts) (by simp)
    unfold replies at hreplies
    rw [hsteps, hsteps'] at hreplies
    obtain ⟨hlocated, hrun⟩ := h.plan.run h.timeout net net' servers servers' hreplies
    have hmetrics : p.metrics.noteSteps p.client (p.loadRun net .never servers).steps =
        p'.metrics.noteSteps p'.client (p'.loadRun net' .never servers').steps := by
      rw [← h.metrics]
      exact Metrics.noteSteps_sameButHeaders h.timeout hrun _
    obtain ⟨hresult, hleft⟩ :=
      (h.afterAttempts hmetrics).conclude update (p.loadRun net .never servers).located
    have hlocated' : (p.loadRun net .never servers).located =
      (p'.loadRun net' .never servers').located := hlocated
    rw [hload, hload']
    simp only [← hlocated']
    exact ⟨hresult, hleft⟩
  · obtain ⟨hload, -⟩ := p.load_of_not_started net update servers (c := .never)
      fun hs => absurd hs hstarts
    obtain ⟨hload', -⟩ := p'.load_of_not_started net' update servers' (c := .never)
      fun hs => absurd (henabled.trans hs) hstarts
    rw [hload, hload', ← henabled]
    exact ⟨rfl, h⟩

end Provider

end RemoteConfig
