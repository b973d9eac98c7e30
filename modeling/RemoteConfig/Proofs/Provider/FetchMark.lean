import RemoteConfig.Proofs.Provider.Content
import RemoteConfig.Proofs.Snapshot.Precedence

/-!
# The mark of a fetch

A snapshot is marked if its remote part was fetched.  The mark does not belong
to the content, and a snapshot with the content of the current one is not
published: its mark is lost with it.  So the first mark comes with the first
environment that has more to say than the options.

* `Environment.AddsTo` says which environments do, in terms of their keys.
  `sameContent_builtFrom_iff` says that the others leave the content of the
  options as it is.
* `MarkHolds` is the invariant of runs, and `loaded_run` the result.
* `loaded_missed` is a run whose only load returns an environment and leaves no
  mark.
-/

namespace RemoteConfig

variable {σ : Type}

/-! ## Environments and options -/

/-- The environment has a key: that of its version or state, or one that a raw
key of a property source stands for. -/
def Environment.HasKey (e : Environment) (key : String) : Prop :=
  Snapshot.IsForced e key ∨
    ∃ t ∈ e.propertySources, ∃ p ∈ t.source.toList, Snapshot.StandsFor p.1 key

/-- The environment has a key that no option has, up to case. -/
def Environment.AddsTo (e : Environment) (o : ClientOptions) : Prop :=
  ∃ key, e.HasKey key ∧ ∀ p ∈ o.toPairs, Text.fold p.1 ≠ Text.fold key

theorem Environment.not_hasKey_iff (e : Environment) (key : String) :
    ¬ e.HasKey key ↔ (remotePart (some e)).get? key = none := by
  rw [remotePart, Snapshot.get?_merge .empty, Snapshot.get?_empty, Option.none_or,
    Option.or_eq_none_iff, Snapshot.forced?_eq_none_iff, List.findSome?_eq_none_iff, HasKey, not_or]
  simp only [Snapshot.firstValue?_eq_none, not_exists, not_and]

theorem get?_builtFrom (o : ClientOptions) (e : Option Environment) (key : String) :
    (builtFrom o e).get? key =
      (Snapshot.lastValue? o.toPairs key).or ((remotePart e).get? key) := by
  rw [builtFrom, Snapshot.get?_setAll]

/-- An environment makes no difference exactly if it adds nothing to the
options. -/
theorem sameContent_builtFrom_iff (o : ClientOptions) (e : Environment) :
    Snapshot.SameContent (builtFrom o (some e)) (builtFrom o none) ↔ ¬ e.AddsTo o := by
  unfold Environment.AddsTo
  rw [not_exists]
  refine forall_congr' fun key => ?_
  have hnone : (remotePart none).get? key = none := Snapshot.get?_empty key
  rw [get?_builtFrom, get?_builtFrom, hnone, Option.or_none, not_and',
    ← Snapshot.lastValue?_eq_none_iff, Environment.not_hasKey_iff]
  cases Snapshot.lastValue? o.toPairs key with
  | some v => simp
  | none => simp

/-! ## Runs -/

/-- Among these loads there is one that was to publish an environment with
something to add to the options. -/
def HasAdded (o : ClientOptions) (ended : List EndedLoad) : Prop :=
  ∃ l ∈ ended, ∃ e, l.published? = some e ∧ e.AddsTo o

theorem hasAdded_append_singleton (o : ClientOptions) (ended : List EndedLoad) (l : EndedLoad) :
    HasAdded o (ended ++ [l]) ↔
      HasAdded o ended ∨ ∃ e, l.published? = some e ∧ e.AddsTo o := by
  simp only [HasAdded, List.mem_append, List.mem_singleton, or_and_right, exists_or,
    exists_eq_left]

/-- The content is that of the options until something has been added to them. -/
theorem sameContent_of_not_hasAdded {o : ClientOptions} {ended : List EndedLoad}
    (h : ¬ HasAdded o ended) :
    Snapshot.SameContent (builtFrom o (lastPublished? ended)) (builtFrom o none) := by
  cases hlast : lastPublished? ended with
  | none => exact fun _ => rfl
  | some e =>
    obtain ⟨l, hl, hpublished⟩ := List.exists_of_findSome?_eq_some hlast
    refine (sameContent_builtFrom_iff o e).2 fun hadds => h ?_
    exact ⟨l, List.mem_reverse.1 hl, e, hpublished, hadds⟩

/-- Before something has been added, a snapshot differs from the current one
exactly if it is built from an environment with something to add. -/
theorem StoreHolds.isEmpty_diff_iff {o : ClientOptions} {ended : List EndedLoad} {p : Provider}
    (h : StoreHolds o ended p) (hnot : ¬ HasAdded o ended) (e : Environment) :
    (p.snapshot.diff (builtFrom o (some e))).isEmpty = true ↔ ¬ e.AddsTo o := by
  have hoptions (key : String) : p.snapshot.get? key = (builtFrom o none).get? key :=
    (h.content key).trans (sameContent_of_not_hasAdded hnot key)
  rw [Snapshot.isEmpty_diff_iff h.wellFormed (wellFormed_builtFrom o (some e)),
    ← sameContent_builtFrom_iff]
  exact forall_congr' fun key => by rw [hoptions, eq_comm]

/-- An update marks what is current as it marks what it builds, if it publishes
that. -/
theorem Store.loaded_update (s : Store) (build : Snapshot → Snapshot) :
    (s.update build).2.snapshot.loaded =
      if (s.snapshot.diff (build s.snapshot)).isEmpty then s.snapshot.loaded
      else (build s.snapshot).loaded := by
  unfold update
  simp only
  split <;> rfl

theorem loaded_builtFrom (o : ClientOptions) (e : Option Environment) :
    (builtFrom o e).loaded = e.isSome := by
  rw [builtFrom, Snapshot.loaded_setAll]
  cases e <;> rfl

/-- The current snapshot is marked exactly if something has been added to the
options. -/
structure MarkHolds (o : ClientOptions) (ended : List EndedLoad) (p : Provider) : Prop where
  store : StoreHolds o ended p
  loaded : p.snapshot.loaded = true ↔ HasAdded o ended

namespace MarkHolds

variable {o : ClientOptions} {ended : List EndedLoad} {p : Provider}

theorem ofOptions (o : ClientOptions) (locator : Option Locator) :
    MarkHolds o [] (.ofOptions o locator) where
  store := StoreHolds.ofOptions o locator
  loaded := by
    rw [snapshot_ofOptions, loaded_builtFrom]
    simp [HasAdded]

/-- The mark behind the publication of an environment. -/
theorem loaded_publish (h : MarkHolds o ended p) (e : Environment) :
    (p.store.update fun _ => builtFrom o (some e)).2.snapshot.loaded = true ↔
      HasAdded o ended ∨ e.AddsTo o := by
  rw [Store.loaded_update, loaded_builtFrom, Option.isSome_some]
  by_cases hadded : HasAdded o ended
  · -- What is current is marked, and so is what may take its place.
    have hmarked : p.store.snapshot.loaded = true := h.loaded.2 hadded
    rw [hmarked, ite_self]
    exact iff_of_true rfl (Or.inl hadded)
  · have hempty := h.store.isEmpty_diff_iff hadded e
    have hunmarked : p.store.snapshot.loaded = false :=
      Bool.eq_false_iff.2 fun hmarked => hadded (h.loaded.1 hmarked)
    rw [hunmarked, or_iff_right hadded]
    cases hdiff : (p.store.snapshot.diff (builtFrom o (some e))).isEmpty with
    | true => exact iff_of_false (by simp) (hempty.1 hdiff)
    | false =>
      refine iff_of_true rfl (Classical.byContradiction fun hnothing => ?_)
      exact Bool.false_ne_true (hdiff.symm.trans (hempty.2 hnothing))

theorem load (h : MarkHolds o ended p) (hoptions : p.options = o) (net : Servers σ)
    (call : LoadCall) (servers : σ) :
    MarkHolds o (ended ++ [call.ended net p servers])
      (p.load net call.update call.cancellation servers).2.1 where
  store := h.store.load hoptions net call servers
  loaded := by
    have hstore := p.load_store call.update net call.cancellation servers
    rw [hasAdded_append_singleton]
    unfold LoadCall.ended Provider.snapshot
    cases hpublished : EndedLoad.published? _ with
    | none =>
      rw [hpublished] at hstore
      rw [hstore]
      simpa [Provider.snapshot] using h.loaded
    | some e =>
      rw [hpublished] at hstore
      simp only [hoptions, snapshotFor_eq, Store.replace_eq_update] at hstore
      simp only [hstore, Option.some.injEq, exists_eq_left']
      exact h.loaded_publish e

theorem isInvariant (net : Servers σ) (o : ClientOptions) :
    IsInvariant net o (MarkHolds o) where
  load _ _ call servers hoptions h := h.load hoptions net call servers
  flags _ _ _ _ h := ⟨⟨h.store.wellFormed, h.store.content⟩, h.loaded⟩
  clientOptions _ _ hoptions h := by
    rw [h.store.addClientOptions_eq_self hoptions]
    exact h

theorem run (o : ClientOptions) (locator : Option Locator) (net : Servers σ)
    (ops : List (Operation σ)) (servers : σ) :
    MarkHolds o (loads net ops (.ofOptions o locator, servers))
      (RemoteConfig.run net ops (.ofOptions o locator, servers)).1 :=
  (isInvariant net o).run locator (ofOptions o locator) ops servers

end MarkHolds

/-- After every run the current snapshot is marked as fetched exactly if a load
that was to publish it returned an environment with a key that no option has.
Environments without sources, keys and version, or with keys of options only,
leave no mark. -/
theorem loaded_run (o : ClientOptions) (locator : Option Locator) (net : Servers σ)
    (ops : List (Operation σ)) (servers : σ) :
    let start := (Provider.ofOptions o locator, servers)
    (run net ops start).1.snapshot.loaded = true ↔
      ∃ l ∈ loads net ops start, ∃ e, l.published? = some e ∧ e.AddsTo o :=
  (MarkHolds.run o locator net ops servers).loaded

/-! ## A fetch without a mark -/

/-- Servers that answer every request with an environment of this name and
nothing else. -/
def namingServers : Servers Unit where
  reply _ s := (.answer 200 none (Text.bytes "\x7b\"name\":\"a\"\x7d"), s)

/-- An environment with nothing but a name has no key. -/
theorem not_addsTo_name (name : String) (o : ClientOptions) :
    ¬ Environment.AddsTo { name } o := by
  rintro ⟨key, (⟨-, v, hversion, -⟩ | ⟨-, v, hstate, -⟩) | ⟨t, ht, -⟩, -⟩
  · cases hversion
  · cases hstate
  · cases ht

/-- The only load was to publish what it found, and returned an environment. -/
theorem loaded_missed :
    let o : ClientOptions := { uri := "http://[::1]" }
    let start : Provider × Unit := (.ofOptions o, ())
    let ops : List (Operation Unit) := [.load true .never]
    (loads namingServers ops start).map (·.published?) = [some { name := "a" }] ∧
      (run namingServers ops start).1.snapshot.loaded = false := by
  intro o start ops
  have hpublished : (loads namingServers ops start).map (·.published?) =
      [some { name := "a" }] := by
    decide +kernel
  refine ⟨hpublished, Bool.eq_false_iff.2 fun hloaded => ?_⟩
  obtain ⟨l, hl, e, he, hadds⟩ := (MarkHolds.run o none namingServers ops ()).loaded.1 hloaded
  have hmem : some e ∈ (loads namingServers ops start).map (·.published?) :=
    List.mem_map.2 ⟨l, hl, he⟩
  rw [hpublished, List.mem_singleton, Option.some.injEq] at hmem
  exact not_addsTo_name "a" _ (hmem ▸ hadds)

end RemoteConfig
