import RemoteConfig.Proofs.Provider.Run
import RemoteConfig.Proofs.Snapshot.Content

/-!
# The content of a provider's store

What the store answers is fixed by the options and by the most recent load that
was to update it and returned an environment.

* `Store.sameContent_update` says that a snapshot that is not published makes
  no difference.
* `StoreHolds` is the invariant of runs, with the representation invariant of
  the snapshot, which the setting of options needs.
* `get?_run` is the result.
-/

namespace RemoteConfig

variable {σ : Type}

/-! ## Publishing -/

namespace Store

theorem replace_eq_update (s : Store) (next : Snapshot) :
    s.replace next = s.update fun _ => next := rfl

/-- An update leaves the content that was built, published or not. -/
theorem sameContent_update (s : Store) (build : Snapshot → Snapshot) :
    Snapshot.SameContent (s.update build).2.snapshot (build s.snapshot) := by
  unfold update
  simp only
  split
  · rename_i hempty
    exact Snapshot.sameContent_of_diff hempty
  · exact fun _ => rfl

theorem wellFormed_update {s : Store} (h : s.snapshot.WellFormed) {build : Snapshot → Snapshot}
    (hbuild : (build s.snapshot).WellFormed) : (s.update build).2.snapshot.WellFormed := by
  unfold update
  simp only
  split
  · exact h
  · exact hbuild

end Store

namespace Provider

/-- What the setting of options builds from a snapshot. -/
def withOptions (o : ClientOptions) (current : Snapshot) : Snapshot :=
  ((({} : Snapshot).setAll current.pairs).setAll o.toPairs).withLoaded current.loaded

theorem snapshot_addClientOptions (p : Provider) :
    p.addClientOptions.snapshot = (p.store.update (withOptions p.options)).2.snapshot := by
  unfold addClientOptions snapshot withOptions
  simp only
  split <;> with_reducible rfl

theorem get?_withOptions (o : ClientOptions) {current : Snapshot} (h : current.WellFormed)
    (key : String) : (withOptions o current).get? key = (current.setAll o.toPairs).get? key := by
  have hloaded : (withOptions o current).get? key =
      ((({} : Snapshot).setAll current.pairs).setAll o.toPairs).get? key := by
    unfold withOptions Snapshot.get? Snapshot.withLoaded
    with_reducible rfl
  rw [hloaded, Snapshot.get?_setAll, Snapshot.get?_setAll, Snapshot.lastValue?_pairs h,
    Snapshot.get?_empty, Option.or_none, ← Snapshot.get?_setAll]

theorem wellFormed_withOptions (o : ClientOptions) (current : Snapshot) :
    (withOptions o current).WellFormed :=
  ((Snapshot.WellFormed.empty.setAll _).setAll _).withLoaded _

end Provider

/-! ## The content after loads -/

/-- The environment of the most recent load that was to publish one. -/
def lastPublished? (ended : List EndedLoad) : Option Environment :=
  ended.reverse.findSome? EndedLoad.published?

/-- The part of a snapshot that comes from servers. -/
def remotePart : Option Environment → Snapshot
  | some e => ({} : Snapshot).merge e
  | none => {}

/-- The snapshot that is built from an environment, or from none, and the
options. -/
def builtFrom (o : ClientOptions) (e : Option Environment) : Snapshot :=
  (remotePart e).setAll o.toPairs

theorem snapshotFor_eq (o : ClientOptions) (e : Environment) :
    Provider.snapshotFor o e = builtFrom o (some e) := by
  unfold Provider.snapshotFor builtFrom remotePart
  with_reducible rfl

theorem lastPublished?_nil : lastPublished? [] = none := rfl

theorem lastPublished?_append_singleton (ended : List EndedLoad) (l : EndedLoad) :
    lastPublished? (ended ++ [l]) = l.published?.or (lastPublished? ended) := by
  unfold lastPublished?
  rw [List.reverse_append, List.reverse_singleton, List.singleton_append, List.findSome?_cons]
  cases l.published? <;> rfl

theorem wellFormed_builtFrom (o : ClientOptions) (e : Option Environment) :
    (builtFrom o e).WellFormed := by
  have hremote : (remotePart e).WellFormed := by
    cases e with
    | some e => exact Snapshot.WellFormed.empty.merge e
    | none => exact Snapshot.WellFormed.empty
  exact hremote.setAll o.toPairs

theorem snapshot_ofOptions (o : ClientOptions) (locator : Option Locator) :
    (Provider.ofOptions o locator).snapshot = builtFrom o none := by
  unfold Provider.ofOptions Provider.snapshot builtFrom remotePart
  with_reducible rfl

/-- The options are in every snapshot that is built: setting them again makes no
difference. -/
theorem get?_setAll_builtFrom (o : ClientOptions) (e : Option Environment) (key : String) :
    ((builtFrom o e).setAll o.toPairs).get? key = (builtFrom o e).get? key := by
  unfold builtFrom
  rw [Snapshot.get?_setAll, Snapshot.get?_setAll]
  cases Snapshot.lastValue? o.toPairs key <;> rfl

/-- The store of a provider holds what its loads have published. -/
structure StoreHolds (o : ClientOptions) (ended : List EndedLoad) (p : Provider) : Prop where
  wellFormed : p.snapshot.WellFormed
  content : p.snapshot.SameContent (builtFrom o (lastPublished? ended))

namespace StoreHolds

variable {o : ClientOptions} {ended : List EndedLoad} {p : Provider}

theorem ofOptions (o : ClientOptions) (locator : Option Locator) :
    StoreHolds o [] (.ofOptions o locator) where
  wellFormed := by
    rw [snapshot_ofOptions]
    exact wellFormed_builtFrom o none
  content key := by
    rw [snapshot_ofOptions, lastPublished?_nil]

/-- What was to be published replaces the store, and nothing else does. -/
theorem append (h : StoreHolds o ended p) {l : EndedLoad} {q : Provider}
    (hstore : q.store =
      match l.published? with
      | some e => (p.store.replace (Provider.snapshotFor o e)).2
      | none => p.store) : StoreHolds o (ended ++ [l]) q := by
  cases hpublished : l.published? with
  | none =>
    rw [hpublished] at hstore
    constructor
    · unfold Provider.snapshot
      rw [hstore]
      exact h.wellFormed
    · unfold Provider.snapshot
      rw [hstore, lastPublished?_append_singleton, hpublished, Option.none_or]
      exact h.content
  | some e =>
    rw [hpublished] at hstore
    simp only [snapshotFor_eq] at hstore
    constructor
    · unfold Provider.snapshot
      rw [hstore, Store.replace_eq_update]
      exact Store.wellFormed_update h.wellFormed (wellFormed_builtFrom o (some e))
    · unfold Provider.snapshot
      rw [hstore, Store.replace_eq_update, lastPublished?_append_singleton, hpublished,
        Option.some_or]
      exact Store.sameContent_update p.store fun _ => builtFrom o (some e)

theorem load (h : StoreHolds o ended p) (hoptions : p.options = o) (net : Servers σ)
    (call : LoadCall) (servers : σ) :
    StoreHolds o (ended ++ [call.ended net p servers])
      (p.load net call.update call.cancellation servers).2.1 :=
  h.append (hoptions ▸ p.load_store call.update net call.cancellation servers)

theorem conclude (h : StoreHolds o ended p) (hoptions : p.options = o) (update : Bool)
    (located : Except LoadError WalkOutcome) :
    StoreHolds o (ended ++ [⟨update, (p.conclude update located).1⟩])
      (p.conclude update located).2 :=
  h.append (hoptions ▸ p.conclude_store update located)

/-- The options have won already: setting them again makes no difference. -/
theorem get?_withOptions (h : StoreHolds o ended p) (key : String) :
    (Provider.withOptions o p.snapshot).get? key = p.snapshot.get? key :=
  calc (Provider.withOptions o p.snapshot).get? key
    _ = (p.snapshot.setAll o.toPairs).get? key := Provider.get?_withOptions o h.wellFormed key
    _ = ((builtFrom o (lastPublished? ended)).setAll o.toPairs).get? key := by
      rw [Snapshot.get?_setAll, h.content key, ← Snapshot.get?_setAll]
    _ = (builtFrom o (lastPublished? ended)).get? key := get?_setAll_builtFrom o _ key
    _ = p.snapshot.get? key := (h.content key).symm

theorem addClientOptions (h : StoreHolds o ended p) (hoptions : p.options = o) :
    StoreHolds o ended p.addClientOptions where
  wellFormed := by
    rw [Provider.snapshot_addClientOptions]
    exact Store.wellFormed_update h.wellFormed (Provider.wellFormed_withOptions _ _)
  content key := by
    rw [Provider.snapshot_addClientOptions, Store.sameContent_update, hoptions]
    exact (h.get?_withOptions key).trans (h.content key)

/-- So nothing is published. -/
theorem update_withOptions (h : StoreHolds o ended p) :
    ∃ diff : SnapshotDiff, diff.isEmpty ∧
      p.store.update (Provider.withOptions o) = (diff, p.store) := by
  have hempty : (p.store.snapshot.diff (Provider.withOptions o p.store.snapshot)).isEmpty :=
    (Snapshot.isEmpty_diff_iff h.wellFormed (Provider.wellFormed_withOptions _ _)).2 fun key =>
      (h.get?_withOptions key).symm
  exact ⟨_, hempty, if_pos hempty⟩

theorem addClientOptions_eq_self (h : StoreHolds o ended p) (hoptions : p.options = o) :
    p.addClientOptions = p := by
  subst hoptions
  obtain ⟨diff, hempty, hupdate⟩ := h.update_withOptions
  unfold Provider.withOptions at hupdate
  unfold Provider.addClientOptions
  rw [hupdate]
  exact if_pos hempty

theorem isInvariant (net : Servers σ) (o : ClientOptions) :
    IsInvariant net o (StoreHolds o) where
  load _ _ call servers hoptions h := h.load hoptions net call servers
  flags _ _ _ _ h := ⟨h.wellFormed, h.content⟩
  clientOptions _ _ hoptions h := h.addClientOptions hoptions

end StoreHolds

/-! ## Runs -/

/-- After every run the store answers as a snapshot does that is built from the
environment of the most recent load that was to publish one, and the options.
An operation that publishes nothing, or that environment again, changes no
answer. -/
theorem get?_run (o : ClientOptions) (locator : Option Locator) (net : Servers σ)
    (ops : List (Operation σ)) (servers : σ) (key : String) :
    let start := (Provider.ofOptions o locator, servers)
    let last := lastPublished? (loads net ops start)
    (run net ops start).1.snapshot.get? key = (builtFrom o last).get? key ∧
    ∀ op : Operation σ, (∀ l, op.ended? net (run net ops start) = some l →
        l.published? = none ∨ l.published? = last) →
      (op.apply net (run net ops start)).1.snapshot.get? key =
        (run net ops start).1.snapshot.get? key := by
  intro start last
  have hinv := StoreHolds.isInvariant net o
  have hcontent (ops : List (Operation σ)) :
      (run net ops start).1.snapshot.get? key =
        (builtFrom o (lastPublished? (loads net ops start))).get? key :=
    (hinv.run locator (StoreHolds.ofOptions o locator) ops servers).content key
  refine ⟨hcontent ops, ?_⟩
  intro op hop
  have hsame : lastPublished? (loads net (ops ++ [op]) start) = last := by
    rw [loads_append_singleton]
    cases hended : op.ended? net (run net ops start) with
    | none => rw [Option.toList_none, List.append_nil]
    | some l =>
      rw [Option.toList_some, lastPublished?_append_singleton]
      rcases hop l hended with h | h
      · rw [h, Option.none_or]
      · rw [h, Option.or_self]
  rw [← run_append_singleton, hcontent, hcontent, hsame]

end RemoteConfig
