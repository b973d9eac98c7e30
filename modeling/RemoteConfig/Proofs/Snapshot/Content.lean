import RemoteConfig.Proofs.TextMap
import RemoteConfig.Snapshot

/-!
# The content of snapshots

The content of a snapshot is what `Snapshot.get?` answers.  Spellings of keys
and the mark of a fetch do not belong to it.

* `get?_setAll` gives the content after pairs were set: the last pair with a
  key wins over what was there.
* `WellFormed` is the representation invariant of snapshots.  Every step that
  builds a snapshot keeps it (`wellFormed_build`), and `lastValue?_pairs` uses
  it: a snapshot that is rebuilt from its own pairs has the same content.
* `sameContent_of_diff` says that nothing is lost when a snapshot without a
  difference is not published, and `isEmpty_diff_iff` that only then there is
  none.
-/

namespace RemoteConfig.Snapshot

/-- Both snapshots answer alike for every key. -/
def SameContent (s s' : Snapshot) : Prop :=
  ∀ key, s.get? key = s'.get? key

/-- The value of the last pair with a key, up to case. -/
def lastValue? (pairs : List (String × String)) (key : String) : Option String :=
  (pairs.reverse.find? fun p => Text.fold p.1 = Text.fold key).map (·.2)

/-! ## Setting -/

theorem get?_empty (key : String) : ({} : Snapshot).get? key = none := rfl

theorem get?_set (s : Snapshot) (k value key : String) :
    (s.set k value).get? key = if Text.fold k = Text.fold key then some value else s.get? key := by
  unfold get? set
  rw [TextMap.get?_insert]
  split <;> rfl

theorem lastValue?_cons (p : String × String) (pairs : List (String × String)) (key : String) :
    lastValue? (p :: pairs) key =
      (lastValue? pairs key).or (if Text.fold p.1 = Text.fold key then some p.2 else none) := by
  unfold lastValue?
  rw [List.reverse_cons, List.find?_append]
  cases pairs.reverse.find? fun p => Text.fold p.1 = Text.fold key with
  | some q => rfl
  | none => by_cases h : Text.fold p.1 = Text.fold key <;> simp [h]

theorem get?_setAll (s : Snapshot) (pairs : List (String × String)) (key : String) :
    (s.setAll pairs).get? key = (lastValue? pairs key).or (s.get? key) := by
  induction pairs generalizing s with
  | nil => rfl
  | cons p pairs ih =>
    rw [setAll, List.foldl_cons]
    change ((s.set p.1 p.2).setAll pairs).get? key = _
    rw [ih, get?_set, lastValue?_cons]
    cases lastValue? pairs key with
    | some v => rfl
    | none => by_cases h : Text.fold p.1 = Text.fold key <;> simp [h]

theorem lastValue?_eq_none_iff {pairs : List (String × String)} {key : String} :
    lastValue? pairs key = none ↔ ∀ p ∈ pairs, Text.fold p.1 ≠ Text.fold key := by
  simp [lastValue?]

/-- If all pairs with a key have one value, it is that of the last one. -/
theorem lastValue?_eq_some {pairs : List (String × String)} {p : String × String} {key : String}
    (hp : p ∈ pairs) (hkey : Text.fold p.1 = Text.fold key)
    (hvalue : ∀ q ∈ pairs, Text.fold q.1 = Text.fold key → q.2 = p.2) :
    lastValue? pairs key = some p.2 := by
  cases hlast : lastValue? pairs key with
  | none => exact absurd hkey (lastValue?_eq_none_iff.1 hlast p hp)
  | some v =>
    obtain ⟨q, hfind, rfl⟩ := Option.map_eq_some_iff.1 hlast
    have hq := List.mem_reverse.1 (List.mem_of_find?_eq_some hfind)
    rw [hvalue q hq (by simpa using List.find?_some hfind)]

/-- A pair that no later one has the key of is the last one with its key. -/
theorem lastValue?_append_cons {before after : List (String × String)} {p : String × String}
    (hlast : ∀ q ∈ after, Text.fold q.1 ≠ Text.fold p.1) {key : String}
    (hkey : Text.fold p.1 = Text.fold key) : lastValue? (before ++ p :: after) key = some p.2 := by
  have hafter : after.reverse.find? (fun q => Text.fold q.1 = Text.fold key) = none := by
    rw [List.find?_eq_none]
    intro q hq
    simpa [← hkey] using hlast q (List.mem_reverse.1 hq)
  unfold lastValue?
  rw [List.reverse_append, List.reverse_cons, List.append_assoc, List.find?_append, hafter]
  simp [hkey]

/-- The mark of a fetch is not touched. -/
theorem loaded_setAll (s : Snapshot) (pairs : List (String × String)) :
    (s.setAll pairs).loaded = s.loaded := by
  induction pairs generalizing s with
  | nil => rfl
  | cons p pairs ih => exact ih (s.set p.1 p.2)

/-! ## The representation invariant -/

/-- Entries stand in order under the folded spelling of their keys. -/
structure WellFormed (s : Snapshot) : Prop where
  ordered : s.entries.Ordered
  folded : ∀ p ∈ s.entries.toList, Text.fold p.2.key = p.1

namespace WellFormed

variable {s : Snapshot}

theorem empty : WellFormed {} :=
  ⟨TextMap.ordered_empty, by simp [TextMap.empty]⟩

theorem set (h : s.WellFormed) (key value : String) : (s.set key value).WellFormed where
  ordered := h.ordered.insert _ _
  folded p hp := by
    rcases TextMap.mem_insertPair hp with rfl | ⟨old, -, rfl⟩ | hp
    · rfl
    · rfl
    · exact h.folded p hp

theorem setIfAbsent (h : s.WellFormed) (key value : String) :
    (s.setIfAbsent key value).WellFormed where
  ordered := h.ordered.insertIfAbsent _ _
  folded p hp := by
    rcases TextMap.mem_insertPair hp with rfl | ⟨old, hold, rfl⟩ | hp
    · rfl
    · exact h.folded _ hold
    · exact h.folded p hp

theorem setAll (h : s.WellFormed) (pairs : List (String × String)) :
    (s.setAll pairs).WellFormed := by
  induction pairs generalizing s with
  | nil => exact h
  | cons p pairs ih => exact ih (h.set p.1 p.2)

theorem setOptional (h : s.WellFormed) (key : String) (value : Option String) :
    (s.setOptional key value).WellFormed := by
  cases value with
  | none => exact h
  | some value =>
    by_cases hempty : value.isEmpty
    · rw [Snapshot.setOptional, if_pos hempty]
      exact h
    · rw [Snapshot.setOptional, if_neg hempty]
      exact h.set key value

theorem mergeSource (h : s.WellFormed) (source : PropertySource) :
    (s.mergeSource source).WellFormed := by
  unfold Snapshot.mergeSource
  induction source.source.toList generalizing s with
  | nil => exact h
  | cons p pairs ih => exact ih (h.setIfAbsent _ _)

theorem withLoaded (h : s.WellFormed) (loaded : Bool) : (s.withLoaded loaded).WellFormed :=
  ⟨h.ordered, h.folded⟩

theorem merge (h : s.WellFormed) (e : Environment) : (s.merge e).WellFormed := by
  have hsources : (e.propertySources.foldl Snapshot.mergeSource s).WellFormed := by
    induction e.propertySources generalizing s with
    | nil => exact h
    | cons source sources ih => exact ih (h.mergeSource source)
  exact ((hsources.setOptional _ _).setOptional _ _).withLoaded true

end WellFormed

/-! ## Building in steps -/

/-- A step in which a snapshot is built. -/
inductive BuildStep where
  | merge (e : Environment)
  | setAll (pairs : List (String × String))
  | withLoaded (loaded : Bool)

def BuildStep.apply (s : Snapshot) : BuildStep → Snapshot
  | merge e => s.merge e
  | setAll pairs => s.setAll pairs
  | withLoaded loaded => s.withLoaded loaded

/-- The snapshot that is built in these steps from an empty one. -/
def build (steps : List BuildStep) : Snapshot :=
  steps.foldl BuildStep.apply {}

theorem WellFormed.applyStep {s : Snapshot} (h : s.WellFormed) (step : BuildStep) :
    (step.apply s).WellFormed := by
  cases step with
  | merge e => exact h.merge e
  | setAll pairs => exact h.setAll pairs
  | withLoaded loaded => exact h.withLoaded loaded

theorem wellFormed_build (steps : List BuildStep) : (build steps).WellFormed := by
  suffices h : ∀ s : Snapshot, s.WellFormed → (steps.foldl BuildStep.apply s).WellFormed from
    h {} .empty
  induction steps with
  | nil => exact fun s h => h
  | cons step steps ih => exact fun s h => ih _ (h.applyStep step)

/-! ## Rebuilding from pairs -/

/-- A pair with a key, up to case, comes from the entry that is looked up. -/
theorem get?_of_mem_pairs {s : Snapshot} (h : s.WellFormed) {p : String × String}
    (hp : p ∈ s.pairs) {key : String} (hkey : Text.fold p.1 = Text.fold key) :
    s.get? key = some p.2 := by
  obtain ⟨⟨k, entry⟩, hmem, rfl⟩ := List.mem_map.1 hp
  have hk : k = Text.fold key := (h.folded _ hmem).symm.trans hkey
  unfold get?
  rw [h.ordered.get?_eq_some_iff.2 (hk ▸ hmem)]
  rfl

/-- What is looked up stands in a pair with the key, up to case. -/
theorem exists_mem_pairs_of_get? {s : Snapshot} (h : s.WellFormed) {key value : String}
    (hvalue : s.get? key = some value) :
    ∃ p ∈ s.pairs, Text.fold p.1 = Text.fold key ∧ p.2 = value := by
  obtain ⟨entry, hentry, rfl⟩ := Option.map_eq_some_iff.1 hvalue
  have hmem := TextMap.mem_of_get? hentry
  exact ⟨_, List.mem_map_of_mem hmem, h.folded _ hmem, rfl⟩

/-- A snapshot that is built from the pairs of another one has its content. -/
theorem lastValue?_pairs {s : Snapshot} (h : s.WellFormed) (key : String) :
    lastValue? s.pairs key = s.get? key := by
  unfold lastValue?
  cases hfind : s.pairs.reverse.find? fun p => Text.fold p.1 = Text.fold key with
  | some p =>
    have hp := List.mem_reverse.1 (List.mem_of_find?_eq_some hfind)
    exact (get?_of_mem_pairs h hp (by simpa using List.find?_some hfind)).symm
  | none =>
    cases hget : s.entries.get? (Text.fold key) with
    | none => simp [get?, hget]
    | some entry =>
      have hmem := TextMap.mem_of_get? hget
      have hpair : (entry.key, entry.value) ∈ s.pairs := List.mem_map.2 ⟨_, hmem, rfl⟩
      have hnot := List.find?_eq_none.1 hfind _ (List.mem_reverse.2 hpair)
      exact absurd (h.folded _ hmem) (by simpa using hnot)

/-! ## Differences -/

theorem differing_eq_nil_iff {d : Difference} {old new : TextMap Entry} :
    differing d old new = [] ↔ ∀ p ∈ new.toList, difference old p.1 p.2 ≠ d := by
  simp [differing]

/-- Without a difference there is none in content. -/
theorem sameContent_of_diff {old new : Snapshot} (h : (old.diff new).isEmpty) :
    SameContent old new := by
  simp only [SnapshotDiff.isEmpty, diff, Bool.and_eq_true, List.isEmpty_iff,
    differing_eq_nil_iff] at h
  obtain ⟨⟨hadded, hremoved⟩, hchanged⟩ := h
  intro key
  unfold get?
  cases hnew : new.entries.get? (Text.fold key) with
  | some entry =>
    have habsent := hadded _ (TextMap.mem_of_get? hnew)
    have hother := hchanged _ (TextMap.mem_of_get? hnew)
    unfold difference at habsent hother
    split at habsent
    · rename_i e he
      simp only [he] at hother ⊢
      split at hother
      · rename_i hvalue
        simp [hvalue]
      · exact absurd rfl hother
    · exact absurd rfl habsent
  | none =>
    cases hold : old.entries.get? (Text.fold key) with
    | none => rfl
    | some entry =>
      have hremoved := hremoved _ (TextMap.mem_of_get? hold)
      simp [difference, hnew] at hremoved

/-- An entry does not differ from what has the same content. -/
theorem SameContent.difference_eq {s s' : Snapshot} (hsame : s'.SameContent s)
    (h : s.WellFormed) {p : String × Entry} (hp : p ∈ s.entries.toList) :
    difference s'.entries p.1 p.2 = .none := by
  have hget := hsame p.2.key
  unfold get? at hget
  rw [h.folded p hp, h.ordered.get?_eq_some_iff.2 hp] at hget
  obtain ⟨e, he, hvalue⟩ := Option.map_eq_some_iff.1 hget
  rw [difference, he]
  exact if_pos hvalue

/-- There is no difference exactly if there is none in content. -/
theorem isEmpty_diff_iff {old new : Snapshot} (hold : old.WellFormed) (hnew : new.WellFormed) :
    (old.diff new).isEmpty ↔ SameContent old new := by
  refine ⟨sameContent_of_diff, fun hsame => ?_⟩
  simp only [SnapshotDiff.isEmpty, diff, Bool.and_eq_true, List.isEmpty_iff, differing_eq_nil_iff]
  have hforth {p} := hsame.difference_eq hnew (p := p)
  have hback {p} := SameContent.difference_eq (fun key => (hsame key).symm) hold (p := p)
  exact ⟨⟨fun p hp => by simp [hforth hp], fun p hp => by simp [hback hp]⟩,
    fun p hp => by simp [hforth hp]⟩

end RemoteConfig.Snapshot
