import RemoteConfig.Proofs.Snapshot.Content

/-!
# Differences between snapshots

`Snapshot.diff` sorts the keys of two snapshots into those that are new, those
that are gone and those whose value is another one, and says nothing of the rest.

* `fold_mem_differing_iff` says which keys are listed, by what the two snapshots
  answer.
* `pairwise_differing` says that they are listed in the order of the folded
  keys, so that a list is determined by its members (`eq_of_pairwise_lt`).
* `map_fold_other_comm`, `disjoint_absent` and `disjoint_absent_other` compare the
  lists with each other.
* `map_shared_eq` finds the same keys shared by both snapshots from either side,
  which is what the count of keys, `size_add_length`, rests on.
* `diff_build` is the result, for every two snapshots that can be built.
-/

namespace RemoteConfig.Snapshot

/-! ## One entry -/

theorem difference_eq_absent_iff {old : TextMap Entry} {folded : String} {entry : Entry} :
    difference old folded entry = .absent ↔ old.get? folded = none := by
  unfold difference
  cases old.get? folded with
  | none => simp
  | some e =>
    simp only
    split <;> simp

theorem difference_eq_other_iff {old : TextMap Entry} {folded : String} {entry : Entry} :
    difference old folded entry = .other ↔
      ∃ e, old.get? folded = some e ∧ e.value ≠ entry.value := by
  unfold difference
  cases old.get? folded with
  | none => simp
  | some e =>
    by_cases hvalue : e.value = entry.value
    · simp [hvalue]
    · simp [hvalue]

/-! ## Lists of keys -/

/-- Keys in increasing order are determined by which keys they are. -/
theorem eq_of_pairwise_lt {l l' : List String} (h : l.Pairwise (· < ·))
    (h' : l'.Pairwise (· < ·)) (hmem : ∀ key, key ∈ l ↔ key ∈ l') : l = l' := by
  have hnodup {keys : List String} (hkeys : keys.Pairwise (· < ·)) : keys.Nodup := by
    refine List.Pairwise.imp ?_ hkeys
    intro a b hlt heq
    exact String.lt_irrefl a (heq ▸ hlt)
  have hperm : l.Perm l' := (List.perm_ext_iff_of_nodup (hnodup h) (hnodup h')).2 hmem
  refine List.Perm.eq_of_pairwise ?_ h h' hperm
  intro a b _ _ hab hba
  exact absurd (String.lt_trans hab hba) (String.lt_irrefl a)

section

variable {old new : Snapshot}

/-- The listed keys, folded, are keys of the entries. -/
theorem map_fold_differing (hnew : new.WellFormed) (d : Difference) (entries : TextMap Entry) :
    (differing d entries new.entries).map Text.fold =
      (new.entries.toList.filter fun p => difference entries p.1 p.2 = d).map (·.1) := by
  unfold differing
  rw [List.map_map]
  refine List.map_congr_left ?_
  intro p hp
  exact hnew.folded p (List.mem_of_mem_filter hp)

theorem pairwise_keys (hnew : new.WellFormed) (keep : String × Entry → Bool) :
    ((new.entries.toList.filter keep).map (·.1)).Pairwise (· < ·) := by
  rw [List.pairwise_map]
  exact List.Pairwise.filter keep hnew.ordered

/-- The keys that differ in one way are listed in the order of the folded keys. -/
theorem pairwise_differing (hnew : new.WellFormed) (d : Difference) (entries : TextMap Entry) :
    ((differing d entries new.entries).map Text.fold).Pairwise (· < ·) := by
  rw [map_fold_differing hnew]
  exact pairwise_keys hnew _

theorem mem_keys_iff (hnew : new.WellFormed) {keep : String × Entry → Bool} {folded : String} :
    folded ∈ (new.entries.toList.filter keep).map (·.1) ↔
      ∃ entry, new.entries.get? folded = some entry ∧ keep (folded, entry) = true := by
  simp only [List.mem_map, List.mem_filter]
  constructor
  · rintro ⟨⟨k, entry⟩, ⟨hmem, hkeep⟩, rfl⟩
    exact ⟨entry, hnew.ordered.get?_eq_some_iff.2 hmem, hkeep⟩
  · rintro ⟨entry, hget, hkeep⟩
    exact ⟨(folded, entry), ⟨TextMap.mem_of_get? hget, hkeep⟩, rfl⟩

theorem fold_mem_differing_iff (hnew : new.WellFormed) {d : Difference} {key : String} :
    Text.fold key ∈ (differing d old.entries new.entries).map Text.fold ↔
      ∃ entry, new.entries.get? (Text.fold key) = some entry ∧
        difference old.entries (Text.fold key) entry = d := by
  rw [map_fold_differing hnew, mem_keys_iff hnew]
  simp only [decide_eq_true_eq]

/-! ## Which keys are listed -/

theorem entries_get?_eq_none_iff {s : Snapshot} {key : String} :
    s.entries.get? (Text.fold key) = none ↔ s.get? key = none := by
  unfold get?
  rw [Option.map_eq_none_iff]

/-- The keys that only the second snapshot has. -/
theorem mem_absent_iff (hnew : new.WellFormed) {key : String} :
    Text.fold key ∈ (differing .absent old.entries new.entries).map Text.fold ↔
      old.get? key = none ∧ new.get? key ≠ none := by
  rw [fold_mem_differing_iff hnew]
  simp only [difference_eq_absent_iff, entries_get?_eq_none_iff]
  constructor
  · rintro ⟨entry, hentry, hold⟩
    refine ⟨hold, ?_⟩
    rw [ne_eq, ← entries_get?_eq_none_iff, hentry]
    exact Option.some_ne_none entry
  · rintro ⟨hold, hsome⟩
    rw [ne_eq, ← entries_get?_eq_none_iff, ← ne_eq, Option.ne_none_iff_exists'] at hsome
    obtain ⟨entry, hentry⟩ := hsome
    exact ⟨entry, hentry, hold⟩

/-- The keys that both snapshots have, with different values. -/
theorem mem_other_iff (hnew : new.WellFormed) {key : String} :
    Text.fold key ∈ (differing .other old.entries new.entries).map Text.fold ↔
      ∃ v w, old.get? key = some v ∧ new.get? key = some w ∧ v ≠ w := by
  rw [fold_mem_differing_iff hnew]
  simp only [difference_eq_other_iff]
  unfold get?
  constructor
  · rintro ⟨entry, hentry, e, he, hne⟩
    exact ⟨e.value, entry.value, by rw [he]; rfl, by rw [hentry]; rfl, hne⟩
  · rintro ⟨v, w, hv, hw, hne⟩
    obtain ⟨e, he, rfl⟩ := Option.map_eq_some_iff.1 hv
    obtain ⟨entry, hentry, rfl⟩ := Option.map_eq_some_iff.1 hw
    exact ⟨entry, hentry, e, he, hne⟩

/-- Every listed key is a folded key. -/
theorem exists_key_of_mem {keys : List String} {folded : String}
    (h : folded ∈ keys.map Text.fold) : ∃ key, folded = Text.fold key := by
  obtain ⟨key, -, rfl⟩ := List.mem_map.1 h
  exact ⟨key, rfl⟩

/-- The same keys have different values, from whichever side they are looked at. -/
theorem map_fold_other_comm (hold : old.WellFormed) (hnew : new.WellFormed) :
    (differing .other old.entries new.entries).map Text.fold =
      (differing .other new.entries old.entries).map Text.fold := by
  have himp {s t : Snapshot} (hs : s.WellFormed) (ht : t.WellFormed) (folded : String)
      (h : folded ∈ (differing .other s.entries t.entries).map Text.fold) :
      folded ∈ (differing .other t.entries s.entries).map Text.fold := by
    obtain ⟨key, rfl⟩ := exists_key_of_mem h
    obtain ⟨v, w, hv, hw, hne⟩ := (mem_other_iff ht).1 h
    exact (mem_other_iff hs).2 ⟨w, v, hw, hv, hne.symm⟩
  refine eq_of_pairwise_lt (pairwise_differing hnew _ _) (pairwise_differing hold _ _) ?_
  intro folded
  exact ⟨himp hold hnew folded, himp hnew hold folded⟩

/-- No key is only in the one snapshot and only in the other. -/
theorem disjoint_absent (hold : old.WellFormed) (hnew : new.WellFormed) :
    ((differing .absent old.entries new.entries).map Text.fold).Disjoint
      ((differing .absent new.entries old.entries).map Text.fold) := by
  intro folded hleft hright
  obtain ⟨key, rfl⟩ := exists_key_of_mem hleft
  exact ((mem_absent_iff hnew).1 hleft).2 ((mem_absent_iff hold).1 hright).1

/-- No key that only one snapshot has has different values in both. -/
theorem disjoint_absent_other (hnew : new.WellFormed) :
    ((differing .absent old.entries new.entries).map Text.fold).Disjoint
      ((differing .other old.entries new.entries).map Text.fold) := by
  intro folded hleft hright
  obtain ⟨key, rfl⟩ := exists_key_of_mem hleft
  obtain ⟨v, w, hv, -, -⟩ := (mem_other_iff hnew).1 hright
  rw [((mem_absent_iff hnew).1 hleft).1] at hv
  cases hv

/-! ## How many keys there are -/

/-- The entries whose key the other snapshot has too. -/
def shared (old new : TextMap Entry) : List (String × Entry) :=
  new.toList.filter fun p => difference old p.1 p.2 ≠ .absent

/-- Every entry is new or shared. -/
theorem size_eq_add_shared (old new : Snapshot) :
    new.size = (differing .absent old.entries new.entries).length +
      (shared old.entries new.entries).length := by
  unfold size TextMap.size differing shared
  rw [List.length_map, List.length_eq_length_filter_add
    (fun p => decide (difference old.entries p.1 p.2 = .absent))]
  simp only [decide_not]

theorem fold_mem_shared_iff (hnew : new.WellFormed) {folded : String} :
    folded ∈ (shared old.entries new.entries).map (·.1) ↔
      old.entries.get? folded ≠ none ∧ new.entries.get? folded ≠ none := by
  unfold shared
  rw [mem_keys_iff hnew]
  simp only [ne_eq, difference_eq_absent_iff, decide_eq_true_eq]
  constructor
  · rintro ⟨entry, hentry, hold⟩
    exact ⟨hold, by rw [hentry]; exact Option.some_ne_none entry⟩
  · rintro ⟨hold, hsome⟩
    obtain ⟨entry, hentry⟩ := Option.ne_none_iff_exists'.1 hsome
    exact ⟨entry, hentry, hold⟩

/-- The same keys are shared, from whichever side they are looked at. -/
theorem map_shared_eq (hold : old.WellFormed) (hnew : new.WellFormed) :
    (shared old.entries new.entries).map (·.1) = (shared new.entries old.entries).map (·.1) := by
  refine eq_of_pairwise_lt (pairwise_keys hnew _) (pairwise_keys hold _) ?_
  intro folded
  rw [fold_mem_shared_iff hnew, fold_mem_shared_iff hold, and_comm]

/-- What is gained and lost is the difference of the sizes. -/
theorem size_add_length (hold : old.WellFormed) (hnew : new.WellFormed) :
    new.size + (differing .absent new.entries old.entries).length =
      old.size + (differing .absent old.entries new.entries).length := by
  have hshared := congrArg List.length (map_shared_eq hold hnew)
  rw [List.length_map, List.length_map] at hshared
  have hforth := size_eq_add_shared old new
  have hback := size_eq_add_shared new old
  omega

end

/-- How two snapshots that are built in steps differ.

The three lists are in strictly increasing order of the folded keys and have no
key in common, up to case.  A key is listed as added if only the newer snapshot
has it, as removed if only the older one has it, and as changed if both have it
with different values.  All lists are empty exactly if both snapshots answer
alike for every key.  What is gained and lost is the difference of the counts of
keys.  In the other direction added and removed change places, and the same keys
are changed, up to case. -/
theorem diff_build (steps steps' : List BuildStep) :
    let old := build steps
    let new := build steps'
    let d := old.diff new
    let added := d.added.map Text.fold
    let removed := d.removed.map Text.fold
    let changed := d.changed.map Text.fold
    (added.Pairwise (· < ·) ∧ removed.Pairwise (· < ·) ∧ changed.Pairwise (· < ·)) ∧
    (added.Disjoint removed ∧ added.Disjoint changed ∧ removed.Disjoint changed) ∧
    (∀ key : String,
      (Text.fold key ∈ added ↔ old.get? key = none ∧ new.get? key ≠ none) ∧
      (Text.fold key ∈ removed ↔ new.get? key = none ∧ old.get? key ≠ none) ∧
      (Text.fold key ∈ changed ↔
        ∃ v w, old.get? key = some v ∧ new.get? key = some w ∧ v ≠ w)) ∧
    (d.isEmpty ↔ ∀ key, old.get? key = new.get? key) ∧
    new.size + d.removed.length = old.size + d.added.length ∧
    (d.removed = (new.diff old).added ∧ d.added = (new.diff old).removed) ∧
    changed = (new.diff old).changed.map Text.fold := by
  intro old new d added removed changed
  have hold : old.WellFormed := wellFormed_build steps
  have hnew : new.WellFormed := wellFormed_build steps'
  have hcomm : changed = (new.diff old).changed.map Text.fold := map_fold_other_comm hold hnew
  refine ⟨⟨?_, ?_, ?_⟩, ⟨?_, ?_, ?_⟩, ?_, isEmpty_diff_iff hold hnew, ?_, ⟨rfl, rfl⟩, hcomm⟩
  · exact pairwise_differing hnew _ _
  · exact pairwise_differing hold _ _
  · exact pairwise_differing hnew _ _
  · exact disjoint_absent hold hnew
  · exact disjoint_absent_other hnew
  · rw [hcomm]
    exact disjoint_absent_other hold
  · exact fun key => ⟨mem_absent_iff hnew, mem_absent_iff hold, mem_other_iff hnew⟩
  · exact size_add_length hold hnew

end RemoteConfig.Snapshot
