import RemoteConfig.Proofs.Snapshot.Children

/-!
# The pairs of snapshots

A snapshot is iterated over by its pairs, in the order of the folded keys.  The
representation invariant says what that iteration is worth.

* `pairwise_pairs` says that the folded keys of the pairs increase, and
  `get?_eq_some_iff` that a look-up answers what stands in a pair.
* `entries_setAll_pairs` rebuilds the entries from the pairs.  It is more than
  `lastValue?_pairs`, which only compares answers: spellings and places are the
  same too.
* `iteration_build` is the result, for every snapshot that can be built.
-/

namespace RemoteConfig.Snapshot

/-- Setting pairs is putting their entries into the map. -/
theorem entries_setAll (s : Snapshot) (pairs : List (String × String)) :
    (s.setAll pairs).entries =
      (pairs.map entryOf).foldl (fun m p => m.insert p.1 p.2) s.entries := by
  induction pairs generalizing s with
  | nil => rfl
  | cons p pairs ih => exact ih (s.set p.1 p.2)

section

variable {s : Snapshot}

/-- The entries are those of the pairs. -/
theorem map_entryOf_pairs (h : s.WellFormed) : s.pairs.map entryOf = s.entries.toList := by
  unfold pairs
  rw [List.map_map]
  refine (List.map_congr_left fun p hp => ?_).trans (List.map_id _)
  exact Prod.ext (h.folded p hp) rfl

/-- The folded keys of the pairs increase. -/
theorem pairwise_pairs (h : s.WellFormed) :
    (s.pairs.map fun p => Text.fold p.1).Pairwise (· < ·) := by
  have hkeys : (s.pairs.map fun p => Text.fold p.1) = s.entries.toList.map (·.1) := by
    rw [← map_entryOf_pairs h, List.map_map]
    rfl
  rw [hkeys, List.pairwise_map]
  exact h.ordered

/-- No two pairs have the same key, up to case. -/
theorem pairwise_pairs_not_sameFolded (h : s.WellFormed) :
    s.pairs.Pairwise fun p q => Text.sameFolded p.1 q.1 = false := by
  refine (List.pairwise_map.1 (pairwise_pairs h)).imp fun {p q} hlt => ?_
  rw [Text.sameFolded, beq_eq_false_iff_ne]
  exact fun heq => String.lt_irrefl _ (heq ▸ hlt)

theorem length_pairs (s : Snapshot) : s.pairs.length = s.size :=
  List.length_map _

theorem get?_eq_some_iff (h : s.WellFormed) {key value : String} :
    s.get? key = some value ↔ ∃ p ∈ s.pairs, Text.sameFolded p.1 key ∧ p.2 = value := by
  simp only [Text.sameFolded, beq_iff_eq]
  constructor
  · exact exists_mem_pairs_of_get? h
  · rintro ⟨p, hp, hkey, rfl⟩
    exact get?_of_mem_pairs h hp hkey

/-- The entries are rebuilt from the pairs. -/
theorem entries_setAll_pairs (h : s.WellFormed) :
    (({} : Snapshot).setAll s.pairs).entries = s.entries := by
  rw [entries_setAll, map_entryOf_pairs h]
  exact h.ordered.ofList_of_perm (List.Perm.refl _)

end

/-- The representation of a snapshot that is built in steps, and its pairs.

Every entry stands under the folded form of the key that it spells.  The folded
keys of the pairs increase strictly, so that no two pairs have the same key up to
case; there are as many pairs as keys; and a key has the value of the pair that
has the key, up to case.  A snapshot that is built by setting the pairs has the
same pairs in the same order. -/
theorem iteration_build (steps : List BuildStep) :
    let s := build steps
    (∀ p ∈ s.entries.toList, p.1 = Text.fold p.2.key) ∧
    (s.pairs.map fun p => Text.fold p.1).Pairwise (· < ·) ∧
    (s.pairs.Pairwise fun p q => Text.sameFolded p.1 q.1 = false) ∧
    s.size = s.pairs.length ∧
    (∀ key value, s.get? key = some value ↔
      ∃ p ∈ s.pairs, Text.sameFolded p.1 key ∧ p.2 = value) ∧
    (build [.setAll s.pairs]).pairs = s.pairs := by
  intro s
  have h : s.WellFormed := wellFormed_build steps
  refine ⟨fun p hp => (h.folded p hp).symm, pairwise_pairs h, pairwise_pairs_not_sameFolded h,
    (length_pairs s).symm, fun key value => get?_eq_some_iff h, ?_⟩
  have hentries := entries_setAll_pairs h
  change (({} : Snapshot).setAll s.pairs).pairs = s.pairs
  unfold pairs at hentries ⊢
  rw [hentries]

end RemoteConfig.Snapshot
