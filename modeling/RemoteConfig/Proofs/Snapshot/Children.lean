import RemoteConfig.Proofs.Snapshot.Content

/-!
# Segments below a parent

`Snapshot.children` cuts a segment out of every entry below a parent and keeps
one segment of those that agree up to case.

* `segmentBelow?_eq_some_iff` says what is cut out of one entry.
* The lemmas on `distinctFolded` say that nothing is repeated and nothing is
  lost, up to case.  `mem_distinctFolded_iff` is for segments that are spelled
  alike as soon as they agree.
* `entries_foldl_setIfAbsent` gives the entries after keys were set that are
  all new.
-/

namespace RemoteConfig.Snapshot

/-! ## One entry -/

theorem dropHead?_eq_some_iff {head cs rest : List Char} :
    dropHead? head cs = some rest ↔ cs = head ++ rest := by
  induction head generalizing cs with
  | nil => simp [dropHead?, eq_comm]
  | cons h head ih =>
    cases cs with
    | nil => simp [dropHead?]
    | cons c cs =>
      rw [dropHead?, List.cons_append, List.cons.injEq]
      split
      · rename_i hc
        rw [ih]
        simp [hc]
      · rename_i hc
        simp [Ne.symm hc]

theorem segmentBelow?_eq_some_iff {parent : List Char} {folded : String} {entry : Entry}
    {segment : String} :
    segmentBelow? parent folded entry = some segment ↔
      (∃ rest, folded.toList = parent ++ rest) ∧
      segment = String.ofList
        ((entry.key.toList.drop parent.length).takeWhile (· ≠ delimiter)) := by
  unfold segmentBelow?
  cases h : dropHead? parent folded.toList with
  | none =>
    have hnot : ¬ ∃ rest, folded.toList = parent ++ rest := by
      rintro ⟨rest, hrest⟩
      rw [dropHead?_eq_some_iff.2 hrest] at h
      cases h
    simp [hnot]
  | some rest =>
    have hrest := dropHead?_eq_some_iff.1 h
    simp [hrest, eq_comm]

/-! ## Dropping repetitions -/

theorem of_mem_distinctFolded {seen l : List String} {s : String}
    (h : s ∈ distinctFolded seen l) : s ∈ l ∧ Text.fold s ∉ seen := by
  induction l generalizing seen with
  | nil => cases h
  | cons t l ih =>
    rw [distinctFolded] at h
    split at h
    · exact ⟨List.mem_cons_of_mem t (ih h).1, (ih h).2⟩
    · rename_i hseen
      rcases List.mem_cons.1 h with rfl | h
      · exact ⟨List.mem_cons_self, by simpa using hseen⟩
      · obtain ⟨hl, hnot⟩ := ih h
        exact ⟨List.mem_cons_of_mem t hl, fun hs => hnot (List.mem_cons_of_mem _ hs)⟩

theorem exists_mem_distinctFolded {seen l : List String} {s : String} (hs : s ∈ l)
    (hnew : Text.fold s ∉ seen) : ∃ t ∈ distinctFolded seen l, Text.fold t = Text.fold s := by
  induction l generalizing seen with
  | nil => cases hs
  | cons t l ih =>
    rw [distinctFolded]
    split
    · rename_i hseen
      rcases List.mem_cons.1 hs with rfl | hs
      · exact absurd (by simpa using hseen) hnew
      · exact ih hs hnew
    · rcases List.mem_cons.1 hs with rfl | hs
      · exact ⟨s, List.mem_cons_self, rfl⟩
      · by_cases hfold : Text.fold t = Text.fold s
        · exact ⟨t, List.mem_cons_self, hfold⟩
        · have hnew' : Text.fold s ∉ Text.fold t :: seen := by
            simp [Ne.symm hfold, hnew]
          obtain ⟨u, hu, heq⟩ := ih hs hnew'
          exact ⟨u, List.mem_cons_of_mem t hu, heq⟩

/-- No two of the segments that are kept agree up to case. -/
theorem pairwise_distinctFolded (seen l : List String) :
    (distinctFolded seen l).Pairwise fun s t => Text.fold s ≠ Text.fold t := by
  induction l generalizing seen with
  | nil => exact List.Pairwise.nil
  | cons t l ih =>
    rw [distinctFolded]
    split
    · exact ih seen
    · refine List.pairwise_cons.2 ⟨?_, ih _⟩
      intro s hs heq
      exact (of_mem_distinctFolded hs).2 (heq ▸ List.mem_cons_self)

/-- Where segments that agree are spelled alike, none is lost. -/
theorem mem_distinctFolded_iff {l : List String}
    (hspelled : ∀ s ∈ l, ∀ t ∈ l, Text.fold s = Text.fold t → s = t) {s : String} :
    s ∈ distinctFolded [] l ↔ s ∈ l := by
  constructor
  · exact fun h => (of_mem_distinctFolded h).1
  · intro hs
    obtain ⟨t, ht, heq⟩ := exists_mem_distinctFolded hs List.not_mem_nil
    rw [← hspelled t (of_mem_distinctFolded ht).1 s hs heq]
    exact ht

/-! ## New keys -/

/-- The entry of a key, under its folded spelling. -/
def entryOf (p : String × String) : String × Entry :=
  (Text.fold p.1, ⟨p.1, p.2⟩)

/-- Keys that are all new, up to case, each get an entry. -/
theorem entries_foldl_setIfAbsent {pairs : List (String × String)} {s : Snapshot}
    (hdistinct : pairs.Pairwise fun p q => Text.fold p.1 ≠ Text.fold q.1)
    (hnew : ∀ p ∈ pairs, ∀ q ∈ s.entries.toList, q.1 ≠ Text.fold p.1) :
    (pairs.foldl (fun s p => s.setIfAbsent p.1 p.2) s).entries.toList.Perm
      (pairs.map entryOf ++ s.entries.toList) := by
  induction pairs generalizing s with
  | nil => exact List.Perm.refl _
  | cons p pairs ih =>
    obtain ⟨hp, hpairs⟩ := List.pairwise_cons.1 hdistinct
    obtain ⟨hfresh, hothers⟩ := List.forall_mem_cons.1 hnew
    have hone : (s.setIfAbsent p.1 p.2).entries.toList.Perm (entryOf p :: s.entries.toList) :=
      TextMap.insertPair_perm hfresh
    rw [List.foldl_cons, List.map_cons, List.cons_append]
    refine (ih hpairs ?_).trans ((hone.append_left _).trans List.perm_middle)
    intro q hq r hr
    rcases List.mem_cons.1 (hone.mem_iff.1 hr) with rfl | hr
    · exact hp q hq
    · exact hothers q hq r hr

end RemoteConfig.Snapshot
