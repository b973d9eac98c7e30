import Mathlib.Data.List.Forall2
import RemoteConfig.TextMap

/-!
# Looking up in maps from texts

What `TextMap.get?` answers after an insertion, and how it relates to the list
of pairs.

* `get?_insert` holds for any list of pairs.  A key that stands at the wrong
  place does not hide another one.
* `Ordered.insert` and `Ordered.insertIfAbsent` keep the representation
  invariant.
* `Ordered.get?_eq_some_iff` needs the invariant: without it a key may occur
  twice.
* `Ordered.ext` says that an ordered map is what it answers, and
  `ofList_of_perm` that it is built from its pairs in any order.
* `get?_foldl_insert` says that the last of several pairs with a key counts.
* `forall₂_insertPair` is about two maps with the same keys.
-/

namespace RemoteConfig.TextMap

variable {α : Type}

/-! ## The list of pairs -/

/-- A pair is the inserted one, the one that was merged with it, or it stood in
the list before. -/
theorem mem_insertPair {merge : α → α → α} {key : String} {value : α} {l : List (String × α)}
    {p : String × α} (h : p ∈ insertPair merge key value l) :
    p = (key, value) ∨ (∃ old, (key, old) ∈ l ∧ p = (key, merge old value)) ∨ p ∈ l := by
  induction l with
  | nil => exact Or.inl (List.mem_singleton.1 h)
  | cons q rest ih =>
    obtain ⟨k, v⟩ := q
    rw [insertPair] at h
    split at h
    · rcases List.mem_cons.1 h with heq | h
      · exact Or.inl heq
      · exact Or.inr (Or.inr h)
    · split at h
      · rename_i hk
        rcases List.mem_cons.1 h with heq | h
        · subst hk
          exact Or.inr (Or.inl ⟨v, List.mem_cons_self, heq⟩)
        · exact Or.inr (Or.inr (List.mem_cons_of_mem _ h))
      · rcases List.mem_cons.1 h with heq | h
        · exact Or.inr (Or.inr (heq ▸ List.mem_cons_self))
        · rcases ih h with heq | ⟨old, hold, heq⟩ | h
          · exact Or.inl heq
          · exact Or.inr (Or.inl ⟨old, List.mem_cons_of_mem _ hold, heq⟩)
          · exact Or.inr (Or.inr (List.mem_cons_of_mem _ h))

theorem pairwise_insertPair {merge : α → α → α} {key : String} {value : α}
    {l : List (String × α)} (h : l.Pairwise (fun p q => p.1 < q.1)) :
    (insertPair merge key value l).Pairwise (fun p q => p.1 < q.1) := by
  induction l with
  | nil => simp [insertPair]
  | cons q rest ih =>
    obtain ⟨k, v⟩ := q
    have hrest := List.pairwise_cons.1 h
    rw [insertPair]
    split
    · rename_i hlt
      refine List.pairwise_cons.2 ⟨?_, h⟩
      intro p hp
      rcases List.mem_cons.1 hp with rfl | hp
      · exact hlt
      · exact String.lt_trans hlt (hrest.1 p hp)
    · rename_i hle
      split
      · exact List.pairwise_cons.2 ⟨hrest.1, hrest.2⟩
      · rename_i hne
        refine List.pairwise_cons.2 ⟨?_, ih hrest.2⟩
        intro p hp
        have hlt : k < key := Std.lt_of_le_of_ne hle hne
        rcases mem_insertPair hp with rfl | ⟨old, -, rfl⟩ | hp
        · exact hlt
        · exact hlt
        · exact hrest.1 p hp

theorem lookup_insertPair_of_ne {merge : α → α → α} {key key' : String} {value : α}
    (hne : key ≠ key') (l : List (String × α)) :
    lookup key' (insertPair merge key value l) = lookup key' l := by
  induction l with
  | nil => simp [insertPair, lookup, hne]
  | cons q rest ih =>
    obtain ⟨k, v⟩ := q
    rw [insertPair]
    split
    · rw [lookup, if_neg hne]
    · split
      · rename_i hk
        subst hk
        rw [lookup, if_neg hne, lookup, if_neg hne]
      · rw [lookup, ih, lookup]

theorem lookup_insertPair_self {key : String} {value : α} (l : List (String × α)) :
    lookup key (insertPair (fun _ new => new) key value l) = some value := by
  induction l with
  | nil => simp [insertPair, lookup]
  | cons q rest ih =>
    obtain ⟨k, v⟩ := q
    rw [insertPair]
    split
    · simp [lookup]
    · split
      · rename_i hk
        simp [lookup, hk]
      · rename_i hne
        rw [lookup, if_neg hne, ih]

/-! ## Maps -/

theorem get?_insert (m : TextMap α) (key key' : String) (value : α) :
    (m.insert key value).get? key' = if key = key' then some value else m.get? key' := by
  by_cases h : key = key'
  · subst h
    rw [if_pos rfl]
    exact lookup_insertPair_self m.toList
  · rw [if_neg h]
    exact lookup_insertPair_of_ne h m.toList

theorem ordered_empty : (empty : TextMap α).Ordered := List.Pairwise.nil

theorem Ordered.insert {m : TextMap α} (h : m.Ordered) (key : String) (value : α) :
    (m.insert key value).Ordered :=
  pairwise_insertPair h

theorem Ordered.insertIfAbsent {m : TextMap α} (h : m.Ordered) (key : String) (value : α) :
    (m.insertIfAbsent key value).Ordered :=
  pairwise_insertPair h

/-- What is looked up stands in the list of pairs. -/
theorem mem_of_get? {m : TextMap α} {key : String} {value : α} (h : m.get? key = some value) :
    (key, value) ∈ m.toList := by
  unfold get? at h
  induction hl : m.toList generalizing m with
  | nil => simp [hl, lookup] at h
  | cons q rest ih =>
    obtain ⟨k, v⟩ := q
    rw [hl, lookup] at h
    split at h
    · rename_i hk
      obtain rfl := Option.some.inj h
      rw [hk]
      exact List.mem_cons_self
    · exact List.mem_cons_of_mem _ (ih (m := ⟨rest⟩) h rfl)

theorem lookup_of_mem {l : List (String × α)} (h : l.Pairwise (fun p q => p.1 < q.1))
    {key : String} {value : α} (hmem : (key, value) ∈ l) : lookup key l = some value := by
  induction l with
  | nil => simp at hmem
  | cons q rest ih =>
    obtain ⟨k, v⟩ := q
    obtain ⟨hfirst, hrest⟩ := List.pairwise_cons.1 h
    rw [lookup]
    rcases List.mem_cons.1 hmem with heq | hmem
    · obtain ⟨rfl, rfl⟩ := Prod.mk.inj heq
      rw [if_pos rfl]
    · have hne : k ≠ key := by
        rintro rfl
        exact String.lt_irrefl k (hfirst _ hmem)
      rw [if_neg hne, ih hrest hmem]

/-- In an ordered map the pairs are what is looked up. -/
theorem Ordered.get?_eq_some_iff {m : TextMap α} (h : m.Ordered) {key : String} {value : α} :
    m.get? key = some value ↔ (key, value) ∈ m.toList :=
  ⟨mem_of_get?, lookup_of_mem h⟩

theorem contains_iff {m : TextMap α} {key : String} :
    m.contains key = true ↔ ∃ value, m.get? key = some value := by
  rw [contains, Option.isSome_iff_exists]

/-! ## Ordered maps are what they answer -/

theorem Ordered.nodup {m : TextMap α} (h : m.Ordered) : m.toList.Nodup := by
  refine List.Pairwise.imp ?_ h
  rintro p q hlt rfl
  exact String.lt_irrefl _ hlt

theorem Ordered.eq_of_perm {m m' : TextMap α} (h : m.Ordered) (h' : m'.Ordered)
    (hperm : m.toList.Perm m'.toList) : m = m' := by
  obtain ⟨l⟩ := m
  obtain ⟨l'⟩ := m'
  congr 1
  refine List.Perm.eq_of_pairwise ?_ h h' hperm
  intro p q _ _ hpq hqp
  exact absurd (String.lt_trans hpq hqp) (String.lt_irrefl _)

theorem Ordered.ext {m m' : TextMap α} (h : m.Ordered) (h' : m'.Ordered)
    (hget : ∀ key, m.get? key = m'.get? key) : m = m' := by
  refine h.eq_of_perm h' ((List.perm_ext_iff_of_nodup h.nodup h'.nodup).2 ?_)
  rintro ⟨key, value⟩
  rw [← h.get?_eq_some_iff, ← h'.get?_eq_some_iff, hget]

/-! ## Keys that are set already -/

theorem lookup_insertPair_old (key : String) (value : α) {l : List (String × α)}
    (h : l.Pairwise (fun p q => p.1 < q.1)) :
    lookup key (insertPair (fun old _ => old) key value l) =
      some ((lookup key l).getD value) := by
  induction l with
  | nil => simp [insertPair, lookup]
  | cons q rest ih =>
    obtain ⟨k, v⟩ := q
    obtain ⟨hfirst, hrest⟩ := List.pairwise_cons.1 h
    rw [insertPair]
    split
    · rename_i hlt
      -- All keys of the list are greater, so that the key is new.
      have hnone : lookup key ((k, v) :: rest) = none := by
        rw [Option.eq_none_iff_forall_ne_some]
        intro value' hvalue'
        have hmem : (key, value') ∈ (k, v) :: rest := mem_of_get? (m := ⟨_⟩) hvalue'
        rcases List.mem_cons.1 hmem with heq | hmem
        · obtain ⟨rfl, -⟩ := Prod.mk.inj heq
          exact String.lt_irrefl _ hlt
        · exact String.lt_irrefl _ (String.lt_trans hlt (hfirst _ hmem))
      rw [hnone, lookup, if_pos rfl, Option.getD_none]
    · split
      · rename_i hk
        simp [lookup, hk]
      · rename_i hne
        rw [lookup, if_neg hne, ih hrest, lookup, if_neg hne]

theorem Ordered.get?_insertIfAbsent {m : TextMap α} (h : m.Ordered) (key key' : String)
    (value : α) :
    (m.insertIfAbsent key value).get? key' =
      (m.get? key').or (if key = key' then some value else none) := by
  by_cases hkey : key = key'
  · subst hkey
    have hself := lookup_insertPair_old key value h
    change lookup key _ = (lookup key _).or _
    rw [TextMap.insertIfAbsent, hself]
    cases lookup key m.toList <;> simp
  · rw [if_neg hkey, Option.or_none]
    exact lookup_insertPair_of_ne hkey m.toList

theorem Ordered.insertIfAbsent_of_get? {m : TextMap α} (h : m.Ordered) {key : String} {old : α}
    (hold : m.get? key = some old) (value : α) : m.insertIfAbsent key value = m := by
  refine (h.insertIfAbsent key value).ext h fun key' => ?_
  rw [h.get?_insertIfAbsent]
  by_cases hkey : key = key'
  · subst hkey
    rw [hold, Option.some_or]
  · rw [if_neg hkey, Option.or_none]

theorem Ordered.insert_of_get? {m : TextMap α} (h : m.Ordered) {key : String} {value : α}
    (hvalue : m.get? key = some value) : m.insert key value = m := by
  refine (h.insert key value).ext h fun key' => ?_
  rw [get?_insert]
  split
  · rename_i hkey
    rw [← hkey, hvalue]
  · rfl

/-! ## New keys -/

/-- A new key makes one pair more. -/
theorem insertPair_perm {merge : α → α → α} {key : String} {value : α} {l : List (String × α)}
    (hnew : ∀ p ∈ l, p.1 ≠ key) : (insertPair merge key value l).Perm ((key, value) :: l) := by
  induction l with
  | nil => exact List.Perm.refl _
  | cons q rest ih =>
    obtain ⟨k, v⟩ := q
    obtain ⟨hk, hrest⟩ := List.forall_mem_cons.1 hnew
    rw [insertPair]
    split
    · exact List.Perm.refl _
    · exact ((ih hrest).cons _).trans (List.Perm.swap _ _ _)

/-- Pairs with keys of their own, set in turn, are the pairs of the map. -/
theorem toList_ofList_perm {pairs : List (String × α)}
    (hdistinct : pairs.Pairwise fun p q => p.1 ≠ q.1) : (ofList pairs).toList.Perm pairs := by
  suffices h : ∀ m : TextMap α, (∀ p ∈ pairs, ∀ q ∈ m.toList, q.1 ≠ p.1) →
      (pairs.foldl (fun m p => m.insert p.1 p.2) m).toList.Perm (pairs ++ m.toList) by
    simpa [ofList, empty] using h empty (by simp [empty])
  induction pairs with
  | nil => exact fun m _ => List.Perm.refl _
  | cons p pairs ih =>
    intro m hnew
    obtain ⟨hp, hpairs⟩ := List.pairwise_cons.1 hdistinct
    obtain ⟨hfresh, hothers⟩ := List.forall_mem_cons.1 hnew
    have hone : (m.insert p.1 p.2).toList.Perm (p :: m.toList) := insertPair_perm hfresh
    rw [List.foldl_cons]
    refine (ih hpairs _ ?_).trans ((hone.append_left pairs).trans List.perm_middle)
    intro q hq r hr
    rcases List.mem_cons.1 (hone.mem_iff.1 hr) with rfl | hr
    · exact hp q hq
    · exact hothers q hq r hr

theorem Ordered.foldl_insert {m : TextMap α} (h : m.Ordered) (pairs : List (String × α)) :
    (pairs.foldl (fun m p => m.insert p.1 p.2) m).Ordered := by
  induction pairs generalizing m with
  | nil => exact h
  | cons p pairs ih => exact ih (h.insert p.1 p.2)

theorem ordered_ofList (pairs : List (String × α)) : (ofList pairs).Ordered :=
  ordered_empty.foldl_insert pairs

/-- An ordered map is built from its pairs in any order. -/
theorem Ordered.ofList_of_perm {m : TextMap α} (h : m.Ordered) {pairs : List (String × α)}
    (hperm : pairs.Perm m.toList) : ofList pairs = m := by
  have hdistinct : pairs.Pairwise fun p q => p.1 ≠ q.1 := by
    refine (hperm.pairwise_iff fun hne => hne.symm).2 (List.Pairwise.imp ?_ h)
    intro p q hlt heq
    exact String.lt_irrefl p.1 (heq ▸ hlt)
  exact (ordered_ofList pairs).eq_of_perm h ((toList_ofList_perm hdistinct).trans hperm)

/-! ## Later pairs win -/

theorem lookup_eq_none_iff {key : String} {l : List (String × α)} :
    lookup key l = none ↔ ∀ p ∈ l, p.1 ≠ key := by
  induction l with
  | nil => simp [lookup]
  | cons q rest ih =>
    obtain ⟨k, v⟩ := q
    rw [lookup, List.forall_mem_cons, ← ih]
    by_cases hk : k = key <;> simp [hk]

theorem lookup_append (key : String) (l l' : List (String × α)) :
    lookup key (l ++ l') = (lookup key l).or (lookup key l') := by
  induction l with
  | nil => rfl
  | cons q rest ih =>
    obtain ⟨k, v⟩ := q
    rw [List.cons_append, lookup, lookup]
    split
    · rfl
    · exact ih

theorem lookup_map {β : Type} (f : α → β) (key : String) (l : List (String × α)) :
    lookup key (l.map fun p => (p.1, f p.2)) = (lookup key l).map f := by
  induction l with
  | nil => rfl
  | cons q rest ih =>
    rw [List.map_cons, lookup, lookup, ih]
    split <;> rfl

theorem get?_foldl_insert (m : TextMap α) (pairs : List (String × α)) (key : String) :
    (pairs.foldl (fun m p => m.insert p.1 p.2) m).get? key =
      (lookup key pairs.reverse).or (m.get? key) := by
  induction pairs generalizing m with
  | nil => rfl
  | cons p pairs ih =>
    have hone : (m.insert p.1 p.2).get? key = (lookup key [p]).or (m.get? key) := by
      rw [get?_insert, lookup]
      split <;> rfl
    rw [List.foldl_cons, ih, hone, List.reverse_cons, lookup_append, Option.or_assoc]

/-- Setting pairs brings in no others. -/
theorem mem_of_mem_ofList {pairs : List (String × α)} {p : String × α}
    (h : p ∈ (ofList pairs).toList) : p ∈ pairs := by
  suffices hstep : ∀ m : TextMap α,
      p ∈ (pairs.foldl (fun m p => m.insert p.1 p.2) m).toList → p ∈ pairs ∨ p ∈ m.toList from
    (hstep empty h).resolve_right List.not_mem_nil
  clear h
  induction pairs with
  | nil => exact fun m h => Or.inr h
  | cons q pairs ih =>
    intro m h
    rcases ih _ h with hp | hp
    · exact Or.inl (List.mem_cons_of_mem q hp)
    · rcases mem_insertPair hp with rfl | ⟨_, _, rfl⟩ | hp
      · exact Or.inl List.mem_cons_self
      · exact Or.inl List.mem_cons_self
      · exact Or.inr hp

theorem ofList_concat (pairs : List (String × α)) (p : String × α) :
    ofList (pairs ++ [p]) = (ofList pairs).insert p.1 p.2 := by
  rw [ofList, ofList, List.foldl_append]
  rfl

/-- The last pair with a key counts. -/
theorem get?_ofList (pairs : List (String × α)) (key : String) :
    (ofList pairs).get? key = lookup key pairs.reverse := by
  rw [ofList, get?_foldl_insert]
  exact Option.or_none

/-! ## Maps side by side -/

/-- Lists with the same keys and related values stay so when related values are
put under the same key. -/
theorem forall₂_insertPair {β : Type} {R : String → α → β → Prop} {key : String} {value : α}
    {value' : β} (hvalue : R key value value') {l : List (String × α)} {l' : List (String × β)}
    (h : List.Forall₂ (fun p p' => p.1 = p'.1 ∧ R p.1 p.2 p'.2) l l') :
    List.Forall₂ (fun p p' => p.1 = p'.1 ∧ R p.1 p.2 p'.2)
      (insertPair (fun _ new => new) key value l) (insertPair (fun _ new => new) key value' l') := by
  induction h with
  | nil => exact .cons ⟨rfl, hvalue⟩ .nil
  | @cons p p' l l' hp hrest ih =>
    obtain ⟨k, v⟩ := p
    obtain ⟨k', v'⟩ := p'
    obtain ⟨rfl, hv⟩ : k = k' ∧ R k v v' := hp
    unfold insertPair
    split
    · exact .cons ⟨rfl, hvalue⟩ (.cons ⟨rfl, hv⟩ hrest)
    · split
      · rename_i hkey
        exact .cons ⟨rfl, hkey ▸ hvalue⟩ hrest
      · exact .cons ⟨rfl, hv⟩ ih

end RemoteConfig.TextMap
