import RemoteConfig.Proofs.Snapshot.Content

/-!
# Who wins in a merge

An environment is merged into a snapshot that may have content already.  Two
keys are forced by the version and the state of the environment, any other key
keeps the value that it had, and only a key without one is looked up in the
property sources.

Different raw keys may stand for one key: `a[0]`, `a.0` and `A.0` are all the
path `a:0`.  The first source that holds such a raw key gives the value, and
within that source the least raw key does.

* `Precedence` states this as a relation between a key and what it stands for
  after the merge.
* `get?_merge` gives the content as a chain of alternatives.  Each loop of the
  merge has its lemma: `get?_mergeSource` for the keys of one source and
  `get?_mergeSources` for the sources.
* `merge_merge` says that a second merge finds every key set.
* `precedence_merge` is the result.
-/

namespace RemoteConfig

namespace Snapshot

/-! ## The rule -/

/-- A key in the spelling of servers stands for a key. -/
def StandsFor (raw key : String) : Prop :=
  Text.fold (normalizeKey raw) = Text.fold key

instance (raw key : String) : Decidable (StandsFor raw key) :=
  inferInstanceAs (Decidable (_ = _))

/-- The environment gives a key a value of its own, its version or its state. -/
def IsForced (e : Environment) (key : String) : Prop :=
  (Text.fold key = Text.fold versionKey ∧ ∃ v, e.version = some v ∧ v ≠ "") ∨
  (Text.fold key = Text.fold stateKey ∧ ∃ v, e.state = some v ∧ v ≠ "")

/-- What a key stands for after an environment was merged into a snapshot. -/
inductive Precedence (s : Snapshot) (e : Environment) (key : String) : Option String → Prop where
  | version {v : String} (hkey : Text.fold key = Text.fold versionKey)
    (hversion : e.version = some v) (hne : v ≠ "") : Precedence s e key (some v)
  | state {v : String} (hkey : Text.fold key = Text.fold stateKey)
    (hstate : e.state = some v) (hne : v ≠ "") : Precedence s e key (some v)
  /-- The key was set before. -/
  | kept {v : String} (hforced : ¬ IsForced e key) (hkept : s.get? key = some v) :
    Precedence s e key (some v)
  /-- The first source that knows the key has it under `raw` and maybe under
  greater raw keys. -/
  | source {before after : List PropertySource} {source : PropertySource} {raw v : String}
    (hforced : ¬ IsForced e key) (hnew : s.get? key = none)
    (hsources : e.propertySources = before ++ source :: after)
    (hbefore : ∀ t ∈ before, ∀ raw', t.source.contains raw' = true → ¬ StandsFor raw' key)
    (hraw : source.source.get? raw = some v) (hstands : StandsFor raw key)
    (hleast : ∀ raw', source.source.contains raw' = true → StandsFor raw' key → raw ≤ raw') :
    Precedence s e key (some v)
  | absent (hforced : ¬ IsForced e key) (hnew : s.get? key = none)
    (hnone : ∀ t ∈ e.propertySources, ∀ raw, t.source.contains raw = true → ¬ StandsFor raw key) :
    Precedence s e key none

/-! ## One source -/

/-- The value of the first pair whose raw key stands for a key. -/
def firstValue? (pairs : List (String × String)) (key : String) : Option String :=
  (pairs.find? fun p => StandsFor p.1 key).map (·.2)

theorem get?_setIfAbsent {s : Snapshot} (h : s.WellFormed) (k value key : String) :
    (s.setIfAbsent k value).get? key =
      (s.get? key).or (if Text.fold k = Text.fold key then some value else none) := by
  unfold get? setIfAbsent
  rw [h.ordered.get?_insertIfAbsent]
  cases s.entries.get? (Text.fold key) with
  | some entry => rfl
  | none => by_cases hkey : Text.fold k = Text.fold key <;> simp [hkey]

theorem firstValue?_cons (p : String × String) (pairs : List (String × String)) (key : String) :
    firstValue? (p :: pairs) key =
      (if StandsFor p.1 key then some p.2 else none).or (firstValue? pairs key) := by
  unfold firstValue?
  by_cases hp : StandsFor p.1 key <;> simp [hp]

theorem get?_mergeSource {s : Snapshot} (h : s.WellFormed) (source : PropertySource)
    (key : String) :
    (s.mergeSource source).get? key = (s.get? key).or (firstValue? source.source.toList key) := by
  unfold mergeSource
  induction source.source.toList generalizing s with
  | nil => exact (Option.or_none).symm
  | cons p pairs ih =>
    rw [List.foldl_cons, ih (h.setIfAbsent _ _), get?_setIfAbsent h, firstValue?_cons,
      Option.or_assoc]
    rfl

/-- In an ordered map the first raw key is the least one. -/
theorem firstValue?_eq_some {m : TextMap String} (h : m.Ordered) {key v : String}
    (hv : firstValue? m.toList key = some v) :
    ∃ raw, m.get? raw = some v ∧ StandsFor raw key ∧
      ∀ raw', m.contains raw' = true → StandsFor raw' key → raw ≤ raw' := by
  obtain ⟨⟨raw, v'⟩, hfind, rfl⟩ := Option.map_eq_some_iff.1 hv
  obtain ⟨hstands, before, after, hlist, hbefore⟩ := List.find?_eq_some_iff_append.1 hfind
  simp only [decide_eq_true_eq, Bool.not_eq_true', decide_eq_false_iff_not] at hstands hbefore
  refine ⟨raw, h.get?_eq_some_iff.2 (List.mem_of_find?_eq_some hfind), hstands, ?_⟩
  intro raw' hcontains hstands'
  obtain ⟨w, hw⟩ := TextMap.contains_iff.1 hcontains
  have hmem := TextMap.mem_of_get? hw
  unfold TextMap.Ordered at h
  rw [hlist] at hmem h
  rcases List.mem_append.1 hmem with hmem | hmem
  · exact absurd hstands' (hbefore (raw', w) hmem)
  · rcases List.mem_cons.1 hmem with heq | hmem
    · obtain ⟨rfl, -⟩ := Prod.mk.inj heq
      exact String.le_refl _
    · have hlt := (List.pairwise_cons.1 (List.pairwise_append.1 h).2.1).1 _ hmem
      exact Std.le_of_lt hlt

theorem firstValue?_eq_none {m : TextMap String} {key : String} :
    firstValue? m.toList key = none ↔
      ∀ p ∈ m.toList, ¬ StandsFor p.1 key := by
  simp [firstValue?]

/-! ## The whole environment -/

theorem get?_mergeSources {s : Snapshot} (h : s.WellFormed) (sources : List PropertySource)
    (key : String) :
    (sources.foldl mergeSource s).get? key =
      (s.get? key).or (sources.findSome? fun t => firstValue? t.source.toList key) := by
  induction sources generalizing s with
  | nil => exact (Option.or_none).symm
  | cons t sources ih =>
    rw [List.foldl_cons, ih (h.mergeSource t), get?_mergeSource h, Option.or_assoc,
      List.findSome?_cons]
    cases firstValue? t.source.toList key <;> rfl

/-- The value that is set under `k` if there is one, as far as it concerns a key. -/
def optionalValue? (k : String) (value : Option String) (key : String) : Option String :=
  if Text.fold k = Text.fold key then value.filter (· ≠ "") else none

theorem get?_setOptional (s : Snapshot) (k : String) (value : Option String) (key : String) :
    (s.setOptional k value).get? key = (optionalValue? k value key).or (s.get? key) := by
  unfold optionalValue? setOptional
  cases value with
  | none => simp
  | some v =>
    by_cases hempty : v = ""
    · subst hempty
      simp [Option.filter_some]
    · simp only [String.isEmpty_iff, hempty, if_false, get?_set]
      by_cases hkey : Text.fold k = Text.fold key <;> simp [hkey, hempty, Option.filter_some]

/-- The value that an environment forces on a key. -/
def forced? (e : Environment) (key : String) : Option String :=
  (optionalValue? stateKey e.state key).or (optionalValue? versionKey e.version key)

/-- The content after a merge, as a chain of alternatives. -/
theorem get?_merge {s : Snapshot} (h : s.WellFormed) (e : Environment) (key : String) :
    (s.merge e).get? key =
      (forced? e key).or ((s.get? key).or
        (e.propertySources.findSome? fun t => firstValue? t.source.toList key)) := by
  have hunmarked : (s.merge e).get? key =
      (((e.propertySources.foldl mergeSource s).setOptional versionKey e.version).setOptional
        stateKey e.state).get? key := rfl
  rw [hunmarked, get?_setOptional, get?_setOptional, get?_mergeSources h, forced?, Option.or_assoc]

theorem optionalValue?_eq_some_iff {k : String} {value : Option String} {key v : String} :
    optionalValue? k value key = some v ↔
      Text.fold key = Text.fold k ∧ value = some v ∧ v ≠ "" := by
  unfold optionalValue?
  by_cases hkey : Text.fold k = Text.fold key
  · simp [hkey, Option.filter_eq_some_iff]
  · simp [hkey, Ne.symm hkey]

/-- No key is that of the version and that of the state. -/
theorem fold_versionKey_ne : Text.fold versionKey ≠ Text.fold stateKey := by
  decide

theorem forced?_version {e : Environment} {key v : String}
    (hkey : Text.fold key = Text.fold versionKey) (hversion : e.version = some v) (hne : v ≠ "") :
    forced? e key = some v := by
  have hstate : optionalValue? stateKey e.state key = none := by
    rw [optionalValue?, if_neg]
    intro hstate
    exact fold_versionKey_ne (hkey.symm.trans hstate.symm)
  rw [forced?, hstate, Option.none_or]
  exact optionalValue?_eq_some_iff.2 ⟨hkey, hversion, hne⟩

theorem forced?_state {e : Environment} {key v : String}
    (hkey : Text.fold key = Text.fold stateKey) (hstate : e.state = some v) (hne : v ≠ "") :
    forced? e key = some v := by
  rw [forced?, optionalValue?_eq_some_iff.2 ⟨hkey, hstate, hne⟩, Option.some_or]

theorem forced?_eq_none_iff {e : Environment} {key : String} :
    forced? e key = none ↔ ¬ IsForced e key := by
  constructor
  · rintro hnone (⟨hkey, v, hversion, hne⟩ | ⟨hkey, v, hstate, hne⟩)
    · rw [forced?_version hkey hversion hne] at hnone
      cases hnone
    · rw [forced?_state hkey hstate hne] at hnone
      cases hnone
  · intro hforced
    rw [forced?, Option.or_eq_none_iff]
    constructor
    · rw [Option.eq_none_iff_forall_ne_some]
      intro v hv
      obtain ⟨hkey, hstate, hne⟩ := optionalValue?_eq_some_iff.1 hv
      exact hforced (Or.inr ⟨hkey, v, hstate, hne⟩)
    · rw [Option.eq_none_iff_forall_ne_some]
      intro v hv
      obtain ⟨hkey, hversion, hne⟩ := optionalValue?_eq_some_iff.1 hv
      exact hforced (Or.inl ⟨hkey, v, hversion, hne⟩)

/-- No source holds a raw key that stands for a key. -/
theorem findSome?_firstValue?_eq_none {sources : List PropertySource}
    (h : ∀ t ∈ sources, t.source.Ordered) (key : String) :
    (sources.findSome? fun t => firstValue? t.source.toList key) = none ↔
      ∀ t ∈ sources, ∀ raw, t.source.contains raw = true → ¬ StandsFor raw key := by
  rw [List.findSome?_eq_none_iff]
  constructor
  · intro hnone t ht raw hcontains
    obtain ⟨v, hv⟩ := TextMap.contains_iff.1 hcontains
    exact firstValue?_eq_none.1 (hnone t ht) (raw, v) (TextMap.mem_of_get? hv)
  · intro hnone t ht
    refine firstValue?_eq_none.2 fun p hp => hnone t ht p.1 ?_
    exact TextMap.contains_iff.2 ⟨p.2, (h t ht).get?_eq_some_iff.2 hp⟩

/-- The chain of alternatives ends as the rule says. -/
theorem precedence_of_get?_merge {s : Snapshot} (h : s.WellFormed) {e : Environment}
    (he : e.WellFormed) (key : String) : Precedence s e key ((s.merge e).get? key) := by
  rw [get?_merge h]
  cases hforced : forced? e key with
  | some v =>
    rw [forced?, Option.or_eq_some_iff] at hforced
    rcases hforced with hstate | ⟨-, hversion⟩
    · obtain ⟨hkey, hstate, hne⟩ := optionalValue?_eq_some_iff.1 hstate
      exact .state hkey hstate hne
    · obtain ⟨hkey, hversion, hne⟩ := optionalValue?_eq_some_iff.1 hversion
      exact .version hkey hversion hne
  | none =>
    have hforced := forced?_eq_none_iff.1 hforced
    cases hkept : s.get? key with
    | some v => exact .kept hforced hkept
    | none =>
      rw [Option.none_or, Option.none_or]
      cases hfind : e.propertySources.findSome? fun t => firstValue? t.source.toList key with
      | none => exact .absent hforced hkept ((findSome?_firstValue?_eq_none he _).1 hfind)
      | some v =>
        obtain ⟨before, t, after, hsources, hv, hbefore⟩ := List.findSome?_eq_some_iff.1 hfind
        have ht : t ∈ e.propertySources := by simp [hsources]
        obtain ⟨raw, hraw, hstands, hleast⟩ := firstValue?_eq_some (he t ht) hv
        have hbefore' := (findSome?_firstValue?_eq_none (fun u hu => he u (by
          simp [hsources, hu])) key).1 (List.findSome?_eq_none_iff.2 hbefore)
        exact .source hforced hkept hsources hbefore' hraw hstands hleast

/-- The rule leaves no choice. -/
theorem get?_merge_of_precedence {s : Snapshot} (h : s.WellFormed) {e : Environment}
    (he : e.WellFormed) {key : String} {value? : Option String}
    (hvalue : Precedence s e key value?) : (s.merge e).get? key = value? := by
  rw [get?_merge h]
  cases hvalue with
  | version hkey hversion hne => rw [forced?_version hkey hversion hne, Option.some_or]
  | state hkey hstate hne => rw [forced?_state hkey hstate hne, Option.some_or]
  | kept hforced hkept =>
    rw [forced?_eq_none_iff.2 hforced, Option.none_or, hkept, Option.some_or]
  | absent hforced hnew hnone =>
    rw [forced?_eq_none_iff.2 hforced, hnew, Option.none_or, Option.none_or]
    exact (findSome?_firstValue?_eq_none he _).2 hnone
  | @source before after t raw v hforced hnew hsources hbefore hraw hstands hleast =>
    have ht : t ∈ e.propertySources := by simp [hsources]
    have hskipped := (findSome?_firstValue?_eq_none (fun u hu => he u (by
      simp [hsources, hu])) key).2 hbefore
    have hgiven : firstValue? t.source.toList key = some v := by
      cases hfirst : firstValue? t.source.toList key with
      | none =>
        exact absurd hstands (firstValue?_eq_none.1 hfirst (raw, v) (TextMap.mem_of_get? hraw))
      | some w =>
        -- Both raw keys are the least one.
        obtain ⟨raw', hraw', hstands', hleast'⟩ := firstValue?_eq_some (he t ht) hfirst
        have hle := hleast raw' (TextMap.contains_iff.2 ⟨w, hraw'⟩) hstands'
        have hge := hleast' raw (TextMap.contains_iff.2 ⟨v, hraw⟩) hstands
        rw [String.le_antisymm hle hge, hraw'] at hraw
        exact hraw
    rw [forced?_eq_none_iff.2 hforced, hnew, Option.none_or, Option.none_or, hsources,
      List.findSome?_append, hskipped, Option.none_or, List.findSome?_cons, hgiven]

/-! ## Merging again -/

theorem setIfAbsent_of_get? {s : Snapshot} (h : s.WellFormed) {k v : String}
    (hset : s.get? k = some v) (value : String) : s.setIfAbsent k value = s := by
  obtain ⟨entry, hentry, -⟩ := Option.map_eq_some_iff.1 hset
  unfold setIfAbsent
  rw [h.ordered.insertIfAbsent_of_get? hentry]

/-- Sources whose keys are all set change nothing. -/
theorem mergeSource_of_get? {s : Snapshot} (h : s.WellFormed) {source : PropertySource}
    (hset : ∀ p ∈ source.source.toList, (s.get? (normalizeKey p.1)).isSome) :
    s.mergeSource source = s := by
  unfold mergeSource
  generalize source.source.toList = pairs at hset
  induction pairs with
  | nil => rfl
  | cons p pairs ih =>
    obtain ⟨hp, hpairs⟩ := List.forall_mem_cons.1 hset
    obtain ⟨v, hv⟩ := Option.isSome_iff_exists.1 hp
    rw [List.foldl_cons, setIfAbsent_of_get? h hv, ih hpairs]

theorem entry_setOptional_of_ne (s : Snapshot) {k : String} (value : Option String)
    {folded : String} (hne : Text.fold k ≠ folded) :
    (s.setOptional k value).entries.get? folded = s.entries.get? folded := by
  unfold setOptional
  split
  · split
    · rfl
    · rw [set, TextMap.get?_insert, if_neg hne]
  · rfl

theorem entry_setOptional_self (s : Snapshot) (k : String) {v : String} (hne : v ≠ "") :
    (s.setOptional k (some v)).entries.get? (Text.fold k) = some ⟨k, v⟩ := by
  have hfull : v.isEmpty = false := by simpa using hne
  simp only [setOptional, hfull, Bool.false_eq_true, if_false, set]
  rw [TextMap.get?_insert, if_pos rfl]

/-- A value that is set already, with its key in the same spelling, may be set
again. -/
theorem setOptional_eq_self {s : Snapshot} (h : s.WellFormed) {k : String} {value : Option String}
    (hentry : ∀ v, value = some v → v ≠ "" → s.entries.get? (Text.fold k) = some ⟨k, v⟩) :
    s.setOptional k value = s := by
  unfold setOptional
  split
  · rename_i v
    split
    · rfl
    · rename_i hempty
      have hset := hentry v rfl (by simpa using hempty)
      rw [set, h.ordered.insert_of_get? hset]
  · rfl

theorem merge_merge {s : Snapshot} (h : s.WellFormed) {e : Environment} (he : e.WellFormed) :
    (s.merge e).merge e = s.merge e := by
  have hmerged := h.merge e
  -- Every raw key of a source is set, by itself or by what won over it.
  have hsources : e.propertySources.foldl mergeSource (s.merge e) = s.merge e := by
    have hset : ∀ t ∈ e.propertySources, ∀ p ∈ t.source.toList,
        ((s.merge e).get? (normalizeKey p.1)).isSome := by
      intro t ht p hp
      rw [get?_merge h, Option.isSome_or, Option.isSome_or]
      have hsome : (e.propertySources.findSome? fun t =>
          firstValue? t.source.toList (normalizeKey p.1)).isSome := by
        rw [Option.isSome_iff_ne_none]
        intro hnone
        have hcontains := TextMap.contains_iff.2 ⟨p.2, (he t ht).get?_eq_some_iff.2 hp⟩
        exact (findSome?_firstValue?_eq_none he _).1 hnone t ht p.1 hcontains rfl
      simp [hsome]
    generalize e.propertySources = sources at hset
    induction sources with
    | nil => rfl
    | cons t sources ih =>
      obtain ⟨ht, hsources⟩ := List.forall_mem_cons.1 hset
      rw [List.foldl_cons, mergeSource_of_get? hmerged ht, ih hsources]
  have hversion : (s.merge e).setOptional versionKey e.version = s.merge e := by
    refine setOptional_eq_self hmerged fun v hv hne => ?_
    have hentry := entry_setOptional_of_ne
      ((e.propertySources.foldl mergeSource s).setOptional versionKey e.version) e.state
      fold_versionKey_ne.symm
    refine hentry.trans ?_
    rw [hv]
    exact entry_setOptional_self _ _ hne
  have hstate : (s.merge e).setOptional stateKey e.state = s.merge e := by
    refine setOptional_eq_self hmerged fun v hv hne => ?_
    have hentry := entry_setOptional_self
      ((e.propertySources.foldl mergeSource s).setOptional versionKey e.version) stateKey hne
    rw [← hv] at hentry
    exact hentry
  calc (s.merge e).merge e
    _ = { ((e.propertySources.foldl mergeSource (s.merge e)).setOptional versionKey
          e.version).setOptional stateKey e.state with loaded := true } := rfl
    _ = { s.merge e with loaded := true } := by rw [hsources, hversion, hstate]
    _ = s.merge e := rfl

/-! ## The result -/

/-- What a key stands for after a merge is settled by the rule, the pairs are
what the keys stand for, and a second merge changes nothing. -/
theorem precedence_merge {s : Snapshot} (h : s.WellFormed) {e : Environment}
    (he : e.WellFormed) :
    (∀ key value?, (s.merge e).get? key = value? ↔ Precedence s e key value?) ∧
    (∀ p ∈ (s.merge e).pairs, (s.merge e).get? p.1 = some p.2) ∧
    (s.merge e).merge e = s.merge e := by
  refine ⟨fun key value? => ⟨?_, get?_merge_of_precedence h he⟩, ?_, merge_merge h he⟩
  · rintro rfl
    exact precedence_of_get?_merge h he key
  · exact fun p hp => get?_of_mem_pairs (h.merge e) hp rfl

/-- Raw keys that stand for one key within a source and across sources, a key
that was set before, and a version that a source tries to set. -/
theorem precedence_merge_collisions :
    let s : Snapshot := ({} : Snapshot).setAll [("Kept", "before")]
    let first : PropertySource :=
      ⟨"first", .ofList [("a[0]", "least of small letters"), ("A.0", "least"), ("KEPT", "lost")]⟩
    let second : PropertySource :=
      ⟨"second", .ofList [("A.0", "late"), ("b", "other"), (versionKey, "lost")]⟩
    let e : Environment :=
      { version := some "7", state := some "", propertySources := [first, second] }
    s.WellFormed ∧ e.WellFormed ∧
    Precedence s e "a:0" (some "least") ∧ Precedence s e "kept" (some "before") ∧
    Precedence s e "B" (some "other") ∧ Precedence s e versionKey (some "7") ∧
    Precedence s e stateKey none ∧ (s.merge e).merge e = s.merge e := by
  intro s first second e
  have hs : s.WellFormed := WellFormed.empty.setAll _
  have he : e.WellFormed := by
    intro t ht
    rcases List.mem_cons.1 ht with rfl | ht
    · exact TextMap.ordered_ofList _
    · rw [List.mem_singleton.1 ht]
      exact TextMap.ordered_ofList _
  obtain ⟨hrule, -, hagain⟩ := precedence_merge hs he
  exact ⟨hs, he, (hrule "a:0" _).1 (by decide), (hrule "kept" _).1 (by decide),
    (hrule "B" _).1 (by decide), (hrule versionKey _).1 (by decide),
    (hrule stateKey _).1 (by decide), hagain⟩

end Snapshot

end RemoteConfig
