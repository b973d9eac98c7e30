import RemoteConfig.Options.Slot
import RemoteConfig.Proofs.Number.Numeral
import RemoteConfig.Proofs.Text.Fold
import RemoteConfig.Proofs.TextMap

/-!
# Pairs over options

Options that are written as pairs and read back are the same options, so that
pairs behind those of some options change these options and nothing else.

The proof goes slot by slot.  Reading a pair is looking up the slot of its key,
reading its text and putting the value into the slot; writing options is
writing the slots that hold a value.

* `Slot.get?_put_self` and `Slot.get?_put_of_ne` are the laws of slots, and
  `Slot.ext` says that options are what is in their slots.
* `Slot.read_write` reads back the values of every slot, and `Slot.ofKey?_key`
  finds the slot of every key that is written.
* `readPair_eq` is the step: what one pair does.
* `readPairs_written` is the run over written slots, and `get?_readPairs` says
  what a run leaves alone.
-/

namespace RemoteConfig.ClientOptions

namespace Slot

/-! ## The laws of slots -/

theorem get?_put_self (o : ClientOptions) (s : Slot) (v : s.Value) :
    get? (put o s v) s = some v := by
  cases s with
  | header field => exact (TextMap.get?_insert o.headers field field v).trans (if_pos rfl)
  | _ => rfl

theorem get?_put_of_ne {s t : Slot} (h : s ≠ t) (o : ClientOptions) (v : s.Value) :
    get? (put o s v) t = get? o t := by
  cases s with
  | header field =>
    cases t with
    | header field' =>
      have hne : field ≠ field' := fun heq => h (congrArg header heq)
      exact (TextMap.get?_insert o.headers field field' v).trans (if_neg hne)
    | _ => rfl
  | _ => cases t <;> first | rfl | exact absurd rfl h

theorem ordered_put {o : ClientOptions} (ho : o.headers.Ordered) (s : Slot) (v : s.Value) :
    (put o s v).headers.Ordered := by
  cases s with
  | header field => exact ho.insert field v
  | _ => exact ho

/-- Options are what is in their slots. -/
theorem ext {o o' : ClientOptions} (ho : o.headers.Ordered) (ho' : o'.headers.Ordered)
    (h : ∀ s, get? o s = get? o' s) : o = o' := by
  have hheaders : o.headers = o'.headers := ho.ext ho' fun field => h (header field)
  rcases o with ⟨_, _, _, _, _, _, _, _, _, _, _, _, ⟨_, _, _, _, _⟩, ⟨_, _⟩, ⟨_, _⟩, _⟩
  rcases o' with ⟨_, _, _, _, _, _, _, _, _, _, _, _, ⟨_, _, _, _, _⟩, ⟨_, _⟩, ⟨_, _⟩, _⟩
  rw [mk.injEq, RetryOptions.mk.injEq, DiscoveryOptions.mk.injEq, HealthOptions.mk.injEq]
  refine ⟨Option.some.inj (h enabled), Option.some.inj (h failFast), Option.some.inj (h name),
    Option.some.inj (h env), h label, Option.some.inj (h uri), h username, h password, h token,
    Option.some.inj (h timeout), Option.some.inj (h pollingInterval),
    Option.some.inj (h validateCertificates), ⟨?_, ?_, ?_, ?_, ?_⟩, ⟨?_, ?_⟩, ⟨?_, ?_⟩, hheaders⟩
  · exact Option.some.inj (h retryEnabled)
  · exact Option.some.inj (h retryInitialInterval)
  · exact Option.some.inj (h retryMaxInterval)
  · exact Option.some.inj (h retryMultiplier)
  · exact Option.some.inj (h retryMaxAttempts)
  · exact Option.some.inj (h discoveryEnabled)
  · exact Option.some.inj (h discoveryServiceId)
  · exact Option.some.inj (h healthEnabled)
  · exact Option.some.inj (h healthTimeToLive)

/-! ## Values and keys read back -/

/-- The values that can be written exactly: all but numbers that no binary64
can hold. -/
def IsWritable : (s : Slot) → s.Value → Prop
  | retryMultiplier, d => Double.IsRepresentable d
  | _, _ => True

theorem bool?_boolText (b : Bool) : bool? (boolText b) = some b := by
  cases b <;> decide

/-- Every value is read back from its text. -/
theorem read_write (s : Slot) (v : s.Value) (hv : s.IsWritable v) :
    s.read (s.write v) = some v := by
  cases s with
  | enabled | failFast | validateCertificates | retryEnabled | discoveryEnabled
  | healthEnabled => exact bool?_boolText v
  | timeout | pollingInterval | retryInitialInterval | retryMaxInterval | healthTimeToLive =>
    exact Decimal.word64?_trim_text v
  | retryMaxAttempts => exact Decimal.word32?_trim_text v
  | retryMultiplier =>
    rw [read, write]
    exact Decimal.double?_trim_doubleText hv
  | _ => rfl

theorem stripFolded_append (head rest : String) :
    Text.stripFolded head (head ++ rest) = some rest :=
  Text.stripFolded_eq_some_iff.2 ⟨head, rfl, rfl⟩

/-- The key of a slot as it is written. -/
def fullKey (s : Slot) : String :=
  rootKey ++ ":" ++ s.key

theorem stripRoot_fullKey (s : Slot) : stripRoot s.fullKey = s.key := by
  have hkey : s.key.isEmpty = false := by
    cases s with
    | header field => simp [key, String.isEmpty_eq_false_iff]
    | _ => decide
  rw [stripRoot, fullKey, stripFolded_append]
  simp only [hkey, Bool.false_eq_true, if_false]

/-- The slot of a key that is written is found, unless it is that of a header
without a name. -/
theorem ofKey?_fullKey {s : Slot} (hs : s ≠ header "") : ofKey? s.fullKey = some s := by
  simp only [ofKey?, stripRoot_fullKey]
  cases s with
  | header field =>
    have hfield : field.isEmpty = false := by
      rw [String.isEmpty_eq_false_iff]
      exact fun heq => hs (congrArg header heq)
    rw [key, headerName?, stripFolded_append]
    simp only [hfield, Bool.false_eq_true, if_false, Option.map_some, Option.some_or]
  | _ => decide

/-! ## One pair -/

/-- The keys that pairs can have, folded. -/
def foldedKeys : List String :=
  "environment" :: "profile" :: named.map fun s => Text.fold s.key

theorem ofFolded?_eq_none {folded : String} (h : folded ∉ foldedKeys) :
    ofFolded? folded = none := by
  obtain ⟨henvironment, h⟩ := not_or.1 (mt List.mem_cons.2 h)
  obtain ⟨hprofile, h⟩ := not_or.1 (mt List.mem_cons.2 h)
  rw [ofFolded?, if_neg (not_or.2 ⟨henvironment, hprofile⟩), List.find?_eq_none]
  intro s hs hkey
  exact h (List.mem_map.2 ⟨s, hs, of_decide_eq_true hkey⟩)

/-- Pairs are assigned to slots. -/
theorem assign_eq (o : ClientOptions) (folded value : String) :
    assign o folded value =
      match ofFolded? folded with
      | some s => assignRead (s.read value) (put o s)
      | none => .unknown := by
  unfold assign
  split
  case h_24 =>
    have hkeys : foldedKeys = ["environment", "profile", "enabled", "failfast", "name", "env",
      "label", "uri", "username", "password", "token", "timeout", "pollinginterval",
      "validatecertificates", "retry:enabled", "retry:initialinterval", "retry:maxinterval",
      "retry:multiplier", "retry:maxattempts", "discovery:enabled", "discovery:serviceid",
      "health:enabled", "health:timetolive"] := by decide
    have hnone : ofFolded? folded = none := by
      refine ofFolded?_eq_none ?_
      rw [hkeys]
      simp only [List.mem_cons, List.not_mem_nil, or_false, not_or]
      and_intros <;> assumption
    rw [hnone]
  all_goals rfl

end Slot

/-- What a pair does: it puts the value that its text denotes into the slot of
its key. -/
theorem readPair_eq (o : ClientOptions) (fullKey value : String) :
    readPair o fullKey value =
      match Slot.ofKey? fullKey with
      | some s =>
        match s.read value with
        | some v => .ok (s.put o v, none)
        | none => .error ⟨fullKey, value⟩
      | none => .ok (o, some (unknownIssue fullKey (stripRoot fullKey))) := by
  unfold readPair Slot.ofKey?
  simp only
  cases headerName? (stripRoot fullKey) with
  | some field => rfl
  | none =>
    simp only [Slot.assign_eq, Option.map_none, Option.none_or]
    cases Slot.ofFolded? (Text.fold (stripRoot fullKey)) with
    | none => rfl
    | some s =>
      simp only [assignRead]
      cases s.read value <;> rfl

/-! ## Runs of pairs -/

theorem readPairs_cons (o : ClientOptions) (key value : String) (ps : List (String × String)) :
    readPairs o ((key, value) :: ps) = (readPair o key value).bind fun r =>
      (readPairs r.1 ps).map fun r' => (r'.1, r.2.toList ++ r'.2) := by
  rw [readPairs]
  cases readPair o key value with
  | error v => rfl
  | ok r =>
    cases hrest : readPairs r.1 ps <;>
      simp [hrest, bind, Except.bind, pure, Except.pure, Except.map]

theorem readPairs_append (o : ClientOptions) (ps qs : List (String × String)) :
    readPairs o (ps ++ qs) = (readPairs o ps).bind fun r =>
      (readPairs r.1 qs).map fun r' => (r'.1, r.2 ++ r'.2) := by
  induction ps generalizing o with
  | nil =>
    cases hqs : readPairs o qs <;> simp [readPairs, Except.bind, Except.map, hqs]
  | cons p ps ih =>
    rw [List.cons_append, readPairs_cons, readPairs_cons]
    cases readPair o p.1 p.2 with
    | error v => rfl
    | ok r =>
      simp only [Except.bind, ih]
      cases readPairs r.1 ps with
      | error v => rfl
      | ok r' => cases hqs : readPairs r'.1 qs <;> simp [Except.map, hqs]

/-- A pair leaves alone the slots that it does not address. -/
theorem get?_readPair {s : Slot} {key value : String} (hkey : Slot.ofKey? key ≠ some s)
    {o o' : ClientOptions} {issue : Option Issue} (h : readPair o key value = .ok (o', issue)) :
    s.get? o' = s.get? o := by
  rw [readPair_eq] at h
  split at h
  · rename_i t hslot
    have hne : t ≠ s := fun heq => hkey (hslot.trans (congrArg some heq))
    split at h
    · rename_i v _
      obtain ⟨rfl, -⟩ := Prod.mk.inj (Except.ok.inj h)
      exact Slot.get?_put_of_ne hne o v
    · cases h
  · obtain ⟨rfl, -⟩ := Prod.mk.inj (Except.ok.inj h)
    rfl

/-- A run leaves alone the slots that none of its pairs addresses. -/
theorem get?_readPairs {s : Slot} {ps : List (String × String)}
    (hps : ∀ p ∈ ps, Slot.ofKey? p.1 ≠ some s) {o o' : ClientOptions} {issues : List Issue}
    (h : readPairs o ps = .ok (o', issues)) : s.get? o' = s.get? o := by
  induction ps generalizing o issues with
  | nil =>
    obtain ⟨rfl, -⟩ := Prod.mk.inj (Except.ok.inj h)
    rfl
  | cons p ps ih =>
    obtain ⟨hp, hps⟩ := List.forall_mem_cons.1 hps
    rw [readPairs_cons] at h
    cases hfirst : readPair o p.1 p.2 with
    | error v => simp [hfirst, Except.bind] at h
    | ok r =>
      cases hrest : readPairs r.1 ps with
      | error v => simp [hfirst, hrest, Except.bind, Except.map] at h
      | ok r' =>
        simp only [hfirst, hrest, Except.bind, Except.map] at h
        obtain ⟨rfl, -⟩ := Prod.mk.inj (Except.ok.inj h)
        calc s.get? r'.1
          _ = s.get? r.1 := ih hps hrest
          _ = s.get? o := get?_readPair hp hfirst

/-! ## Written options -/

namespace Slot

/-- The pair of a slot, if it holds a value. -/
def pairs (o : ClientOptions) (s : Slot) : List (String × String) :=
  ((s.get? o).map fun v => (s.fullKey, s.write v)).toList

/-- The options `base` with what `o` has in some slots. -/
def copy (o base : ClientOptions) (slots : List Slot) : ClientOptions :=
  slots.foldl (fun base s => ((s.get? o).map (s.put base)).getD base) base

theorem ordered_copy {o base : ClientOptions} (hbase : base.headers.Ordered)
    (slots : List Slot) : (copy o base slots).headers.Ordered := by
  unfold copy
  induction slots generalizing base with
  | nil => exact hbase
  | cons s slots ih =>
    rw [List.foldl_cons]
    refine ih ?_
    cases s.get? o with
    | none => exact hbase
    | some v => exact ordered_put hbase s v

theorem get?_copy (o base : ClientOptions) (slots : List Slot) (t : Slot) :
    t.get? (copy o base slots) =
      if t ∈ slots then (t.get? o).or (t.get? base) else t.get? base := by
  unfold copy
  induction slots generalizing base with
  | nil => rfl
  | cons s slots ih =>
    rw [List.foldl_cons, ih]
    have hstep : t.get? (((s.get? o).map (s.put base)).getD base) =
        if t = s then (t.get? o).or (t.get? base) else t.get? base := by
      by_cases hts : t = s
      · subst hts
        rw [if_pos rfl]
        cases t.get? o with
        | none => rfl
        | some v => exact get?_put_self base t v
      · rw [if_neg hts]
        cases s.get? o with
        | none => rfl
        | some v => exact get?_put_of_ne (Ne.symm hts) base v
    rw [hstep]
    by_cases hts : t = s
    · subst hts
      simp only [List.mem_cons, true_or, if_true]
      cases t.get? o <;> simp
    · simp only [List.mem_cons, hts, false_or, if_false]

/-- Slots that options leave empty are empty by default. -/
theorem get?_default {o : ClientOptions} {s : Slot} (h : s.get? o = none) :
    s.get? ({} : ClientOptions) = none := by
  cases s with
  | label | username | password | token | header _ => rfl
  | _ => cases h

/-- A slot that is not gone through is empty. -/
theorem get?_of_not_mem_all {o : ClientOptions} {s : Slot} (h : s ∉ all o) : s.get? o = none := by
  cases s with
  | header field =>
    cases hget : o.headers.get? field with
    | none => exact hget
    | some value =>
      have hkey : field ∈ o.headers.keys :=
        List.mem_map.2 ⟨(field, value), TextMap.mem_of_get? hget, rfl⟩
      exact absurd (List.mem_append_right _ (List.mem_map_of_mem hkey)) h
  | _ => exact absurd (List.mem_append_left _ (by decide)) h

/-- Copying every slot over the defaults gives the same options. -/
theorem copy_all {o : ClientOptions} (ho : o.headers.Ordered) : copy o {} (all o) = o := by
  refine ext (ordered_copy TextMap.ordered_empty _) ho fun s => ?_
  rw [get?_copy]
  split
  · cases hget : s.get? o with
    | none => rw [get?_default hget]; rfl
    | some v => rfl
  · rename_i hmem
    rw [get?_of_not_mem_all hmem, get?_default (get?_of_not_mem_all hmem)]

end Slot

/-- The pairs of headers are those of their slots. -/
theorem flatMap_header {o : ClientOptions} (ho : o.headers.Ordered) :
    (o.headers.keys.map Slot.header).flatMap (Slot.pairs o) =
      o.headers.toList.map fun p => (rootKey ++ ":" ++ ("headers:" ++ p.1), p.2) := by
  rw [TextMap.keys, List.map_map, List.flatMap_map, List.map_eq_flatMap, List.flatMap_def,
    List.flatMap_def]
  congr 1
  refine List.map_congr_left fun p hp => ?_
  have hget : o.headers.get? p.1 = some p.2 := ho.get?_eq_some_iff.2 hp
  change ((o.headers.get? p.1).map _).toList = _
  rw [hget]
  rfl

/-- Options are written slot by slot, and the headers behind the other slots. -/
theorem toPairs_eq_append (o : ClientOptions) :
    o.toPairs = Slot.named.flatMap (Slot.pairs o) ++
      o.headers.toList.map fun p => (rootKey ++ ":" ++ ("headers:" ++ p.1), p.2) := by
  have hoptional (key : String) (value? : Option String) :
      (optionalPair key value?).map (fun p => (rootKey ++ ":" ++ p.1, p.2)) =
        (value?.map fun v => (rootKey ++ ":" ++ key, v)).toList := by
    cases value? <;> rfl
  rw [toPairs, relativePairs, List.map_append, List.map_map]
  congr 1
  simp only [List.map_append, hoptional, List.append_assoc]
  rfl

/-- Options are written slot by slot. -/
theorem toPairs_eq {o : ClientOptions} (ho : o.headers.Ordered) :
    o.toPairs = (Slot.all o).flatMap (Slot.pairs o) := by
  rw [toPairs_eq_append, Slot.all, List.flatMap_append, flatMap_header ho]

/-- Reading written slots over any options copies them. -/
theorem readPairs_written {o : ClientOptions} {slots : List Slot}
    (hslots : ∀ s ∈ slots, s ≠ .header "" ∧ ∀ v, s.get? o = some v → s.IsWritable v)
    (base : ClientOptions) :
    readPairs base (slots.flatMap (Slot.pairs o)) = .ok (Slot.copy o base slots, []) := by
  induction slots generalizing base with
  | nil => rfl
  | cons s slots ih =>
    obtain ⟨⟨hkey, hvalue⟩, hslots⟩ := List.forall_mem_cons.1 hslots
    have hrest := ih hslots
    unfold Slot.copy at hrest ⊢
    rw [List.flatMap_cons, List.foldl_cons]
    cases hget : s.get? o with
    | none =>
      rw [Slot.pairs, hget]
      exact hrest base
    | some v =>
      have hread := Slot.read_write s v (hvalue v hget)
      rw [Slot.pairs, hget]
      simp only [Option.map_some, Option.toList_some, List.singleton_append]
      rw [readPairs_cons, readPair_eq, Slot.ofKey?_fullKey hkey]
      simp only [hread, Except.bind, hrest, Except.map]
      rfl

/-- Options that can be written exactly: the map of headers is one, no header
has an empty name, and the multiplier is a number that a binary64 can hold. -/
structure IsWritable (o : ClientOptions) : Prop where
  headers_ordered : o.headers.Ordered
  headers_named : o.headers.get? "" = none
  multiplier_representable : o.retry.multiplier.IsRepresentable

/-- Every option and header is read back. -/
theorem readPairs_toPairs {o : ClientOptions} (ho : o.IsWritable) :
    readPairs {} o.toPairs = .ok (o, []) := by
  have hslots : ∀ s ∈ Slot.all o, s ≠ .header "" ∧ ∀ v, s.get? o = some v → s.IsWritable v := by
    intro s hs
    refine ⟨?_, ?_⟩
    · rintro rfl
      rcases List.mem_append.1 hs with hnamed | hheader
      · revert hnamed
        decide
      · obtain ⟨field, hfield, hname⟩ := List.mem_map.1 hheader
        obtain rfl := Slot.header.inj hname
        obtain ⟨p, hp, hfirst⟩ := List.mem_map.1 hfield
        have hget := ho.headers_ordered.get?_eq_some_iff.2 hp
        rw [hfirst, ho.headers_named] at hget
        cases hget
    · intro v hv
      cases s with
      | retryMultiplier =>
        obtain rfl := Option.some.inj hv
        exact ho.multiplier_representable
      | _ => exact trivial
  rw [toPairs_eq ho.headers_ordered, readPairs_written hslots, Slot.copy_all ho.headers_ordered]

/-- Pairs behind those of options change these options and nothing else: the
outcome is that of the pairs read over the options themselves, with the same
warnings and the same error.  In particular options are read back from their
pairs without issues, and a slot that no pair addresses keeps its value. -/
theorem ofPairs_toPairs_append {o : ClientOptions} (ho : o.IsWritable) :
    (∀ ps, ofPairs (o.toPairs ++ ps) = (readPairs o ps).map fun r => (r.1, ⟨r.2⟩)) ∧
    ofPairs o.toPairs = .ok (o, ⟨[]⟩) ∧
    ∀ ps o' report, ofPairs (o.toPairs ++ ps) = .ok (o', report) →
      ∀ s : Slot, (∀ p ∈ ps, Slot.ofKey? p.1 ≠ some s) → s.get? o' = s.get? o := by
  have hover (ps : List (String × String)) :
      ofPairs (o.toPairs ++ ps) = (readPairs o ps).map fun r => (r.1, ⟨r.2⟩) := by
    rw [ofPairs, readPairs_append, readPairs_toPairs ho]
    cases hps : readPairs o ps <;> simp [Except.bind, Except.map, hps]
  refine ⟨hover, ?_, ?_⟩
  · rw [ofPairs, readPairs_toPairs ho]
    rfl
  · intro ps o' report hread s hs
    rw [hover] at hread
    cases hps : readPairs o ps with
    | error v =>
      rw [hps] at hread
      cases hread
    | ok r =>
      rw [hps] at hread
      obtain ⟨rfl, -⟩ := Prod.mk.inj (Except.ok.inj hread)
      exact get?_readPairs hs hps

/-- Overrides of a profile, of a header and of an unknown key. -/
theorem ofPairs_toPairs_append_overrides :
    let o : ClientOptions :=
      { name := "shop", label := some "", retry := { maxAttempts := 3 }
        headers := ⟨[("X-A", "1"), ("x-b", "2")]⟩ }
    let overrides := [("SPRING:cloud:config:Profile", "dev"), ("headers:x-b", "3"), ("nme", "x")]
    o.IsWritable ∧
    ofPairs (o.toPairs ++ overrides) =
      .ok ({ o with env := "dev", headers := ⟨[("X-A", "1"), ("x-b", "3")]⟩ },
        ⟨[unknownIssue "nme" "nme"]⟩) ∧
    ∀ s, (∀ p ∈ overrides, Slot.ofKey? p.1 ≠ some s) →
      s.get? { o with env := "dev", headers := ⟨[("X-A", "1"), ("x-b", "3")]⟩ } = s.get? o := by
  intro o overrides
  have ho : o.IsWritable :=
    ⟨List.pairwise_pair.2 (by decide), by decide, by decide +kernel⟩
  obtain ⟨hover, -, hframe⟩ := ofPairs_toPairs_append ho
  have hread : ofPairs (o.toPairs ++ overrides) =
      .ok ({ o with env := "dev", headers := ⟨[("X-A", "1"), ("x-b", "3")]⟩ },
        ⟨[unknownIssue "nme" "nme"]⟩) := by
    rw [hover]
    rfl
  exact ⟨ho, hread, fun s hs => hframe overrides _ _ hread s hs⟩

end RemoteConfig.ClientOptions
