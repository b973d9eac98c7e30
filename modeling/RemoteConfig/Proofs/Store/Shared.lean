import Mathlib.Logic.Function.Iterate
import RemoteConfig.Store.Shared
import RemoteConfig.Store.Watched

/-!
# No change is lost

A consumer takes the token before it reads the snapshot, and an update stores
the snapshot before it fires the token.  So a consumer that has read an old
snapshot has an old token, too.  A consumer asks to be notified before it looks
at the flag, and an update sets the flag before it notifies.  So nobody sleeps
on an old token.

* `FlagsFit` says how far the flags are behind the store while an update is at
  work, and `Fits` what each consumer has in hand.  `SharedStore.Invariant` is
  both, and each step keeps it.
* `run_update` and `waiter?_next` say that updates and waits that nobody
  interrupts are those of a store and of a waiter.
* `no_change_lost` is the result.
-/

namespace RemoteConfig

/-! ## Waits -/

namespace Wait

theorem notify_ne_asleep (w : Wait) : w.notify ≠ .asleep false := by
  cases w <;> simp [notify]

/-- A consumer that is not left asleep finds a flag that is set. -/
theorem iterate_next_fired {w : Wait} (h : w ≠ .asleep false) :
    (next true)^[3] w = .returned := by
  rcases w with _ | notified | notified | _
  · rfl
  · rfl
  · cases notified with
    | true => rfl
    | false => exact absurd rfl h
  · rfl

/-- A place between two looks at the flag, as that of a waiter. -/
def waiter? : Wait → Option Waiter
  | asleep false => some .asleep
  | asleep true => some .notified
  | returned => some .done
  | starting | asked _ => none

/-- A consumer that nobody interrupts asks and looks as a waiter does, is notified
as one, and looks again as one. -/
theorem waiter?_next (fired : Bool) :
    ((next fired)^[2] starting).waiter? = some (.look fired) ∧
    ((next fired)^[3] (asleep true)).waiter? = some (.resume fired .notified) ∧
    ∀ (w : Wait) (waiter : Waiter), w.waiter? = some waiter →
      w.notify.waiter? = some waiter.notify := by
  refine ⟨?_, ?_, fun w waiter h => ?_⟩
  · cases fired <;> rfl
  · cases fired <;> rfl
  · rcases w with _ | notified | notified | _
    · cases h
    · cases h
    · cases notified <;> cases h <;> rfl
    · cases h
      rfl

end Wait

namespace SharedStore

/-! ## Flags -/

/-- The flags of tokens of which so many have fired, and so many have not. -/
def flagsOf (fired unfired : Nat) : List Bool :=
  List.replicate fired true ++ List.replicate unfired false

theorem getElem?_flagsOf (fired unfired i : Nat) :
    (flagsOf fired unfired)[i]? = some true ↔ i < fired := by
  unfold flagsOf
  rw [List.getElem?_append, List.length_replicate]
  split
  · rename_i hlt
    simp [hlt]
  · rename_i hge
    rw [List.getElem?_replicate]
    split <;> simp <;> omega

theorem flagsOf_append (fired unfired : Nat) :
    flagsOf fired unfired ++ [false] = flagsOf fired (unfired + 1) := by
  rw [flagsOf, flagsOf, List.append_assoc, List.replicate_succ']

/-- The first flag that is not set is set. -/
theorem set_flagsOf (fired unfired : Nat) :
    (flagsOf fired (unfired + 1)).set fired true = flagsOf (fired + 1) unfired := by
  rw [flagsOf, flagsOf, List.set_append_right _ _ (by simp), List.length_replicate, Nat.sub_self,
    List.replicate_succ, List.set_cons_zero, List.replicate_succ', List.append_assoc]
  rfl

/-- The flags fit the number of publications: every token has fired but that of
the current snapshot.  While an update is at work, the flags are behind. -/
def FlagsFit (s : SharedStore) : Prop :=
  match s.inside with
  | some (.swapping _) => ∃ n, s.store.publications = n + 1 ∧ s.flags = flagsOf n 1
  | some (.setting old _) =>
    ∃ n, s.store.publications = n + 1 ∧ old = ⟨n⟩ ∧ s.flags = flagsOf n 2
  | some (.notifying old _) =>
    ∃ n, s.store.publications = n + 1 ∧ old = ⟨n⟩ ∧ s.flags = flagsOf (n + 1) 1
  | _ => s.flags = flagsOf s.store.publications 1

variable {s : SharedStore}

theorem hasFired_iff {fired unfired : Nat} (h : s.flags = flagsOf fired unfired)
    (t : ChangeToken) : s.hasFired t = true ↔ t.issue < fired := by
  rw [hasFired, h, decide_eq_true_iff, getElem?_flagsOf]

theorem FlagsFit.of_idle (h : s.FlagsFit) (hidle : s.inside = none) :
    s.flags = flagsOf s.store.publications 1 := by
  unfold FlagsFit at h
  rw [hidle] at h
  exact h

/-- When no update is at work, tokens have fired as the store says. -/
theorem hasFired_of_idle (h : s.FlagsFit) (hidle : s.inside = none) (t : ChangeToken) :
    s.hasFired t = s.store.hasFired t := by
  rw [Bool.eq_iff_iff, hasFired_iff (h.of_idle hidle), Store.hasFired, decide_eq_true_iff]

/-- A token is never newer than the store. -/
theorem issue_token_le (h : s.FlagsFit) : s.token.issue ≤ s.store.publications := by
  have hlength (fired unfired : Nat) : (flagsOf fired unfired).length = fired + unfired := by
    rw [flagsOf, List.length_append, List.length_replicate, List.length_replicate]
  show s.flags.length - 1 ≤ s.store.publications
  unfold FlagsFit at h
  split at h
  · obtain ⟨n, hpublications, hflags⟩ := h
    rw [hflags, hlength]
    omega
  · obtain ⟨n, hpublications, -, hflags⟩ := h
    rw [hflags, hlength]
    omega
  · obtain ⟨n, hpublications, -, hflags⟩ := h
    rw [hflags, hlength]
    omega
  · rw [h, hlength]
    omega

/-! ## Consumers -/

/-- What a consumer that has read a snapshot has in hand.  The token is not newer
than the snapshot, and the snapshot is the current one or an older one. -/
structure Saw (s : SharedStore) (t : ChangeToken) (seen : Store) : Prop where
  token : t.issue ≤ seen.publications
  publications : seen.publications ≤ s.store.publications
  current : seen.publications = s.store.publications → seen = s.store

/-- Someone who sleeps on a token will be notified: its flag is still to be set, or
the notification is due. -/
def IsPending (s : SharedStore) (t : ChangeToken) : Prop :=
  s.hasFired t = false ∨ ∃ diff, s.inside = some (.notifying t diff)

/-- A consumer of a store is where it can be. -/
def Fits (s : SharedStore) : Consumer → Prop
  | .arrived => True
  | .holding t => t.issue ≤ s.store.publications
  | .waiting t seen wait => s.Saw t seen ∧ (wait = .asleep false → s.IsPending t)

/-- A consumer stays where it is while the store gets newer and nobody who sleeps
is forgotten. -/
theorem Fits.mono {s' : SharedStore} {c : Consumer} (h : s.Fits c)
    (hstore : s'.store = s.store ∨ s.store.publications < s'.store.publications)
    (hpending : ∀ t, s.IsPending t → s'.IsPending t) : s'.Fits c := by
  have hle : s.store.publications ≤ s'.store.publications := by
    rcases hstore with hsame | hlt
    · exact Nat.le_of_eq (congrArg Store.publications hsame).symm
    · omega
  cases c with
  | arrived => trivial
  | holding t => exact Nat.le_trans h hle
  | waiting t seen wait =>
    obtain ⟨hsaw, hasleep⟩ := h
    refine ⟨⟨hsaw.token, Nat.le_trans hsaw.publications hle, fun hcurrent => ?_⟩,
      fun hwait => hpending t (hasleep hwait)⟩
    rcases hstore with hsame | hlt
    · rw [hsame] at hcurrent ⊢
      exact hsaw.current hcurrent
    · have := hsaw.publications
      omega

/-- A step of a consumer. -/
theorem Fits.consume {c : Consumer} (h : s.Fits c) (hflags : s.FlagsFit) :
    s.Fits (s.consume c) := by
  cases c with
  | arrived => exact issue_token_le hflags
  | holding t => exact ⟨⟨h, Nat.le_refl _, fun _ => rfl⟩, fun hwait => nomatch hwait⟩
  | waiting t seen wait =>
    refine ⟨h.1, fun hwait => ?_⟩
    -- It falls asleep behind a look at the flag, or it slept before.
    rcases wait with _ | notified | notified | _
    · cases hwait
    · cases hfired : s.hasFired t with
      | true =>
        rw [hfired] at hwait
        cases hwait
      | false => exact Or.inl hfired
    · cases notified with
      | true => cases hwait
      | false => exact h.2 rfl
    · cases hwait

/-- Who waits for a token is notified, and the others are not forgotten. -/
theorem Fits.notify {s' : SharedStore} {c : Consumer} {old : ChangeToken} {diff : SnapshotDiff}
    (h : s.Fits c) (hinside : s.inside = some (.notifying old diff)) (hstore : s'.store = s.store)
    (hflags : s'.flags = s.flags) : s'.Fits (c.notify old) := by
  cases c with
  | arrived => trivial
  | holding t =>
    show t.issue ≤ s'.store.publications
    rw [hstore]
    exact h
  | waiting t seen wait =>
    obtain ⟨hsaw, hasleep⟩ := h
    have hsaw' : s'.Saw t seen := by
      constructor
      · exact hsaw.token
      · rw [hstore]
        exact hsaw.publications
      · rw [hstore]
        exact hsaw.current
    refine ⟨hsaw', fun hwait => ?_⟩
    by_cases ht : t = old
    · rw [if_pos ht] at hwait
      exact absurd hwait wait.notify_ne_asleep
    · rw [if_neg ht] at hwait
      rcases hasleep hwait with hunset | ⟨diff', hother⟩
      · left
        unfold hasFired at hunset ⊢
        rw [hflags]
        exact hunset
      · rw [hinside] at hother
        cases hother
        exact absurd rfl ht

/-! ## Steps -/

/-- What holds in every state that a schedule leads to. -/
structure Invariant (s : SharedStore) : Prop where
  flags : s.FlagsFit
  consumers : ∀ c ∈ s.consumers, s.Fits c

namespace Invariant

theorem ofSnapshot (initial : Snapshot) : (ofSnapshot initial).Invariant where
  flags := rfl
  consumers _ hc := nomatch hc

/-- A step of the update keeps the invariant if it fits the flags, lets the store
get newer only, and forgets nobody. -/
theorem of_mono {s' : SharedStore} (h : s.Invariant) (hflags : s'.FlagsFit)
    (hconsumers : s'.consumers = s.consumers)
    (hstore : s'.store = s.store ∨ s.store.publications < s'.store.publications)
    (hpending : ∀ t, s.IsPending t → s'.IsPending t) : s'.Invariant where
  flags := hflags
  consumers c hc := by
    rw [hconsumers] at hc
    exact (h.consumers c hc).mono hstore hpending

/-- The next step of the update that has the lock. -/
theorem proceed (h : s.Invariant) {u : Update} (hinside : s.inside = some u) :
    (s.proceed u).Invariant := by
  -- Before the notification, whoever sleeps has a flag that is not set.
  have hunset (hu : ∀ t diff, u ≠ .notifying t diff) (t : ChangeToken) (ht : s.IsPending t) :
      s.hasFired t = false := by
    rcases ht with hunset | ⟨diff, hnotifying⟩
    · exact hunset
    · rw [hinside] at hnotifying
      exact absurd (Option.some.inj hnotifying) (hu t diff)
  have hfit := h.flags
  unfold FlagsFit at hfit
  rw [hinside] at hfit
  cases u with
  | building build =>
    refine h.of_mono ?_ rfl (Or.inl rfl) fun t ht => Or.inl (hunset (fun _ _ => nofun) t ht)
    rw [SharedStore.proceed]
    cases (s.store.snapshot.diff (build s.store.snapshot)).isEmpty with
    | true => exact hfit
    | false => exact hfit
  | storing next diff =>
    exact h.of_mono ⟨_, rfl, hfit⟩ rfl (Or.inr (Nat.lt_succ_self _)) fun t ht =>
      Or.inl (hunset (fun _ _ => nofun) t ht)
  | swapping diff =>
    obtain ⟨n, hpublications, hflags⟩ := hfit
    have hswapped : s.flags ++ [false] = flagsOf n 2 := by
      rw [hflags, flagsOf_append]
    have htoken : s.token = ⟨n⟩ := by
      rw [token, hflags]
      simp [flagsOf]
    refine h.of_mono ⟨n, hpublications, htoken, hswapped⟩ rfl (Or.inl rfl) fun t ht => Or.inl ?_
    have hbefore := hunset (fun _ _ => nofun) t ht
    rw [← Bool.not_eq_true, hasFired_iff hflags] at hbefore
    rw [← Bool.not_eq_true, hasFired_iff hswapped]
    exact hbefore
  | setting old diff =>
    obtain ⟨n, hpublications, rfl, hflags⟩ := hfit
    have hset : s.flags.set n true = flagsOf (n + 1) 1 := by
      rw [hflags, set_flagsOf]
    have hnot : ¬ s.hasFired ⟨n⟩ = true := by
      rw [hasFired_iff hflags]
      exact Nat.lt_irrefl n
    rw [SharedStore.proceed, if_neg hnot]
    refine h.of_mono ⟨n, hpublications, rfl, hset⟩ rfl (Or.inl rfl) fun t ht => ?_
    by_cases hn : t.issue = n
    · -- Those who sleep on the old token are notified next.
      right
      exact ⟨diff, by rw [← hn]⟩
    · left
      have hbefore := hunset (fun _ _ => nofun) t ht
      rw [← Bool.not_eq_true, hasFired_iff hflags] at hbefore
      rw [← Bool.not_eq_true, hasFired_iff hset]
      omega
  | notifying old diff =>
    obtain ⟨n, hpublications, rfl, hflags⟩ := hfit
    constructor
    · show s.flags = flagsOf s.store.publications 1
      rw [hflags, hpublications]
    · intro c hc
      obtain ⟨c, hmem, rfl⟩ := List.mem_map.1 hc
      exact (h.consumers c hmem).notify hinside rfl rfl
  | leaving diff =>
    exact h.of_mono hfit rfl (Or.inl rfl) fun t ht =>
      Or.inl (hunset (fun _ _ => nofun) t ht)

theorem write (h : s.Invariant) : s.write.Invariant := by
  unfold SharedStore.write
  cases hinside : s.inside with
  | none => exact h
  | some u => exact h.proceed hinside

theorem step (h : s.Invariant) (action : StoreAction) : (s.step action).Invariant := by
  cases action with
  | call build => exact h.of_mono h.flags rfl (Or.inl rfl) fun _ ht => ht
  | enter place =>
    unfold SharedStore.step
    simp only
    split
    · rename_i build hinside hqueue
      refine h.of_mono (h.flags.of_idle hinside) rfl (Or.inl rfl) fun t ht => Or.inl ?_
      rcases ht with hunset | ⟨diff, hnotifying⟩
      · exact hunset
      · rw [hinside] at hnotifying
        cases hnotifying
    · exact h
  | write => exact h.write
  | join =>
    refine ⟨h.flags, fun c hc => ?_⟩
    rcases List.mem_append.1 hc with hc | hc
    · exact (h.consumers c hc).mono (Or.inl rfl) fun _ ht => ht
    · rw [List.mem_singleton.1 hc]
      trivial
  | consume i =>
    refine ⟨h.flags, fun c hc => ?_⟩
    obtain ⟨j, hj⟩ := List.mem_iff_getElem?.1 hc
    change (s.consumers.modify i s.consume)[j]? = some c at hj
    rw [List.getElem?_modify, Option.map_eq_map, Option.map_eq_some_iff] at hj
    obtain ⟨c, hbefore, rfl⟩ := hj
    have hfits := h.consumers c (List.mem_of_getElem? hbefore)
    split
    · exact (hfits.consume h.flags).mono (Or.inl rfl) fun _ ht => ht
    · exact hfits.mono (Or.inl rfl) fun _ ht => ht

theorem run (h : s.Invariant) (schedule : List StoreAction) : (s.run schedule).Invariant := by
  induction schedule generalizing s with
  | nil => exact h
  | cons action schedule ih => exact ih (h.step action)

end Invariant

/-! ## Parts of schedules -/

theorem run_write (s : SharedStore) (n : Nat) :
    s.run (List.replicate n .write) = SharedStore.write^[n] s := by
  induction n generalizing s with
  | zero => rfl
  | succ n ih => exact ih s.write

/-- What an update that has found a difference leaves behind if nobody interrupts
it: the next snapshot, one more token, and consumers of the old token that have
been notified. -/
theorem write_storing (hflags : s.flags = flagsOf s.store.publications 1) {next : Snapshot}
    {diff : SnapshotDiff} (hinside : s.inside = some (.storing next diff)) :
    SharedStore.write^[5] s =
      { s with
        store := { snapshot := next, publications := s.store.publications + 1 }
        flags := flagsOf (s.store.publications + 1) 1
        inside := none
        answers := s.answers ++ [diff]
        consumers := s.consumers.map (.notify ⟨s.store.publications⟩) } := by
  obtain ⟨⟨snapshot, k⟩, flags, queue, inside, answers, consumers⟩ := s
  obtain rfl : inside = some (.storing next diff) := hinside
  obtain rfl : flags = flagsOf k 1 := hflags
  have htoken : (flagsOf k 1).length - 1 = k := by
    simp [flagsOf]
  let stored : SharedStore :=
    ⟨⟨next, k + 1⟩, flagsOf k 1, queue, some (.swapping diff), answers, consumers⟩
  let swapped : SharedStore :=
    { stored with flags := flagsOf k 2, inside := some (.setting ⟨k⟩ diff) }
  have hswapped : stored.proceed (.swapping diff) = swapped := by
    rw [proceed, token, htoken, flagsOf_append]
  have hset : swapped.proceed (.setting ⟨k⟩ diff) =
      { stored with flags := flagsOf (k + 1) 1, inside := some (.notifying ⟨k⟩ diff) } := by
    have hnot : ¬ swapped.hasFired ⟨k⟩ = true := by
      rw [@hasFired_iff _ k 2 rfl]
      exact Nat.lt_irrefl k
    rw [proceed, if_neg hnot, set_flagsOf]
  show SharedStore.write^[3] (stored.proceed (.swapping diff)) = _
  rw [hswapped]
  show SharedStore.write^[2] (swapped.proceed (.setting ⟨k⟩ diff)) = _
  rw [hset]
  rfl

/-- An update that nobody interrupts does what an update of the store does, and
answers the same. -/
theorem run_update (h : s.FlagsFit) (hidle : s.inside = none) {build : Snapshot → Snapshot}
    {queue : List (Snapshot → Snapshot)} (hqueue : s.queue = build :: queue) :
    let s' := s.run (.enter 0 :: List.replicate 6 .write)
    s'.inside = none ∧ s'.store = (s.store.update build).2 ∧
      s'.answers = s.answers ++ [(s.store.update build).1] ∧ s'.queue = queue := by
  have hflags := h.of_idle hidle
  let entered : SharedStore := { s with queue, inside := some (.building build) }
  have henter : s.step (.enter 0) = entered := by
    rw [step, hidle, hqueue]
    rfl
  intro s'
  have hs' : s' = SharedStore.write^[5] (entered.proceed (.building build)) := by
    show (s.step (.enter 0)).run (List.replicate 6 .write) = _
    rw [henter, run_write]
    rfl
  cases hempty : (s.store.snapshot.diff (build s.store.snapshot)).isEmpty with
  | true =>
    have hupdate : s.store.update build =
        (s.store.snapshot.diff (build s.store.snapshot), s.store) := if_pos hempty
    have hleaving : (entered.proceed (.building build)).inside =
        some (.leaving (s.store.snapshot.diff (build s.store.snapshot))) :=
      congrArg some (if_pos hempty)
    have hproceed : entered.proceed (.building build) =
        { entered with inside := (entered.proceed (.building build)).inside } := rfl
    rw [hs', hproceed, hleaving, hupdate]
    exact ⟨rfl, rfl, rfl, rfl⟩
  | false =>
    have hne : ¬ (s.store.snapshot.diff (build s.store.snapshot)).isEmpty = true := by
      simp [hempty]
    have hupdate : s.store.update build = (s.store.snapshot.diff (build s.store.snapshot),
        { snapshot := build s.store.snapshot, publications := s.store.publications + 1 }) :=
      if_neg hne
    have hstoring : (entered.proceed (.building build)).inside =
        some (.storing (build s.store.snapshot)
          (s.store.snapshot.diff (build s.store.snapshot))) :=
      congrArg some (if_neg hne)
    rw [hs', write_storing (s := entered.proceed (.building build)) hflags hstoring, hupdate]
    exact ⟨rfl, rfl, rfl, rfl⟩

/-- A consumer that goes on alone. -/
theorem getElem?_run_consume {i : Nat} {t : ChangeToken} {seen : Store} {wait : Wait}
    (h : s.consumers[i]? = some (.waiting t seen wait)) (n : Nat) :
    (s.run (List.replicate n (.consume i))).consumers[i]? =
      some (.waiting t seen ((Wait.next (s.hasFired t))^[n] wait)) := by
  induction n generalizing s wait with
  | zero => exact h
  | succ n ih =>
    have hnext : (s.step (.consume i)).consumers[i]? =
        some (.waiting t seen (wait.next (s.hasFired t))) := by
      show (s.consumers.modify i s.consume)[i]? = _
      rw [List.getElem?_modify_eq, h]
      rfl
    exact ih hnext

/-! ## The result -/

/-- No change is lost between updates and consumers, however their steps are
interleaved.  When no update is at work, each consumer that has read another
snapshot than the current one has a token that has fired.  It is not left
asleep, and returns from its wait when it goes on. -/
theorem no_change_lost (initial : Snapshot) (schedule : List StoreAction) :
    let s := (ofSnapshot initial).run schedule
    s.inside = none →
    ∀ i t seen wait, s.consumers[i]? = some (.waiting t seen wait) → seen ≠ s.store →
      s.hasFired t = true ∧ wait ≠ .asleep false ∧
      (s.run (List.replicate 3 (.consume i))).consumers[i]? =
        some (.waiting t seen .returned) := by
  intro s hidle i t seen wait hconsumer hother
  have hinv : s.Invariant := (Invariant.ofSnapshot initial).run schedule
  obtain ⟨hsaw, hasleep⟩ : s.Fits (.waiting t seen wait) :=
    hinv.consumers _ (List.mem_of_getElem? hconsumer)
  have hfired : s.hasFired t = true := by
    have hold : seen.publications ≠ s.store.publications := fun h => hother (hsaw.current h)
    have htoken := hsaw.token
    have hseen := hsaw.publications
    rw [hasFired_iff (hinv.flags.of_idle hidle)]
    omega
  have hawake : wait ≠ .asleep false := by
    intro hwait
    rcases hasleep hwait with hunset | ⟨diff, hinside⟩
    · rw [hfired] at hunset
      cases hunset
    · rw [hidle] at hinside
      cases hinside
  refine ⟨hfired, hawake, ?_⟩
  rw [getElem?_run_consume hconsumer 3, hfired, Wait.iterate_next_fired hawake]

/-- A consumer falls asleep, and then an update changes a value. -/
def changeSchedule : List StoreAction :=
  .join :: List.replicate 4 (.consume 0) ++
    .call (fun current => current.set "k" "v") :: .enter 0 :: List.replicate 6 .write

/-- A consumer that sleeps through an update is woken. -/
theorem no_change_lost_sleeper :
    let s := (ofSnapshot {}).run changeSchedule
    s.inside = none ∧ s.consumers[0]? = some (.waiting ⟨0⟩ {} (.asleep true)) ∧
      ({} : Store) ≠ s.store ∧
      (s.run (List.replicate 3 (.consume 0))).consumers[0]? =
        some (.waiting ⟨0⟩ {} .returned) := by
  intro s
  have hidle : s.inside = none := Option.isNone_iff_eq_none.1 (by decide +kernel)
  have hconsumer : s.consumers[0]? = some (.waiting ⟨0⟩ {} (.asleep true)) := by decide +kernel
  have hother : ({} : Store) ≠ s.store := by decide +kernel
  exact ⟨hidle, hconsumer, hother,
    (no_change_lost {} changeSchedule hidle 0 ⟨0⟩ {} _ hconsumer hother).2.2⟩

end SharedStore

end RemoteConfig
