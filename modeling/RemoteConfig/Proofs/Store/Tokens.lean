import RemoteConfig.Proofs.Snapshot.Content
import RemoteConfig.Store.Watched

/-!
# What tokens tell

Operations act on a watched store, and each `update` or `replace` answers how
the content differs.  A token that is handed out at some time has fired at a
later time exactly if one of the answers in between is a difference.

* `Signal.IsHonest` says that a token's waiters are awake exactly if its flag
  is set, and `WatchedStore.Invariant` that the retired tokens have fired and
  the current one has not.  Each operation keeps both.
* `retired_run` counts the tokens that are retired along a run, and
  `waiters_run` follows a waiter.
* `token_run` is the result about a token and a waiter on it.
-/

namespace RemoteConfig

/-! ## Waiters -/

namespace Waiter

@[simp] theorem isAwake_look (fired : Bool) : (look fired).isAwake = fired := by
  cases fired <;> rfl

@[simp] theorem isAwake_notify (w : Waiter) : w.notify.isAwake = true := by
  cases w <;> rfl

theorem isAwake_resume {w : Waiter} {fired : Bool} (h : w.isAwake = fired) :
    (w.resume fired).isAwake = fired := by
  cases w with
  | asleep => exact h
  | notified => exact isAwake_look fired
  | done => exact h

/-- A waiter that goes on is done exactly if the flag is set. -/
theorem resume_eq_done_iff {w : Waiter} {fired : Bool} (h : w.isAwake = fired) :
    w.resume fired = .done ↔ fired = true := by
  subst h
  cases w <;> decide

end Waiter

/-! ## Signals -/

namespace Signal

/-- The waiters are awake exactly if the flag is set. -/
def IsHonest (g : Signal) : Prop :=
  ∀ w ∈ g.waiters, w.isAwake = g.fired

theorem isHonest_default : IsHonest {} := by
  simp [IsHonest]

@[simp] theorem fired_fire (g : Signal) : g.fire.fired = true := by
  unfold fire
  split
  · assumption
  · rfl

theorem length_waiters_fire (g : Signal) : g.fire.waiters.length = g.waiters.length := by
  unfold fire
  split
  · rfl
  · exact List.length_map _

namespace IsHonest

variable {g : Signal}

theorem fire (h : g.IsHonest) : g.fire.IsHonest := by
  unfold Signal.fire
  split
  · exact h
  · intro w hw
    obtain ⟨w, -, rfl⟩ := List.mem_map.1 hw
    exact w.isAwake_notify

theorem wait (h : g.IsHonest) : g.wait.IsHonest := by
  intro w hw
  rcases List.mem_append.1 hw with hw | hw
  · exact h w hw
  · rw [List.mem_singleton.1 hw]
    exact Waiter.isAwake_look g.fired

theorem resume (h : g.IsHonest) (place : Nat) : (g.resume place).IsHonest := by
  intro w hw
  obtain ⟨i, hi⟩ := List.mem_iff_getElem?.1 hw
  simp only [Signal.resume, List.getElem?_modify, Option.map_eq_map, Option.map_eq_some_iff] at hi
  obtain ⟨w', hw', rfl⟩ := hi
  have hawake := h w' (List.mem_of_getElem? hw')
  split
  · exact Waiter.isAwake_resume hawake
  · exact hawake

end IsHonest

/-- Leaves the flag alone and loses no waiter. -/
structure IsQuiet (f : Signal → Signal) : Prop where
  fired : ∀ g, (f g).fired = g.fired
  waiters : ∀ g, g.waiters.length ≤ (f g).waiters.length
  isHonest : ∀ g, g.IsHonest → (f g).IsHonest

theorem wait_isQuiet : IsQuiet wait where
  fired _ := rfl
  waiters g := by simp [wait]
  isHonest _ h := h.wait

theorem resume_isQuiet (place : Nat) : IsQuiet (resume place) where
  fired _ := rfl
  waiters g := by simp [resume]
  isHonest _ h := h.resume place

end Signal

/-! ## Operations -/

/-- Something that is done to a store or to the waiters of its tokens. -/
inductive StoreOperation where
  | update (build : Snapshot → Snapshot)
  | replace (next : Snapshot)
  /-- Someone starts to wait on a token. -/
  | wait (t : ChangeToken)
  /-- A waiter is scheduled. -/
  | resume (t : ChangeToken) (place : Nat)

namespace StoreOperation

/-- Does an operation. -/
def apply (s : WatchedStore) : StoreOperation → WatchedStore
  | update build => (s.update build).2
  | replace next => (s.replace next).2
  | wait t => s.wait t
  | resume t place => s.resume t place

/-- The difference that an operation answers. -/
def diff? (s : WatchedStore) : StoreOperation → Option SnapshotDiff
  | update build => some (s.update build).1
  | replace next => some (s.replace next).1
  | wait _ | resume _ _ => none

end StoreOperation

namespace WatchedStore

/-- The store after operations. -/
def run (s : WatchedStore) (ops : List StoreOperation) : WatchedStore :=
  ops.foldl StoreOperation.apply s

/-- The differences that operations answer, in order. -/
def diffs (s : WatchedStore) : List StoreOperation → List SnapshotDiff
  | [] => []
  | op :: ops => (op.diff? s).toList ++ (op.apply s).diffs ops

@[simp] theorem run_cons (s : WatchedStore) (op : StoreOperation) (ops : List StoreOperation) :
    s.run (op :: ops) = (op.apply s).run ops := rfl

theorem fst_update (s : WatchedStore) (build : Snapshot → Snapshot) :
    (s.update build).1 = (s.store.update build).1 := by
  unfold WatchedStore.update
  simp only
  split <;> rfl

theorem update_of_isEmpty {s : WatchedStore} {build : Snapshot → Snapshot}
    (h : (s.update build).1.isEmpty) : (s.update build).2 = s := by
  unfold WatchedStore.update Store.update at h ⊢
  simp only at h ⊢
  split <;> rename_i hd
  · rfl
  · simp [hd] at h

theorem update_of_not_isEmpty {s : WatchedStore} {build : Snapshot → Snapshot}
    (h : (s.update build).1.isEmpty = false) :
    (s.update build).2 =
      { store :=
          { snapshot := build s.store.snapshot, publications := s.store.publications + 1 }
        retired := s.retired ++ [s.current.fire]
        current := {} } := by
  unfold WatchedStore.update Store.update at h ⊢
  simp only at h ⊢
  split <;> rename_i hd
  · simp [hd] at h
  · rfl

/-- What an operation can come to, by what it answers. -/
inductive Outcome (s : WatchedStore) : Option SnapshotDiff → WatchedStore → Prop where
  /-- The content is the same, and so is everything else. -/
  | unchanged (d : SnapshotDiff) (h : d.isEmpty = true) : Outcome s (some d) s
  | published (d : SnapshotDiff) (next : Snapshot) (h : d.isEmpty = false) :
    Outcome s (some d)
      { store := { snapshot := next, publications := s.store.publications + 1 }
        retired := s.retired ++ [s.current.fire]
        current := {} }
  | quiet (t : ChangeToken) (f : Signal → Signal) (h : Signal.IsQuiet f) :
    Outcome s none (s.modify t f)

theorem outcome (s : WatchedStore) (op : StoreOperation) :
    s.Outcome (op.diff? s) (op.apply s) := by
  have hupdate (build : Snapshot → Snapshot) :
      s.Outcome (some (s.update build).1) (s.update build).2 := by
    cases h : (s.update build).1.isEmpty with
    | true =>
      rw [update_of_isEmpty h]
      exact .unchanged _ h
    | false =>
      rw [update_of_not_isEmpty h]
      exact .published _ _ h
  cases op with
  | update build => exact hupdate build
  | replace next => exact hupdate fun _ => next
  | wait t => exact .quiet t _ Signal.wait_isQuiet
  | resume t place => exact .quiet t _ (Signal.resume_isQuiet place)

/-! ## The invariant -/

/-- The retired tokens have fired and the current one has not. -/
structure Invariant (s : WatchedStore) : Prop where
  publications : s.store.publications = s.retired.length
  retired : ∀ g ∈ s.retired, g.fired = true ∧ g.IsHonest
  current : s.current.fired = false ∧ s.current.IsHonest

theorem signal?_eq (s : WatchedStore) (t : ChangeToken) :
    s.signal? t = if t = s.token then some s.current else s.retired[t.issue]? := by
  obtain ⟨i⟩ := t
  simp only [signal?, token, ChangeToken.mk.injEq]
  rcases Nat.lt_trichotomy i s.retired.length with hi | rfl | hi
  · rw [List.getElem?_append_left hi, if_neg (Nat.ne_of_lt hi)]
  · simp
  · rw [List.getElem?_eq_none (by simpa using Nat.succ_le_of_lt hi), if_neg (Nat.ne_of_gt hi),
      List.getElem?_eq_none (Nat.le_of_lt hi)]

theorem signal?_token (s : WatchedStore) : s.signal? s.token = some s.current := by
  rw [signal?_eq, if_pos rfl]

theorem token_modify (s : WatchedStore) (t : ChangeToken) (f : Signal → Signal) :
    (s.modify t f).token = s.token := by
  unfold modify
  split
  · rfl
  · simp [token]

theorem signal?_modify (s : WatchedStore) (t u : ChangeToken) (f : Signal → Signal) :
    (s.modify t f).signal? u = (s.signal? u).map (if t = u then f else id) := by
  rw [signal?_eq, signal?_eq, token_modify]
  unfold modify
  split <;> rename_i hu <;> split <;> rename_i ht
  · simp [hu, ht]
  · simp [hu, ht]
  · rw [if_neg (ht ▸ Ne.symm hu), Option.map_id_fun, id]
  · rw [List.getElem?_modify, Option.map_eq_map]
    obtain ⟨i⟩ := t
    obtain ⟨j⟩ := u
    by_cases hij : i = j <;> simp [hij]

namespace Invariant

variable {s : WatchedStore}

theorem ofSnapshot (initial : Snapshot) : (ofSnapshot initial).Invariant where
  publications := rfl
  retired := by simp [WatchedStore.ofSnapshot]
  current := ⟨rfl, Signal.isHonest_default⟩

theorem modify (h : s.Invariant) (t : ChangeToken) {f : Signal → Signal}
    (hf : Signal.IsQuiet f) : (s.modify t f).Invariant := by
  unfold WatchedStore.modify
  split
  · exact ⟨h.publications, h.retired, (hf.fired _).trans h.current.1,
      hf.isHonest _ h.current.2⟩
  · refine ⟨h.publications.trans (List.length_modify _ _ _).symm, fun g hg => ?_, h.current⟩
    obtain ⟨i, hi⟩ := List.mem_iff_getElem?.1 hg
    simp only [List.getElem?_modify, Option.map_eq_map, Option.map_eq_some_iff] at hi
    obtain ⟨g', hg', rfl⟩ := hi
    obtain ⟨hfired, hhonest⟩ := h.retired g' (List.mem_of_getElem? hg')
    split
    · exact ⟨(hf.fired g').trans hfired, hf.isHonest g' hhonest⟩
    · exact ⟨hfired, hhonest⟩

theorem outcome {diff? : Option SnapshotDiff} {s' : WatchedStore} (h : s.Invariant)
    (ho : s.Outcome diff? s') : s'.Invariant := by
  cases ho with
  | unchanged => exact h
  | published d next _ =>
    refine ⟨by simp [h.publications], fun g hg => ?_, rfl, Signal.isHonest_default⟩
    rcases List.mem_append.1 hg with hg | hg
    · exact h.retired g hg
    · rw [List.mem_singleton.1 hg]
      exact ⟨s.current.fired_fire, h.current.2.fire⟩
  | quiet t f hf => exact h.modify t hf

theorem run (h : s.Invariant) (ops : List StoreOperation) : (s.run ops).Invariant := by
  induction ops generalizing s with
  | nil => exact h
  | cons op ops ih => exact ih (h.outcome (s.outcome op))

/-- The store knows by numbers which tokens have fired. -/
theorem hasFired_eq (h : s.Invariant) (t : ChangeToken) : s.hasFired t = s.store.hasFired t := by
  unfold hasFired Store.hasFired
  rw [signal?_eq, h.publications]
  split
  · rename_i ht
    subst ht
    simp [token, h.current.1]
  · rename_i ht
    rcases Nat.lt_or_ge t.issue s.retired.length with hlt | hge
    · rw [List.getElem?_eq_getElem hlt]
      simp [hlt, h.retired _ (List.getElem_mem hlt)]
    · rw [List.getElem?_eq_none hge]
      simp [Nat.not_lt.2 hge]

theorem hasFired_iff (h : s.Invariant) (t : ChangeToken) :
    s.hasFired t = true ↔ t.issue < s.retired.length := by
  rw [h.hasFired_eq, Store.hasFired, h.publications, decide_eq_true_iff]

/-- The waiters of a token are awake exactly if it has fired. -/
theorem isAwake_of_mem (h : s.Invariant) {t : ChangeToken} {g : Signal} {w : Waiter}
    (hg : s.signal? t = some g) (hw : w ∈ g.waiters) : w.isAwake = s.hasFired t := by
  have hhonest : g.IsHonest := by
    rw [signal?_eq] at hg
    split at hg
    · exact Option.some.inj hg ▸ h.current.2
    · exact (h.retired g (List.mem_of_getElem? hg)).2
  rw [hhonest w hw, hasFired, hg, Option.any_some]

end Invariant

/-! ## Runs -/

/-- The number of differences among answers. -/
def changeCount (diffs : List SnapshotDiff) : Nat :=
  diffs.countP fun d => !d.isEmpty

theorem retired_outcome {s s' : WatchedStore} {diff? : Option SnapshotDiff}
    (ho : s.Outcome diff? s') :
    s'.retired.length = s.retired.length + changeCount diff?.toList := by
  cases ho with
  | unchanged d hd => simp [changeCount, hd]
  | published d next hd => simp [changeCount, hd]
  | quiet t f => exact congrArg ChangeToken.issue (s.token_modify t f)

/-- As many tokens are retired as there are differences. -/
theorem retired_run (s : WatchedStore) (ops : List StoreOperation) :
    (s.run ops).retired.length = s.retired.length + changeCount (s.diffs ops) := by
  induction ops generalizing s with
  | nil => rfl
  | cons op ops ih =>
    rw [run_cons, ih, retired_outcome (s.outcome op), diffs, Nat.add_assoc]
    simp only [changeCount, List.countP_append]

theorem snapshot_outcome {s s' : WatchedStore} {diff? : Option SnapshotDiff}
    (ho : s.Outcome diff? s') (hsame : changeCount diff?.toList = 0) :
    s'.store.snapshot = s.store.snapshot := by
  cases ho with
  | unchanged => rfl
  | published d next hd => simp [changeCount, hd] at hsame
  | quiet t f =>
    unfold modify
    split <;> rfl

/-- Without a difference the snapshot stays. -/
theorem snapshot_run {s : WatchedStore} {ops : List StoreOperation}
    (hsame : changeCount (s.diffs ops) = 0) : (s.run ops).store.snapshot = s.store.snapshot := by
  induction ops generalizing s with
  | nil => rfl
  | cons op ops ih =>
    rw [diffs, changeCount, List.countP_append] at hsame
    obtain ⟨hhead, htail⟩ := Nat.add_eq_zero_iff.1 hsame
    exact (ih htail).trans (snapshot_outcome (s.outcome op) hhead)

theorem waiter?_isSome_iff {s : WatchedStore} {t : ChangeToken} {place : Nat} :
    (s.waiter? t place).isSome ↔ ∃ g, s.signal? t = some g ∧ place < g.waiters.length := by
  unfold waiter?
  cases s.signal? t <;> simp

/-- No token loses a waiter. -/
theorem signal?_outcome {s s' : WatchedStore} {diff? : Option SnapshotDiff}
    (ho : s.Outcome diff? s') {t : ChangeToken} {g : Signal} (hg : s.signal? t = some g) :
    ∃ g', s'.signal? t = some g' ∧ g.waiters.length ≤ g'.waiters.length := by
  cases ho with
  | unchanged => exact ⟨g, hg, Nat.le_refl _⟩
  | published d next hd =>
    rw [signal?_eq] at hg
    unfold signal?
    split at hg
    · rename_i ht
      subst ht
      obtain rfl := Option.some.inj hg
      exact ⟨s.current.fire, by simp [token], Nat.le_of_eq s.current.length_waiters_fire.symm⟩
    · obtain ⟨hlt, -⟩ := List.getElem?_eq_some_iff.1 hg
      exact ⟨g, by simpa [List.getElem?_append_left hlt] using hg, Nat.le_refl _⟩
  | quiet u f hf =>
    rw [signal?_modify, hg, Option.map_some]
    split
    · exact ⟨f g, rfl, hf.waiters g⟩
    · exact ⟨g, rfl, Nat.le_refl _⟩

/-- Waiters keep their place. -/
theorem waiter?_run {s : WatchedStore} {t : ChangeToken} {place : Nat}
    (hw : (s.waiter? t place).isSome) (ops : List StoreOperation) :
    ((s.run ops).waiter? t place).isSome := by
  induction ops generalizing s with
  | nil => exact hw
  | cons op ops ih =>
    obtain ⟨g, hg, hplace⟩ := waiter?_isSome_iff.1 hw
    obtain ⟨g', hg', hle⟩ := signal?_outcome (s.outcome op) hg
    exact ih (waiter?_isSome_iff.2 ⟨g', hg', Nat.lt_of_lt_of_le hplace hle⟩)

variable {s : WatchedStore}

/-- A token has fired exactly if there was a difference since it was current. -/
theorem hasFired_run_iff (h : s.Invariant) (ops : List StoreOperation) :
    (s.run ops).hasFired s.token = true ↔ ∃ d ∈ s.diffs ops, d.isEmpty = false := by
  rw [(h.run ops).hasFired_iff, retired_run, changeCount, token]
  simp only [Nat.lt_add_right_iff_pos, List.countP_pos_iff, Bool.not_eq_true']

/-- A token that has fired stays so. -/
theorem hasFired_run_of_hasFired (h : s.Invariant) {t : ChangeToken} (hfired : s.hasFired t = true)
    (ops : List StoreOperation) : (s.run ops).hasFired t = true := by
  rw [(h.run ops).hasFired_iff, retired_run]
  exact Nat.lt_add_right _ ((h.hasFired_iff t).1 hfired)

/-- A waiter is awake exactly if its token has fired. -/
theorem isAwake_of_waiter? (h : s.Invariant) {t : ChangeToken} {place : Nat} {w : Waiter}
    (hw : s.waiter? t place = some w) : w.isAwake = s.hasFired t := by
  obtain ⟨g, hg, hgw⟩ := Option.bind_eq_some_iff.1 hw
  exact h.isAwake_of_mem hg (List.mem_of_getElem? hgw)

/-- A waiter that goes on waits no more exactly if its token has fired. -/
theorem waiter?_resume (h : s.Invariant) {t : ChangeToken} {place : Nat}
    (hw : (s.waiter? t place).isSome) :
    (s.resume t place).waiter? t place = some .done ↔ s.hasFired t = true := by
  obtain ⟨g, hg, hplace⟩ := waiter?_isSome_iff.1 hw
  have hfired : g.fired = s.hasFired t := by rw [hasFired, hg, Option.any_some]
  have hawake := h.isAwake_of_mem hg (List.getElem_mem hplace)
  have hplaced : (s.resume t place).waiter? t place =
      some (g.waiters[place].resume g.fired) := by
    unfold waiter? WatchedStore.resume
    rw [signal?_modify, hg, if_pos rfl]
    simp [Signal.resume, hplace]
  rw [hplaced, Option.some_inj, Waiter.resume_eq_done_iff (hawake.trans hfired.symm), hfired]

theorem waiter?_wait (s : WatchedStore) :
    ((s.wait s.token).waiter? s.token s.current.waiters.length).isSome := by
  rw [waiter?_isSome_iff]
  refine ⟨s.current.wait, ?_, by simp [Signal.wait]⟩
  rw [WatchedStore.wait, signal?_modify, signal?_token, if_pos rfl, Option.map_some]

/-- What a token that is taken after some operations, with a waiter that starts
to wait on it at once, tells after more operations.  Others may start to wait,
and any waiter may go on, in between. -/
theorem token_run (initial : Snapshot) (before between later : List StoreOperation) :
    let taken := (ofSnapshot initial).run before
    let place := taken.current.waiters.length
    let seen := (taken.wait taken.token).run between
    -- The token that is handed out now has not fired,
    seen.hasFired seen.token = false ∧
    -- the one that was taken has fired if there was a difference since,
    (seen.hasFired taken.token = true ↔
      ∃ d ∈ (taken.wait taken.token).diffs between, d.isEmpty = false) ∧
    -- and stays so.
    (seen.hasFired taken.token = true → (seen.run later).hasFired taken.token = true) ∧
    -- Its waiter was woken exactly if it has fired, and returns when it goes on.
    (∃ w, seen.waiter? taken.token place = some w ∧ w.isAwake = seen.hasFired taken.token) ∧
    ((seen.resume taken.token place).waiter? taken.token place = some .done ↔
      seen.hasFired taken.token = true) ∧
    -- As long as it has not fired, the content is what it was.
    (seen.hasFired taken.token = false →
      (∀ key, seen.store.get? key = taken.store.get? key) ∧
      seen.store.snapshot.size = taken.store.snapshot.size) ∧
    -- An operation without a difference does nothing.
    ∀ build, (seen.update build).1.isEmpty = true → (seen.update build).2 = seen := by
  intro taken place seen
  have htaken : taken.Invariant := (Invariant.ofSnapshot initial).run before
  have hwaiting : (taken.wait taken.token).Invariant := htaken.modify _ Signal.wait_isQuiet
  have hseen : seen.Invariant := hwaiting.run between
  have htoken : (taken.wait taken.token).token = taken.token := taken.token_modify _ _
  have hsnapshot : (taken.wait taken.token).store = taken.store := by
    unfold WatchedStore.wait WatchedStore.modify
    split <;> rfl
  have hfired := hasFired_run_iff hwaiting between
  rw [htoken] at hfired
  have hwaiter : (seen.waiter? taken.token place).isSome := waiter?_run taken.waiter?_wait between
  refine ⟨?_, hfired, fun h => hasFired_run_of_hasFired hseen h later, ?_,
    waiter?_resume hseen hwaiter, fun h => ?_, fun _ => update_of_isEmpty⟩
  · rw [hasFired, signal?_token, Option.any_some]
    exact hseen.current.1
  · obtain ⟨w, hw⟩ := Option.isSome_iff_exists.1 hwaiter
    exact ⟨w, hw, isAwake_of_waiter? hseen hw⟩
  · have hnone : changeCount ((taken.wait taken.token).diffs between) = 0 := by
      rw [changeCount, List.countP_eq_zero]
      intro d hd hne
      exact absurd (hfired.2 ⟨d, hd, by simpa using hne⟩) (by rw [h]; exact Bool.false_ne_true)
    have hsame : seen.store.snapshot = taken.store.snapshot :=
      (snapshot_run hnone).trans (congrArg Store.snapshot hsnapshot)
    exact ⟨fun key => by rw [Store.get?, Store.get?, hsame], by rw [hsame]⟩

end WatchedStore

end RemoteConfig
