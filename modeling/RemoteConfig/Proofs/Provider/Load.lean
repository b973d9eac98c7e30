import RemoteConfig.Proofs.TextMap
import RemoteConfig.Provider

/-!
# What a load does

A load either does not start, because the client is disabled or the load was
cancelled before, or it ends in what its attempts determined.

* `Attempts.run_ofWalk_error` says with which errors attempts end, and
  `load_error` does so for loads.
* `load_cases` is the case analysis on loads.  The other results about them are
  read off it.
* `load_store` and `load_lastFetch` say what a load leaves behind, in terms of
  its result.
-/

namespace RemoteConfig

variable {σ : Type}

/-! ## Counters -/

theorem Metrics.count_increment (counters : TextMap Nat) (label label' : String) :
    count (increment counters label) label' =
      count counters label' + if label = label' then 1 else 0 := by
  unfold increment count
  rw [TextMap.get?_insert]
  by_cases h : label = label'
  · subst h
    rw [if_pos rfl, if_pos rfl]
    rfl
  · rw [if_neg h, if_neg h, Nat.add_zero]

/-! ## How attempts end -/

theorem Session.await_error {client : HttpClient} {isSent : Bool} {outcome : Option FetchOutcome}
    {s : Session σ} {e : LoadError} (h : (s.await client isSent outcome).1 = .error e) :
    e = .cancelled := by
  unfold await at h
  split at h
  · exact (Except.error.inj h).symm
  · split at h <;> cases h

theorem Session.fetch_error {net : Servers σ} {client : HttpClient} {uri : String}
    {explicit : Option Credentials} {s : Session σ} {e : LoadError}
    (h : (s.fetch net client uri explicit).1 = .error e) : e = .cancelled :=
  await_error h

theorem Walker.row_error {w : Walker} {net : Servers σ} {base : String}
    {labels : List (Option String)} {s : Session σ} {e : LoadError}
    (h : (w.row net base labels s).1 = .error e) : e = .cancelled := by
  induction labels generalizing s with
  | nil => simp [row] at h
  | cons label labels ih =>
    rw [row] at h
    split at h
    · exact (Except.error.inj h).symm
    · split at h
      · simp at h
      · split at h
        · rename_i hfetch
          refine Session.fetch_error (congrArg Prod.fst hfetch |>.trans ?_)
          exact congrArg Except.error (Except.error.inj h)
        · split at h
          · simp at h
          · exact ih h
          · simp at h
          · simp at h

theorem Walker.rows_error {w : Walker} {net : Servers σ} {labels : List (Option String)}
    {bases : List String} {failures : List CandidateFailure} {lastEmpty : Bool} {s : Session σ}
    {e : LoadError} (h : (w.rows net labels bases failures lastEmpty s).1 = .error e) :
    e = .cancelled := by
  induction bases generalizing failures lastEmpty s with
  | nil => simp [rows] at h
  | cons base bases ih =>
    rw [rows] at h
    split at h
    · rename_i hrow
      refine row_error (congrArg Prod.fst hrow |>.trans ?_)
      exact congrArg Except.error (Except.error.inj h)
    · simp at h
    · simp at h
    · exact ih h
    · exact ih h

/-- How the attempts of a load can end: a failure of all candidates is raised
under fail-fast, and only then. -/
def IsEnd (failFast : Bool) : Except LoadError WalkOutcome → Prop
  | .ok (.exhausted _) => failFast = false
  | .ok _ => True
  | .error (.exhausted _) => failFast = true
  | .error e => e = .cancelled

theorem IsEnd.cases_error {failFast : Bool} {e : LoadError} (h : IsEnd failFast (.error e)) :
    e = .cancelled ∨ (failFast = true ∧ ∃ failures, e = .exhausted failures) := by
  cases e with
  | exhausted failures => exact Or.inr ⟨h, failures, rfl⟩
  | cancelled => exact Or.inl rfl
  | notLocated name profile => cases h
  | blockingUnsupported => cases h
  | metrics reason => cases h

theorem isEnd_giveUp (failFast : Bool) (failures : List CandidateFailure) :
    IsEnd failFast (Attempts.giveUp failFast failures) := by
  cases failFast <;> rfl

/-- Attempts whose own errors are cancellations end as they can.  The cases are
those of the loop. -/
theorem Attempts.isEnd_runFrom {a : Attempts σ}
    (hattempt : ∀ n s e, (a.attempt n s).1 = .error e → e = .cancelled)
    (failFast : Bool) {b : Backoff} (left : b.canRetry) (s : σ) :
    IsEnd failFast (a.runFrom failFast b left s).1 := by
  induction b, left, s using Attempts.runFrom.induct a with
  | case1 b left s hcancelled =>
    rw [runFrom, if_pos hcancelled]
    rfl
  | case2 b left s hcancelled failures s' hresult _ more s'' hpause =>
    change a.pause b.begin.delay (a.exhausted s') = (false, s'') at hpause
    rw [runFrom, if_neg hcancelled, hresult]
    simp only [dif_pos more, hpause]
    rfl
  | case3 b left s hcancelled failures s' hresult _ more s'' hpause ih =>
    change a.pause b.begin.delay (a.exhausted s') = (true, s'') at hpause
    rw [runFrom, if_neg hcancelled, hresult]
    simp only [dif_pos more, hpause]
    exact ih
  | case4 b left s hcancelled failures s' hresult more =>
    rw [runFrom, if_neg hcancelled, hresult]
    simp only [dif_neg more]
    exact isEnd_giveUp failFast failures
  | case5 b left s hcancelled hresult =>
    rw [runFrom, if_neg hcancelled]
    split
    · rename_i heq
      exact absurd heq (hresult _ _)
    · cases hlocated : (a.attempt b.begin.attempt s).1 with
      | error e =>
        obtain rfl := hattempt _ _ _ hlocated
        trivial
      | ok outcome =>
        cases outcome with
        | found e => trivial
        | noContent => trivial
        | exhausted failures => exact (hresult failures _ (Prod.ext hlocated rfl)).elim

theorem Attempts.isEnd_run_ofWalk (w : Walker) (net : Servers σ) (bases labels : List String)
    (o : RetryOptions) (failFast : Bool) (s : Session σ) :
    IsEnd failFast ((ofWalk w net bases labels).run o failFast s).1 :=
  isEnd_runFrom (fun _ _ _ h => Walker.rows_error h) failFast _ s

/-! ## Ended loads -/

/-- A load that has ended: whether the store was to be updated, and what was
returned. -/
structure EndedLoad where
  update : Bool
  result : Provider.LoadResult

namespace EndedLoad

/-- The environment that the load was to publish. -/
def published? : EndedLoad → Option Environment
  | ⟨true, .ok e⟩ => e
  | _ => none

/-- What the load, of a client that is not disabled, notes as the most recent
fetch.  Of the errors only an authoritative answer without environment is
noted. -/
def recorded? (l : EndedLoad) : Option (Option Environment) :=
  match l.result with
  | .ok e => some e
  | .error (.notLocated ..) => some none
  | .error _ => none

end EndedLoad

namespace Provider

/-! ## The end of the attempts -/

theorem publish_store (p : Provider) (e : Environment) :
    (p.publish e).store = (p.store.replace (snapshotFor p.options e)).2 := by
  unfold publish
  simp only
  split <;> rfl

theorem publish_frame (p : Provider) (e : Environment) :
    ∃ store metrics, p.publish e = { p with store, metrics } := by
  unfold publish
  simp only
  split
  · exact ⟨_, _, rfl⟩
  · exact ⟨_, _, rfl⟩

variable (p : Provider) (update : Bool) (located : Except LoadError WalkOutcome)

/-- The end of the attempts changes the store, the metrics and the most recent
fetch. -/
theorem conclude_frame : ∃ store metrics lastFetch,
    (p.conclude update located).2 = { p with store, metrics, lastFetch } := by
  rcases located with e | ⟨e | _ | failures⟩
  · exact ⟨_, _, _, rfl⟩
  · cases update with
    | false => exact ⟨_, _, _, rfl⟩
    | true =>
      obtain ⟨store, metrics, h⟩ := (p.fetched (some e)).publish_frame e
      simp only [conclude, if_true, h]
      exact ⟨_, _, _, rfl⟩
  · unfold conclude
    simp only
    split
    · exact ⟨_, _, _, rfl⟩
    · exact ⟨_, _, _, rfl⟩
  · exact ⟨_, _, _, rfl⟩

/-- The label under which the end of attempts counts. -/
def endLabel (failFast : Bool) : Except LoadError WalkOutcome → String
  | .ok (.found _) => "ok"
  | .ok .noContent => if failFast then "failed" else "empty"
  | .ok (.exhausted _) => "failed"
  | .error e => if e.isCancelled then "cancelled" else "failed"

theorem publish_metrics (e : Environment) :
    ∃ reloads keys, (p.publish e).metrics = { p.metrics with reloads, keys } := by
  unfold publish
  simp only
  split
  · exact ⟨_, _, rfl⟩
  · exact ⟨_, _, rfl⟩

/-- The end of the attempts counts as one load, and touches the counters of
publications besides. -/
theorem conclude_metrics : ∃ reloads keys,
    (p.conclude update located).2.metrics =
      { p.metrics with
        loads := Metrics.increment p.metrics.loads (endLabel p.options.failFast located)
        reloads, keys } := by
  rcases located with e | ⟨e | _ | failures⟩
  · exact ⟨_, _, rfl⟩
  · cases update with
    | false => exact ⟨_, _, rfl⟩
    | true =>
      obtain ⟨reloads, keys, h⟩ := (p.fetched (some e)).publish_metrics e
      simp only [conclude, if_true, recordLoad, h]
      exact ⟨_, _, rfl⟩
  · unfold conclude endLabel
    simp only
    rw [show (p.fetched none).options = p.options from rfl]
    split
    · exact ⟨_, _, rfl⟩
    · exact ⟨_, _, rfl⟩
  · exact ⟨_, _, rfl⟩

theorem conclude_store :
    (p.conclude update located).2.store =
      match EndedLoad.published? ⟨update, (p.conclude update located).1⟩ with
      | some e => (p.store.replace (snapshotFor p.options e)).2
      | none => p.store := by
  rcases located with e | ⟨e | _ | failures⟩
  · cases update <;> rfl
  · cases update with
    | false => rfl
    | true =>
      simp only [conclude, if_true, recordLoad, EndedLoad.published?]
      rw [publish_store]
      rfl
  · by_cases hfast : p.options.failFast <;> cases update <;>
      simp [conclude, fetched, recordLoad, EndedLoad.published?, hfast]
  · cases update <;> rfl

variable {located}

theorem conclude_lastFetch (hend : IsEnd p.options.failFast located) :
    (p.conclude update located).2.lastFetch =
      (EndedLoad.recorded? ⟨update, (p.conclude update located).1⟩).or p.lastFetch := by
  rcases located with e | ⟨e | _ | failures⟩
  · rcases hend.cases_error with rfl | ⟨-, failures, rfl⟩
    · rfl
    · rfl
  · cases update with
    | false => rfl
    | true =>
      obtain ⟨store, metrics, h⟩ := (p.fetched (some e)).publish_frame e
      simp only [conclude, if_true, h]
      rfl
  · by_cases hfast : p.options.failFast <;>
      simp [conclude, fetched, recordLoad, EndedLoad.recorded?, hfast]
  · rfl

theorem conclude_error {e : LoadError} (hend : IsEnd p.options.failFast located)
    (h : (p.conclude update located).1 = .error e) :
    e = .cancelled ∨ (p.options.failFast = true ∧
      (e = .notLocated p.options.name p.options.env ∨ ∃ failures, e = .exhausted failures)) := by
  rcases located with e' | ⟨e' | _ | failures⟩
  · obtain rfl : e' = e := Except.error.inj h
    rcases hend.cases_error with hcancelled | ⟨hfast, hexhausted⟩
    · exact Or.inl hcancelled
    · exact Or.inr ⟨hfast, Or.inr hexhausted⟩
  · cases h
  · unfold conclude at h
    simp only at h
    split at h
    · rename_i hfast
      exact Or.inr ⟨hfast, Or.inl (Except.error.inj h).symm⟩
    · cases h
  · cases h

/-! ## Loads -/

variable (net : Servers σ) (cancellation : Cancellation) (servers : σ)

/-- A load is skipped, is cancelled before it starts, or ends as its attempts
do. -/
theorem load_cases :
    (p.options.enabled = false ∧
      p.load net update cancellation servers = (.ok none, p, servers)) ∨
    (p.options.enabled = true ∧
      p.load net update cancellation servers = (.error .cancelled, p, servers)) ∨
    (p.options.enabled = true ∧
      ∃ metrics lookups located servers', IsEnd p.options.failFast located ∧
        p.load net update cancellation servers =
          ((({ p with metrics, lookups } : Provider).conclude update located).1,
            (({ p with metrics, lookups } : Provider).conclude update located).2, servers')) := by
  unfold load
  by_cases henabled : p.options.enabled = true
  · by_cases hstart : cancellation = .atStart
    · exact Or.inr (Or.inl ⟨henabled, by simp [henabled, hstart]⟩)
    · refine Or.inr (Or.inr ⟨henabled, ?_⟩)
      simp only [henabled, hstart, Bool.not_true, Bool.false_eq_true, if_false]
      exact ⟨_, _, _, _, Attempts.isEnd_run_ofWalk .., rfl⟩
  · exact Or.inl ⟨by simpa using henabled, by simp [henabled]⟩

theorem load_frame : ∃ store metrics lastFetch lookups,
    (p.load net update cancellation servers).2.1 =
      { p with store, metrics, lastFetch, lookups } := by
  rcases p.load_cases update net cancellation servers with
    ⟨-, h⟩ | ⟨-, h⟩ | ⟨-, metrics, lookups, located, servers', -, h⟩
  · exact ⟨_, _, _, _, by rw [h]⟩
  · exact ⟨_, _, _, _, by rw [h]⟩
  · rw [h]
    obtain ⟨store, metrics, lastFetch, h⟩ :=
      ({ p with metrics, lookups } : Provider).conclude_frame update located
    exact ⟨_, _, _, _, h⟩

/-- The store after a load: what the load was to publish replaces it, and
nothing else does. -/
theorem load_store :
    (p.load net update cancellation servers).2.1.store =
      match EndedLoad.published? ⟨update, (p.load net update cancellation servers).1⟩ with
      | some e => (p.store.replace (snapshotFor p.options e)).2
      | none => p.store := by
  rcases p.load_cases update net cancellation servers with
    ⟨-, h⟩ | ⟨-, h⟩ | ⟨-, metrics, lookups, located, servers', -, h⟩
  · rw [h]
    cases update <;> rfl
  · rw [h]
    cases update <;> rfl
  · rw [h]
    exact ({ p with metrics, lookups } : Provider).conclude_store update located

/-- The most recent fetch after a load. -/
theorem load_lastFetch :
    (p.load net update cancellation servers).2.1.lastFetch =
      if p.options.enabled then
        (EndedLoad.recorded? ⟨update, (p.load net update cancellation servers).1⟩).or p.lastFetch
      else p.lastFetch := by
  rcases p.load_cases update net cancellation servers with
    ⟨henabled, h⟩ | ⟨henabled, h⟩ | ⟨henabled, metrics, lookups, located, servers', hend, h⟩
  · rw [h, henabled]
    rfl
  · rw [h, henabled]
    rfl
  · rw [h, henabled, if_pos rfl]
    exact ({ p with metrics, lookups } : Provider).conclude_lastFetch update hend

/-- The errors of loads.  Apart from cancellations they come under fail-fast
only. -/
theorem load_error {e : LoadError} (h : (p.load net update cancellation servers).1 = .error e) :
    e = .cancelled ∨ (p.options.failFast = true ∧
      (e = .notLocated p.options.name p.options.env ∨ ∃ failures, e = .exhausted failures)) := by
  rcases p.load_cases update net cancellation servers with
    ⟨-, heq⟩ | ⟨-, heq⟩ | ⟨-, metrics, lookups, located, servers', hend, heq⟩
  · rw [heq] at h
    cases h
  · rw [heq] at h
    exact Or.inl (Except.error.inj h).symm
  · rw [heq] at h
    exact ({ p with metrics, lookups } : Provider).conclude_error update hend h

end Provider

end RemoteConfig
