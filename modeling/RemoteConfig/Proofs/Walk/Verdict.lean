import RemoteConfig.Proofs.Walk.Transcript

/-!
# What walks determine

`Walker.verdict` reads the result of a walk off its transcript.  The main
statement, `walk_eq_verdict`, says that a walk that is never cancelled has
exactly one transcript, that its result is the verdict on it, and that the
servers see the requests of its places and no others.

* `row_eq` and `rows_eq` follow the two loops of a walk.  `EndsAs` ties the end
  of a row to its answers, and `verdictFrom` is the verdict in the middle of a
  walk, where some rows are behind.
* `Servers.recorded` notes the requests that reach any servers, so that what a
  walk sends can be stated of all of them.
-/

namespace RemoteConfig

/-- Servers that note the requests that reach them. -/
def Servers.recorded {σ : Type} (net : Servers σ) : Servers (σ × List Request) where
  reply request s :=
    let (reply, servers) := net.reply request s.1
    (reply, servers, s.2 ++ [request])

/-- An outcome is empty, ends the walk or is a failure. -/
theorem FetchOutcome.cases_of (o : FetchOutcome) :
    o.isEmpty ∧ o.ends? = none ∨ (∃ r, o.ends? = some r) ∧ ¬ o.isEmpty ∨
      ∃ failure, o = .failed failure := by
  cases o with
  | success status e => cases e <;> simp [isEmpty, ends?]
  | notFound => simp [isEmpty, ends?]
  | failed failure => exact Or.inr (Or.inr ⟨failure, rfl⟩)

namespace Walker

variable {σ : Type}

/-! ## Verdicts -/

/-- All places of a row were empty. -/
def allEmpty (row : List Answer) : Bool :=
  row.all (·.outcome.isEmpty)

/-- The failure that ended a row, if one did. -/
def failure? (w : Walker) (row : List Answer) : Option CandidateFailure :=
  match row.getLast? with
  | some ⟨p, .failed failure⟩ => some ⟨w.address p, failure⟩
  | _ => none

/-- The requests of the answers of a walk, in order. -/
def requests (w : Walker) (answers : List Answer) : List Request :=
  answers.filterMap fun a => w.request? a.place

/-- The result of a walk: what ended it, and otherwise nothing if the last row
was empty throughout, or the failures that ended rows. -/
def verdict (w : Walker) (t : List (List Answer)) : WalkOutcome :=
  match t.flatten.findSome? (·.outcome.ends?) with
  | some outcome => outcome
  | none =>
    if t.getLast?.any allEmpty then .noContent else .exhausted (t.filterMap w.failure?)

/-- The verdict on a walk whose first rows, with these failures, are behind. -/
def verdictFrom (w : Walker) (failures : List CandidateFailure) (lastEmpty : Bool)
    (t : List (List Answer)) : WalkOutcome :=
  match t.flatten.findSome? (·.outcome.ends?) with
  | some outcome => outcome
  | none =>
    if (t.getLast?.map allEmpty).getD lastEmpty then .noContent
    else .exhausted (failures ++ t.filterMap w.failure?)

/-- The answers of a row lead to this end. -/
def EndsAs (w : Walker) (row : List Answer) : RowEnd → Prop
  | .found e => row.findSome? (·.outcome.ends?) = some (.found e)
  | .notFound => row.findSome? (·.outcome.ends?) = some .noContent
  | .empty => row.findSome? (·.outcome.ends?) = none ∧ allEmpty row ∧ w.failure? row = none
  | .failed f =>
    row.findSome? (·.outcome.ends?) = none ∧ allEmpty row = false ∧ w.failure? row = some f

theorem endsWalk_iff {row : List Answer} :
    EndsWalk row ↔ ∃ r, row.findSome? (·.outcome.ends?) = some r := by
  rw [← Option.isSome_iff_exists, List.findSome?_isSome_iff]
  exact Iff.rfl

theorem not_endsWalk_iff {row : List Answer} :
    ¬ EndsWalk row ↔ row.findSome? (·.outcome.ends?) = none := by
  rw [endsWalk_iff, ← Option.isSome_iff_exists, Option.not_isSome_iff_eq_none]

section Loops

variable {w : Walker} {net : Servers σ}

theorem verdictFrom_of_findSome? {failures : List CandidateFailure} {lastEmpty : Bool}
    {row : List Answer} {r : WalkOutcome} (h : row.findSome? (·.outcome.ends?) = some r) :
    w.verdictFrom failures lastEmpty [row] = r := by
  simp [verdictFrom, h]

/-- A row that does not end the walk leaves behind its failure, and whether it
was empty. -/
theorem verdictFrom_cons {failures : List CandidateFailure} {lastEmpty : Bool}
    {row : List Answer} {rest : List (List Answer)}
    (h : row.findSome? (·.outcome.ends?) = none) :
    w.verdictFrom failures lastEmpty (row :: rest) =
      w.verdictFrom (failures ++ (w.failure? row).toList) (allEmpty row) rest := by
  have hlast : (((row :: rest).getLast?).map allEmpty).getD lastEmpty =
      (rest.getLast?.map allEmpty).getD (allEmpty row) := by
    rw [List.getLast?_cons]
    cases rest.getLast? <;> rfl
  have hfailures : failures ++ (row :: rest).filterMap w.failure? =
      failures ++ (w.failure? row).toList ++ rest.filterMap w.failure? := by
    cases hf : w.failure? row <;> simp [hf]
  simp only [verdictFrom, List.flatten_cons, List.findSome?_append, h, Option.none_or, hlast,
    hfailures]

/-- An empty place in front of a row does not change its end. -/
theorem EndsAs.cons {row : List Answer} {a : Answer} {e : RowEnd} (ha : a.outcome.isEmpty)
    (h : w.EndsAs row e) : w.EndsAs (a :: row) e := by
  obtain ⟨p, outcome⟩ := a
  have hends : outcome.ends? = none := by
    rcases outcome.cases_of with ⟨_, h⟩ | ⟨_, h⟩ | ⟨f, rfl⟩
    · exact h
    · exact absurd ha h
    · rfl
  have hfailure : w.failure? (⟨p, outcome⟩ :: row) = w.failure? row := by
    unfold failure?
    rw [List.getLast?_cons]
    cases row.getLast? with
    | some b => rfl
    | none => cases outcome <;> simp_all [FetchOutcome.isEmpty]
  have hempty : allEmpty (⟨p, outcome⟩ :: row) = allEmpty row := by
    simp [allEmpty, show outcome.isEmpty = true from ha]
  cases e <;> simpa [EndsAs, hends, hfailure, hempty] using h

/-! ## The loop over labels -/

section

variable (w net)

/-- A fetch that is not cancelled gives what the servers answer, or times out. -/
theorem fetch_of_never (client : HttpClient) (uri : String) (explicit : Option Credentials)
    {s : Session σ} (never : s.cancellation = .never) :
    ∃ s', s'.cancellation = .never ∧ s'.servers = (client.send net uri explicit s.servers).2 ∧
      s.fetch net client uri explicit =
        (.ok ((client.send net uri explicit s.servers).1.getD client.timedOut), s') := by
  unfold Session.fetch Session.await
  simp only [never, Cancellation.endsRequest_never, Bool.and_false, Bool.false_eq_true, if_false]
  rcases client.send net uri explicit s.servers with ⟨_ | outcome, servers⟩
  · exact ⟨{ s with servers, progress := s.progress.silence }, never, rfl, by simp [never]⟩
  · exact ⟨{ s with servers }, never, rfl, by simp [never]⟩

/-- One place of a row: what follows depends on the outcome there. -/
theorem row_cons (base : String) (slot : Option String) (slots : List (Option String))
    {s : Session σ} (never : s.cancellation = .never) :
    ∃ s', s'.cancellation = .never ∧ s'.servers = (w.ask net ⟨base, slot⟩ s.servers).2 ∧
      w.row net base (slot :: slots) s =
        match (w.ask net ⟨base, slot⟩ s.servers).1 with
        | .success _ (some e) => (.ok (.found e), s')
        | .success _ none => w.row net base slots s'
        | .notFound => (.ok .notFound, s')
        | .failed failure => (.ok (.failed ⟨w.address ⟨base, slot⟩, failure⟩), s') := by
  have hgoes : ¬ s.isCancelled := by simp [Session.isCancelled, never]
  rw [row, if_neg hgoes]
  simp only [ask, address, candidate]
  cases hmake : Candidate.make base w.name w.profile slot with
  | error failure => exact ⟨s.recordRequest failure.label, never, rfl, rfl⟩
  | ok c =>
    obtain ⟨s', hs', hservers, hfetch⟩ :=
      fetch_of_never net w.client c.uri (w.credentialsFor c) never
    simp only [hfetch]
    rcases hsend : w.client.send net c.uri (w.credentialsFor c) s.servers with ⟨answer, servers⟩
    rw [hsend] at hservers
    refine ⟨s'.recordRequest (answer.getD w.client.timedOut).label, hs', hservers, ?_⟩
    rcases answer.getD w.client.timedOut with ⟨status, _ | e⟩ | _ | failure <;> rfl

/-- Two base addresses whose candidates are the same have the same row. -/
theorem row_congr {base base' : String}
    (h : ∀ slot, ∃ c c', w.candidate ⟨base, slot⟩ = .ok c ∧ w.candidate ⟨base', slot⟩ = .ok c' ∧
      c'.uri = c.uri ∧ w.credentialsFor c' = w.credentialsFor c)
    (slots : List (Option String)) (s : Session σ) :
    w.row net base' slots s = w.row net base slots s := by
  induction slots generalizing s with
  | nil => rfl
  | cons slot slots ih =>
    obtain ⟨c, c', hmake, hmake', huri, hcredentials⟩ := h slot
    unfold candidate at hmake hmake'
    rw [row, row]
    simp only [hmake, hmake', huri, hcredentials, ih]

/-- The loop over labels makes a row, and ends as its answers say. -/
theorem row_eq (base : String) (slots : List (Option String)) {s : Session σ}
    (never : s.cancellation = .never) :
    ∃ row e s', w.IsRow net base slots s.servers row s'.servers ∧ w.EndsAs row e ∧
      s'.cancellation = .never ∧ w.row net base slots s = (.ok e, s') := by
  induction slots generalizing s with
  | nil =>
    exact ⟨[], .empty, s, isRow_nil_iff.2 ⟨rfl, rfl⟩, ⟨rfl, rfl, rfl⟩, never, rfl⟩
  | cons slot slots ih =>
    obtain ⟨s₁, hs₁, hservers, hrow⟩ :=
      row_cons w net base slot slots never
    rcases hask : w.ask net ⟨base, slot⟩ s.servers with ⟨outcome, servers⟩
    rw [hask] at hservers hrow
    subst hservers
    -- The row of a single answer, for the three outcomes that stop it.
    have single (hstop : ¬ outcome.isEmpty) :
        w.IsRow net base (slot :: slots) s.servers [⟨⟨base, slot⟩, outcome⟩] s₁.servers :=
      isRow_cons_iff.2 ⟨outcome, _, [], hask, rfl, Or.inl ⟨hstop, rfl, rfl⟩⟩
    rcases outcome with ⟨status, _ | e⟩ | _ | failure
    · obtain ⟨row, e, s', hisRow, hends, hs', heq⟩ := ih hs₁
      refine ⟨_, e, s', isRow_cons_iff.2 ⟨_, _, row, hask, rfl, Or.inr ⟨rfl, hisRow⟩⟩,
        hends.cons rfl, hs', ?_⟩
      rw [hrow]
      exact heq
    · exact ⟨_, .found e, s₁, single (by simp [FetchOutcome.isEmpty]), rfl, hs₁, hrow⟩
    · exact ⟨_, .notFound, s₁, single (by simp [FetchOutcome.isEmpty]), rfl, hs₁, hrow⟩
    · exact ⟨_, .failed _, s₁, single (by simp [FetchOutcome.isEmpty]), ⟨rfl, rfl, rfl⟩, hs₁,
        hrow⟩

/-! ## The loop over base addresses -/

/-- The loop over base addresses makes a transcript, and ends with the verdict
on it. -/
theorem rows_eq (slots : List (Option String)) (bases : List String)
    (failures : List CandidateFailure) (lastEmpty : Bool) {s : Session σ}
    (never : s.cancellation = .never) :
    ∃ t s', w.IsTranscript net bases slots s.servers t s'.servers ∧
      w.rows net slots bases failures lastEmpty s =
        (.ok (w.verdictFrom failures lastEmpty t), s') := by
  induction bases generalizing failures lastEmpty s with
  | nil =>
    refine ⟨[], s, isTranscript_nil_iff.2 ⟨rfl, rfl⟩, ?_⟩
    simp [rows, verdictFrom]
  | cons base bases ih =>
    obtain ⟨row, e, s₁, hisRow, hends, hs₁, heq⟩ := row_eq w net base slots never
    unfold rows
    rw [heq]
    -- The transcript of a row that ends the walk, and of one that does not.
    have last {r : WalkOutcome} (hr : row.findSome? (·.outcome.ends?) = some r) :
        w.IsTranscript net (base :: bases) slots s.servers [row] s₁.servers :=
      isTranscript_cons_iff.2
        ⟨row, _, [], hisRow, rfl, Or.inl ⟨endsWalk_iff.2 ⟨r, hr⟩, rfl, rfl⟩⟩
    have more {t : List (List Answer)} {s' : Session σ}
        (hr : row.findSome? (·.outcome.ends?) = none)
        (ht : w.IsTranscript net bases slots s₁.servers t s'.servers) :
        w.IsTranscript net (base :: bases) slots s.servers (row :: t) s'.servers :=
      isTranscript_cons_iff.2 ⟨row, _, t, hisRow, rfl, Or.inr ⟨not_endsWalk_iff.2 hr, ht⟩⟩
    cases e with
    | found e => exact ⟨[row], s₁, last hends, by rw [verdictFrom_of_findSome? hends]⟩
    | notFound => exact ⟨[row], s₁, last hends, by rw [verdictFrom_of_findSome? hends]⟩
    | empty =>
      obtain ⟨hgoes, hempty, hfailure⟩ := hends
      obtain ⟨t, s', ht, hrows⟩ := ih failures true hs₁
      refine ⟨row :: t, s', more hgoes ht, ?_⟩
      rw [verdictFrom_cons hgoes, hfailure, hempty, Option.toList_none, List.append_nil]
      exact hrows
    | failed f =>
      obtain ⟨hgoes, hempty, hfailure⟩ := hends
      obtain ⟨t, s', ht, hrows⟩ := ih (failures ++ [f]) false hs₁
      refine ⟨row :: t, s', more hgoes ht, ?_⟩
      rw [verdictFrom_cons hgoes, hfailure, hempty, Option.toList_some]
      exact hrows

end

/-! ## Failures -/

/-- A row that neither ends the walk nor is empty throughout ended in a failure. -/
theorem exists_failure {row : List Answer} {n : Nat}
    (hstops : StopsAtFirst (fun a => ¬ a.outcome.isEmpty) n row)
    (hgoes : row.findSome? (·.outcome.ends?) = none) (hempty : allEmpty row = false) :
    ∃ f, w.failure? row = some f := by
  obtain ⟨a, ha, hnot⟩ : ∃ a ∈ row, a.outcome.isEmpty = false := by
    simpa [allEmpty] using hempty
  -- Only the last place of a row can be other than empty.
  have hlast : row.getLast? = some a := by
    obtain ⟨front, b, rfl⟩ := List.eq_nil_or_concat row |>.resolve_left (List.ne_nil_of_mem ha)
    rw [List.concat_eq_append] at ha hstops ⊢
    rcases List.mem_append.1 ha with hfront | hb
    · exact absurd (hstops.before a (by simpa using hfront)) (by simp [hnot])
    · rw [List.mem_singleton] at hb
      simp [hb]
  obtain ⟨p, outcome⟩ := a
  rcases outcome.cases_of with ⟨h, _⟩ | ⟨⟨r, hr⟩, _⟩ | ⟨failure, rfl⟩
  · exact absurd h (by simpa using hnot)
  · have := List.findSome?_eq_none_iff.1 hgoes _ ha
    exact absurd hr (by simp [this])
  · exact ⟨⟨w.address p, failure⟩, by simp [failure?, hlast]⟩

/-- A walk is exhausted without any failure only if there is nothing to walk. -/
theorem IsTranscript.bases_eq_nil {bases : List String} {slots : List (Option String)}
    {servers servers' : σ} {t : List (List Answer)}
    (h : w.IsTranscript net bases slots servers t servers')
    (hverdict : w.verdict t = .exhausted []) : bases = [] := by
  rcases List.eq_nil_or_concat t with rfl | ⟨front, row, rfl⟩
  · -- Without rows there was nothing to stop the walk.
    cases bases with
    | nil => rfl
    | cons base bases =>
      obtain ⟨row, hrow, _⟩ := h.stops.last (Nat.succ_pos _)
      simp at hrow
  · rw [List.concat_eq_append] at h hverdict
    unfold verdict at hverdict
    split at hverdict
    · rename_i outcome houtcome
      obtain ⟨a, _, ha⟩ := List.exists_of_findSome?_eq_some houtcome
      subst hverdict
      obtain ⟨p, outcome⟩ := a
      rcases outcome with ⟨status, _ | e⟩ | _ | failure <;> simp [FetchOutcome.ends?] at ha
    · rename_i hgoes
      rw [List.flatten_append, List.findSome?_append, Option.or_eq_none_iff] at hgoes
      split at hverdict
      · exact absurd hverdict (by simp)
      · rename_i hempty
        obtain ⟨f, hf⟩ := exists_failure (w := w) (h.rows_stop row (by simp))
          (by simpa using hgoes.2) (by simpa using hempty)
        simp [List.filterMap_append, hf] at hverdict

/-! ## Malformed base addresses -/

/-- A malformed base address is malformed for every label. -/
theorem candidate_error {base : String} {l : Option String} {f : FetchFailure}
    (h : w.candidate ⟨base, l⟩ = .error f) (label : Option String) :
    w.candidate ⟨base, label⟩ = .error f := by
  unfold candidate Candidate.make at h ⊢
  simp only at h ⊢
  split at h
  · exact h
  · split at h
    · cases h
    · rename_i hscheme
      rw [if_neg hscheme]
      exact h

/-- The row of a malformed base address is a single failure, without a request. -/
theorem IsRow.of_malformed {base : String} {slot : Option String}
    {slots : List (Option String)} {servers servers' : σ} {row : List Answer}
    (h : w.IsRow net base (slot :: slots) servers row servers') {l : Option String}
    {f : FetchFailure} (hbad : w.candidate ⟨base, l⟩ = .error f) :
    w.requests row = [] ∧ w.failure? row = some ⟨base, f⟩ := by
  have hbad := candidate_error hbad slot
  obtain ⟨outcome, between, rest, hask, rfl, hrest⟩ := isRow_cons_iff.1 h
  rw [ask, hbad] at hask
  obtain ⟨rfl, rfl⟩ := Prod.mk.inj hask
  rcases hrest with ⟨_, rfl, rfl⟩ | ⟨hempty, _⟩
  · simp [requests, request?, failure?, address, hbad]
  · simp [FetchOutcome.isEmpty] at hempty

theorem IsTranscript.exists_isRow {bases : List String} {slots : List (Option String)}
    {servers servers' : σ} {t : List (List Answer)}
    (h : w.IsTranscript net bases slots servers t servers') {base : String} {row : List Answer}
    (hmem : (base, row) ∈ bases.zip t) : ∃ s s', w.IsRow net base slots s row s' := by
  induction bases generalizing servers t with
  | nil => simp at hmem
  | cons b bases ih =>
    obtain ⟨first, between, rest, hfirst, rfl, hrest⟩ := isTranscript_cons_iff.1 h
    rw [List.zip_cons_cons, List.mem_cons] at hmem
    rcases hmem with heq | hmem
    · obtain ⟨rfl, rfl⟩ := Prod.mk.inj heq
      exact ⟨servers, between, hfirst⟩
    · rcases hrest with ⟨_, rfl, _⟩ | ⟨_, hrest⟩
      · simp at hmem
      · exact ih hrest hmem

theorem slots_eq_cons (labels : List String) : ∃ slot rest, slots labels = slot :: rest := by
  cases labels <;> simp [slots]

/-! ## Requests -/

/-- Recorded servers answer as they are, and note the request. -/
theorem ask_recorded (p : Place) (servers : σ) (log : List Request) :
    w.ask net.recorded p (servers, log) =
      ((w.ask net p servers).1, (w.ask net p servers).2, log ++ (w.request? p).toList) := by
  unfold ask request?
  cases w.candidate p with
  | error failure => simp
  | ok c =>
    simp only [HttpClient.send, HttpClient.request?]
    cases Url.read c.uri with
    | error fault => simp
    | ok url => by_cases hscheme : url.scheme = "http" || url.scheme = "https" <;>
        simp [hscheme, Servers.recorded]

theorem askAll_recorded (ps : List Place) (servers : σ) (log : List Request) :
    w.askAll net.recorded ps (servers, log) =
      ((w.askAll net ps servers).1, (w.askAll net ps servers).2,
        log ++ ps.filterMap w.request?) := by
  induction ps generalizing servers log with
  | nil => simp [askAll]
  | cons p ps ih =>
    have hlog : log ++ (p :: ps).filterMap w.request? =
        log ++ (w.request? p).toList ++ ps.filterMap w.request? := by
      cases hr : w.request? p <;> simp [hr]
    simp only [askAll, ask_recorded, ih, hlog]

/-- What happens with recorded servers happens with the servers themselves. -/
theorem IsTranscript.of_recorded {bases : List String} {slots : List (Option String)}
    {s s' : σ × List Request} {t : List (List Answer)}
    (h : w.IsTranscript net.recorded bases slots s t s') :
    w.IsTranscript net bases slots s.1 t s'.1 ∧ s'.2 = s.2 ++ w.requests t.flatten := by
  have hanswered := h.answered
  rw [askAll_recorded, List.filterMap_map] at hanswered
  obtain ⟨houtcomes, hservers⟩ := Prod.mk.inj hanswered
  obtain ⟨hstate, hlog⟩ := Prod.ext_iff.1 hservers
  exact ⟨⟨h.places, h.rows_stop, h.stops, Prod.ext houtcomes hstate⟩, hlog.symm⟩

end Loops

/-- A walk that is never cancelled has one transcript.  Its result is the
verdict on the transcript, and the servers see the requests of its places in
order and nothing else.  A malformed base address sends nothing and counts as a
failure, and only a walk without base addresses is exhausted without any. -/
theorem walk_eq_verdict (w : Walker) (net : Servers σ) (bases labels : List String)
    (s : Session (σ × List Request)) :
    ∃ t servers',
      w.IsTranscript net bases (slots labels) s.servers.1 t servers' ∧
      (∀ t' s', w.IsTranscript net bases (slots labels) s.servers.1 t' s' → t' = t) ∧
      (w.walk net.recorded bases labels { s with cancellation := .never }).1 =
        .ok (w.verdict t) ∧
      (w.walk net.recorded bases labels { s with cancellation := .never }).2.servers =
        (servers', s.servers.2 ++ w.requests t.flatten) ∧
      (∀ base row, (base, row) ∈ bases.zip t → ∀ f, w.candidate ⟨base, none⟩ = .error f →
        w.requests row = [] ∧ w.failure? row = some ⟨base, f⟩) ∧
      (w.verdict t = .exhausted [] → bases = []) := by
  obtain ⟨t, s', ht, hwalk⟩ :=
    rows_eq w net.recorded (slots labels) bases [] false
      (s := { s with cancellation := .never }) rfl
  obtain ⟨hplain, hlog⟩ := ht.of_recorded
  have hverdict : w.verdictFrom [] false t = w.verdict t := by
    unfold verdictFrom verdict
    cases t.getLast? <;> rfl
  refine ⟨t, s'.servers.1, hplain, fun t' s'' h' => (h'.unique hplain).1, ?_, ?_, ?_,
    hplain.bases_eq_nil⟩
  · rw [walk, hwalk, hverdict]
  · rw [walk, hwalk]
    exact Prod.ext rfl hlog
  · intro base row hmem f hbad
    obtain ⟨slot, rest, hslots⟩ := slots_eq_cons labels
    obtain ⟨_, _, hrow⟩ := hplain.exists_isRow hmem
    rw [hslots] at hrow
    exact hrow.of_malformed hbad

end Walker

end RemoteConfig
