import RemoteConfig.Walk

/-!
# Transcripts of walks

A transcript is what happened in a walk: row by row, the places that were
asked and the outcome of each.  `Walker.IsTranscript` says which transcripts
the rules of a walk allow, without following the loops of `Walker.walk`.

* Stopping.  `StopsAtFirst` is the one rule that both loops obey: items are
  taken in order up to the first that stops.  A row stops at its first outcome
  that is not empty, and a walk at its first row that ends it.
* Asking.  `Walker.ask` is what the servers answer at one place, and
  `Walker.request?` the request that reaches them, if there is one.
* Transcripts.  `isRow_cons_iff` and `isTranscript_cons_iff` split off the
  first place of a row and the first row of a walk.  From them follows that
  the rules leave no choice: `IsTranscript.unique`.
-/

namespace RemoteConfig

/-! ## Stopping -/

/-- `seen` is what is seen of `n` items in order, up to the first that stops. -/
structure StopsAtFirst {α : Type} (stops : α → Prop) (n : Nat) (seen : List α) : Prop where
  length_le : seen.length ≤ n
  /-- Nothing stops before the last item that is seen. -/
  before : ∀ x ∈ seen.dropLast, ¬ stops x
  /-- Items are left out only behind one that stops. -/
  last : seen.length < n → ∃ x ∈ seen.getLast?, stops x

section StopsAtFirst

variable {α : Type} {stops : α → Prop}

theorem stopsAtFirst_zero_iff {seen : List α} : StopsAtFirst stops 0 seen ↔ seen = [] := by
  constructor
  · intro h
    exact List.eq_nil_of_length_eq_zero (Nat.le_zero.1 h.length_le)
  · rintro rfl
    exact ⟨Nat.le_refl 0, by simp, by simp⟩

theorem stopsAtFirst_succ_iff {n : Nat} {seen : List α} :
    StopsAtFirst stops (n + 1) seen ↔
      ∃ x rest, seen = x :: rest ∧
        (stops x ∧ rest = [] ∨ ¬ stops x ∧ StopsAtFirst stops n rest) := by
  constructor
  · intro h
    cases seen with
    | nil =>
      obtain ⟨x, hx, _⟩ := h.last (Nat.succ_pos n)
      simp at hx
    | cons x rest =>
      refine ⟨x, rest, rfl, ?_⟩
      cases rest with
      | nil =>
        by_cases hx : stops x
        · exact Or.inl ⟨hx, rfl⟩
        · refine Or.inr ⟨hx, Nat.zero_le n, by simp, fun hn => ?_⟩
          obtain ⟨y, hy, hstop⟩ := h.last (by simpa using hn)
          simp at hy
          exact absurd (hy ▸ hstop) hx
      | cons y rest =>
        have hx : ¬ stops x := h.before x (by simp)
        refine Or.inr ⟨hx, ?_, ?_, ?_⟩
        · have := h.length_le
          simp at this ⊢
          omega
        · intro z hz
          exact h.before z (by simp [hz])
        · intro hn
          simpa using h.last (by simpa using hn)
  · rintro ⟨x, rest, rfl, ⟨hx, rfl⟩ | ⟨hx, hrest⟩⟩
    · exact ⟨by simp, by simp, fun _ => ⟨x, by simp, hx⟩⟩
    · cases rest with
      | nil => exact ⟨by simp, by simp, fun hn => absurd (hrest.last (by simpa using hn)) (by simp)⟩
      | cons y rest =>
        refine ⟨by simpa using hrest.length_le, ?_, ?_⟩
        · intro z hz
          rw [List.dropLast_cons_cons, List.mem_cons] at hz
          rcases hz with rfl | hz
          · exact hx
          · exact hrest.before z hz
        · intro hn
          simpa using hrest.last (by simpa using hn)

end StopsAtFirst

/-! ## Places and answers -/

/-- A place of a walk: a base address, and the label that is asked for there. -/
structure Place where
  base : String
  label : Option String
  deriving Repr, DecidableEq

/-- A place that was asked, with the outcome. -/
structure Answer where
  place : Place
  outcome : FetchOutcome
  deriving Repr, DecidableEq

namespace FetchOutcome

/-- A status of success without an environment. -/
def isEmpty : FetchOutcome → Bool
  | success _ none => true
  | _ => false

/-- What an outcome determines for the whole walk, if it ends it: an
environment is located, or a server has nothing for this application. -/
def ends? : FetchOutcome → Option WalkOutcome
  | success _ (some e) => some (.found e)
  | notFound => some .noContent
  | _ => none

end FetchOutcome

/-- The request that a client sends for an address; none for an address that
it cannot ask. -/
def HttpClient.request? (c : HttpClient) (uri : String) (explicit : Option Credentials) :
    Option Request :=
  match Url.read uri with
  | .error _ => none
  | .ok url =>
    if url.scheme = "http" || url.scheme = "https" then some (c.request url explicit) else none

namespace Walker

variable {σ : Type}

/-- The candidate of a place; none for a malformed base address. -/
def candidate (w : Walker) (p : Place) : Except FetchFailure Candidate :=
  Candidate.make p.base w.name w.profile p.label

/-- The address under which a failure at a place is reported. -/
def address (w : Walker) (p : Place) : String :=
  match w.candidate p with
  | .error _ => p.base
  | .ok c => c.uri

/-- The request that asks a place; none for a malformed base address. -/
def request? (w : Walker) (p : Place) : Option Request :=
  match w.candidate p with
  | .error _ => none
  | .ok c => w.client.request? c.uri (w.credentialsFor c)

/-- Asks a place: the outcome, and the servers afterwards.  A malformed base
address fails without them, and a request without an answer times out. -/
def ask (w : Walker) (net : Servers σ) (p : Place) (servers : σ) : FetchOutcome × σ :=
  match w.candidate p with
  | .error failure => (.failed failure, servers)
  | .ok c =>
    let (outcome, servers) := w.client.send net c.uri (w.credentialsFor c) servers
    (outcome.getD w.client.timedOut, servers)

/-- Asks places one after the other. -/
def askAll (w : Walker) (net : Servers σ) : List Place → σ → List FetchOutcome × σ
  | [], servers => ([], servers)
  | p :: ps, servers =>
    let (outcome, servers) := w.ask net p servers
    let (outcomes, servers) := askAll w net ps servers
    (outcome :: outcomes, servers)

/-! ## Transcripts -/

/-- A row of a transcript ends the walk. -/
def EndsWalk (row : List Answer) : Prop :=
  ∃ a ∈ row, a.outcome.ends?.isSome

/-- `row` is what happens when the slots of a base address are asked in order
up to the first outcome that is not empty. -/
structure IsRow (w : Walker) (net : Servers σ) (base : String) (slots : List (Option String))
    (servers : σ) (row : List Answer) (servers' : σ) : Prop where
  /-- The first slots are asked, in order. -/
  places : row.map (·.place) = (slots.take row.length).map (Place.mk base)
  stops : StopsAtFirst (fun a => ¬ a.outcome.isEmpty) slots.length row
  /-- The outcomes are what the servers answer. -/
  answered : w.askAll net (row.map (·.place)) servers = (row.map (·.outcome), servers')

/-- `t` is what happens when the rows of base addresses are walked in order up
to the first that ends the walk. -/
structure IsTranscript (w : Walker) (net : Servers σ) (bases : List String)
    (slots : List (Option String)) (servers : σ) (t : List (List Answer)) (servers' : σ) :
    Prop where
  /-- Each row asks the first slots of its base address, in order. -/
  places : t.map (·.map (·.place)) =
    List.zipWith (fun base row => (slots.take row.length).map (Place.mk base)) bases t
  /-- A row stops at its first outcome that is not empty. -/
  rows_stop : ∀ row ∈ t, StopsAtFirst (fun a => ¬ a.outcome.isEmpty) slots.length row
  /-- The walk stops at the first row that ends it. -/
  stops : StopsAtFirst EndsWalk bases.length t
  /-- The outcomes are what the servers answer, asked in this order. -/
  answered : w.askAll net (t.flatten.map (·.place)) servers =
    (t.flatten.map (·.outcome), servers')

/-! ## Asking places in turn -/

section Asking

variable {w : Walker} {net : Servers σ}

theorem askAll_append (ps qs : List Place) (servers : σ) :
    w.askAll net (ps ++ qs) servers =
      ((w.askAll net ps servers).1 ++ (w.askAll net qs (w.askAll net ps servers).2).1,
        (w.askAll net qs (w.askAll net ps servers).2).2) := by
  induction ps generalizing servers with
  | nil => rfl
  | cons p ps ih => simp only [List.cons_append, askAll, ih]

theorem length_askAll (ps : List Place) (servers : σ) :
    (w.askAll net ps servers).1.length = ps.length := by
  induction ps generalizing servers with
  | nil => rfl
  | cons p ps ih => simp only [askAll, List.length_cons, ih]

/-- Splits the asking of answers into that of the first ones and of the rest. -/
theorem askAll_answers_append {as bs : List Answer} {servers servers' : σ} :
    w.askAll net ((as ++ bs).map (·.place)) servers = ((as ++ bs).map (·.outcome), servers') ↔
      ∃ between, w.askAll net (as.map (·.place)) servers = (as.map (·.outcome), between) ∧
        w.askAll net (bs.map (·.place)) between = (bs.map (·.outcome), servers') := by
  rw [List.map_append, askAll_append, List.map_append, Prod.mk.injEq]
  constructor
  · rintro ⟨houtcomes, hservers⟩
    obtain ⟨has, hbs⟩ := List.append_inj houtcomes (by rw [length_askAll]; simp)
    exact ⟨_, Prod.ext has rfl, Prod.ext hbs hservers⟩
  · rintro ⟨between, has, hbs⟩
    simp [has, hbs]

/-! ## Rows -/

theorem isRow_nil_iff {base : String} {servers servers' : σ} {row : List Answer} :
    w.IsRow net base [] servers row servers' ↔ row = [] ∧ servers' = servers := by
  constructor
  · intro h
    obtain rfl := stopsAtFirst_zero_iff.1 h.stops
    have hanswered := h.answered
    simp [askAll] at hanswered
    exact ⟨rfl, hanswered.symm⟩
  · rintro ⟨rfl, rfl⟩
    exact ⟨rfl, stopsAtFirst_zero_iff.2 rfl, rfl⟩

/-- A row asks its first slot, and goes on behind it if the outcome is empty. -/
theorem isRow_cons_iff {base : String} {slot : Option String} {slots : List (Option String)}
    {servers servers' : σ} {row : List Answer} :
    w.IsRow net base (slot :: slots) servers row servers' ↔
      ∃ outcome between rest, w.ask net ⟨base, slot⟩ servers = (outcome, between) ∧
        row = ⟨⟨base, slot⟩, outcome⟩ :: rest ∧
        (¬ outcome.isEmpty ∧ rest = [] ∧ servers' = between ∨
          outcome.isEmpty ∧ w.IsRow net base slots between rest servers') := by
  constructor
  · intro h
    obtain ⟨⟨place, outcome⟩, rest, rfl, hstops⟩ := stopsAtFirst_succ_iff.1 h.stops
    have hplaces := h.places
    simp only [List.map_cons, List.length_cons, List.take_succ_cons, List.cons.injEq] at hplaces
    obtain ⟨rfl, hplaces⟩ := hplaces
    have hanswered := h.answered
    simp only [List.map_cons, askAll, Prod.mk.injEq, List.cons.injEq] at hanswered
    obtain ⟨⟨houtcome, hrest⟩, hservers⟩ := hanswered
    refine ⟨outcome, _, rest, Prod.ext houtcome rfl, rfl, ?_⟩
    rcases hstops with ⟨hstop, rfl⟩ | ⟨hgoes, hstops⟩
    · exact Or.inl ⟨hstop, rfl, hservers.symm⟩
    · exact Or.inr ⟨by simpa using hgoes, hplaces, hstops, Prod.ext hrest hservers⟩
  · rintro ⟨outcome, between, rest, hask, rfl, ⟨hstop, rfl, rfl⟩ | ⟨hgoes, hrest⟩⟩
    · refine ⟨by simp, stopsAtFirst_succ_iff.2 ⟨_, [], rfl, Or.inl ⟨hstop, rfl⟩⟩, ?_⟩
      simp [askAll, hask]
    · refine ⟨by simp [hrest.places], ?_, ?_⟩
      · exact stopsAtFirst_succ_iff.2 ⟨_, rest, rfl, Or.inr ⟨by simpa using hgoes, hrest.stops⟩⟩
      · simp [askAll, hask, hrest.answered]

/-- The servers leave no choice about a row. -/
theorem IsRow.unique {base : String} {slots : List (Option String)} {servers s₁ s₂ : σ}
    {r₁ r₂ : List Answer} (h₁ : w.IsRow net base slots servers r₁ s₁)
    (h₂ : w.IsRow net base slots servers r₂ s₂) : r₁ = r₂ ∧ s₁ = s₂ := by
  induction slots generalizing servers r₁ r₂ with
  | nil =>
    obtain ⟨rfl, rfl⟩ := isRow_nil_iff.1 h₁
    obtain ⟨rfl, rfl⟩ := isRow_nil_iff.1 h₂
    exact ⟨rfl, rfl⟩
  | cons slot slots ih =>
    obtain ⟨outcome, between, rest₁, hask₁, rfl, hcase₁⟩ := isRow_cons_iff.1 h₁
    obtain ⟨_, _, rest₂, hask₂, rfl, hcase₂⟩ := isRow_cons_iff.1 h₂
    obtain ⟨rfl, rfl⟩ := Prod.mk.inj (hask₁.symm.trans hask₂)
    rcases hcase₁ with ⟨hstop, rfl, rfl⟩ | ⟨hgoes, hrest₁⟩
    · rcases hcase₂ with ⟨_, rfl, rfl⟩ | ⟨hgoes, _⟩
      · exact ⟨rfl, rfl⟩
      · exact absurd hgoes hstop
    · rcases hcase₂ with ⟨hstop, _⟩ | ⟨_, hrest₂⟩
      · exact absurd hgoes hstop
      · obtain ⟨rfl, rfl⟩ := ih hrest₁ hrest₂
        exact ⟨rfl, rfl⟩

/-! ## Transcripts row by row -/

theorem isTranscript_nil_iff {slots : List (Option String)} {servers servers' : σ}
    {t : List (List Answer)} :
    w.IsTranscript net [] slots servers t servers' ↔ t = [] ∧ servers' = servers := by
  constructor
  · intro h
    obtain rfl := stopsAtFirst_zero_iff.1 h.stops
    have hanswered := h.answered
    simp [askAll] at hanswered
    exact ⟨rfl, hanswered.symm⟩
  · rintro ⟨rfl, rfl⟩
    exact ⟨rfl, by simp, stopsAtFirst_zero_iff.2 rfl, rfl⟩

/-- A transcript starts with the row of the first base address, and goes on
behind it unless that row ends the walk. -/
theorem isTranscript_cons_iff {base : String} {bases : List String}
    {slots : List (Option String)} {servers servers' : σ} {t : List (List Answer)} :
    w.IsTranscript net (base :: bases) slots servers t servers' ↔
      ∃ row between rest, w.IsRow net base slots servers row between ∧ t = row :: rest ∧
        (EndsWalk row ∧ rest = [] ∧ servers' = between ∨
          ¬ EndsWalk row ∧ w.IsTranscript net bases slots between rest servers') := by
  constructor
  · intro h
    obtain ⟨row, rest, rfl, hstops⟩ := stopsAtFirst_succ_iff.1 h.stops
    obtain ⟨between, hrow, hrest⟩ := askAll_answers_append.1 h.answered
    have hplaces := h.places
    simp only [List.map_cons, List.zipWith_cons_cons, List.cons.injEq] at hplaces
    refine ⟨row, between, rest, ⟨hplaces.1, h.rows_stop row (by simp), hrow⟩, rfl, ?_⟩
    rcases hstops with ⟨hend, rfl⟩ | ⟨hgoes, hstops⟩
    · simp [askAll] at hrest
      exact Or.inl ⟨hend, rfl, hrest.symm⟩
    · exact Or.inr ⟨hgoes, hplaces.2, fun r hr => h.rows_stop r (by simp [hr]), hstops, hrest⟩
  · rintro ⟨row, between, rest, hrow, rfl, ⟨hend, rfl, rfl⟩ | ⟨hgoes, hrest⟩⟩
    · refine ⟨by simp [hrow.places], by simpa using hrow.stops, ?_, ?_⟩
      · exact stopsAtFirst_succ_iff.2 ⟨row, [], rfl, Or.inl ⟨hend, rfl⟩⟩
      · simpa using hrow.answered
    · refine ⟨by simp [hrow.places, hrest.places], ?_, ?_, ?_⟩
      · intro r hr
        rcases List.mem_cons.1 hr with rfl | hr
        · exact hrow.stops
        · exact hrest.rows_stop r hr
      · exact stopsAtFirst_succ_iff.2 ⟨row, rest, rfl, Or.inr ⟨hgoes, hrest.stops⟩⟩
      · exact askAll_answers_append.2 ⟨between, hrow.answered, hrest.answered⟩

/-- The servers leave no choice about a walk. -/
theorem IsTranscript.unique {bases : List String} {slots : List (Option String)}
    {servers s₁ s₂ : σ} {t₁ t₂ : List (List Answer)}
    (h₁ : w.IsTranscript net bases slots servers t₁ s₁)
    (h₂ : w.IsTranscript net bases slots servers t₂ s₂) : t₁ = t₂ ∧ s₁ = s₂ := by
  induction bases generalizing servers t₁ t₂ with
  | nil =>
    obtain ⟨rfl, rfl⟩ := isTranscript_nil_iff.1 h₁
    obtain ⟨rfl, rfl⟩ := isTranscript_nil_iff.1 h₂
    exact ⟨rfl, rfl⟩
  | cons base bases ih =>
    obtain ⟨row, between, rest₁, hrow₁, rfl, hcase₁⟩ := isTranscript_cons_iff.1 h₁
    obtain ⟨_, _, rest₂, hrow₂, rfl, hcase₂⟩ := isTranscript_cons_iff.1 h₂
    obtain ⟨rfl, rfl⟩ := hrow₁.unique hrow₂
    rcases hcase₁ with ⟨hend, rfl, rfl⟩ | ⟨hgoes, hrest₁⟩
    · rcases hcase₂ with ⟨_, rfl, rfl⟩ | ⟨hgoes, _⟩
      · exact ⟨rfl, rfl⟩
      · exact absurd hend hgoes
    · rcases hcase₂ with ⟨hend, _⟩ | ⟨_, hrest₂⟩
      · exact absurd hend hgoes
      · obtain ⟨rfl, rfl⟩ := ih hrest₁ hrest₂
        exact ⟨rfl, rfl⟩

end Asking

end Walker

end RemoteConfig
