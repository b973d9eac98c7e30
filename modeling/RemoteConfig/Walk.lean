import RemoteConfig.Candidate
import RemoteConfig.Session

/-!
# Walks

A walk asks base addresses in order and, for each, labels in order: its *row*.
A row ends at its first outcome other than an empty one.  A located environment
or a missing one ends the whole walk; a failure ends the row.  A walk that no
row ended located nothing if the last row was empty throughout, and is
exhausted otherwise, with the failures that ended rows.
-/

namespace RemoteConfig

/-- What a walk determined. -/
inductive WalkOutcome where
  | found (environment : Environment)
  /-- A server has nothing for this application and profile. -/
  | noContent
  /-- No server could be asked with success; the last failure of each. -/
  | exhausted (failures : List CandidateFailure)
  deriving Repr, DecidableEq

/-- How the row of a base address ended. -/
inductive RowEnd where
  | found (environment : Environment)
  | notFound
  /-- Every label was empty. -/
  | empty
  | failed (failure : CandidateFailure)
  deriving Repr, DecidableEq

/-- What all requests of a walk have in common. -/
structure Walker where
  client : HttpClient
  name : String
  profile : String
  /-- Credentials that go before those of a base address. -/
  credentials : Option Credentials := none
  deriving Repr, DecidableEq

namespace Walker

variable {σ : Type}

/-- The places of a row: one for each label, or a single one without label. -/
def slots (labels : List String) : List (Option String) :=
  if labels.isEmpty then [none] else labels.map some

/-- The credentials for a candidate: explicit ones go first. -/
def credentialsFor (w : Walker) (c : Candidate) : Option Credentials :=
  w.credentials.or c.credentials

/-- Walks a row. -/
def row (w : Walker) (net : Servers σ) (base : String) :
    List (Option String) → Session σ → Except LoadError RowEnd × Session σ
  | [], s => (.ok .empty, s)
  | label :: labels, s =>
    if s.isCancelled then (.error .cancelled, s)
    else
      match Candidate.make base w.name w.profile label with
      | .error failure => (.ok (.failed ⟨base, failure⟩), s.recordRequest failure.label)
      | .ok candidate =>
        match s.fetch net w.client candidate.uri (w.credentialsFor candidate) with
        | (.error e, s) => (.error e, s)
        | (.ok outcome, s) =>
          let s := s.recordRequest outcome.label
          match outcome with
          | .success _ (some e) => (.ok (.found e), s)
          | .success _ none => row w net base labels s
          | .notFound => (.ok .notFound, s)
          | .failed failure => (.ok (.failed ⟨candidate.uri, failure⟩), s)

/-- Walks the rows of base addresses, given the failures so far and whether
the last row was empty. -/
def rows (w : Walker) (net : Servers σ) (labels : List (Option String)) :
    List String → List CandidateFailure → (lastEmpty : Bool) → Session σ →
      Except LoadError WalkOutcome × Session σ
  | [], failures, lastEmpty, s =>
    (.ok (if lastEmpty then .noContent else .exhausted failures), s)
  | base :: bases, failures, _, s =>
    match w.row net base labels s with
    | (.error e, s) => (.error e, s)
    | (.ok (.found e), s) => (.ok (.found e), s)
    | (.ok .notFound, s) => (.ok .noContent, s)
    | (.ok .empty, s) => rows w net labels bases failures true s
    | (.ok (.failed f), s) => rows w net labels bases (failures ++ [f]) false s

/-- Walks all base addresses with all labels. -/
def walk (w : Walker) (net : Servers σ) (bases labels : List String) (s : Session σ) :
    Except LoadError WalkOutcome × Session σ :=
  w.rows net (slots labels) bases [] false s

end Walker

end RemoteConfig
