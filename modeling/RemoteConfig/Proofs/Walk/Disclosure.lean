import Mathlib.Data.List.Forall2
import RemoteConfig.Proofs.Candidate
import RemoteConfig.Proofs.Url.Password
import RemoteConfig.Proofs.Walk.Verdict

/-!
# What failures disclose

Two walks whose base addresses differ in passwords only, with the same explicit
credentials.  The servers cannot tell them apart, and nor can whoever sees the
result, with one exception: the failure of a malformed base address names it as
it was given.

* `SameButPassword` relates the base addresses.
* `uri_sameButPassword` says that their candidates have the same address.
  `row_sameButPassword` and `rows_passwords` follow the loops of the two walks
  side by side, to a `SameEnd`.
* `walk_passwords` is the result: the failures are the same exactly if every
  base address with another password can be asked.
-/

namespace RemoteConfig

/-- The addresses are the same, or they differ in their password only. -/
inductive SameButPassword : String → String → Prop where
  | same (base : String) : SameButPassword base base
  | password {scheme user p q : String} (rest : String) (hscheme : Url.IsSchemeText scheme)
      (huser : Url.IsUserText user) (hp : Url.IsPasswordText p) (hq : Url.IsPasswordText q) :
      SameButPassword (Url.withPassword scheme user p rest) (Url.withPassword scheme user q rest)

/-! ## Candidates -/

namespace Candidate

theorem refusal?_of_isFileAddress {base : String} (h : Url.IsFileAddress base) :
    refusal? base ≠ none := by
  unfold refusal?
  cases hread : Url.read base with
  | error fault => simp
  | ok url => simp [h.scheme_of_read hread, ClientOptions.isServerScheme]

/-- The password does not decide why a base address cannot be asked.  Addresses of
files cannot be asked at all. -/
theorem refusal?_sameButPassword {base base' : String} (h : SameButPassword base base') :
    Url.IsFileAddress base ∧ Url.IsFileAddress base' ∨ refusal? base' = refusal? base := by
  cases h with
  | same => exact Or.inr rfl
  | password rest hscheme huser hp hq =>
    rcases Url.read_withPassword hscheme huser rest with hfile | ⟨common, hcommon⟩
    · exact Or.inl ⟨hfile _, hfile _⟩
    · obtain ⟨p', hp'⟩ := hcommon _ hp
      obtain ⟨q', hq'⟩ := hcommon _ hq
      refine Or.inr ?_
      unfold refusal?
      rw [hp', hq']
      cases common <;> rfl

theorem refusal?_eq_none_iff {base base' : String} (h : SameButPassword base base') :
    refusal? base = none ↔ refusal? base' = none := by
  rcases refusal?_sameButPassword h with ⟨hfile, hfile'⟩ | heq
  · exact iff_of_false (refusal?_of_isFileAddress hfile) (refusal?_of_isFileAddress hfile')
  · rw [heq]

/-- Nor does it decide which address is asked. -/
theorem uri_sameButPassword {base base' : String} (h : SameButPassword base base')
    (hasked : refusal? base = none) (name profile : String) (label : Option String) :
    ∃ c c', make base name profile label = .ok c ∧ make base' name profile label = .ok c' ∧
      c'.uri = c.uri := by
  obtain ⟨url, hread, -, hmake⟩ := make_of_refusal?_eq_none hasked
  obtain ⟨url', hread', -, hmake'⟩ :=
    make_of_refusal?_eq_none ((refusal?_eq_none_iff h).1 hasked)
  refine ⟨_, _, hmake name profile label, hmake' name profile label, ?_⟩
  suffices hsame : url'.withoutUserInfo = url.withoutUserInfo ∧ url'.path = url.path by
    simp only [target, hsame]
  cases h with
  | same =>
    rw [hread] at hread'
    rw [Except.ok.inj hread']
    exact ⟨rfl, rfl⟩
  | @password scheme user p q rest hscheme huser hp hq =>
    rcases Url.read_withPassword hscheme huser rest with hfile | ⟨common, hcommon⟩
    · exact absurd hasked (refusal?_of_isFileAddress (hfile p))
    · obtain ⟨p', hp'⟩ := hcommon p hp
      obtain ⟨q', hq'⟩ := hcommon q hq
      rw [hp'] at hread
      rw [hq'] at hread'
      cases common with
      | error fault => cases hread
      | ok url =>
        rw [← Except.ok.inj hread, ← Except.ok.inj hread']
        exact ⟨rfl, rfl⟩

end Candidate

/-! ## Rows -/

namespace Walker

open Candidate (refused refusal?)

variable {σ : Type} {w : Walker} (net : Servers σ)

theorem row_of_refusal? {base reason : String} (h : refusal? base = some reason)
    (slot : Option String) (slots : List (Option String)) (s : Session σ) :
    w.row net base (slot :: slots) s =
      if s.isCancelled then (.error .cancelled, s)
      else (.ok (.failed (refused base reason)), s.recordRequest "invalid_uri") := by
  rw [row, Candidate.make_of_refusal? h]
  rfl

/-- Base addresses that can be asked have the same row: explicit credentials go
before those of a base address. -/
theorem row_sameButPassword (hexplicit : w.credentials.isSome = true) {base base' : String}
    (h : SameButPassword base base') (hasked : refusal? base = none)
    (slots : List (Option String)) (s : Session σ) :
    w.row net base' slots s = w.row net base slots s := by
  refine row_congr w net (fun slot => ?_) slots s
  obtain ⟨c, c', hmake, hmake', huri⟩ :=
    Candidate.uri_sameButPassword h hasked w.name w.profile slot
  obtain ⟨explicit, hsome⟩ := Option.isSome_iff_exists.1 hexplicit
  exact ⟨c, c', hmake, hmake', huri, by simp [credentialsFor, hsome]⟩

/-! ## Walks -/

/-- Both failures are the same, or they are those of malformed base addresses in
the same place of two lists, for the same reason.  Only for addresses of files
the reason may be another one. -/
def SameFailure (pairs : List (String × String)) (f f' : CandidateFailure) : Prop :=
  f' = f ∨ ∃ base base' reason reason', (base, base') ∈ pairs ∧
    f = refused base reason ∧ f' = refused base' reason' ∧
    (reason' = reason ∨ Url.IsFileAddress base)

theorem SameFailure.cons {pairs : List (String × String)} {f f' : CandidateFailure}
    (h : SameFailure pairs f f') (pair : String × String) : SameFailure (pair :: pairs) f f' := by
  rcases h with h | ⟨base, base', reason, reason', hmem, hf, hf'⟩
  · exact Or.inl h
  · exact Or.inr ⟨base, base', reason, reason', List.mem_cons_of_mem _ hmem, hf, hf'⟩

/-- Base addresses with another password can be asked. -/
def HidesPasswords (pairs : List (String × String)) : Prop :=
  ∀ pair ∈ pairs, pair.1 = pair.2 ∨ refusal? pair.1 = none

/-- Two walks over pairs of base addresses end alike, with these failures behind
them.  If they are exhausted, the other failures are the same exactly if the
passwords are hidden. -/
inductive SameEnd (pairs : List (String × String)) (failures failures' : List CandidateFailure) :
    Except LoadError WalkOutcome × Session σ → Except LoadError WalkOutcome × Session σ →
      Prop where
  | same {result : Except LoadError WalkOutcome} {s : Session σ}
      (hresult : ∀ failures, result ≠ .ok (.exhausted failures)) :
      SameEnd pairs failures failures' (result, s) (result, s)
  | exhausted {own own' : List CandidateFailure} {s : Session σ}
      (hown : List.Forall₂ (SameFailure pairs) own own')
      (hsame : own' = own ↔ HidesPasswords pairs) :
      SameEnd pairs failures failures' (.ok (.exhausted (failures ++ own)), s)
        (.ok (.exhausted (failures' ++ own')), s)

namespace SameEnd

variable {pair : String × String} {pairs : List (String × String)}
  {failures failures' : List CandidateFailure}
  {one other : Except LoadError WalkOutcome × Session σ}

/-- The first rows of two walks have added failures of the same kind, and the same
ones exactly if they hide passwords. -/
theorem cons {more more' : List CandidateFailure}
    (h : SameEnd pairs (failures ++ more) (failures' ++ more') one other)
    (hmore : List.Forall₂ (SameFailure (pair :: pairs)) more more')
    (hhides : more' = more ↔ pair.1 = pair.2 ∨ refusal? pair.1 = none) :
    SameEnd (pair :: pairs) failures failures' one other := by
  cases h with
  | same hresult => exact .same hresult
  | @exhausted own own' s hown hsame =>
    rw [List.append_assoc, List.append_assoc]
    refine .exhausted (List.rel_append hmore (hown.imp fun _ _ h => h.cons pair)) ?_
    rw [HidesPasswords, List.forall_mem_cons, ← hhides, ← HidesPasswords, ← hsame]
    exact ⟨fun h => List.append_inj h hmore.length_eq.symm, fun ⟨h, h'⟩ => by rw [h, h']⟩

/-- The first rows were the same, without a failure. -/
theorem cons_empty (h : SameEnd pairs failures failures' one other)
    (hhides : pair.1 = pair.2 ∨ refusal? pair.1 = none) :
    SameEnd (pair :: pairs) failures failures' one other := by
  rw [← List.append_nil failures, ← List.append_nil failures'] at h
  exact h.cons .nil (iff_of_true rfl hhides)

/-- The first rows were the same, with a failure. -/
theorem cons_failed {f : CandidateFailure}
    (h : SameEnd pairs (failures ++ [f]) (failures' ++ [f]) one other)
    (hhides : pair.1 = pair.2 ∨ refusal? pair.1 = none) :
    SameEnd (pair :: pairs) failures failures' one other :=
  h.cons (.cons (Or.inl rfl) .nil) (iff_of_true rfl hhides)

end SameEnd

/-- The failures of two malformed base addresses, of which each names its own. -/
theorem sameFailure_refused {base base' reason reason' : String}
    (h : SameButPassword base base') (hreason : refusal? base = some reason)
    (hreason' : refusal? base' = some reason') (pairs : List (String × String)) :
    SameFailure ((base, base') :: pairs) (refused base reason) (refused base' reason') := by
  refine Or.inr ⟨base, base', reason, reason', List.mem_cons_self, rfl, rfl, ?_⟩
  rcases Candidate.refusal?_sameButPassword h with ⟨hfile, -⟩ | heq
  · exact Or.inr hfile
  · exact Or.inl (Option.some.inj (hreason'.symm.trans (heq.trans hreason)))

/-- The two loops over base addresses. -/
theorem rows_passwords (hexplicit : w.credentials.isSome = true) (slot : Option String)
    (slots : List (Option String)) {bases bases' : List String}
    (hsame : List.Forall₂ SameButPassword bases bases')
    (failures failures' : List CandidateFailure) (lastEmpty : Bool) (s : Session σ) :
    SameEnd (bases.zip bases') failures failures'
      (w.rows net (slot :: slots) bases failures lastEmpty s)
      (w.rows net (slot :: slots) bases' failures' lastEmpty s) := by
  induction hsame generalizing failures failures' lastEmpty s with
  | nil =>
    rw [rows, rows]
    cases lastEmpty with
    | true => exact .same (by simp)
    | false =>
      have hnone := @SameEnd.exhausted σ [] failures failures' [] [] s .nil
        (iff_of_true rfl (by simp [HidesPasswords]))
      rw [List.append_nil, List.append_nil] at hnone
      exact hnone
  | @cons base base' bases bases' hbase hsame ih =>
    rw [rows, rows, List.zip_cons_cons]
    by_cases hhides : base = base' ∨ refusal? base = none
    · -- The rows of the first base addresses are the same.
      have hrow : w.row net base' (slot :: slots) s = w.row net base (slot :: slots) s := by
        rcases hhides with rfl | hasked
        · rfl
        · exact row_sameButPassword net hexplicit hbase hasked _ s
      rw [hrow]
      rcases w.row net base (slot :: slots) s with ⟨e | e, s'⟩
      · exact .same (by simp)
      · cases e with
        | found e => exact .same (by simp)
        | notFound => exact .same (by simp)
        | empty => exact (ih failures failures' true s').cons_empty hhides
        | failed f => exact (ih (failures ++ [f]) (failures' ++ [f]) false s').cons_failed hhides
    · -- Both are malformed, and each failure names its own.
      obtain ⟨hne, hrefused⟩ := not_or.1 hhides
      obtain ⟨reason, hreason⟩ := Option.ne_none_iff_exists'.1 hrefused
      obtain ⟨reason', hreason'⟩ := Option.ne_none_iff_exists'.1
        fun h => hrefused ((Candidate.refusal?_eq_none_iff hbase).2 h)
      rw [row_of_refusal? net hreason, row_of_refusal? net hreason']
      by_cases hcancelled : s.isCancelled
      · simp only [if_pos hcancelled]
        exact .same (by simp)
      · simp only [if_neg hcancelled]
        refine (ih _ _ false (s.recordRequest "invalid_uri")).cons
          (.cons (sameFailure_refused hbase hreason hreason' _) .nil)
          (iff_of_false (fun heq => ?_) hhides)
        exact hne (congrArg CandidateFailure.uri (List.cons.inj heq).1).symm

/-- Two walks whose base addresses differ in passwords only, with explicit
credentials.  Requests, answers and counts are the same, and so is the result
unless the walks are exhausted.  Then each failure of one walk is that of the
other, or both are failures of malformed base addresses, which name these and
differ in nothing else.  So the failures are the same exactly if all base
addresses with another password can be asked. -/
theorem walk_passwords (hexplicit : w.credentials.isSome = true) (labels : List String)
    {bases bases' : List String} (hsame : List.Forall₂ SameButPassword bases bases')
    (s : Session σ) :
    let one := w.walk net bases labels s
    let other := w.walk net bases' labels s
    other.2 = one.2 ∧
    ((∀ failures, one.1 ≠ .ok (.exhausted failures)) → other.1 = one.1) ∧
    ∀ failures, one.1 = .ok (.exhausted failures) →
      ∃ failures', other.1 = .ok (.exhausted failures') ∧
        List.Forall₂ (SameFailure (bases.zip bases')) failures failures' ∧
        (failures' = failures ↔ HidesPasswords (bases.zip bases')) := by
  intro one other
  obtain ⟨slot, rest, hslots⟩ := slots_eq_cons labels
  have hrows := rows_passwords net hexplicit slot rest hsame [] [] false s
  rw [← hslots] at hrows
  change SameEnd _ [] [] one other at hrows
  generalize one = one, other = other at hrows
  cases hrows with
  | same hresult => exact ⟨rfl, fun _ => rfl, fun failures h => absurd h (hresult failures)⟩
  | @exhausted own own' s' hown hiff =>
    refine ⟨rfl, fun hnot => absurd rfl (hnot _), fun failures hexhausted => ?_⟩
    obtain rfl : own = failures := by simpa using hexhausted
    exact ⟨own', rfl, hown, hiff⟩

/-! ## Two walks -/

/-- Servers that answer every request with a status of failure. -/
def brokenServers : Servers Unit where
  reply _ s := (.answer 500 none [], s)

/-- A walker with explicit credentials. -/
def explicitWalker : Walker where
  client := .ofOptions {}
  name := "app"
  profile := "dev"
  credentials := some ⟨"u", some "p"⟩

theorem isPasswordText_of_decide {s : String}
    (h : s.toList.all (fun c => !Url.endsAuthority true c) = true ∧
      s.toList.any (fun c => !Url.isDropped c) = true) : Url.IsPasswordText s where
  user c hc := by simpa using List.all_eq_true.1 h.1 c hc
  kept := by simpa using h.2

theorem sameButPassword_secrets {scheme : String} (hscheme : Url.IsSchemeText scheme) :
    SameButPassword (Url.withPassword scheme "user" "secret1" "[::1]")
      (Url.withPassword scheme "user" "secret2" "[::1]") :=
  .password "[::1]" hscheme (isPasswordText_of_decide (by decide +kernel)).user
    (isPasswordText_of_decide (by decide +kernel)) (isPasswordText_of_decide (by decide +kernel))

theorem isSchemeText_http : Url.IsSchemeText "http" :=
  ⟨'h', ['t', 't', 'p'], by decide +kernel, by decide, List.all_eq_true.1 (by decide)⟩

theorem isSchemeText_ftp : Url.IsSchemeText "ftp" :=
  ⟨'f', ['t', 'p'], by decide +kernel, by decide, List.all_eq_true.1 (by decide)⟩

/-- A failing server and a malformed base address that has no other password. -/
theorem walk_passwords_hidden :
    let bases password := [Url.withPassword "http" "user" password "[::1]", "ftp://u:p@[::1]"]
    let session : Session Unit := { servers := (), metrics := {} }
    List.Forall₂ SameButPassword (bases "secret1") (bases "secret2") ∧
      explicitWalker.credentials.isSome = true ∧
      ∃ failures, failures.length = 2 ∧
        (explicitWalker.walk brokenServers (bases "secret1") [] session).1 =
          .ok (.exhausted failures) ∧
        (explicitWalker.walk brokenServers (bases "secret2") [] session).1 =
          .ok (.exhausted failures) := by
  intro bases session
  have hsame : List.Forall₂ SameButPassword (bases "secret1") (bases "secret2") :=
    .cons (sameButPassword_secrets isSchemeText_http) (.cons (.same _) .nil)
  obtain ⟨-, -, hexhausted⟩ :=
    walk_passwords brokenServers (w := explicitWalker) (by decide) [] hsame session
  have hhides : HidesPasswords ((bases "secret1").zip (bases "secret2")) := by
    simp only [HidesPasswords, bases, List.zip_cons_cons, List.zip_nil_left, List.forall_mem_cons,
      List.not_mem_nil, false_implies, implies_true, and_true, true_or]
    exact Or.inr (by decide +kernel)
  obtain ⟨failures, hlength, hone⟩ : ∃ failures, failures.length = 2 ∧
      (explicitWalker.walk brokenServers (bases "secret1") [] session).1 =
        .ok (.exhausted failures) :=
    ⟨[⟨"http://[::1]/app/dev", .status 500⟩, refused "ftp://u:p@[::1]"
      "unsupported scheme 'ftp'"], rfl, by decide +kernel⟩
  obtain ⟨failures', hother, -, heq⟩ := hexhausted failures hone
  exact ⟨hsame, by decide, failures, hlength, hone, by rw [hother, heq.2 hhides]⟩

/-- A malformed base address shows its password, in the failure and in the text of
the error that is raised. -/
theorem walk_discloses_password :
    let base password := Url.withPassword "ftp" "user" password "[::1]"
    let session : Session Unit := { servers := (), metrics := {} }
    let one := (explicitWalker.walk brokenServers [base "secret1"] [] session).1
    let other := (explicitWalker.walk brokenServers [base "secret2"] [] session).1
    SameButPassword (base "secret1") (base "secret2") ∧ one ≠ other ∧
      one = .ok (.exhausted [⟨"ftp://user:secret1@[::1]",
        .invalidUri "ftp://user:secret1@[::1]" "unsupported scheme 'ftp'"⟩]) ∧
      (LoadError.exhausted [⟨"ftp://user:secret1@[::1]",
        .invalidUri "ftp://user:secret1@[::1]" "unsupported scheme 'ftp'"⟩]).message =
        "Could not locate PropertySource, fail fast property is set, failing: " ++
          "ftp://user:secret1@[::1] (invalid uri 'ftp://user:secret1@[::1]': " ++
          "unsupported scheme 'ftp')" := by
  intro base session one other
  refine ⟨sameButPassword_secrets isSchemeText_ftp, ?_⟩
  decide +kernel

end Walker

end RemoteConfig
