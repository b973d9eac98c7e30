import RemoteConfig.Options.Validation
import RemoteConfig.Proofs.Candidate
import RemoteConfig.Proofs.Number.Numeral

/-!
# What valid options promise

The rules refuse a base address exactly if no candidate can be made of it.

* `exists_uriIssue_iff` says which base addresses have an issue, and
  `exists_failure_iff` which ones candidates fail on.
* `refusal?_of_isValid`, `uris_ne_nil_of_isValid` and `isExact_of_isValid` are
  what options without errors promise.
-/

namespace RemoteConfig

theorem Decimal.text_inj {m n : Nat} : text m = text n ↔ m = n := by
  constructor
  · intro h
    have hdigits : Nat.toDigits 10 m = Nat.toDigits 10 n := by
      rw [← toList_text, ← toList_text, h]
    rw [← value_toDigits m, ← value_toDigits n, hdigits]
  · exact congrArg text

theorem Report.isValid_iff {r : Report} :
    r.isValid = true ↔ ∀ issue ∈ r.issues, issue.severity ≠ .error := by
  simp [isValid, errors, ofSeverity]

/-- Options of retries that can be followed exactly. -/
structure RetryOptions.IsExact (r : RetryOptions) : Prop where
  finite : r.multiplier.isFinite = true
  growing : r.multiplier.lt ClientOptions.unitFactor = false
  attempts : r.maxAttempts ≠ 0
  interval : r.initialInterval ≤ r.maxInterval

namespace ClientOptions

open Candidate (refusal?)

/-! ## Keys -/

/-- The key of a base address. -/
def uriKey (index : Nat) : String :=
  "uri[" ++ Decimal.text index ++ "]"

theorem uriKey_inj {i j : Nat} : uriKey i = uriKey j ↔ i = j := by
  constructor
  · intro h
    have hchars := congrArg String.toList h
    simp only [uriKey, String.toList_append, List.append_cancel_right_eq,
      List.append_cancel_left_eq, String.toList_inj] at hchars
    exact Decimal.text_inj.1 hchars
  · exact congrArg uriKey

/-- The keys of base addresses have a bracket that those of other options do not
have. -/
theorem ne_uriKey {key : String} (h : '[' ∉ key.toList) (index : Nat) : key ≠ uriKey index := by
  rintro rfl
  apply h
  simp [uriKey]

/-! ## Issues with base addresses -/

theorem mem_issueIf {condition : Bool} {issue issue' : Issue} :
    issue' ∈ issueIf condition issue ↔ condition = true ∧ issue' = issue := by
  cases condition <;> simp [issueIf]

theorem uriIssues_of_refusal? {uri reason : String} (h : refusal? uri = some reason)
    (index : Nat) : ∃ message, uriIssues index uri = [⟨.error, uriKey index, message, none⟩] := by
  unfold refusal? at h
  unfold uriIssues
  cases hread : Url.read uri with
  | error fault => exact ⟨_, rfl⟩
  | ok url =>
    simp only [hread] at h ⊢
    split at h
    · cases h
    · rename_i hscheme
      rw [Bool.not_eq_true] at hscheme
      simp only [issueIf, hscheme, Bool.not_false, if_true]
      exact ⟨_, rfl⟩

theorem uriIssues_of_refusal?_eq_none {uri : String} (h : refusal? uri = none) (index : Nat) :
    uriIssues index uri = [] := by
  unfold refusal? at h
  unfold uriIssues
  cases hread : Url.read uri with
  | error fault =>
    rw [hread] at h
    cases h
  | ok url =>
    simp only [hread] at h ⊢
    split at h
    · rename_i hscheme
      simp [issueIf, hscheme]
    · cases h

/-- Base addresses are counted from the given number on. -/
theorem mem_urisIssues {first : Nat} {us : List String} {issue : Issue} :
    issue ∈ urisIssues first us ↔
      ∃ i uri, us[i]? = some uri ∧ issue ∈ uriIssues (first + i) uri := by
  induction us generalizing first with
  | nil => simp [urisIssues]
  | cons u us ih =>
    rw [urisIssues, List.mem_append, ih]
    constructor
    · rintro (h | ⟨i, uri, huri, h⟩)
      · exact ⟨0, u, rfl, h⟩
      · refine ⟨i + 1, uri, huri, ?_⟩
        rw [show first + (i + 1) = first + 1 + i by omega]
        exact h
    · rintro ⟨i, uri, huri, h⟩
      cases i with
      | zero =>
        obtain rfl : u = uri := Option.some.inj huri
        exact Or.inl h
      | succ i =>
        refine Or.inr ⟨i, uri, huri, ?_⟩
        rw [show first + 1 + i = first + (i + 1) by omega]
        exact h

/-- Among the issues with the connection, those with the key of a base address
are the issues with that one. -/
theorem mem_connectionIssues_uriKey (o : ClientOptions) (index : Nat) (issue : Issue)
    (hkey : issue.key = uriKey index) :
    issue ∈ o.connectionIssues ↔ issue ∈ urisIssues 0 o.uris := by
  have hother {condition : Bool} {other : Issue} (hbracket : '[' ∉ other.key.toList) :
      ¬ issue ∈ issueIf condition other := by
    rw [mem_issueIf]
    rintro ⟨-, rfl⟩
    exact ne_uriKey hbracket index hkey
  simp only [connectionIssues, List.mem_append]
  constructor
  · rintro ((((((h | h) | h) | h) | h) | h) | h)
    · exact absurd h (hother (by decide))
    · exact absurd h (hother (by decide))
    · exact absurd h (hother (by decide))
    · exact h
    · exact absurd h (hother (by decide))
    · exact absurd h (hother (by decide))
    · exact absurd h (hother (by decide))
  · intro h
    exact Or.inl (Or.inl (Or.inl (Or.inr h)))

/-- A base address has an error exactly if it is refused. -/
theorem exists_uriIssue_iff (o : ClientOptions) (index : Nat) :
    (∃ issue ∈ o.connectionIssues, issue.severity = .error ∧ issue.key = uriKey index) ↔
      ∃ uri, o.uris[index]? = some uri ∧ (refusal? uri).isSome = true := by
  constructor
  · rintro ⟨issue, hmem, -, hkey⟩
    rw [mem_connectionIssues_uriKey o index issue hkey, mem_urisIssues] at hmem
    obtain ⟨i, uri, huri, hissue⟩ := hmem
    rw [Nat.zero_add] at hissue
    cases hrefusal : refusal? uri with
    | none =>
      rw [uriIssues_of_refusal?_eq_none hrefusal] at hissue
      cases hissue
    | some reason =>
      obtain ⟨message, hissues⟩ := uriIssues_of_refusal? hrefusal i
      rw [hissues, List.mem_singleton] at hissue
      obtain rfl : i = index := by
        rw [hissue] at hkey
        exact uriKey_inj.1 hkey
      exact ⟨uri, huri, by rw [hrefusal]; rfl⟩
  · rintro ⟨uri, huri, hrefusal⟩
    obtain ⟨reason, hrefusal⟩ := Option.isSome_iff_exists.1 hrefusal
    obtain ⟨message, hissues⟩ := uriIssues_of_refusal? hrefusal index
    refine ⟨⟨.error, uriKey index, message, none⟩, ?_, rfl, rfl⟩
    rw [mem_connectionIssues_uriKey o index _ rfl, mem_urisIssues]
    refine ⟨index, uri, huri, ?_⟩
    rw [Nat.zero_add, hissues]
    exact List.mem_singleton_self _

/-- A candidate fails on a base address exactly if the base is refused, whatever
is asked for. -/
theorem exists_failure_iff (base name profile : String) (label : Option String) :
    (∃ failure, Candidate.make base name profile label = .error failure) ↔
      (refusal? base).isSome = true := by
  cases hrefusal : refusal? base with
  | none =>
    obtain ⟨url, -, -, hmake⟩ := Candidate.make_of_refusal?_eq_none hrefusal
    simp [hmake name profile label]
  | some reason =>
    simp [Candidate.make_of_refusal? hrefusal name profile label]

/-! ## Options without errors -/

/-- An error is found only if its condition holds. -/
theorem of_issueIf {condition : Bool} {issue : Issue}
    (h : ∀ issue' ∈ issueIf condition issue, issue'.severity ≠ .error)
    (herror : issue.severity = .error) : condition = false := by
  cases condition with
  | false => rfl
  | true => exact absurd herror (h issue (mem_issueIf.2 ⟨rfl, rfl⟩))

section

variable {o : ClientOptions} (h : o.validate.isValid = true)

include h

theorem connectionIssues_of_isValid : ∀ issue ∈ o.connectionIssues, issue.severity ≠ .error := by
  intro issue hmem
  apply Report.isValid_iff.1 h
  exact List.mem_append_left _ (List.mem_append_left _ hmem)

/-- All base addresses can be asked. -/
theorem refusal?_of_isValid : ∀ base ∈ o.uris, refusal? base = none := by
  intro base hbase
  obtain ⟨index, hindex⟩ := List.mem_iff_getElem?.1 hbase
  by_contra hrefusal
  obtain ⟨issue, hmem, herror, -⟩ := (exists_uriIssue_iff o index).2
    ⟨base, hindex, Option.isSome_iff_ne_none.2 hrefusal⟩
  exact connectionIssues_of_isValid h issue hmem herror

/-- There is a base address, unless a registry knows some. -/
theorem uris_ne_nil_of_isValid (hdiscovery : o.discovery.enabled = false) : o.uris ≠ [] := by
  have hnone : (o.uris.isEmpty && !o.discovery.enabled) = false := by
    have hissues := connectionIssues_of_isValid h
    simp only [connectionIssues, List.forall_mem_append] at hissues
    obtain ⟨⟨⟨⟨⟨-, hempty⟩, -⟩, -⟩, -⟩, -⟩ := hissues
    exact of_issueIf hempty rfl
  intro hnil
  simp [hnil, hdiscovery] at hnone

end

theorem isExact_of_retryIssues {r : RetryOptions}
    (h : ∀ issue ∈ retryIssues r, issue.severity ≠ .error) : r.IsExact := by
  unfold retryIssues at h
  simp only [List.forall_mem_append] at h
  obtain ⟨⟨hmultiplier, hattempts⟩, hinterval⟩ := h
  have hmultiplier := of_issueIf hmultiplier rfl
  have hattempts := of_issueIf hattempts rfl
  have hinterval := of_issueIf hinterval rfl
  simp only [Bool.or_eq_false_iff, Bool.not_eq_false'] at hmultiplier
  exact
    { finite := hmultiplier.1
      growing := hmultiplier.2
      attempts := by simpa using hattempts
      interval := by simpa using hinterval }

theorem isExact_of_isValid {o : ClientOptions} (h : o.validate.isValid = true) :
    o.retry.IsExact := by
  refine isExact_of_retryIssues fun issue hmem => Report.isValid_iff.1 h issue ?_
  exact List.mem_append_left _ (List.mem_append_right _ hmem)

end ClientOptions

end RemoteConfig
