import RemoteConfig.Proofs.Http
import RemoteConfig.Proofs.Text.Fold

/-!
# Which headers win

The headers of every request are a map by names in small letters.  The standard
headers go into it first and the custom ones after them, in the order of their
spellings, so that of several custom headers with one name the last one stands.

* `lookup_named_of_standsFor` finds the last of several spellings of a name,
  which is the greatest one, and `exists_standsFor` says that there is one.
* `get?_requestHeaders_eq_some_iff` gives the value of every header, and
  `pairwise_requestHeaders` says that no name has two.
* `requestHeaders_precedence` is the result.
-/

namespace RemoteConfig

namespace Header

/-- The custom header that stands for a name, in small letters: among those of
the name, in any case, the one with the greatest spelling. -/
def StandsFor (l : List (String × String)) (name : String) (p : String × String) : Prop :=
  p ∈ l ∧ Text.fold p.1 = name ∧ ∀ q ∈ l, Text.fold q.1 = name → q.1 ≤ p.1

/-! ## Spellings of one name -/

section

variable {l : List (String × String)} {name : String}

/-- Behind the greatest spelling there is no other one of the name. -/
theorem lookup_named_of_standsFor (h : l.Pairwise fun p q => p.1 < q.1) {p : String × String}
    (hp : StandsFor l name p) : TextMap.lookup name (l.map named).reverse = some p.2 := by
  obtain ⟨hmem, hname, hgreatest⟩ := hp
  obtain ⟨before, after, rfl⟩ := List.append_of_mem hmem
  have hlater : ∀ q ∈ after, p.1 < q.1 :=
    (List.pairwise_cons.1 (List.pairwise_append.1 h).2.1).1
  have hafter : TextMap.lookup name (after.map named).reverse = none := by
    rw [TextMap.lookup_eq_none_iff]
    intro r hr hsame
    obtain ⟨q, hq, rfl⟩ := List.mem_map.1 (List.mem_reverse.1 hr)
    have hle := hgreatest q (List.mem_append_right _ (List.mem_cons_of_mem p hq)) hsame
    exact hle (hlater q hq)
  rw [List.map_append, List.map_cons, List.reverse_append, List.reverse_cons,
    TextMap.lookup_append, TextMap.lookup_append, hafter]
  simp [TextMap.lookup, named, hname]

/-- A name that is spelled in some way has a greatest spelling. -/
theorem exists_standsFor (h : l.Pairwise fun p q => p.1 < q.1) {p : String × String}
    (hp : p ∈ l) (hname : Text.fold p.1 = name) : ∃ q, StandsFor l name q := by
  induction l generalizing p with
  | nil => cases hp
  | cons first l ih =>
    obtain ⟨hfirst, hrest⟩ := List.pairwise_cons.1 h
    by_cases hlater : ∃ q ∈ l, Text.fold q.1 = name
    · obtain ⟨q, hq, hsame⟩ := hlater
      obtain ⟨r, hr, hrname, hgreatest⟩ := ih hrest hq hsame
      refine ⟨r, List.mem_cons_of_mem first hr, hrname, fun s hs hsname => ?_⟩
      rcases List.mem_cons.1 hs with rfl | hs
      · exact Std.le_of_lt (hfirst r hr)
      · exact hgreatest s hs hsname
    · have honly (q : String × String) (hq : q ∈ first :: l) (hqname : Text.fold q.1 = name) :
          q = first :=
        (List.mem_cons.1 hq).resolve_right fun hq => hlater ⟨q, hq, hqname⟩
      obtain rfl := honly p hp hname
      refine ⟨p, hp, hname, fun q hq hqname => ?_⟩
      obtain rfl := honly q hq hqname
      exact String.le_refl _

end

end Header

/-! ## The headers of the options -/

open Header

namespace ClientOptions

theorem fold_of_mem_requestHeaders {o : ClientOptions} {p : String × String}
    (hp : p ∈ o.requestHeaders.toList) : Text.fold p.1 = p.1 := by
  rw [requestHeaders_eq] at hp
  rcases List.mem_append.1 (TextMap.mem_of_mem_ofList hp) with hp | hp
  · have hstandard : p.1 = "accept" ∨ p.1 = tokenHeader := by
      rcases List.mem_cons.1 hp with rfl | hp
      · exact Or.inl rfl
      · obtain ⟨token, -, rfl⟩ := List.mem_map.1 hp
        exact Or.inr rfl
    rcases hstandard with h | h
    · rw [h]
      decide
    · rw [h]
      decide
  · obtain ⟨q, -, rfl⟩ := List.mem_map.1 hp
    exact Text.fold_fold q.1

/-- No two headers have the same name, up to case. -/
theorem pairwise_requestHeaders (o : ClientOptions) :
    o.requestHeaders.toList.Pairwise fun p q => Text.sameFolded p.1 q.1 = false := by
  have hordered : o.requestHeaders.Ordered := by
    rw [requestHeaders_eq]
    exact TextMap.ordered_ofList _
  refine List.Pairwise.imp_of_mem ?_ hordered
  intro p q hp hq hlt
  rw [Text.sameFolded, fold_of_mem_requestHeaders hp, fold_of_mem_requestHeaders hq,
    beq_eq_false_iff_ne]
  exact fun heq => String.lt_irrefl _ (heq ▸ hlt)

/-- The value of a name before the custom headers. -/
theorem lookup_standardPairs {o : ClientOptions} {name value : String} :
    TextMap.lookup name o.standardPairs.reverse = some value ↔
      (name = tokenHeader ∧ o.legalToken = some value) ∨
        (name = "accept" ∧ value = "application/json") := by
  have hdistinct : tokenHeader ≠ "accept" := by decide
  unfold standardPairs
  cases o.legalToken with
  | none => grind [TextMap.lookup]
  | some token => grind [TextMap.lookup]

/-- The value of a header is that of the custom one that stands for its name, or
else the standard one. -/
theorem get?_requestHeaders_eq_some_iff {o : ClientOptions} (h : o.headers.Ordered)
    {name value : String} :
    o.requestHeaders.get? name = some value ↔
      (∃ p, StandsFor o.legalHeaders name p ∧ p.2 = value) ∨
        ((∀ p ∈ o.legalHeaders, Text.fold p.1 ≠ name) ∧
          ((name = tokenHeader ∧ o.legalToken = some value) ∨
            (name = "accept" ∧ value = "application/json"))) := by
  have hlegal : o.legalHeaders.Pairwise fun p q => p.1 < q.1 := List.Pairwise.filter _ h
  rw [requestHeaders_eq, TextMap.get?_ofList, List.reverse_append, TextMap.lookup_append]
  by_cases hcustom : ∃ p ∈ o.legalHeaders, Text.fold p.1 = name
  · obtain ⟨q, hq, hname⟩ := hcustom
    obtain ⟨p, hp⟩ := exists_standsFor hlegal hq hname
    have hlookup {p} (hp : StandsFor o.legalHeaders name p) := lookup_named_of_standsFor hlegal hp
    rw [hlookup hp, Option.some_or]
    constructor
    · intro hvalue
      exact Or.inl ⟨p, hp, Option.some.inj hvalue⟩
    · rintro (⟨r, hr, rfl⟩ | ⟨hnone, -⟩)
      · rw [← hlookup hp, hlookup hr]
      · exact absurd hname (hnone q hq)
  · have hnone : ∀ p ∈ o.legalHeaders, Text.fold p.1 ≠ name :=
      fun p hp hname => hcustom ⟨p, hp, hname⟩
    have hlookup : TextMap.lookup name (o.legalHeaders.map named).reverse = none := by
      rw [TextMap.lookup_eq_none_iff]
      intro r hr
      obtain ⟨q, hq, rfl⟩ := List.mem_map.1 (List.mem_reverse.1 hr)
      exact hnone q hq
    rw [hlookup, Option.none_or, lookup_standardPairs]
    constructor
    · exact fun hstandard => Or.inr ⟨hnone, hstandard⟩
    · rintro (⟨p, hp, -⟩ | ⟨-, hstandard⟩)
      · exact absurd hp.2.1 (hnone p hp.1)
      · exact hstandard

/-- The names that are there: the standard ones, and those of legal custom headers. -/
theorem contains_requestHeaders_iff {o : ClientOptions} (h : o.headers.Ordered) {name : String} :
    o.requestHeaders.contains name ↔
      name = "accept" ∨ (name = tokenHeader ∧ ∃ token, o.legalToken = some token) ∨
        ∃ p ∈ o.legalHeaders, Text.fold p.1 = name := by
  rw [TextMap.contains_iff]
  simp only [get?_requestHeaders_eq_some_iff h]
  constructor
  · rintro ⟨value, ⟨p, hp, -⟩ | ⟨-, ⟨hname, hvalue⟩ | ⟨hname, -⟩⟩⟩
    · exact Or.inr (Or.inr ⟨p, hp.1, hp.2.1⟩)
    · exact Or.inr (Or.inl ⟨hname, value, hvalue⟩)
    · exact Or.inl hname
  · intro hname
    by_cases hcustom : ∃ p ∈ o.legalHeaders, Text.fold p.1 = name
    · obtain ⟨q, hq, hqname⟩ := hcustom
      obtain ⟨p, hp⟩ := exists_standsFor (List.Pairwise.filter _ h) hq hqname
      exact ⟨p.2, Or.inl ⟨p, hp, rfl⟩⟩
    · have hnone : ∀ p ∈ o.legalHeaders, Text.fold p.1 ≠ name :=
        fun p hp hname => hcustom ⟨p, hp, hname⟩
      rcases hname with hname | ⟨hname, token, htoken⟩ | hcustom'
      · exact ⟨_, Or.inr ⟨hnone, Or.inr ⟨hname, rfl⟩⟩⟩
      · exact ⟨token, Or.inr ⟨hnone, Or.inl ⟨hname, htoken⟩⟩⟩
      · exact absurd hcustom' hcustom

/-- Which headers a request carries, and with which values.

No two headers have the same name, up to case, and all names are in small letters.
A name is there if it is `accept`, the name of the token's header with a legal
token, or the name of a legal custom header.  Its value is that of the legal custom
header of the name with the greatest spelling; without one it is the token, or what
is accepted.  Custom headers and tokens that are not legal make no difference: the
legal ones alone determine all headers.  The map of custom headers is in order, as
all maps are that are built by insertions. -/
theorem requestHeaders_precedence {o : ClientOptions} (h : o.headers.Ordered) :
    (∀ p ∈ o.requestHeaders.toList, Text.fold p.1 = p.1) ∧
    (o.requestHeaders.toList.Pairwise fun p q => Text.sameFolded p.1 q.1 = false) ∧
    (∀ name, o.requestHeaders.contains (Text.fold name) ↔
      Text.fold name = "accept" ∨
      (Text.fold name = tokenHeader ∧ ∃ token, o.token = some token ∧ isValue token) ∨
      ∃ p ∈ o.headers.toList, isLegal p ∧ Text.fold p.1 = Text.fold name) ∧
    (∀ name value, o.requestHeaders.get? (Text.fold name) = some value ↔
      (∃ p ∈ o.headers.toList, isLegal p ∧ Text.fold p.1 = Text.fold name ∧ p.2 = value ∧
        ∀ q ∈ o.headers.toList, isLegal q → Text.fold q.1 = Text.fold name → q.1 ≤ p.1) ∨
      ((∀ p ∈ o.headers.toList, isLegal p → Text.fold p.1 ≠ Text.fold name) ∧
        ((Text.fold name = tokenHeader ∧ o.token = some value ∧ isValue value) ∨
          (Text.fold name = "accept" ∧ value = "application/json")))) ∧
    (∀ o' : ClientOptions,
      o'.headers.toList.filter isLegal = o.headers.toList.filter isLegal →
      o'.token.filter isValue = o.token.filter isValue →
      o'.requestHeaders = o.requestHeaders) := by
  refine ⟨fun p hp => fold_of_mem_requestHeaders hp, o.pairwise_requestHeaders, ?_, ?_, ?_⟩
  · intro name
    rw [contains_requestHeaders_iff h]
    simp [legalHeaders, legalToken, and_assoc]
  · intro name value
    rw [get?_requestHeaders_eq_some_iff h]
    simp [StandsFor, legalHeaders, legalToken, and_assoc]
  · intro o' hheaders htoken
    rw [requestHeaders_eq, requestHeaders_eq]
    unfold standardPairs legalToken legalHeaders
    rw [hheaders, htoken]

/-- Two spellings of one name, a custom name of a standard header, an illegal value
for the token's header, and an illegal name. -/
theorem requestHeaders_precedence_mixed :
    let o : ClientOptions :=
      { token := some "secret"
        headers := .ofList [("X-Tenant", "blue"), ("x-tenant", "red"), ("ACCEPT", "text/plain"),
          ("X-Config-Token", "a\nb"), ("X Tenant", "green")] }
    o.headers.Ordered ∧ o.requestHeaders.get? "x-tenant" = some "red" ∧
      o.requestHeaders.get? "accept" = some "text/plain" ∧
      o.requestHeaders.get? tokenHeader = some "secret" ∧
      o.requestHeaders.contains "x tenant" = false := by
  intro o
  have h : o.headers.Ordered := TextMap.ordered_ofList _
  obtain ⟨-, -, hnames, hvalues, -⟩ := requestHeaders_precedence h
  refine ⟨h, ?_, ?_, ?_, ?_⟩
  · exact (hvalues "x-tenant" "red").2 (Or.inl ⟨("x-tenant", "red"), by decide +kernel⟩)
  · exact (hvalues "accept" "text/plain").2 (Or.inl ⟨("ACCEPT", "text/plain"), by decide +kernel⟩)
  · exact (hvalues tokenHeader "secret").2 (Or.inr (by decide +kernel))
  · rw [← Bool.not_eq_true]
    exact fun hname => absurd ((hnames "x tenant").1 hname) (by decide +kernel)

end ClientOptions

end RemoteConfig
