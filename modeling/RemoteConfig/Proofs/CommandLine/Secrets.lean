import RemoteConfig.CommandLine.Run
import RemoteConfig.Proofs.Provider.Secrets
import RemoteConfig.Proofs.Text.Split

/-!
# What commands tell of secrets

The command that shows options puts a mask in the place of the password and of
the token.  The one that fetches shows the store, to which the options belong,
and has no mask: a secret whose key it shows can be read off its output.

* `shown_eq_iff` says when the same pairs are shown of two stores that differ in
  secrets, and `eq_of_lines_append` that pairs can be read off their lines.
* `fetch_cases` is the case analysis on two fetches.
* `Command.output_of_differInSecrets` is the result: with other secrets all
  other commands write the same, and a fetch does exactly if it fails or shows
  no secret that is another one.
* `Command.fetch_tells_password` is a fetch that tells the password.
-/

namespace RemoteConfig

open ClientOptions (DifferInSecrets SameButSecret Secret)

/-! ## Options -/

namespace ClientOptions

/-- No secret is broken over lines. -/
def SecretsInLine (o : ClientOptions) : Prop :=
  ∀ s : Secret, ∀ v ∈ s.text? o, '\n' ∉ v.toList

/-- The rules ask only whether secrets are set. -/
theorem DifferInSecrets.validate_eq {o o' : ClientOptions} (h : DifferInSecrets o o') :
    o.validate = o'.validate := by
  have hpassword := h.secrets .password
  have htoken := h.secrets .token
  obtain ⟨password, token, rfl⟩ := h.exists_eq
  change o.password.isSome = password.isSome at hpassword
  change o.token.isSome = token.isSome at htoken
  unfold validate connectionIssues
  simp only [hpassword, htoken]
  rfl

end ClientOptions

namespace CommandLine

variable {σ τ : Type}

section Options

variable {o o' : ClientOptions} (h : DifferInSecrets o o')

include h

theorem acceptOptions_cases :
    (acceptOptions o = .ok o ∧ acceptOptions o' = .ok o') ∨
      ∃ f, acceptOptions o = .error f ∧ acceptOptions o' = .error f := by
  unfold acceptOptions ClientOptions.accept
  rw [← h.validate_eq]
  by_cases hvalid : o.validate.isValid
  · exact Or.inl ⟨by rw [if_pos hvalid], by rw [if_pos hvalid]⟩
  · exact Or.inr ⟨_, by rw [if_neg hvalid], by rw [if_neg hvalid]⟩

/-- The mask covers what differs. -/
theorem showOptions_eq : showOptions o = showOptions o' := by
  have hmask (s : Secret) : isSecret s.key = true := by
    cases s <;> decide
  unfold showOptions
  refine congrArg (fun texts : List String => ({ output := String.join texts } : Ending)) ?_
  rw [← List.forall₂_eq_eq_eq, List.forall₂_map_left_iff, List.forall₂_map_right_iff]
  refine h.forall₂_toPairs.imp fun p p' hp => ?_
  cases hp with
  | same p => rfl
  | secret s text text' => simp only [hmask, if_true]

theorem validateOptions_eq : validateOptions o = validateOptions o' := by
  have hvalidate := h.validate_eq
  unfold validateOptions ClientOptions.accept
  rw [← hvalidate]
  by_cases hvalid : o.validate.isValid
  · simp only [if_pos hvalid]
  · simp only [if_neg hvalid]

end Options

/-! ## Pairs that are shown -/

/-- A key with this start is shown. -/
def isShown (keyStart : Option String) (key : String) : Bool :=
  match keyStart with
  | some start => (Text.stripFolded start key).isSome
  | none => true

/-- The pairs whose keys are shown. -/
def shown (keyStart : Option String) (pairs : List (String × String)) : List (String × String) :=
  pairs.filter fun p => isShown keyStart p.1

/-- The lines of pairs. -/
def lines (pairs : List (String × String)) : String :=
  String.join (pairs.map fun p => pairLine p.1 p.2)

theorem pairLines_eq (keyStart : Option String) (pairs : List (String × String)) :
    pairLines keyStart pairs = lines (shown keyStart pairs) := by
  unfold pairLines lines shown isShown
  cases keyStart with
  | none => simp
  | some start => rfl

/-- Case does not matter. -/
theorem isShown_congr {key key' : String} (h : Text.fold key = Text.fold key')
    (keyStart : Option String) : isShown keyStart key = isShown keyStart key' := by
  cases keyStart with
  | none => rfl
  | some start =>
    unfold isShown
    simp only
    rw [Bool.eq_iff_iff, Text.isSome_stripFolded, Text.isSome_stripFolded, h]

theorem toList_lines_cons (p : String × String) (pairs : List (String × String)) (told : String) :
    (lines (p :: pairs) ++ told).toList =
      (p.1 ++ "=").toList ++ (p.2.toList ++ '\n' :: (lines pairs ++ told).toList) := by
  unfold lines pairLine
  rw [List.map_cons, String.join_cons]
  simp only [String.toList_append, List.append_assoc]
  rfl

section Pairs

variable {o o' : ClientOptions} {pairs pairs' : List (String × String)}
  (h : List.Forall₂ (SameButSecret o o') pairs pairs')

include h

/-- Pairs that differ in secrets only can be read off their lines, if no secret
is broken over lines. -/
theorem eq_of_lines_append (hline : o.SecretsInLine) (hline' : o'.SecretsInLine) {told : String}
    (heq : lines pairs ++ told = lines pairs' ++ told) : pairs = pairs' := by
  induction h with
  | nil => rfl
  | @cons p p' pairs pairs' hp _ ih =>
    rw [← String.toList_inj, toList_lines_cons, toList_lines_cons, ← hp.key,
      List.append_cancel_left_eq] at heq
    cases hp with
    | same p =>
      rw [List.append_cancel_left_eq, List.cons.injEq, String.toList_inj] at heq
      rw [ih heq.2]
    | @secret s v v' text text' =>
      -- The first piece up to a line break is the text of the secret.
      have hpieces := congrArg (Text.pieces '\n') heq
      rw [Text.pieces_append_sep (hline s v text), Text.pieces_append_sep (hline' s v' text'),
        List.cons.injEq, String.toList_inj] at hpieces
      obtain ⟨rfl, -⟩ := hpieces
      rw [List.append_cancel_left_eq, List.cons.injEq, String.toList_inj] at heq
      rw [ih heq.2]

theorem forall₂_shown (keyStart : Option String) :
    List.Forall₂ (SameButSecret o o') (shown keyStart pairs) (shown keyStart pairs') :=
  List.rel_filter (fun p p' hp => show _ ↔ isShown keyStart p'.1 = true by rw [← hp.key]) h

theorem shown_eq_of_secrets {keyStart : Option String}
    (hsecrets : ∀ s : Secret, isShown keyStart s.key → s.text? o = s.text? o') :
    shown keyStart pairs = shown keyStart pairs' := by
  unfold shown
  induction h with
  | nil => rfl
  | @cons p p' pairs pairs' hp _ ih =>
    have hhead : isShown keyStart p.1 → p = p' := fun hshown => by
      cases hp with
      | same p => rfl
      | @secret s v v' text text' =>
        rw [Option.some.inj (text.symm.trans ((hsecrets s hshown).trans text'))]
    by_cases hshown : isShown keyStart p.1
    · rw [← hhead hshown, List.filter_cons, List.filter_cons, ih]
    · rw [List.filter_cons, List.filter_cons, if_neg hshown, if_neg (hp.key ▸ hshown), ih]

end Pairs

/-! ## Stores -/

section Stores

variable {o o' : ClientOptions} {s : Secret} {v : String}

/-- A secret is looked up in what is built. -/
theorem get?_builtFrom_secret (text : s.text? o = some v) (source : Option Environment) :
    (builtFrom o source).get? s.key = some v := by
  rw [get?_builtFrom, ClientOptions.lastValue?_secret, text, Option.some_or]

/-- The text of a secret that is shown stands in a pair. -/
theorem exists_mem_shown {keyStart : Option String} (hshown : isShown keyStart s.key)
    (text : s.text? o = some v) (source : Option Environment) :
    ∃ p ∈ shown keyStart (builtFrom o source).pairs, Text.fold p.1 = Text.fold s.key ∧ p.2 = v := by
  obtain ⟨p, hp, hkey, hvalue⟩ := Snapshot.exists_mem_pairs_of_get? (wellFormed_builtFrom o source)
    (get?_builtFrom_secret text source)
  exact ⟨p, List.mem_filter.2 ⟨hp, isShown_congr hkey keyStart ▸ hshown⟩, hkey, hvalue⟩

/-- The same is shown of both stores exactly if the secrets that are shown are
the same. -/
theorem shown_eq_iff (h : DifferInSecrets o o') (keyStart : Option String)
    (source : Option Environment) :
    shown keyStart (builtFrom o source).pairs = shown keyStart (builtFrom o' source).pairs ↔
      ∀ s : Secret, isShown keyStart s.key → s.text? o = s.text? o' := by
  refine ⟨fun heq s hshown => ?_, shown_eq_of_secrets (h.sameButSecrets_builtFrom source).pairs⟩
  cases text : s.text? o with
  | none =>
    have hset := h.secrets s
    rw [text] at hset
    exact (by simpa using hset : s.text? o' = none).symm
  | some v =>
    obtain ⟨v', text'⟩ := Option.isSome_iff_exists.1 ((h.secrets s).symm.trans (by rw [text]; rfl))
    obtain ⟨p, hp, hkey, rfl⟩ := exists_mem_shown hshown text source
    rw [heq] at hp
    have hvalue := Snapshot.get?_of_mem_pairs (wellFormed_builtFrom o' source)
      (List.mem_filter.1 hp).1 hkey
    rw [text', ← get?_builtFrom_secret text' source, hvalue]

end Stores

/-! ## Commands -/

/-- The replies that a fetch gets. -/
def fetchReplies (net : Servers σ) (o : ClientOptions) (servers : σ) : List Reply :=
  match acceptOptions o with
  | .ok o => (Provider.ofOptions o).replies net servers
  | .error _ => []

section Fetch

variable {o o' : ClientOptions} (h : DifferInSecrets o o') (net : Servers σ) (net' : Servers τ)
  (servers : σ) (servers' : τ) (keyStart : Option String) (metrics : Bool)

include h

/-- With the same replies two fetches fail alike, or show stores that are built
from the same environment and tell the same besides. -/
theorem fetch_cases
    (hreplies : (Provider.ofOptions o).replies net servers =
      (Provider.ofOptions o').replies net' servers') :
    (∃ error, (fetch net keyStart metrics o servers).1 = .failed error ∧
      (fetch net' keyStart metrics o' servers').1 = .failed error) ∨
    ∃ source told,
      (fetch net keyStart metrics o servers).1 =
        { output := lines (shown keyStart (builtFrom o source).pairs) ++ told } ∧
      (fetch net' keyStart metrics o' servers').1 =
        { output := lines (shown keyStart (builtFrom o' source).pairs) ++ told } := by
  obtain ⟨hresult, hleft⟩ :=
    (Provider.SameButSecrets.ofOptions h none).load net net' true servers servers' hreplies
  have hoptions (o : ClientOptions) {ρ : Type} (net : Servers ρ) (servers : ρ) :
      ((Provider.ofOptions o).load net true .never servers).2.1.options = o := by
    obtain ⟨_, _, _, _, hframe⟩ := (Provider.ofOptions o).load_frame true net .never servers
    rw [hframe]
    rfl
  obtain ⟨source, hsnapshot, hsnapshot'⟩ := hleft.stores
  rw [hoptions] at hsnapshot hsnapshot'
  have hmetrics := hleft.metrics
  unfold fetch
  generalize (Provider.ofOptions o).load net true .never servers = r at *
  generalize (Provider.ofOptions o').load net' true .never servers' = r' at *
  obtain ⟨result, p, left⟩ := r
  obtain ⟨result', p', left'⟩ := r'
  obtain rfl : result = result' := hresult
  cases result with
  | error e => exact Or.inl ⟨_, rfl, rfl⟩
  | ok found =>
    refine Or.inr ⟨source, if metrics then "\n" ++ p.metrics.text else "", ?_, ?_⟩
    · simp only at hsnapshot ⊢
      rw [pairLines_eq, hsnapshot]
    · simp only at hsnapshot' hmetrics ⊢
      rw [pairLines_eq, hsnapshot', hmetrics]

/-- The same of the command. -/
theorem Command.run_fetch_cases (polls : Nat)
    (hreplies : fetchReplies net o servers = fetchReplies net' o' servers') :
    (∃ error, ((fetch keyStart metrics).run net polls o servers).1 = .failed error ∧
      ((fetch keyStart metrics).run net' polls o' servers').1 = .failed error) ∨
    ∃ source told,
      ((fetch keyStart metrics).run net polls o servers).1 =
        { output := lines (shown keyStart (builtFrom o source).pairs) ++ told } ∧
      ((fetch keyStart metrics).run net' polls o' servers').1 =
        { output := lines (shown keyStart (builtFrom o' source).pairs) ++ told } := by
  unfold fetchReplies at hreplies
  unfold run
  simp only
  obtain ⟨hok, hok'⟩ | ⟨f, herror, herror'⟩ := acceptOptions_cases h
  · rw [hok, hok'] at hreplies ⊢
    exact fetch_cases h net net' servers servers' keyStart metrics hreplies
  · rw [herror, herror']
    exact Or.inl ⟨_, rfl, rfl⟩

/-- If what the fetches write is the same they fail, or the secrets that they
show are the same. -/
theorem Command.secrets_of_output_eq (polls : Nat)
    (hreplies : fetchReplies net o servers = fetchReplies net' o' servers')
    (hline : o.SecretsInLine) (hline' : o'.SecretsInLine)
    (heq : ((fetch keyStart metrics).run net polls o servers).1.output =
      ((fetch keyStart metrics).run net' polls o' servers').1.output) :
    ((fetch keyStart metrics).run net polls o servers).1.error.isSome ∨
      ∀ s : Secret, isShown keyStart s.key → s.text? o = s.text? o' := by
  obtain ⟨error, he, -⟩ | ⟨source, told, he, he'⟩ :=
    run_fetch_cases h net net' servers servers' keyStart metrics polls hreplies
  · rw [he]
    exact Or.inl rfl
  · rw [he, he'] at heq
    have hpairs := forall₂_shown (h.sameButSecrets_builtFrom source).pairs keyStart
    exact Or.inr ((shown_eq_iff h keyStart source).1 (eq_of_lines_append hpairs hline hline' heq))

end Fetch

theorem output_watch (net : Servers σ) (polls : Nat) (o : ClientOptions) (servers : σ) :
    (watch net polls o servers).1.output = "" := by
  unfold watch
  split <;> rfl

/-- Other secrets change nothing in what commands other than a fetch write.  If
a fetch gets the same replies it ends alike and writes the same lines, except
for those of secrets; and it writes the same exactly if it fails, or if the
secrets that it shows are the same.  That the output tells them apart is known
of secrets that are not broken over lines. -/
theorem Command.output_of_differInSecrets {o o' : ClientOptions} (h : DifferInSecrets o o')
    (net : Servers σ) (net' : Servers τ) (polls : Nat) (servers : σ) (servers' : τ) :
    (∀ c : Command, (∀ keyStart metrics, c ≠ .fetch keyStart metrics) →
      (c.run net polls o servers).1.output = (c.run net' polls o' servers').1.output) ∧
    (fetchReplies net o servers = fetchReplies net' o' servers' → ∀ keyStart metrics,
      let e := ((fetch keyStart metrics).run net polls o servers).1
      let e' := ((fetch keyStart metrics).run net' polls o' servers').1
      e.exitCode = e'.exitCode ∧ e.error = e'.error ∧
      (∃ pairs pairs' told, List.Forall₂ (SameButSecret o o') pairs pairs' ∧
        e.output = lines (shown keyStart pairs) ++ told ∧
        e'.output = lines (shown keyStart pairs') ++ told) ∧
      let same := e.error.isSome ∨ ∀ s : Secret, isShown keyStart s.key → s.text? o = s.text? o'
      (same → e.output = e'.output) ∧
      (o.SecretsInLine → o'.SecretsInLine → e.output = e'.output → same)) := by
  constructor
  · intro c hc
    cases c with
    | fetch keyStart metrics => exact absurd rfl (hc keyStart metrics)
    | watch interval =>
      have hempty {ρ : Type} (net : Servers ρ) (o : ClientOptions) (servers : ρ) :
          ((watch interval).run net polls o servers).1.output = "" := by
        unfold run
        simp only
        split
        · exact output_watch ..
        · rfl
      rw [hempty, hempty]
    | showOptions =>
      unfold run
      simp only [showOptions_eq h]
    | validateOptions =>
      unfold run
      simp only [validateOptions_eq h]
  · intro hreplies keyStart metrics
    have htells := secrets_of_output_eq h net net' servers servers' keyStart metrics polls hreplies
    obtain ⟨error, he, he'⟩ | ⟨source, told, he, he'⟩ :=
      run_fetch_cases h net net' servers servers' keyStart metrics polls hreplies
    · rw [he, he'] at htells ⊢
      have hnothing : "" = lines (shown keyStart []) ++ "" := by
        simp [shown, lines]
      exact ⟨rfl, rfl, ⟨[], [], "", .nil, hnothing, hnothing⟩, fun _ => rfl, htells⟩
    · rw [he, he'] at htells ⊢
      have hpairs := (h.sameButSecrets_builtFrom source).pairs
      refine ⟨rfl, rfl, ⟨_, _, told, hpairs, rfl, rfl⟩, ?_, htells⟩
      rintro (herror | hsecrets)
      · cases herror
      · exact congrArg (lines · ++ told) ((shown_eq_iff h keyStart source).2 hsecrets)

/-! ## A fetch that tells the password -/

/-- Options with a password. -/
def optionsWith (password : String) : ClientOptions :=
  { uri := "http://[::1]", password := some password }

theorem differInSecrets_optionsWith (password password' : String) :
    DifferInSecrets (optionsWith password) (optionsWith password') where
  rest := rfl
  secrets s := by cases s <;> rfl

theorem secretsInLine_optionsWith {password : String} (h : '\n' ∉ password.toList) :
    (optionsWith password).SecretsInLine := by
  intro s v hv
  cases s with
  | password => exact Option.some.inj hv ▸ h
  | token => cases hv

/-- How the fetch ends that shows keys with some start, of a client with this
password. -/
def fetchWith (keyStart : Option String) (password : String) : Ending :=
  ((Command.fetch keyStart false).run namingServers 0 (optionsWith password) ()).1

/-- The fetch of the address tells nothing of the password, and that of all keys
tells which one it is. -/
theorem Command.output_of_passwords :
    (fetchWith (some "spring:cloud:config:uri") "one").output =
        (fetchWith (some "spring:cloud:config:uri") "two").output ∧
      (fetchWith none "one").output ≠ (fetchWith none "two").output := by
  obtain ⟨-, hfetch⟩ := Command.output_of_differInSecrets (differInSecrets_optionsWith "one" "two")
    namingServers namingServers 0 () ()
  have hreplies : fetchReplies namingServers (optionsWith "one") () =
      fetchReplies namingServers (optionsWith "two") () := by
    decide +kernel
  have herror : (fetchWith none "one").error = none := by
    decide +kernel
  unfold fetchWith at herror ⊢
  constructor
  · obtain ⟨-, -, -, hsame, -⟩ := hfetch hreplies (some "spring:cloud:config:uri") false
    refine hsame (Or.inr fun s hshown => ?_)
    revert hshown
    cases s <;> decide
  · obtain ⟨-, -, -, -, htells⟩ := hfetch hreplies none false
    intro heq
    rcases htells (secretsInLine_optionsWith (by decide)) (secretsInLine_optionsWith (by decide))
      heq with herror' | hsecrets
    · rw [herror] at herror'
      cases herror'
    · exact absurd (hsecrets .password rfl) (by decide)

/-- The servers answer both clients alike, with a text in which no password
stands.  The fetches of the password's key write different lines all the same. -/
theorem Command.fetch_tells_password :
    let body := "\x7b\"name\":\"a\"\x7d"
    let keyStart := some "spring:cloud:config:password"
    DifferInSecrets (optionsWith "one") (optionsWith "two") ∧
      (∀ password ∈ ["one", "two"],
        fetchReplies namingServers (optionsWith password) () =
            [.answer 200 none (Text.bytes body)] ∧
          ¬ password.toList <:+: body.toList) ∧
      (fetchWith keyStart "one").output ≠ (fetchWith keyStart "two").output := by
  intro body keyStart
  have hreplies : ∀ password ∈ ["one", "two"],
      fetchReplies namingServers (optionsWith password) () =
          [.answer 200 none (Text.bytes body)] ∧ ¬ password.toList <:+: body.toList := by
    decide +kernel
  have herror : (fetchWith keyStart "one").error = none := by
    decide +kernel
  refine ⟨differInSecrets_optionsWith "one" "two", hreplies, fun heq => ?_⟩
  unfold fetchWith at herror heq
  rcases Command.secrets_of_output_eq (differInSecrets_optionsWith "one" "two") namingServers
      namingServers () () keyStart false 0
      ((hreplies "one" (by simp)).1.trans (hreplies "two" (by simp)).1.symm)
      (secretsInLine_optionsWith (by decide)) (secretsInLine_optionsWith (by decide)) heq with
    herror' | hsecrets
  · rw [herror] at herror'
    cases herror'
  · exact absurd (hsecrets .password (by decide)) (by decide)

end CommandLine

end RemoteConfig
