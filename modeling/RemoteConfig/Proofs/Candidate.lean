import RemoteConfig.Candidate
import RemoteConfig.Proofs.Url.RoundTrip

/-!
# What a candidate keeps of its base

A candidate's address is a URL again: `read_uri` reads it back as the base
without user name and password, and with a longer path.

* `make_credentials` says which credentials are taken out of the base.  They
  end before the first ampersand, so they are those of the base exactly if
  there is none.
* `make_path` says where the path leads.  It stays below the path of the base,
  unless the first appended segment is a double dot with tabs or line ends in
  it: that one replaces the last segment of the base.
-/

namespace RemoteConfig.Candidate

variable {base : String} {url : Url}

/-- The segments that are appended to a base. -/
def appended (name profile : String) (label : Option String) : List String :=
  name :: profile :: labelSegments label

/-- The base without user name and password, and with a longer path. -/
def target (url : Url) (name profile : String) (label : Option String) : Url :=
  { url.withoutUserInfo with path := extend url.path (appended name profile label) }

theorem make_of_read (hread : Url.read base = .ok url)
    (hscheme : ClientOptions.isServerScheme url.scheme = true) (name profile : String)
    (label : Option String) :
    make base name profile label =
      .ok { uri := (target url name profile label).text, credentials := credentialsOf url } := by
  rw [make, hread]
  exact if_pos hscheme

theorem defaultPort?_of_isServerScheme {scheme : String}
    (h : ClientOptions.isServerScheme scheme = true) :
    (Url.defaultPort? scheme).isSome = true := by
  simp only [ClientOptions.isServerScheme, Bool.or_eq_true, decide_eq_true_eq] at h
  rcases h with rfl | rfl <;> rfl

/-- A base has segments, and what is appended to them are segments. -/
theorem extend_path {segs : List String} (hpath : url.path = .segments segs)
    (added : List String) :
    extend url.path added = .segments (added.foldl Url.pushSegment (Url.popEmpty segs)) := by
  rw [hpath, extend]

theorem target_isCanonical (h : url.IsCanonical) (name profile : String) (label : Option String) :
    (target url name profile label).IsCanonical := by
  obtain ⟨segs, hpath, hne, hsegs⟩ := h.path
  refine ⟨h.scheme, h.host, h.port, ⟨_, extend_path hpath _, ?_, ?_⟩, h.query, h.fragment⟩
  · exact Url.foldl_ne_nil _ (Url.popEmpty_ne_nil hne)
  · exact Url.isSegment_foldl _ (Url.isSegment_of_mem_popEmpty hsegs)

/-- The address of a candidate is read back. -/
theorem read_uri (hread : Url.read base = .ok url)
    (hscheme : ClientOptions.isServerScheme url.scheme = true) (name profile : String)
    (label : Option String) :
    Url.read (target url name profile label).text = .ok (target url name profile label) :=
  have hcanonical := Url.isCanonical_of_read hread (defaultPort?_of_isServerScheme hscheme)
  Url.read_text (target_isCanonical hcanonical name profile label) rfl rfl

theorem eq_ok_of_toOption {ε α : Type} {x : Except ε α} {a : α} (h : x.toOption = some a) :
    x = .ok a := by
  cases x with
  | error => cases h
  | ok => exact congrArg Except.ok (Option.some.inj h)

/-! ## Refused base addresses -/

/-- The failure of a malformed base address: it names the address. -/
def refused (base reason : String) : CandidateFailure :=
  ⟨base, .invalidUri base reason⟩

/-- Why a base address cannot be asked; nothing if it can. -/
def refusal? (base : String) : Option String :=
  match Url.read base with
  | .error fault => some fault.message
  | .ok url =>
    if ClientOptions.isServerScheme url.scheme then none
    else some ("unsupported scheme '" ++ url.scheme ++ "'")

theorem make_of_refusal? {reason : String} (h : refusal? base = some reason)
    (name profile : String) (label : Option String) :
    make base name profile label = .error (.invalidUri base reason) := by
  unfold refusal? at h
  unfold make
  cases hread : Url.read base with
  | error fault =>
    rw [hread] at h
    rw [← Option.some.inj h]
  | ok url =>
    simp only [hread] at h ⊢
    split at h
    · cases h
    · rename_i hscheme
      rw [if_neg hscheme, ← Option.some.inj h]

theorem make_of_refusal?_eq_none (h : refusal? base = none) :
    ∃ url, Url.read base = .ok url ∧ ClientOptions.isServerScheme url.scheme = true ∧
      ∀ name profile label, make base name profile label =
        .ok { uri := (target url name profile label).text, credentials := credentialsOf url } := by
  unfold refusal? at h
  cases hread : Url.read base with
  | error fault =>
    rw [hread] at h
    cases h
  | ok url =>
    simp only [hread] at h
    split at h
    · rename_i hscheme
      exact ⟨url, rfl, hscheme, make_of_read hread hscheme⟩
    · cases h

/-! ## Credentials -/

/-- A part of a URL stands for a text: its escapes are decoded, any other
character stands for itself, and the bytes are read as UTF-8. -/
def StandsFor (part text : String) : Prop :=
  ∃ bs, Url.Decodes part.toList bs ∧ text = Text.ofBytes bs

theorem standsFor_iff {part text : String} :
    StandsFor part text ↔ text = Url.decodeText part.toList := by
  simp only [StandsFor, Url.decodes_iff, exists_eq_left]
  rfl

/-- The part of a text before its first ampersand. -/
def beforeAmpersand (part : String) : String :=
  String.ofList (part.toList.takeWhile (· ≠ '&'))

theorem standsFor_decodeUserInfo (part : String) :
    StandsFor (beforeAmpersand part) (decodeUserInfo part) := by
  rw [standsFor_iff, beforeAmpersand, String.toList_ofList, decodeUserInfo]

/-- An ampersand stands for itself, and what is around it does not touch it. -/
theorem charsOfBytes_decode_append (cs rest : List Char) :
    Text.charsOfBytes (Url.decode (cs ++ '&' :: rest)) =
      Text.charsOfBytes (Url.decode cs) ++ '&' :: Text.charsOfBytes (Url.decode rest) := by
  have hliteral : Url.decode ('&' :: rest) = 0x26 :: Url.decode rest :=
    Url.decode_literal fun h => absurd h (by decide)
  have hand : Url.IsLiteral '&' := ⟨by decide, by decide⟩
  rw [Url.decode_append hand, hliteral, Text.charsOfBytes_append (by decide),
    Text.charsOfBytes_cons (by decide)]
  rfl

/-- Nothing is lost exactly if there is no ampersand. -/
theorem decodeUserInfo_eq_iff {part text : String} (h : StandsFor part text) :
    decodeUserInfo part = text ↔ '&' ∉ part.toList := by
  rw [standsFor_iff] at h
  subst h
  simp only [decodeUserInfo, Url.decodeText, Text.ofBytes, String.ofList_inj]
  have hbefore {cs : List Char} (hcs : '&' ∉ cs) : ∀ c ∈ cs, decide (c ≠ '&') = true := by
    refine fun c hc => decide_eq_true ?_
    rintro rfl
    exact hcs hc
  constructor
  · intro heq hmem
    obtain ⟨cs, rest, hpart, hcs⟩ := List.eq_append_cons_of_mem hmem
    have hcut : part.toList.takeWhile (· ≠ '&') = cs := by
      rw [hpart, List.takeWhile_append_of_pos (hbefore hcs)]
      simp
    rw [hcut, hpart, charsOfBytes_decode_append] at heq
    exact absurd (congrArg List.length heq) (by simp)
  · intro hnot
    have hall : (part.toList ++ []).takeWhile (· ≠ '&') =
        part.toList ++ [].takeWhile (· ≠ '&') := List.takeWhile_append_of_pos (hbefore hnot)
    rw [List.append_nil, List.takeWhile_nil, List.append_nil] at hall
    rw [hall]

/-- The credentials of a candidate.  They are those that the base holds exactly
if no ampersand stands in them; otherwise they end before the first one. -/
theorem make_credentials (hread : Url.read base = .ok url)
    (hscheme : ClientOptions.isServerScheme url.scheme = true) (huser : url.username ≠ "")
    (name profile : String) (label : Option String) :
    ∃ c read credentials, make base name profile label = .ok c ∧
      Url.read c.uri = .ok read ∧ c.uri = read.text ∧
      read.username = "" ∧ read.password = none ∧
      c.credentials = some credentials ∧
      StandsFor (beforeAmpersand url.username) credentials.username ∧
      Option.Rel (fun part => StandsFor (beforeAmpersand part)) url.password
        credentials.password ∧
      ∀ held : Credentials, StandsFor url.username held.username →
        Option.Rel StandsFor url.password held.password →
        (credentials = held ↔
          '&' ∉ url.username.toList ∧ ∀ p ∈ url.password, '&' ∉ p.toList) := by
  refine ⟨_, _, ⟨decodeUserInfo url.username, url.password.map decodeUserInfo⟩,
    make_of_read hread hscheme name profile label, read_uri hread hscheme name profile label,
    rfl, rfl, rfl, ?_, standsFor_decodeUserInfo _, ?_, fun held husername hpassword => ?_⟩
  · simp [credentialsOf, huser]
  · cases url.password with
    | none => exact .none
    | some p => exact .some (standsFor_decodeUserInfo p)
  · obtain ⟨username, password⟩ := held
    rw [Credentials.mk.injEq, decodeUserInfo_eq_iff husername]
    refine and_congr_right fun _ => ?_
    revert hpassword
    cases url.password with
    | none =>
      rintro ⟨⟩
      simp
    | some p =>
      rintro (hp | _)
      simp [decodeUserInfo_eq_iff hp]

/-- A plus sign and an escaped ampersand are kept. -/
theorem make_credentials_escaped :
    ∃ url, Url.read "http://u+1:p%26w@[::1]" = .ok url ∧
      ClientOptions.isServerScheme url.scheme = true ∧ url.username ≠ "" ∧
      ∃ c, make "http://u+1:p%26w@[::1]" "app" "dev" none = .ok c ∧
        c.credentials = some ⟨"u+1", some "p&w"⟩ := by
  have hread : Url.read "http://u+1:p%26w@[::1]" =
      .ok { scheme := "http", username := "u+1", password := some "p%26w",
            host := some (.ipv6 [0, 0, 0, 0, 0, 0, 0, 1]), path := .segments [""] } :=
    eq_ok_of_toOption (by decide +kernel)
  obtain ⟨c, _, credentials, hmake, -, -, -, -, hcredentials, -, -, hheld⟩ :=
    make_credentials hread rfl (by decide) "app" "dev" none
  have hexact := (hheld ⟨"u+1", some "p&w"⟩ (standsFor_iff.2 (by decide +kernel))
    (.some (standsFor_iff.2 (by decide +kernel)))).2 (by decide)
  exact ⟨_, hread, rfl, by decide, c, hmake, hexact ▸ hcredentials⟩

/-- An ampersand ends a user name and a password. -/
theorem make_credentials_cut :
    ∃ url c held, Url.read "http://us&er:p&w@[::1]" = .ok url ∧
      make "http://us&er:p&w@[::1]" "app" "dev" none = .ok c ∧
      StandsFor url.username held.username ∧ Option.Rel StandsFor url.password held.password ∧
      c.credentials ≠ some held :=
  ⟨{ scheme := "http", username := "us&er", password := some "p&w",
     host := some (.ipv6 [0, 0, 0, 0, 0, 0, 0, 1]), path := .segments [""] },
    { uri := "http://[::1]/app/dev", credentials := some ⟨"us", some "p"⟩ },
    ⟨"us&er", some "p&w"⟩, eq_ok_of_toOption (by decide +kernel),
    eq_ok_of_toOption (by decide +kernel),
    standsFor_iff.2 (by decide +kernel), .some (standsFor_iff.2 (by decide +kernel)), by decide⟩

/-! ## Paths -/

/-- A path without a slash at its end. -/
def withoutSlash (cs : List Char) : List Char :=
  if cs.getLast? = some '/' then cs.dropLast else cs

theorem withoutSlash_isPrefix (segs : List String) :
    withoutSlash (Url.pathChars segs) <+: Url.pathChars (Url.popEmpty segs) := by
  have hself : withoutSlash (Url.pathChars segs) <+: Url.pathChars segs := by
    unfold withoutSlash
    split
    · exact List.dropLast_prefix _
    · exact List.prefix_rfl
  unfold Url.popEmpty
  split
  · split
    · rename_i hlast
      obtain ⟨init, hinit⟩ := List.getLast?_eq_some_iff.1 hlast
      rw [hinit, List.dropLast_concat, Url.pathChars_append]
      simp [withoutSlash, Url.pathChars]
    · exact hself
  · exact hself

/-- The address of a candidate: scheme, host, port and query are those of the
base.  The path starts with that of the base, without a slash at its end,
unless the appended segments shorten it.  Then a hidden double dot replaces the
last segment of the base by an empty one, and what follows is appended. -/
theorem make_path (hread : Url.read base = .ok url)
    (hscheme : ClientOptions.isServerScheme url.scheme = true) (name profile : String)
    (label : Option String) :
    ∃ c segs segs', make base name profile label = .ok c ∧ url.path = .segments segs ∧
      Url.read c.uri =
        .ok { url with username := "", password := none, path := .segments segs' } ∧
      let added := appended name profile label
      let kept := Url.popEmpty segs
      (Url.shortens kept added = false →
        withoutSlash url.path.text.toList <+: (Url.Path.segments segs').text.toList) ∧
      (Url.shortens kept added = true →
        ∃ skipped s rest, added = skipped ++ s :: rest ∧
          (∀ t ∈ skipped, Url.isSkipped t = true) ∧ Url.isHiddenDoubleDot s = true ∧
          segs' = rest.foldl Url.pushSegment (kept.dropLast ++ [""]) ∧
          kept.dropLast <+: segs') := by
  have hcanonical := Url.isCanonical_of_read hread (defaultPort?_of_isServerScheme hscheme)
  obtain ⟨segs, hpath, hne, -⟩ := hcanonical.path
  refine ⟨_, segs, (appended name profile label).foldl Url.pushSegment (Url.popEmpty segs),
    make_of_read hread hscheme name profile label, hpath, ?_, fun h => ?_, fun h => ?_⟩
  · rw [read_uri hread hscheme name profile label, target, extend_path hpath]
    rfl
  · rw [hpath, Url.Path.toList_text, Url.Path.toList_text]
    exact (withoutSlash_isPrefix segs).trans
      (Url.pathChars_isPrefix_foldl (Url.popEmpty_ne_nil hne) h)
  · obtain ⟨skipped, s, rest, hadded, hskipped, hhidden, hsegs⟩ := Url.foldl_of_shortens h
    refine ⟨skipped, s, rest, hadded, hskipped, hhidden, hsegs, hsegs ▸ ?_⟩
    exact (Url.keeps_foldl rest ⟨"", [], rfl⟩).isPrefix

/-- Double dots are skipped, and a hidden one behind a segment takes back only
that segment. -/
theorem make_path_below :
    ∃ url, Url.read "http://[::1]/a/b/" = .ok url ∧
      ClientOptions.isServerScheme url.scheme = true ∧
      ∃ c segs, make "http://[::1]/a/b/" ".." "x" (some ".\t./y") = .ok c ∧
        Url.read c.uri = .ok { url with path := .segments segs } ∧
        "/a/b".toList <+: (Url.Path.segments segs).text.toList := by
  have hread : Url.read "http://[::1]/a/b/" =
      .ok { scheme := "http", host := some (.ipv6 [0, 0, 0, 0, 0, 0, 0, 1])
            path := .segments ["a", "b", ""] } :=
    eq_ok_of_toOption (by decide +kernel)
  obtain ⟨c, segs, segs', hmake, hpath, huri, hbelow, -⟩ :=
    make_path hread rfl ".." "x" (some ".\t./y")
  obtain rfl : ["a", "b", ""] = segs := Url.Path.segments.inj hpath
  exact ⟨_, hread, rfl, c, segs', hmake, huri, hbelow (by decide +kernel)⟩

/-- A hidden double dot in front replaces the last segment of the base. -/
theorem make_path_shortened :
    ∃ url c read, Url.read "http://[::1]/a/b" = .ok url ∧
      make "http://[::1]/a/b" ".\t." "x" none = .ok c ∧ Url.read c.uri = .ok read ∧
      ¬withoutSlash url.path.text.toList <+: read.path.text.toList :=
  ⟨{ scheme := "http", host := some (.ipv6 [0, 0, 0, 0, 0, 0, 0, 1])
     path := .segments ["a", "b"] },
    { uri := "http://[::1]/a//x" },
    { scheme := "http", host := some (.ipv6 [0, 0, 0, 0, 0, 0, 0, 1])
      path := .segments ["a", "", "x"] },
    eq_ok_of_toOption (by decide +kernel), eq_ok_of_toOption (by decide +kernel),
    eq_ok_of_toOption (by decide +kernel), by decide +kernel⟩

end RemoteConfig.Candidate
