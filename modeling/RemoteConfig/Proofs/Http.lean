import RemoteConfig.Http
import RemoteConfig.Proofs.TextMap

/-!
# Requests and their headers

* `authorizations_request` says which values of the header that authorizes a
  request carries, and `authorizations_request_of_plain` when these are those of
  explicit credentials only.
* `send_of_read` says what sending comes to where there is someone to send to.
* `requestHeaders_eq` builds the headers of the options from those that are legal,
  and `get?_requestHeaders_eq_none` says which ones the options leave out.
-/

namespace RemoteConfig

namespace Header

theorem insert_perm (header : String × String) (hs : List (String × String)) :
    (insert header hs).Perm (header :: hs) := by
  induction hs with
  | nil => exact .refl _
  | cons h rest ih =>
    unfold insert
    split
    · exact .refl _
    · exact (ih.cons h).trans (.swap header h rest)

theorem foldl_insert_perm (name : String) (values : List String)
    (hs : List (String × String)) :
    (values.foldl (fun hs v => insert (name, v) hs) hs).Perm (values.map (name, ·) ++ hs) := by
  induction values generalizing hs with
  | nil => exact .refl hs
  | cons v values ih =>
    refine (ih (insert (name, v) hs)).trans ?_
    exact ((insert_perm (name, v) hs).append_left _).trans List.perm_middle

end Header

/-- The values of the header that authorizes. -/
def Request.authorizations (r : Request) : List String :=
  (r.headers.filter (·.1 = "authorization")).map (·.2)

/-- A request carries the values that authorize it, and no others. -/
theorem HttpClient.authorizations_request (c : HttpClient) (url : Url)
    (explicit : Option Credentials) :
    (c.request url explicit).authorizations.Perm (c.authorizations url explicit) := by
  let plain := c.headers.toList.filter (·.1 ≠ "authorization")
  let values := c.authorizations url explicit
  let isOwn : String × String → Bool := fun h => h.1 = "authorization"
  have hplain : plain.filter isOwn = [] := by
    simp [plain, isOwn]
  have hvalues : ((values.map ("authorization", ·) ++ plain).filter isOwn).map (·.2) = values := by
    rw [List.filter_append, hplain, List.append_nil, List.filter_map, List.map_map]
    simp [isOwn, Function.comp_def]
  have hauthorized := Header.foldl_insert_perm "authorization" values plain
  have hheaders : ((c.request url explicit).headers.filter isOwn).Perm
      ((values.map ("authorization", ·) ++ plain).filter isOwn) := by
    unfold request
    simp only
    split
    · exact hauthorized.filter isOwn
    · have hhost := (Header.insert_perm ("host", url.hostText) _).trans
        (hauthorized.cons ("host", url.hostText))
      refine (hhost.filter isOwn).trans ?_
      rw [List.filter_cons_of_neg (by simp [isOwn])]
  have hcarried := hheaders.map (·.2)
  rw [hvalues] at hcarried
  exact hcarried

theorem HttpClient.url_request (c : HttpClient) {url : Url} (hurl : url.credentials? = none)
    (explicit : Option Credentials) : (c.request url explicit).url = url := by
  simp [request, hurl]

/-- Without a custom header and without credentials in the address, nothing but
explicit credentials authorizes. -/
theorem HttpClient.authorizations_request_of_plain {c : HttpClient}
    (hplain : c.headers.get? "authorization" = none) {url : Url} (hurl : url.credentials? = none)
    (explicit : Option Credentials) :
    (c.request url explicit).authorizations = (explicit.map Header.basic).toList := by
  have hperm := c.authorizations_request url explicit
  unfold authorizations at hperm
  rw [hplain, hurl] at hperm
  cases explicit with
  | none => exact hperm.eq_nil
  | some credentials => exact hperm.eq_singleton

/-- An address that can be read and sent to is sent a request, and the reply is
taken. -/
theorem HttpClient.send_of_read {σ : Type} (c : HttpClient) (net : Servers σ) {uri : String}
    {url : Url} (hread : Url.read uri = .ok url)
    (hscheme : (url.scheme = "http" || url.scheme = "https") = true)
    (explicit : Option Credentials) (servers : σ) :
    c.send net uri explicit servers =
      (outcome? (c.request url explicit).url (net.reply (c.request url explicit) servers).1,
        (net.reply (c.request url explicit) servers).2) := by
  rw [send, hread]
  exact if_pos hscheme

/-! ## The headers of the options -/

namespace Header

/-- A custom header that is sent: its name and its value are well formed. -/
def isLegal (p : String × String) : Bool :=
  (name? p.1).isSome && isValue p.2

/-- A custom header under its name in small letters. -/
def named (p : String × String) : String × String :=
  (Text.fold p.1, p.2)

theorem eq_fold_of_name? {s name : String} (h : name? s = some name) : name = Text.fold s := by
  unfold name? at h
  simp only at h
  split at h
  · cases h
  · exact (Option.some.inj h).symm

end Header

open Header

/-- A custom header is put under its name in small letters, if it is legal. -/
theorem addCustomHeader_eq (headers : TextMap String) (p : String × String) :
    addCustomHeader headers p.1 p.2 =
      if isLegal p then headers.insert (Text.fold p.1) p.2 else headers := by
  unfold addCustomHeader isLegal
  cases hname : name? p.1 with
  | none => simp
  | some name => simp [eq_fold_of_name? hname]

namespace ClientOptions

/-- The custom headers that are sent. -/
def legalHeaders (o : ClientOptions) : List (String × String) :=
  o.headers.toList.filter isLegal

/-- The token, if it is legal. -/
def legalToken (o : ClientOptions) : Option String :=
  o.token.filter isValue

/-- The headers before the custom ones. -/
def standardPairs (o : ClientOptions) : List (String × String) :=
  ("accept", "application/json") :: o.legalToken.toList.map (tokenHeader, ·)

theorem standardHeaders_eq (o : ClientOptions) :
    standardHeaders o = TextMap.ofList o.standardPairs := by
  unfold standardHeaders standardPairs legalToken
  cases o.token with
  | none => rfl
  | some token =>
    by_cases hvalue : isValue token
    · rw [Option.filter_some, if_pos hvalue]
      exact if_pos hvalue
    · rw [Option.filter_some, if_neg hvalue]
      exact if_neg hvalue

/-- The headers are the standard ones and the legal custom ones, the later ones in
place of the earlier ones. -/
theorem requestHeaders_eq (o : ClientOptions) :
    o.requestHeaders = TextMap.ofList (o.standardPairs ++ o.legalHeaders.map named) := by
  rw [TextMap.ofList, List.foldl_append]
  change _ = (o.legalHeaders.map named).foldl _ (TextMap.ofList o.standardPairs)
  rw [← standardHeaders_eq]
  unfold requestHeaders legalHeaders
  generalize standardHeaders o = headers
  induction o.headers.toList generalizing headers with
  | nil => rfl
  | cons p rest ih =>
    rw [List.foldl_cons, addCustomHeader_eq, List.filter_cons]
    split
    · exact ih _
    · exact ih _

/-- A header that is no standard one is there only if the options name it. -/
theorem get?_requestHeaders_eq_none {o : ClientOptions} {key : String}
    (hstandard : key ≠ "accept" ∧ key ≠ tokenHeader)
    (hcustom : ∀ p ∈ o.headers.toList, Text.fold p.1 ≠ key) :
    o.requestHeaders.get? key = none := by
  rw [requestHeaders_eq, TextMap.get?_ofList, TextMap.lookup_eq_none_iff]
  intro p hp
  rcases List.mem_append.1 (List.mem_reverse.1 hp) with hp | hp
  · rcases List.mem_cons.1 hp with rfl | hp
    · exact hstandard.1.symm
    · obtain ⟨token, -, rfl⟩ := List.mem_map.1 hp
      exact hstandard.2.symm
  · obtain ⟨q, hq, rfl⟩ := List.mem_map.1 hp
    exact hcustom q (List.mem_of_mem_filter hq)

end ClientOptions

/-! ## Addresses without credentials -/

/-- An address without user name and password holds no credentials. -/
theorem Url.credentials?_eq_none {url : Url} (husername : url.username = "")
    (hpassword : url.password = none) : url.credentials? = none := by
  have hempty : Text.ofBytes? (decode "".toList) = some "" := by decide +kernel
  unfold credentials?
  rw [husername, hpassword, hempty]
  rfl

end RemoteConfig
