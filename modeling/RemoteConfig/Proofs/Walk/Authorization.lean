import Mathlib.Data.List.Forall2
import RemoteConfig.Proofs.Candidate
import RemoteConfig.Proofs.Http
import RemoteConfig.Proofs.Walk.Verdict
import RemoteConfig.Provider

/-!
# Whom credentials are sent to

Each request of a walk is authorized by the explicit credentials, or else by
those that stand in its own base address.  What stands in other base addresses
does not show in it.

* `SameButUserInfo` relates base addresses, and `Request.IsAuthorizedBy` says
  what a request shows of credentials.
* `Servers.AnswerAlike` relates states of servers that do not look at headers.
* `row_alike` and `rows_alike` follow the loops of two walks side by side, over
  base addresses that differ in user names and passwords.
* `authorizations_walk` is the result.
-/

namespace RemoteConfig

variable {σ : Type}

/-- An address of a server that can be asked. -/
def IsServerAddress (base : String) : Prop :=
  ∃ url, Url.read base = .ok url ∧ ClientOptions.isServerScheme url.scheme = true

/-- Both addresses can be read, and they differ in user name and password only. -/
def SameButUserInfo (base base' : String) : Prop :=
  ∃ url url', Url.read base = .ok url ∧ Url.read base' = .ok url' ∧
    url'.withoutUserInfo = url.withoutUserInfo

/-- The request is for an address without user name and password, and these
credentials authorize it, or nothing does. -/
structure Request.IsAuthorizedBy (r : Request) (credentials : Option Credentials) : Prop where
  username : r.url.username = ""
  password : r.url.password = none
  authorizations : r.authorizations = (credentials.map Header.basic).toList

/-! ## Servers that answer alike -/

namespace Servers

/-- The replies to requests, one after the other. -/
def replies (net : Servers σ) : List Request → σ → List Reply
  | [], _ => []
  | r :: rs, s => (net.reply r s).1 :: net.replies rs (net.reply r s).2

/-- In both states the servers have the same replies to requests for the same
addresses, whatever the headers are. -/
def AnswerAlike (net : Servers σ) (s s' : σ) : Prop :=
  ∀ rs rs', rs.map (·.url) = rs'.map (·.url) → net.replies rs s = net.replies rs' s'

namespace AnswerAlike

variable {net : Servers σ} {s s' : σ} {r r' : Request}

theorem reply_eq (h : net.AnswerAlike s s') (hurl : r'.url = r.url) :
    (net.reply r' s').1 = (net.reply r s).1 := by
  have hreplies := h [r] [r'] (by simp [hurl])
  exact (List.cons.inj hreplies).1.symm

/-- Behind requests for the same address they answer alike again. -/
theorem behind (h : net.AnswerAlike s s') (hurl : r'.url = r.url) :
    net.AnswerAlike (net.reply r s).2 (net.reply r' s').2 := by
  intro rs rs' hurls
  have hreplies := h (r :: rs) (r' :: rs') (by simp [hurl, hurls])
  exact (List.cons.inj hreplies).2

end AnswerAlike

end Servers

/-! ## Sessions that go alike -/

namespace Session

/-- The sessions differ in nothing but their servers, which answer alike. -/
inductive Alike (net : Servers σ) (s : Session (σ × List Request)) :
    Session (σ × List Request) → Prop where
  | of_servers {servers : σ × List Request} (h : net.AnswerAlike s.servers.1 servers.1) :
    Alike net s { s with servers }

/-- Two runs have the same result and are in sessions that are alike, with these
requests behind them. -/
structure SentAlike {α : Type} (net : Servers σ) (s s' : Session (σ × List Request))
    (sent sent' : List Request) (one other : α × Session (σ × List Request)) : Prop where
  result : other.1 = one.1
  alike : one.2.Alike net other.2
  log : one.2.servers.2 = s.servers.2 ++ sent
  log' : other.2.servers.2 = s'.servers.2 ++ sent'

namespace SentAlike

variable {α : Type} {net : Servers σ} {s s' t t' : Session (σ × List Request)}
  {sent sent' more more' : List Request} {one other : α × Session (σ × List Request)}

theorem nothing (h : s.Alike net s') (a : α) : SentAlike net s s' [] [] (a, s) (a, s') where
  result := rfl
  alike := h
  log := (List.append_nil _).symm
  log' := (List.append_nil _).symm

theorem withResult {β : Type} (h : SentAlike net s s' sent sent' one other) (b : β) :
    SentAlike net s s' sent sent' (b, one.2) (b, other.2) where
  result := rfl
  alike := h.alike
  log := h.log
  log' := h.log'

/-- Runs that go on where others have ended. -/
theorem behind {β : Type} {b : β} (hfirst : SentAlike net s s' sent sent' (b, t) (b, t'))
    (h : SentAlike net t t' more more' one other) :
    SentAlike net s s' (sent ++ more) (sent' ++ more') one other where
  result := h.result
  alike := h.alike
  log := by rw [h.log, hfirst.log, List.append_assoc]
  log' := by rw [h.log', hfirst.log', List.append_assoc]

end SentAlike

variable {net : Servers σ} {s s' : Session (σ × List Request)}

theorem Alike.recordRequest (h : s.Alike net s') (label : String) :
    (s.recordRequest label).Alike net (s'.recordRequest label) := by
  cases h with
  | of_servers h => exact .of_servers h

theorem Alike.isCancelled_eq (h : s.Alike net s') : s'.isCancelled = s.isCancelled := by
  cases h
  rfl

/-- Two waits with the same outcome. -/
theorem Alike.await (h : s.Alike net s') (client : HttpClient) (isSent : Bool)
    (outcome : Option FetchOutcome) :
    (s'.await client isSent outcome).1 = (s.await client isSent outcome).1 ∧
      (s.await client isSent outcome).2.Alike net (s'.await client isSent outcome).2 ∧
      (s.await client isSent outcome).2.servers = s.servers ∧
      (s'.await client isSent outcome).2.servers = s'.servers := by
  cases h with
  | @of_servers servers h =>
    unfold Session.await
    split
    · exact ⟨rfl, .of_servers h, rfl, rfl⟩
    · cases outcome with
      | some outcome => exact ⟨rfl, .of_servers h, rfl, rfl⟩
      | none => exact ⟨rfl, .of_servers h, rfl, rfl⟩

/-- Two fetches from one address, with credentials of their own. -/
theorem fetch_alike (client : HttpClient) {uri : String} {url : Url}
    (hread : Url.read uri = .ok url) (hscheme : ClientOptions.isServerScheme url.scheme = true)
    (explicit explicit' : Option Credentials) (h : s.Alike net s') :
    SentAlike net s s' [client.request url explicit] [client.request url explicit']
      (s.fetch net.recorded client uri explicit) (s'.fetch net.recorded client uri explicit') := by
  cases h with
  | @of_servers servers hservers =>
    have hurl : (client.request url explicit').url = (client.request url explicit).url := rfl
    have hreply := hservers.reply_eq hurl
    have hnext := hservers.behind hurl
    unfold fetch
    rw [client.send_of_read net.recorded hread hscheme explicit,
      client.send_of_read net.recorded hread hscheme explicit']
    simp only [Servers.recorded, hurl, hreply]
    have hsent : Alike net
        { s with servers := ((net.reply (client.request url explicit) s.servers.1).2,
          s.servers.2 ++ [client.request url explicit]) }
        { s with servers := ((net.reply (client.request url explicit') servers.1).2,
          servers.2 ++ [client.request url explicit']) } := .of_servers hnext
    obtain ⟨hresult, halike, hlog, hlog'⟩ := hsent.await client (Url.read uri).isOk
      (HttpClient.outcome? (client.request url explicit).url
        (net.reply (client.request url explicit) s.servers.1).1)
    exact ⟨hresult, halike, congrArg Prod.snd hlog, congrArg Prod.snd hlog'⟩

/-- What is counted of a request does not show in the servers. -/
theorem SentAlike.recordRequest {α β : Type} {sent sent' : List Request}
    {one other : α × Session (σ × List Request)} (h : SentAlike net s s' sent sent' one other)
    (b : β) (label : String) :
    SentAlike net s s' sent sent' (b, one.2.recordRequest label)
      (b, other.2.recordRequest label) where
  result := rfl
  alike := h.alike.recordRequest label
  log := h.log
  log' := h.log'

end Session

/-! ## Walks side by side -/

namespace Walker

open Session (SentAlike)

/-- Two base addresses can be asked, and their candidates differ in credentials
only. -/
def AsksAlike (w : Walker) (base base' : String) : Prop :=
  ∀ slot, ∃ url c c', Url.read c.uri = .ok url ∧
    ClientOptions.isServerScheme url.scheme = true ∧ w.candidate ⟨base, slot⟩ = .ok c ∧
    w.candidate ⟨base', slot⟩ = .ok c' ∧ c'.uri = c.uri

/-- The requests for so many places of a row, from the first on. -/
def rowRequests (w : Walker) (slots : List (Option String)) (base : String) (n : Nat) :
    List Request :=
  (slots.take n).filterMap fun slot => w.request? ⟨base, slot⟩

/-- The requests row by row, for so many places of each. -/
def sent (w : Walker) (slots : List (Option String)) (bases : List String) (counts : List Nat) :
    List (List Request) :=
  List.zipWith (w.rowRequests slots) bases counts

variable {w : Walker} {net : Servers σ} {s s' : Session (σ × List Request)}

theorem request?_of_candidate {p : Place} {c : Candidate} {url : Url}
    (hcandidate : w.candidate p = .ok c) (hread : Url.read c.uri = .ok url)
    (hscheme : ClientOptions.isServerScheme url.scheme = true) :
    w.request? p = some (w.client.request url (w.credentialsFor c)) := by
  unfold request?
  rw [hcandidate]
  unfold HttpClient.request?
  simp only [hread]
  exact if_pos hscheme

theorem rowRequests_cons {base : String} {slot : Option String} {request : Request}
    (h : w.request? ⟨base, slot⟩ = some request) (slots : List (Option String)) (n : Nat) :
    w.rowRequests (slot :: slots) base (n + 1) = [request] ++ w.rowRequests slots base n := by
  simp [rowRequests, h]

/-- The rows of two base addresses that are asked alike.  The induction is on the
labels, and both rows go on or stop together. -/
theorem row_alike {base base' : String} (hasks : w.AsksAlike base base')
    (slots : List (Option String)) (h : s.Alike net s') :
    ∃ n, n ≤ slots.length ∧
      SentAlike net s s' (w.rowRequests slots base n) (w.rowRequests slots base' n)
        (w.row net.recorded base slots s) (w.row net.recorded base' slots s') := by
  induction slots generalizing s s' with
  | nil => exact ⟨0, Nat.le_refl 0, .nothing h _⟩
  | cons slot slots ih =>
    rw [row, row, h.isCancelled_eq]
    split
    · exact ⟨0, Nat.zero_le _, .nothing h _⟩
    · obtain ⟨url, c, c', hread, hscheme, hmake, hmake', huri⟩ := hasks slot
      have hrequest := request?_of_candidate hmake hread hscheme
      have hrequest' := request?_of_candidate hmake' (huri ▸ hread) hscheme
      have hfetch := Session.fetch_alike w.client hread hscheme (w.credentialsFor c)
        (w.credentialsFor c') h
      unfold candidate at hmake hmake'
      simp only [hmake, hmake', huri]
      -- The row of a single place, for the outcomes that stop it.
      have single {one other : Except LoadError RowEnd × Session (σ × List Request)}
          (hone : SentAlike net s s' [w.client.request url (w.credentialsFor c)]
            [w.client.request url (w.credentialsFor c')] one other) :
          ∃ n, n ≤ (slot :: slots).length ∧
            SentAlike net s s' (w.rowRequests (slot :: slots) base n)
              (w.rowRequests (slot :: slots) base' n) one other := by
        refine ⟨1, by simp, ?_⟩
        rw [rowRequests_cons hrequest, rowRequests_cons hrequest']
        exact hone
      generalize s.fetch net.recorded w.client c.uri (w.credentialsFor c) = one at hfetch
      generalize s'.fetch net.recorded w.client c.uri (w.credentialsFor c') = other at hfetch
      obtain ⟨result, t⟩ := one
      obtain ⟨result', t'⟩ := other
      obtain rfl : result = result' := hfetch.result.symm
      cases result with
      | error e => exact single (hfetch.withResult _)
      | ok outcome =>
        have hrecorded {α : Type} (a : α) := hfetch.recordRequest a outcome.label
        rcases outcome with ⟨status, _ | e⟩ | _ | failure
        · obtain ⟨n, hn, hrest⟩ := ih (hrecorded ()).alike
          refine ⟨n + 1, Nat.succ_le_succ hn, ?_⟩
          rw [rowRequests_cons hrequest, rowRequests_cons hrequest']
          exact (hrecorded ()).behind hrest
        · exact single (hrecorded _)
        · exact single (hrecorded _)
        · exact single (hrecorded _)

theorem sent_cons (slots : List (Option String)) (base : String) (bases : List String) (n : Nat)
    (counts : List Nat) :
    w.sent slots (base :: bases) (n :: counts) =
      w.rowRequests slots base n :: w.sent slots bases counts := rfl

theorem getElem?_sent {slots : List (Option String)} {bases : List String} {i : Nat} {base : String}
    (h : bases[i]? = some base) (counts : List Nat) :
    (w.sent slots bases counts)[i]? = counts[i]?.map (w.rowRequests slots base) := by
  rw [sent, List.getElem?_zipWith, h]
  cases counts[i]? <;> rfl

theorem flatten_sent_zero (slots : List (Option String)) (bases : List String) (k : Nat) :
    (w.sent slots bases (List.replicate k 0)).flatten = [] := by
  unfold sent
  induction bases generalizing k with
  | nil => rfl
  | cons base bases ih =>
    cases k with
    | zero => rfl
    | succ k => exact ih k

/-- The rows of base addresses that are asked alike.  The induction is on these,
and both walks go on or stop together. -/
theorem rows_alike (slots : List (Option String)) {bases bases' : List String}
    (hasks : List.Forall₂ w.AsksAlike bases bases')
    (failures : List CandidateFailure) (lastEmpty : Bool) (h : s.Alike net s') :
    ∃ counts : List Nat, counts.length = bases.length ∧ (∀ n ∈ counts, n ≤ slots.length) ∧
      SentAlike net s s' (w.sent slots bases counts).flatten (w.sent slots bases' counts).flatten
        (w.rows net.recorded slots bases failures lastEmpty s)
        (w.rows net.recorded slots bases' failures lastEmpty s') := by
  induction hasks generalizing failures lastEmpty s s' with
  | nil => exact ⟨[], rfl, by simp, .nothing h _⟩
  | @cons base base' bases bases' hbase hasks ih =>
    obtain ⟨n, hn, hrow⟩ := row_alike hbase slots h
    rw [rows, rows]
    generalize w.row net.recorded base slots s = one at hrow
    generalize w.row net.recorded base' slots s' = other at hrow
    obtain ⟨result, t⟩ := one
    obtain ⟨result', t'⟩ := other
    obtain rfl : result = result' := hrow.result.symm
    -- The walk that ends with this row, and the one that goes on behind it.
    have last {one other : Except LoadError WalkOutcome × Session (σ × List Request)}
        (hone : SentAlike net s s' (w.rowRequests slots base n) (w.rowRequests slots base' n)
          one other) :
        ∃ counts : List Nat, counts.length = (base :: bases).length ∧
          (∀ n ∈ counts, n ≤ slots.length) ∧
          SentAlike net s s' (w.sent slots (base :: bases) counts).flatten
            (w.sent slots (base' :: bases') counts).flatten one other := by
      refine ⟨n :: List.replicate bases.length 0, by simp, ?_, ?_⟩
      · simp only [List.mem_cons, List.mem_replicate]
        rintro m (rfl | ⟨-, rfl⟩)
        · exact hn
        · exact Nat.zero_le _
      · simpa only [sent_cons, List.flatten_cons, flatten_sent_zero, List.append_nil] using hone
    have more (failures : List CandidateFailure) (lastEmpty : Bool) :
        ∃ counts : List Nat, counts.length = (base :: bases).length ∧
          (∀ n ∈ counts, n ≤ slots.length) ∧
          SentAlike net s s' (w.sent slots (base :: bases) counts).flatten
            (w.sent slots (base' :: bases') counts).flatten
            (w.rows net.recorded slots bases failures lastEmpty t)
            (w.rows net.recorded slots bases' failures lastEmpty t') := by
      obtain ⟨counts, hlength, hcounts, hrest⟩ := ih failures lastEmpty hrow.alike
      exact ⟨n :: counts, by simp [hlength], List.forall_mem_cons.2 ⟨hn, hcounts⟩,
        hrow.behind hrest⟩
    cases result with
    | error e => exact last (hrow.withResult _)
    | ok e =>
      cases e with
      | found e => exact last (hrow.withResult _)
      | notFound => exact last (hrow.withResult _)
      | empty => exact more failures true
      | failed f => exact more (failures ++ [f]) false

/-! ## User names and passwords of base addresses -/

theorem candidate_of_read {base : String} {url : Url} (hread : Url.read base = .ok url)
    (hscheme : ClientOptions.isServerScheme url.scheme = true) (slot : Option String) :
    w.candidate ⟨base, slot⟩ =
      .ok { uri := (Candidate.target url w.name w.profile slot).text
            credentials := Candidate.credentialsOf url } :=
  Candidate.make_of_read hread hscheme w.name w.profile slot

theorem credentials?_target (url : Url) (name profile : String) (slot : Option String) :
    (Candidate.target url name profile slot).credentials? = none :=
  Url.credentials?_eq_none rfl rfl

theorem asksAlike_of_sameButUserInfo {base base' : String} (hserver : IsServerAddress base)
    (hsame : SameButUserInfo base base') : w.AsksAlike base base' := by
  intro slot
  obtain ⟨url, hread, hscheme⟩ := hserver
  obtain ⟨own, url', hown, hread', hurl⟩ := hsame
  obtain rfl : url = own := Except.ok.inj (hread.symm.trans hown)
  have hscheme' : url'.withoutUserInfo.scheme = url.withoutUserInfo.scheme := by rw [hurl]
  have hpath : url'.withoutUserInfo.path = url.withoutUserInfo.path := by rw [hurl]
  have htarget : Candidate.target url' w.name w.profile slot =
      Candidate.target url w.name w.profile slot := by
    unfold Candidate.target
    rw [hurl, show url'.path = url.path from hpath]
  exact ⟨Candidate.target url w.name w.profile slot,
    { uri := (Candidate.target url w.name w.profile slot).text
      credentials := Candidate.credentialsOf url },
    { uri := (Candidate.target url' w.name w.profile slot).text
      credentials := Candidate.credentialsOf url' },
    Candidate.read_uri hread hscheme w.name w.profile slot, hscheme,
    candidate_of_read hread hscheme slot,
    candidate_of_read hread' (by rwa [show url'.scheme = url.scheme from hscheme']) slot,
    congrArg Url.text htarget⟩

theorem isAuthorizedBy_of_mem_rowRequests
    (hplain : w.client.headers.get? "authorization" = none) {base : String} {url : Url}
    (hread : Url.read base = .ok url) (hscheme : ClientOptions.isServerScheme url.scheme = true)
    {slots : List (Option String)} {n : Nat} {r : Request}
    (hr : r ∈ w.rowRequests slots base n) :
    r.IsAuthorizedBy (w.credentials.or (Candidate.credentialsOf url)) := by
  obtain ⟨slot, -, hrequest⟩ := List.mem_filterMap.1 hr
  have hurl := credentials?_target url w.name w.profile slot
  have hsent := request?_of_candidate (candidate_of_read hread hscheme slot)
    (Candidate.read_uri hread hscheme w.name w.profile slot) hscheme
  obtain rfl := Option.some.inj (hsent.symm.trans hrequest)
  have hasked := w.client.url_request hurl (w.credentials.or (Candidate.credentialsOf url))
  exact
    { username := congrArg Url.username hasked
      password := congrArg Url.password hasked
      authorizations := HttpClient.authorizations_request_of_plain hplain hurl _ }

/-- With explicit credentials, user names and passwords of base addresses make no
difference, whatever the servers look at. -/
theorem rows_sameButUserInfo (hexplicit : w.credentials.isSome = true)
    {bases bases' : List String} (hservers : ∀ base ∈ bases, IsServerAddress base)
    (hsame : List.Forall₂ SameButUserInfo bases bases') (slots : List (Option String))
    (failures : List CandidateFailure) (lastEmpty : Bool) (s : Session σ) :
    w.rows net slots bases' failures lastEmpty s = w.rows net slots bases failures lastEmpty s := by
  induction hsame generalizing failures lastEmpty s with
  | nil => rfl
  | @cons base base' bases bases' hbase hsame ih =>
    obtain ⟨hserver, hservers⟩ := List.forall_mem_cons.1 hservers
    have hrow : w.row net base' slots s = w.row net base slots s := by
      refine row_congr w net (fun slot => ?_) slots s
      obtain ⟨-, c, c', -, -, hmake, hmake', huri⟩ :=
        asksAlike_of_sameButUserInfo hserver hbase slot
      obtain ⟨explicit, hsome⟩ := Option.isSome_iff_exists.1 hexplicit
      exact ⟨c, c', hmake, hmake', huri, by simp [credentialsFor, hsome]⟩
    rw [rows, rows, hrow]
    simp only [ih hservers]

/-- Credentials stay with their server.  Two walks of a client whose options name
no header that authorizes, over the same servers, which do not look at headers.
Of the base addresses some may have another user name and password in the second
walk.  Both walks have the same result, and send the same number of requests for
each base address, in order.  The requests for a base that is the same in both
are the same.  No address that is asked holds a user name or password.  Each
request is authorized by the explicit credentials, if there are any, and then
the walks do not differ at all.  Otherwise it is authorized by the user name and
password of its own base address alone, as candidates decode them, or by nothing
if there is no user name. -/
theorem authorizations_walk (o : ClientOptions) (locator : Option Locator)
    (hplain : ∀ p ∈ o.headers.toList, Text.fold p.1 ≠ "authorization")
    {bases bases' : List String} (hservers : ∀ base ∈ bases, IsServerAddress base)
    (hsame : List.Forall₂ SameButUserInfo bases bases') (labels : List String)
    (net : Servers σ) (s : Session (σ × List Request))
    (hblind : net.AnswerAlike s.servers.1 s.servers.1) :
    let w := (Provider.ofOptions o locator).walker
    let one := w.walk net.recorded bases labels s
    let other := w.walk net.recorded bases' labels s
    ∃ counts : List Nat,
      let sent (bases : List String) : List (List Request) := w.sent (slots labels) bases counts
      counts.length = bases.length ∧ (∀ n ∈ counts, n ≤ (slots labels).length) ∧
      one.2.servers.2 = s.servers.2 ++ (sent bases).flatten ∧
      other.2.servers.2 = s.servers.2 ++ (sent bases').flatten ∧
      other.1 = one.1 ∧
      (∀ i : Nat, bases'[i]? = bases[i]? → (sent bases')[i]? = (sent bases)[i]?) ∧
      (∀ (i : Nat) base url requests, bases[i]? = some base → Url.read base = .ok url →
        (sent bases)[i]? = some requests → ∀ r ∈ requests,
          (∀ user, o.username = some user → r.IsAuthorizedBy (some ⟨user, o.password⟩)) ∧
          (o.username = none → r.IsAuthorizedBy
            (if url.username = "" then none
            else some ⟨Candidate.decodeUserInfo url.username,
              url.password.map Candidate.decodeUserInfo⟩))) ∧
      (o.username.isSome → other = one) := by
  intro w one other
  have hheaders : w.client.headers.get? "authorization" = none :=
    ClientOptions.get?_requestHeaders_eq_none (by decide) hplain
  have hexplicit : w.credentials = o.username.map fun user => ⟨user, o.password⟩ := rfl
  have hasks : List.Forall₂ w.AsksAlike bases bases' :=
    ((List.forall₂_and_left _ _).2 ⟨hservers, hsame⟩).imp fun _ _ h =>
      asksAlike_of_sameButUserInfo h.1 h.2
  obtain ⟨counts, hlength, hcounts, hsent⟩ :=
    rows_alike (slots labels) hasks [] false (.of_servers hblind)
  refine ⟨counts, hlength, hcounts, hsent.log, hsent.log', hsent.result, fun i hi => ?_, ?_, ?_⟩
  · simp only [sent, List.getElem?_zipWith, hi]
  · intro i base url requests hbase hread hrequests r hr
    obtain ⟨own, hown, hscheme⟩ := hservers base (List.mem_of_getElem? hbase)
    obtain rfl : own = url := Except.ok.inj (hown.symm.trans hread)
    rw [getElem?_sent hbase] at hrequests
    obtain ⟨n, -, rfl⟩ := Option.map_eq_some_iff.1 hrequests
    have hauthorized := isAuthorizedBy_of_mem_rowRequests hheaders hread hscheme hr
    rw [hexplicit] at hauthorized
    refine ⟨fun user huser => ?_, fun hnone => ?_⟩
    · rwa [huser, Option.map_some, Option.some_or] at hauthorized
    · rw [hnone, Option.map_none, Option.none_or] at hauthorized
      simpa [Candidate.credentialsOf] using hauthorized
  · intro husername
    refine rows_sameButUserInfo ?_ hservers hsame (slots labels) [] false s
    rw [hexplicit, Option.isSome_map, husername]

/-! ## Two servers -/

/-- Servers that answer every request with nothing. -/
def emptyServers : Servers Unit where
  reply _ s := (.answer 204 none [], s)

theorem answerAlike_emptyServers : emptyServers.AnswerAlike () () := by
  have hreplies (rs : List Request) :
      emptyServers.replies rs () = List.replicate rs.length (.answer 204 none []) := by
    induction rs with
    | nil => rfl
    | cons r rs ih => exact congrArg (Reply.answer 204 none [] :: ·) ih
  intro rs rs' hurls
  have hlength : rs.length = rs'.length := by simpa using congrArg List.length hurls
  rw [hreplies, hreplies, hlength]

/-- The second server is sent no credentials, whatever those of the first one
are. -/
theorem authorizations_walk_apart :
    let walk (base : String) := (Provider.ofOptions {}).walker.walk emptyServers.recorded
      [base, "http://[::1]"] [] { servers := ((), []), metrics := {} }
    let authorizations (base : String) := (walk base).2.servers.2.map Request.authorizations
    (∀ p ∈ ({} : ClientOptions).headers.toList, Text.fold p.1 ≠ "authorization") ∧
      (∀ base ∈ ["http://u:p@[::1]", "http://[::1]"], IsServerAddress base) ∧
      List.Forall₂ SameButUserInfo ["http://u:p@[::1]", "http://[::1]"]
        ["http://v:q@[::1]", "http://[::1]"] ∧
      emptyServers.AnswerAlike () () ∧
      authorizations "http://u:p@[::1]" = [["Basic dTpw"], []] ∧
      authorizations "http://v:q@[::1]" = [["Basic djpx"], []] ∧
      (walk "http://v:q@[::1]").1 = (walk "http://u:p@[::1]").1 := by
  intro walk authorizations
  let host : Option Url.Host := some (.ipv6 [0, 0, 0, 0, 0, 0, 0, 1])
  have hfirst : Url.read "http://u:p@[::1]" =
      .ok { scheme := "http", username := "u", password := some "p", host
            path := .segments [""] } :=
    Candidate.eq_ok_of_toOption (by decide +kernel)
  have hother : Url.read "http://v:q@[::1]" =
      .ok { scheme := "http", username := "v", password := some "q", host
            path := .segments [""] } :=
    Candidate.eq_ok_of_toOption (by decide +kernel)
  have hsecond : Url.read "http://[::1]" =
      .ok { scheme := "http", host, path := .segments [""] } :=
    Candidate.eq_ok_of_toOption (by decide +kernel)
  have hplain : ∀ p ∈ ({} : ClientOptions).headers.toList, Text.fold p.1 ≠ "authorization" := by
    intro p hp
    cases hp
  have hservers : ∀ base ∈ ["http://u:p@[::1]", "http://[::1]"], IsServerAddress base :=
    List.forall_mem_cons.2 ⟨⟨_, hfirst, rfl⟩, List.forall_mem_singleton.2 ⟨_, hsecond, rfl⟩⟩
  have hsame : List.Forall₂ SameButUserInfo ["http://u:p@[::1]", "http://[::1]"]
      ["http://v:q@[::1]", "http://[::1]"] :=
    .cons ⟨_, _, hfirst, hother, rfl⟩ (.cons ⟨_, _, hsecond, hsecond, rfl⟩ .nil)
  obtain ⟨counts, -, -, -, -, hresult, -⟩ :=
    authorizations_walk {} none hplain hservers hsame [] emptyServers
      { servers := ((), []), metrics := {} } answerAlike_emptyServers
  exact ⟨hplain, hservers, hsame, answerAlike_emptyServers, by decide +kernel, by decide +kernel,
    hresult⟩

end Walker

end RemoteConfig
