import RemoteConfig.Proofs.Url.Host
import RemoteConfig.Proofs.Url.Path
import RemoteConfig.Url.Reader

/-!
# URLs that are read back

`IsCanonical` holds of every URL that is read for a scheme with hosts, and
`read_text` says that such a URL without user name and password is read back
from its text.  The text is cut where it was put together: `splitScheme_text`,
`splitHost_text`, `readPort_text`, `readTail_text` and the lemmas on hosts and
segments each read one part.
-/

namespace RemoteConfig.Url

/-- A URL as it is read for the schemes that have hosts. -/
structure IsCanonical (u : Url) : Prop where
  scheme : (defaultPort? u.scheme).isSome = true
  host : ∃ host, u.host = some host ∧ host.IsCanonical
  port : ∀ n, u.port = some n → n ≤ 65535 ∧ defaultPort? u.scheme ≠ some n
  path : ∃ segs, u.path = .segments segs ∧ segs ≠ [] ∧ ∀ s ∈ segs, IsSegment s
  query : ∀ q, u.query = some q → ∀ c ∈ q.toList, specialQuerySet c = false
  fragment : ∀ f, u.fragment = some f → ∀ c ∈ f.toList, fragmentSet c = false

/-! ## What is read is canonical -/

/-- Everything that reading an authority can give. -/
theorem readAuthority_eq_ok {scheme : String} {special : Bool} {cs : List Char} {u : Url}
    (h : readAuthority scheme special cs = .ok u) :
    ∃ username password hostPort host port path tail,
      readHostPort scheme special hostPort = .ok (host, port) ∧
      u = withTail { scheme, username, password, host := some host, port } special
        (readPath special path) tail := by
  unfold readAuthority at h
  simp only [bind, Except.bind, throw, throwThe, MonadExceptOf.throw, pure, Except.pure] at h
  split at h
  · cases h
  · split at h
    · cases h
    · rename_i hostPort hhost
      obtain ⟨host, port⟩ := hostPort
      simp only at h
      split at h
      · cases h
      · cases h
        exact ⟨_, _, _, host, port, _, _, hhost, rfl⟩

theorem readPort_eq_some {scheme : String} {cs : List Char} {n : Nat}
    (h : readPort scheme cs = .ok (some n)) : n ≤ 65535 ∧ defaultPort? scheme ≠ some n := by
  unfold readPort at h
  split at h
  · split at h
    · cases h
    · split at h
      · cases h
      · simp only at h
        split at h
        · cases h
        · rename_i hle
          split at h
          · cases h
          · rename_i hdefault
            cases h
            exact ⟨Nat.not_lt.1 hle, hdefault⟩
  · cases h

theorem readHostPort_eq_ok {scheme : String} {cs : List Char} {host : Host} {port : Option Nat}
    (h : readHostPort scheme true cs = .ok (host, port)) :
    host.IsCanonical ∧ ∀ n, port = some n → n ≤ 65535 ∧ defaultPort? scheme ≠ some n := by
  unfold readHostPort at h
  simp only [bind, Except.bind, pure, Except.pure, if_true] at h
  split at h
  · cases h
  · split at h
    · cases h
    · rename_i host' hhost
      split at h
      · cases h
      · rename_i port' hport
        cases h
        exact ⟨readHost_isCanonical hhost, fun n hn => readPort_eq_some (hn ▸ hport)⟩

theorem readTail_query {cs : List Char} {q : String} (h : (readTail true cs).1 = some q) :
    ∀ c ∈ q.toList, specialQuerySet c = false := by
  unfold readTail at h
  simp only [if_true] at h
  split at h
  · cases h
    rw [String.toList_ofList]
    exact fun c => not_mem_of_mem_encode (fun _ => id) specialQuerySet_sparesEscapes
  · cases h

theorem readTail_fragment {cs : List Char} {f : String} (h : (readTail true cs).2 = some f) :
    ∀ c ∈ f.toList, fragmentSet c = false := by
  unfold readTail at h
  simp only at h
  split at h
  · cases h
    rw [String.toList_ofList]
    exact fun c => not_mem_of_mem_encode (fun _ => id) fragmentSet_sparesEscapes
  · cases h

theorem readPath_isSegment (cs : List Char) :
    ∃ segs, readPath true cs = .segments segs ∧ segs ≠ [] ∧ ∀ s ∈ segs, IsSegment s := by
  unfold readPath
  split
  · exact ⟨[""], rfl, List.cons_ne_nil _ _, by simpa using isSegment_empty⟩
  · obtain ⟨hall, hne⟩ := readSegments_isSegment _
    exact ⟨_, rfl, hne, hall⟩

theorem readAuthority_isCanonical {scheme : String} {cs : List Char} {u : Url}
    (h : readAuthority scheme true cs = .ok u) (hscheme : (defaultPort? scheme).isSome = true) :
    u.IsCanonical := by
  obtain ⟨username, password, hostPort, host, port, path, tail, hhost, rfl⟩ :=
    readAuthority_eq_ok h
  obtain ⟨hcanonical, hport⟩ := readHostPort_eq_ok hhost
  exact ⟨hscheme, ⟨host, rfl, hcanonical⟩, hport, readPath_isSegment path,
    fun q => readTail_query, fun f => readTail_fragment⟩

theorem defaultPort?_of_hosted {scheme : String} (h : schemeKind scheme = .hosted) :
    (defaultPort? scheme).isSome = true := by
  unfold schemeKind at h
  split at h
  · cases h
  · split at h
    · assumption
    · cases h

theorem defaultPort?_of_other {scheme : String} (h : schemeKind scheme = .other) :
    (defaultPort? scheme).isSome = false := by
  unfold schemeKind at h
  split at h
  · cases h
  · split at h
    · cases h
    · exact Bool.eq_false_iff.2 ‹_›

theorem readFile_scheme {cs : List Char} {u : Url} (h : readFile cs = .ok u) :
    u.scheme = "file" := by
  have hinner {cs : List Char} (h : readFile.inner cs = .ok u) : u.scheme = "file" := by
    unfold readFile.inner at h
    cases h
    rfl
  unfold readFile at h
  simp only [bind, Except.bind, pure, Except.pure] at h
  split at h
  · split at h
    · split at h
      · cases h
      · cases h
        rfl
    · exact hinner h
  · exact hinner h

/-- Every URL of a scheme that has hosts is canonical. -/
theorem isCanonical_of_read {s : String} {u : Url} (h : read s = .ok u)
    (hscheme : (defaultPort? u.scheme).isSome = true) : u.IsCanonical := by
  unfold read at h
  split at h
  · cases h
  · rename_i scheme rest _
    unfold readAfterScheme at h
    split at h
    · rw [readFile_scheme h] at hscheme
      cases hscheme
    · rename_i hkind
      exact readAuthority_isCanonical h (defaultPort?_of_hosted hkind)
    · rename_i hkind
      have hsame : u.scheme = scheme := by
        split at h
        · obtain ⟨_, _, _, _, _, _, _, -, rfl⟩ := readAuthority_eq_ok h
          rfl
        · cases h
          rfl
      rw [hsame, defaultPort?_of_other hkind] at hscheme
      cases hscheme

/-! ## The parts of a text -/

/-- The port as it is written. -/
def portChars (port : Option Nat) : List Char :=
  match port with
  | some n => ':' :: Nat.toDigits 10 n
  | none => []

def queryChars (query : Option String) : List Char :=
  match query with
  | some q => '?' :: q.toList
  | none => []

def fragmentChars (fragment : Option String) : List Char :=
  match fragment with
  | some f => '#' :: f.toList
  | none => []

/-- The text of a URL without user name and password. -/
theorem toList_text {u : Url} {host : Host} {segs : List String} (huser : u.username = "")
    (hpassword : u.password = none) (hhost : u.host = some host) (hpath : u.path = .segments segs) :
    u.text.toList =
      u.scheme.toList ++ ':' :: '/' :: '/' :: ((host.text.toList ++ portChars u.port) ++
        (pathChars segs ++ (queryChars u.query ++ fragmentChars u.fragment))) := by
  have hport : u.hostText.toList = host.text.toList ++ portChars u.port := by
    unfold hostText portChars
    cases u.port <;> simp [hhost, Decimal.text]
  have htail : u.tailText.toList =
      pathChars segs ++ (queryChars u.query ++ fragmentChars u.fragment) := by
    unfold tailText queryChars fragmentChars
    cases u.query <;> cases u.fragment <;> simp [hhost, hpath, Path.toList_text]
  simp [text, userInfoText, huser, hpassword, hhost, hport, htail]

theorem mem_of_defaultPort? {scheme : String} (h : (defaultPort? scheme).isSome = true) :
    scheme ∈ ["http", "https", "ws", "wss", "ftp"] := by
  unfold defaultPort? at h
  split at h
  · decide
  · decide
  · decide
  · decide
  · decide
  · cases h

theorem schemeKind_of_defaultPort? {scheme : String} (h : (defaultPort? scheme).isSome = true) :
    schemeKind scheme = .hosted := by
  have hfile : scheme ≠ "file" := by
    rintro rfl
    cases h
  rw [schemeKind, if_neg hfile, if_pos h]

/-- A scheme that has hosts is written in small letters. -/
theorem schemeChars {scheme : String} (h : (defaultPort? scheme).isSome = true) :
    (∃ c cs, scheme.toList = c :: cs ∧ c.isAlpha = true) ∧
      ∀ c ∈ scheme.toList, isSchemeChar c = true ∧ c.toLower = c ∧ IsVisible c := by
  have hall : ∀ scheme ∈ ["http", "https", "ws", "wss", "ftp"],
      scheme.toList.head?.any Char.isAlpha = true ∧
        (scheme.toList.all fun c =>
          isSchemeChar c && c.toLower = c && (0x20 < c.toNat && c.toNat < 0x7F)) = true := by
    decide
  obtain ⟨hhead, hchars⟩ := hall scheme (mem_of_defaultPort? h)
  simp only [List.all_eq_true, Bool.and_eq_true, decide_eq_true_eq, and_assoc] at hchars
  refine ⟨?_, hchars⟩
  cases hlist : scheme.toList with
  | nil => simp [hlist] at hhead
  | cons c cs => exact ⟨c, cs, rfl, by simpa [hlist] using hhead⟩

theorem splitScheme_text {scheme : String} (h : (defaultPort? scheme).isSome = true)
    (cs : List Char) : splitScheme (scheme.toList ++ ':' :: cs) = some (scheme, cs) := by
  obtain ⟨⟨c, ds, hlist, halpha⟩, hchars⟩ := schemeChars h
  have hscheme : ∀ d ∈ scheme.toList, isSchemeChar d = true := fun d hd => (hchars d hd).1
  have hcolon : isSchemeChar ':' = false := by decide
  have htake : (scheme.toList ++ ':' :: cs).takeWhile isSchemeChar = scheme.toList := by
    rw [List.takeWhile_append_of_pos hscheme, List.takeWhile_cons, hcolon]
    simp
  have hdrop : (scheme.toList ++ ':' :: cs).dropWhile isSchemeChar = ':' :: cs := by
    rw [List.dropWhile_append_of_pos hscheme, List.dropWhile_cons, hcolon]
    simp
  have hsmall : scheme.toList.map Char.toLower = scheme.toList :=
    (List.map_congr_left fun d hd => (hchars d hd).2.1).trans (List.map_id _)
  unfold splitScheme
  split
  · rename_i hnil
    simp at hnil
  · rename_i d rest hcons
    have hd : d = c := by
      rw [hlist, List.cons_append] at hcons
      exact (List.cons.inj hcons).1.symm
    rw [hd, if_pos halpha, htake, hdrop, hsmall, String.ofList_toList]
    rfl

theorem splitHost_portChars (port : Option Nat) :
    splitHost false (portChars port) = ([], portChars port) := by
  cases port <;> rfl

theorem splitHost_append {cs : List Char} (h : ∀ c ∈ cs, c ≠ ':' ∧ c ≠ '[') (port : Option Nat) :
    splitHost false (cs ++ portChars port) = (cs, portChars port) := by
  induction cs with
  | nil => exact splitHost_portChars port
  | cons c cs ih =>
    obtain ⟨⟨hcolon, hbracket⟩, hcs⟩ := List.forall_mem_cons.1 h
    simp [splitHost, hcolon, hbracket, ih hcs]

/-- Colons in brackets belong to the host. -/
theorem splitHost_brackets {cs : List Char} (h : ∀ c ∈ cs, c ≠ ']') (port : Option Nat) :
    splitHost true (cs ++ ']' :: portChars port) = (cs ++ [']'], portChars port) := by
  induction cs with
  | nil => simp [splitHost, splitHost_portChars]
  | cons c cs ih =>
    obtain ⟨hc, hcs⟩ := List.forall_mem_cons.1 h
    simp [splitHost, hc, ih hcs]

/-- The host ends where its port starts. -/
theorem splitHost_text {host : Host} (h : host.IsCanonical) (port : Option Nat) :
    splitHost false (host.text.toList ++ portChars port) = (host.text.toList, portChars port) := by
  cases host with
  | name s =>
    refine splitHost_append (fun c hc => ?_) port
    have hplain := Domain.isPlain_of_isSettled h.2.1 c hc
    constructor <;> rintro rfl <;> exact absurd hplain.allowed (by decide)
  | ipv4 a =>
    refine splitHost_append (fun c hc => ?_) port
    rcases of_mem_ipv4Text hc with rfl | hdigit
    · decide
    · constructor <;> rintro rfl <;> exact absurd hdigit (by decide)
  | ipv6 ps =>
    have hchars : ∀ c ∈ (ipv6Text ps).toList, c ≠ ']' := by
      rintro c hc rfl
      rcases of_mem_ipv6Text hc with hc | hc <;> exact absurd hc (by decide)
    have hinner := splitHost_brackets hchars port
    rw [Host.toList_text_ipv6, List.cons_append, List.append_assoc, List.singleton_append]
    simp [splitHost, hinner]

theorem readPort_text {scheme : String} {port : Option Nat}
    (h : ∀ n, port = some n → n ≤ 65535 ∧ defaultPort? scheme ≠ some n) :
    readPort scheme (portChars port) = .ok port := by
  cases port with
  | none => rfl
  | some n =>
    obtain ⟨hle, hdefault⟩ := h n rfl
    have hdigits : (Nat.toDigits 10 n).all Decimal.isDigit = true :=
      List.all_eq_true.2 fun _ => Decimal.isDigit_of_mem_toDigits
    have hne : (Nat.toDigits 10 n).isEmpty = false := by simp [Nat.toDigits_ne_nil]
    simp only [portChars, readPort, hdigits, hne, Decimal.value_toDigits, if_neg (Nat.not_lt.2 hle),
      if_neg hdefault]
    rfl

theorem readTail_text {query fragment : Option String}
    (hquery : ∀ q, query = some q → ∀ c ∈ q.toList, specialQuerySet c = false)
    (hfragment : ∀ f, fragment = some f → ∀ c ∈ f.toList, fragmentSet c = false) :
    readTail true (queryChars query ++ fragmentChars fragment) = (query, fragment) := by
  have hhash : ∀ c ∈ queryChars query, (decide (c ≠ '#')) = true := by
    refine fun c hc => decide_eq_true ?_
    rintro rfl
    cases query with
    | none => cases hc
    | some q =>
      rcases List.mem_cons.1 hc with hc | hc
      · exact absurd hc (by decide)
      · exact absurd (hquery q rfl '#' hc) (by decide)
  have htake : (queryChars query ++ fragmentChars fragment).takeWhile (· ≠ '#') =
      queryChars query := by
    rw [List.takeWhile_append_of_pos hhash]
    cases fragment <;> simp [fragmentChars]
  have hdrop : (queryChars query ++ fragmentChars fragment).dropWhile (· ≠ '#') =
      fragmentChars fragment := by
    rw [List.dropWhile_append_of_pos hhash]
    cases fragment <;> simp [fragmentChars]
  rw [readTail, htake, hdrop]
  refine Prod.ext ?_ ?_
  · cases query with
    | none => rfl
    | some q =>
      have hq : encode specialQuerySet q.toList = q.toList := encode_of_not_mem (hquery q rfl)
      simp [queryChars, hq]
  · cases fragment with
    | none => rfl
    | some f =>
      have hf : encode fragmentSet f.toList = f.toList := encode_of_not_mem (hfragment f rfl)
      simp [fragmentChars, hf]

theorem splitLastAt_eq_none {cs : List Char} (h : '@' ∉ cs) : splitLastAt cs = none := by
  induction cs with
  | nil => rfl
  | cons c cs ih =>
    have hc := List.ne_of_not_mem_cons h
    rw [splitLastAt, ih (List.not_mem_of_not_mem_cons h)]
    exact if_neg hc.symm

/-! ## Whole URLs -/

theorem significant_of_isVisible {cs : List Char} (h : ∀ c ∈ cs, IsVisible c) :
    significant cs = cs := by
  have hdrop {ds : List Char} (hds : ∀ c ∈ ds, IsVisible c) :
      ds.dropWhile isControlOrSpace = ds := by
    cases ds with
    | nil => rfl
    | cons c ds =>
      have hc : isControlOrSpace c = false :=
        decide_eq_false (Nat.not_le.2 (hds c List.mem_cons_self).1)
      rw [List.dropWhile_cons, hc]
      rfl
  have hkept : ∀ c ∈ cs, (!isDropped c) = true := by
    intro c hc
    have hvisible := h c hc
    rw [Bool.not_eq_true']
    refine Bool.eq_false_iff.2 fun hdropped => ?_
    simp only [isDropped, Bool.or_eq_true, decide_eq_true_eq] at hdropped
    rcases hdropped with (rfl | rfl) | rfl <;> exact absurd hvisible.1 (by decide)
  rw [significant, hdrop h, hdrop fun c hc => h c (List.mem_reverse.1 hc), List.reverse_reverse,
    List.filter_eq_self.2 hkept]

namespace IsCanonical

variable {u : Url} {host : Host} {segs : List String}

theorem isHostChar_portChars (hhost : host.IsCanonical) (port : Option Nat) :
    ∀ c ∈ host.text.toList ++ portChars port, IsHostChar c := by
  refine List.forall_mem_append.2 ⟨hhost.isHostChar, fun c hc => ?_⟩
  cases port with
  | none => cases hc
  | some n =>
    rcases List.mem_cons.1 hc with rfl | hc
    · exact isHostChar_of_mem (by decide)
    · exact isHostChar_of_isDigit (Decimal.isDigit_of_mem_toDigits hc)

/-- The characters of a path. -/
theorem of_mem_pathChars (hsegs : ∀ s ∈ segs, IsSegment s) :
    ∀ c ∈ pathChars segs, IsVisible c ∧ c ≠ '?' ∧ c ≠ '#' := by
  intro c hc
  obtain ⟨s, hs, hc⟩ := List.mem_flatMap.1 hc
  rcases List.mem_cons.1 hc with rfl | hc
  · exact ⟨⟨by decide, by decide⟩, by decide, by decide⟩
  · have hset := (hsegs s hs).encoded c hc
    refine ⟨isVisible_of_fragmentSet (fragmentSet_of_pathSet hset), ?_, ?_⟩
    · rintro rfl
      exact absurd hset (by decide)
    · rintro rfl
      exact absurd hset (by decide)

theorem isVisible_tail (h : u.IsCanonical) :
    ∀ c ∈ queryChars u.query ++ fragmentChars u.fragment, IsVisible c := by
  refine List.forall_mem_append.2 ⟨fun c hc => ?_, fun c hc => ?_⟩
  · cases hquery : u.query with
    | none =>
      rw [hquery] at hc
      cases hc
    | some q =>
      rw [hquery] at hc
      rcases List.mem_cons.1 hc with rfl | hc
      · exact ⟨by decide, by decide⟩
      · exact isVisible_of_specialQuerySet (h.query q hquery c hc)
  · cases hfragment : u.fragment with
    | none =>
      rw [hfragment] at hc
      cases hc
    | some f =>
      rw [hfragment] at hc
      rcases List.mem_cons.1 hc with rfl | hc
      · exact ⟨by decide, by decide⟩
      · exact isVisible_of_fragmentSet (h.fragment f hfragment c hc)

/-- Host and port are read back. -/
theorem readHostPort_text (h : u.IsCanonical) (hhost : host.IsCanonical) :
    readHostPort u.scheme true (host.text.toList ++ portChars u.port) = .ok (host, u.port) := by
  have hne : host.text.toList.isEmpty = false := by
    simpa [List.isEmpty_eq_false_iff] using hhost.text_ne_nil
  rw [readHostPort, splitHost_text hhost]
  simp only [hne, Bool.false_and, hhost.readHost_text, readPort_text h.port]
  rfl

/-- The path is read back. -/
theorem readPath_text (hne : segs ≠ []) (hsegs : ∀ s ∈ segs, IsSegment s) :
    readPath true (pathChars segs) = .segments segs := by
  obtain ⟨s, ss, rfl⟩ := List.exists_cons_of_ne_nil hne
  exact congrArg Path.segments (readSegments_text hsegs)

/-- The path ends where query or fragment start. -/
theorem span_tail (hsegs : ∀ s ∈ segs, IsSegment s) (query fragment : Option String) :
    (pathChars segs ++ (queryChars query ++ fragmentChars fragment)).takeWhile
        (!isTailStart ·) = pathChars segs ∧
      (pathChars segs ++ (queryChars query ++ fragmentChars fragment)).dropWhile
        (!isTailStart ·) = queryChars query ++ fragmentChars fragment := by
  have hpath : ∀ c ∈ pathChars segs, (!isTailStart c) = true := fun c hc => by
    obtain ⟨-, hquery, hfragment⟩ := of_mem_pathChars hsegs c hc
    simp [isTailStart, hquery, hfragment]
  rw [List.takeWhile_append_of_pos hpath, List.dropWhile_append_of_pos hpath]
  cases query <;> cases fragment <;>
    simp [queryChars, fragmentChars, isTailStart]

/-- Host and port end where the path starts. -/
theorem span_authority (hhost : host.IsCanonical) (port : Option Nat) (hne : segs ≠ [])
    (tail : List Char) :
    (host.text.toList ++ portChars port ++ (pathChars segs ++ tail)).takeWhile
        (!endsAuthority true ·) = host.text.toList ++ portChars port ∧
      (host.text.toList ++ portChars port ++ (pathChars segs ++ tail)).dropWhile
        (!endsAuthority true ·) = pathChars segs ++ tail := by
  have hchars : ∀ c ∈ host.text.toList ++ portChars port, (!endsAuthority true c) = true :=
    fun c hc => by
      have hallowed := (isHostChar_portChars hhost port c hc).allowed
      simp only [List.mem_cons, List.not_mem_nil, or_false, not_or] at hallowed
      simp [endsAuthority, hallowed]
  obtain ⟨s, ss, rfl⟩ := List.exists_cons_of_ne_nil hne
  rw [List.takeWhile_append_of_pos hchars, List.dropWhile_append_of_pos hchars]
  simp [pathChars, endsAuthority]

theorem readAuthority_text (h : u.IsCanonical) (huser : u.username = "")
    (hpassword : u.password = none) (hu : u.host = some host) (hhost : host.IsCanonical)
    (hpath : u.path = .segments segs) (hne : segs ≠ []) (hsegs : ∀ s ∈ segs, IsSegment s) :
    readAuthority u.scheme true (host.text.toList ++ portChars u.port ++
      (pathChars segs ++ (queryChars u.query ++ fragmentChars u.fragment))) = .ok u := by
  have hat : '@' ∉ host.text.toList ++ portChars u.port := fun hmem =>
    (isHostChar_portChars hhost u.port '@' hmem).allowed (by decide)
  obtain ⟨htake, hdrop⟩ := span_authority hhost u.port hne
    (queryChars u.query ++ fragmentChars u.fragment)
  obtain ⟨htakePath, hdropPath⟩ := span_tail hsegs u.query u.fragment
  unfold readAuthority
  simp only [htake, hdrop, splitLastAt_eq_none hat, Option.getD_none, htakePath, hdropPath]
  have hnobody : readUserInfo [] = ("", none) := by decide
  simp only [bind, Except.bind, h.readHostPort_text hhost, readPath_text hne hsegs, hnobody]
  rw [if_neg (by simp), if_neg (by simp)]
  simp only [withTail, readTail_text h.query h.fragment]
  obtain ⟨scheme, username, password, host', port, path, query, fragment⟩ := u
  obtain rfl : username = "" := huser
  obtain rfl : password = none := hpassword
  obtain rfl : host' = some host := hu
  obtain rfl : path = .segments segs := hpath
  rfl

/-- All characters of the text are visible. -/
theorem isVisible_text (h : u.IsCanonical) (huser : u.username = "")
    (hpassword : u.password = none) (hu : u.host = some host) (hhost : host.IsCanonical)
    (hpath : u.path = .segments segs) (hsegs : ∀ s ∈ segs, IsSegment s) :
    ∀ c ∈ u.text.toList, IsVisible c := by
  rw [toList_text huser hpassword hu hpath]
  have hmark : IsVisible ':' ∧ IsVisible '/' := ⟨⟨by decide, by decide⟩, by decide, by decide⟩
  simp only [List.forall_mem_append, List.forall_mem_cons]
  refine ⟨fun c hc => ((schemeChars h.scheme).2 c hc).2.2, hmark.1, hmark.2, hmark.2, ?_, ?_, ?_⟩
  · exact List.forall_mem_append.1 fun c hc => (isHostChar_portChars hhost u.port c hc).visible
  · exact fun c hc => (of_mem_pathChars hsegs c hc).1
  · exact List.forall_mem_append.1 h.isVisible_tail

end IsCanonical

/-- A URL without user name and password is read back from its text. -/
theorem read_text {u : Url} (h : u.IsCanonical) (huser : u.username = "")
    (hpassword : u.password = none) : read u.text = .ok u := by
  obtain ⟨host, hu, hhost⟩ := h.host
  obtain ⟨segs, hpath, hne, hsegs⟩ := h.path
  have hvisible := h.isVisible_text huser hpassword hu hhost hpath hsegs
  obtain ⟨c, cs, hhead⟩ := List.exists_cons_of_ne_nil hhost.text_ne_nil
  have hc := (hhost.isHostChar c (hhead ▸ List.mem_cons_self)).allowed
  simp only [List.mem_cons, List.not_mem_nil, or_false, not_or] at hc
  rw [read, significant_of_isVisible hvisible, toList_text huser hpassword hu hpath,
    splitScheme_text h.scheme]
  simp only [readAfterScheme, schemeKind_of_defaultPort? h.scheme]
  refine Eq.trans ?_
    (h.readAuthority_text huser hpassword hu hhost hpath hne hsegs)
  congr 1
  simp [hhead, hc]

end RemoteConfig.Url
