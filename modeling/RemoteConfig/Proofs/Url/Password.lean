import RemoteConfig.Proofs.Url.RoundTrip

/-!
# Passwords in addresses

An address may hold a user name and a password before its host.  The password
decides nothing about the rest of the URL.

* `withPassword` is such an address, as a function of the password.
* `splitLastAt_append` and `readUserInfo_append` follow the reader to the
  password, and `readAuthority_password` through the part that holds it.
* `read_withPassword` is the result: one URL stands for all passwords, up to the
  password itself.  Addresses of files are the exception: they have no place for
  a password, so what stands there belongs to a host that cannot be read.
-/

namespace RemoteConfig.Url

/-- An address with a user name and a password. -/
def withPassword (scheme user password rest : String) : String :=
  scheme ++ "://" ++ user ++ ":" ++ password ++ "@" ++ rest

/-- The text of a scheme: a letter, then letters, digits, `+`, `-` and `.`. -/
def IsSchemeText (s : String) : Prop :=
  ∃ c cs, s.toList = c :: cs ∧ c.isAlpha = true ∧ ∀ c ∈ cs, isSchemeChar c = true

/-- A text that may stand before a host: nothing in it ends that part. -/
def IsUserText (s : String) : Prop :=
  ∀ c ∈ s.toList, endsAuthority true c = false

/-- A password that may stand before a host.  Letters and digits make one. -/
structure IsPasswordText (s : String) : Prop where
  user : IsUserText s
  /-- Something of it is left when tabs and line ends are dropped. -/
  kept : ∃ c ∈ s.toList, isDropped c = false

/-! ## User name and password -/

/-- What the last `@` leaves of the characters behind an earlier one. -/
def cutLastAt (cs : List Char) : List Char × List Char :=
  match splitLastAt cs with
  | some (l, r) => ('@' :: l, r)
  | none => ([], cs)

theorem splitLastAt_append (front cs : List Char) :
    splitLastAt (front ++ '@' :: cs) = some (front ++ (cutLastAt cs).1, (cutLastAt cs).2) := by
  induction front with
  | nil =>
    rw [List.nil_append, List.nil_append, splitLastAt, cutLastAt]
    cases splitLastAt cs with
    | none => rfl
    | some p => rfl
  | cons c front ih => rw [List.cons_append, splitLastAt, ih, List.cons_append]

theorem span_colon (user rest : List Char) :
    (user ++ ':' :: rest).takeWhile (· ≠ ':') = user.takeWhile (· ≠ ':') ∧
      ∃ front, (user ++ ':' :: rest).dropWhile (· ≠ ':') = ':' :: (front ++ rest) := by
  induction user with
  | nil => exact ⟨rfl, [], rfl⟩
  | cons c user ih =>
    obtain ⟨htake, front, hdrop⟩ := ih
    rw [List.cons_append, List.takeWhile_cons, List.takeWhile_cons, List.dropWhile_cons]
    by_cases hc : c = ':'
    · subst hc
      exact ⟨rfl, user ++ [':'], by simp⟩
    · simp only [ne_eq, hc, not_false_eq_true, decide_true, if_true]
      exact ⟨congrArg (c :: ·) htake, front, hdrop⟩

/-- The user name ends before the password, and there is a password. -/
theorem readUserInfo_append (user : List Char) {password : List Char} (hne : password ≠ [])
    (rest : List Char) :
    ∃ p, readUserInfo (user ++ ':' :: (password ++ rest)) =
      (String.ofList (encode userInfoSet (user.takeWhile (· ≠ ':'))), some p) := by
  obtain ⟨htake, front, hdrop⟩ := span_colon user (password ++ rest)
  have hsome : front ++ (password ++ rest) ≠ [] := by simp [hne]
  obtain ⟨c, cs, hcons⟩ := List.exists_cons_of_ne_nil hsome
  refine ⟨String.ofList (encode userInfoSet (c :: cs)), ?_⟩
  rw [readUserInfo, htake, hdrop, hcons]

/-! ## The part before the path -/

/-- User name and password end where the path starts. -/
theorem span_password {special : Bool} {user password : List Char}
    (huser : ∀ c ∈ user, endsAuthority special c = false)
    (hpassword : ∀ c ∈ password, endsAuthority special c = false) (rest : List Char) :
    (user ++ ':' :: (password ++ '@' :: rest)).takeWhile (!endsAuthority special ·) =
        (user ++ ':' :: password) ++ '@' :: rest.takeWhile (!endsAuthority special ·) ∧
      (user ++ ':' :: (password ++ '@' :: rest)).dropWhile (!endsAuthority special ·) =
        rest.dropWhile (!endsAuthority special ·) := by
  have hfront : ∀ c ∈ user ++ ':' :: (password ++ ['@']), (!endsAuthority special c) = true := by
    intro c hc
    rw [Bool.not_eq_true']
    simp only [List.mem_append, List.mem_cons, List.not_mem_nil, or_false] at hc
    rcases hc with hc | rfl | hc | rfl
    · exact huser c hc
    · simp [endsAuthority]
    · exact hpassword c hc
    · simp [endsAuthority]
  have hsplit : user ++ ':' :: (password ++ '@' :: rest) =
      (user ++ ':' :: (password ++ ['@'])) ++ rest := by simp
  rw [hsplit, List.takeWhile_append_of_pos hfront, List.dropWhile_append_of_pos hfront]
  simp

/-- Reads what follows the user name and the password. -/
def readFromHost (scheme : String) (special : Bool) (username : String) (host path : List Char) :
    Except Fault Url := do
  let (host, port) ← readHostPort scheme special host
  if host = .name "" then throw .emptyHost
  return withTail { scheme, username, host := some host, port } special
    (readPath special (path.takeWhile (!isTailStart ·))) (path.dropWhile (!isTailStart ·))

/-- What is read does not depend on the password, up to the password itself. -/
theorem readAuthority_password (scheme : String) (special : Bool) {user : List Char}
    (huser : ∀ c ∈ user, endsAuthority special c = false) (rest : List Char) :
    ∃ read : Except Fault Url, ∀ password : List Char, password ≠ [] →
      (∀ c ∈ password, endsAuthority special c = false) →
      ∃ p, readAuthority scheme special (user ++ ':' :: (password ++ '@' :: rest)) =
        read.map fun url => { url with password := some p } := by
  let authority := cutLastAt (rest.takeWhile (!endsAuthority special ·))
  let path := rest.dropWhile (!endsAuthority special ·)
  let name := String.ofList (encode userInfoSet (user.takeWhile (· ≠ ':')))
  refine ⟨readFromHost scheme special name authority.2 path, fun password hne hpassword => ?_⟩
  obtain ⟨p, hinfo⟩ := readUserInfo_append user hne authority.1
  refine ⟨p, ?_⟩
  obtain ⟨htake, hdrop⟩ := span_password huser hpassword rest
  have hassoc : user ++ ':' :: password ++ authority.1 =
      user ++ ':' :: (password ++ authority.1) := by simp
  have hsome : (user ++ ':' :: (password ++ authority.1)).isEmpty = false := by simp
  unfold readAuthority
  simp only [htake, hdrop, splitLastAt_append, Option.getD_some]
  rw [show user ++ ':' :: password ++ (cutLastAt _).1 = _ from hassoc, hinfo]
  simp only [hsome, Option.isSome_some, Bool.true_and, Bool.false_and, Bool.false_eq_true,
    if_false, Bool.or_true, Bool.and_true]
  change (readHostPort scheme special authority.2 >>= _) = _
  unfold readFromHost
  rcases readHostPort scheme special authority.2 with fault | ⟨host, port⟩
  · rfl
  · by_cases hempty : host = .name ""
    · subst hempty
      rfl
    · simp only [bind, Except.bind, hempty, decide_false, Bool.false_eq_true, if_false]
      rfl

/-! ## Whole addresses -/

/-- What is left of the characters behind a visible one. -/
theorem significant_append {c d : Char} (hc : isControlOrSpace c = false)
    (hd : isControlOrSpace d = false) (cs rest : List Char) :
    significant (c :: cs ++ d :: rest) =
      (c :: cs ++ [d]).filter (!isDropped ·) ++
        ((rest.reverse.dropWhile isControlOrSpace).reverse).filter (!isDropped ·) := by
  have hfront : (c :: cs ++ d :: rest).dropWhile isControlOrSpace = c :: cs ++ d :: rest := by
    rw [List.cons_append, List.dropWhile_cons, hc]
    rfl
  have hreverse : (c :: cs ++ d :: rest).reverse = rest.reverse ++ d :: (c :: cs).reverse := by
    simp
  have hback : (rest.reverse ++ d :: (c :: cs).reverse).dropWhile isControlOrSpace =
      rest.reverse.dropWhile isControlOrSpace ++ d :: (c :: cs).reverse := by
    rw [List.dropWhile_append]
    split
    · rename_i hempty
      rw [List.isEmpty_iff.1 hempty, List.dropWhile_cons, hd]
      rfl
    · rfl
  rw [significant, hfront, hreverse, hback, ← List.filter_append]
  simp

theorem not_isDropped_of_isSchemeChar {c : Char} (h : isSchemeChar c = true) :
    isDropped c = false := by
  refine Bool.eq_false_iff.2 fun hdropped => ?_
  simp only [isDropped, Bool.or_eq_true, decide_eq_true_eq] at hdropped
  rcases hdropped with (rfl | rfl) | rfl <;> exact absurd h (by decide)

theorem isControlOrSpace_of_isAlpha {c : Char} (h : c.isAlpha = true) :
    isControlOrSpace c = false := by
  have hletter : (decide ('A'.val ≤ c.val ∧ c.val ≤ 'Z'.val) ||
      decide ('a'.val ≤ c.val) && decide (c.val ≤ 'z'.val)) = true := h
  refine decide_eq_false fun hsmall => ?_
  simp only [Bool.or_eq_true, Bool.and_eq_true, decide_eq_true_eq, UInt32.le_iff_toNat_le]
    at hletter
  change (65 ≤ c.toNat ∧ _) ∨ 97 ≤ c.toNat ∧ _ at hletter
  omega

theorem endsAuthority_of_special {c : Char} (h : endsAuthority true c = false) (special : Bool) :
    endsAuthority special c = false := by
  cases special with
  | true => exact h
  | false =>
    simp only [endsAuthority, Bool.true_and, Bool.false_and, Bool.or_false] at h ⊢
    exact (Bool.or_eq_false_iff.1 h).1

theorem splitScheme_append {c : Char} {cs : List Char} (hc : c.isAlpha = true)
    (hcs : ∀ c ∈ cs, isSchemeChar c = true) (rest : List Char) :
    splitScheme (c :: cs ++ ':' :: rest) =
      some (String.ofList ((c :: cs).map Char.toLower), rest) := by
  have hall : ∀ d ∈ c :: cs, isSchemeChar d = true := by
    refine List.forall_mem_cons.2 ⟨?_, hcs⟩
    simp [isSchemeChar, Char.isAlphanum, hc]
  have htake : (c :: cs ++ ':' :: rest).takeWhile isSchemeChar = c :: cs := by
    rw [List.takeWhile_append_of_pos hall]
    simp [show isSchemeChar ':' = false by decide]
  have hdrop : (c :: cs ++ ':' :: rest).dropWhile isSchemeChar = ':' :: rest := by
    rw [List.dropWhile_append_of_pos hall]
    simp [show isSchemeChar ':' = false by decide]
  rw [List.cons_append] at htake hdrop ⊢
  rw [splitScheme, if_pos hc, hdrop, htake]
  rfl

/-- The characters of an address that count. -/
theorem significant_withPassword {scheme : String} {c : Char} {cs : List Char}
    (hscheme : scheme.toList = c :: cs) (hc : c.isAlpha = true)
    (hcs : ∀ c ∈ cs, isSchemeChar c = true) (user password rest : String) :
    significant (withPassword scheme user password rest).toList =
      c :: cs ++ ':' :: '/' :: '/' :: (user.toList.filter (!isDropped ·) ++
        ':' :: (password.toList.filter (!isDropped ·) ++
          '@' :: (rest.toList.reverse.dropWhile isControlOrSpace).reverse.filter
            (!isDropped ·))) := by
  have hvisible := isControlOrSpace_of_isAlpha hc
  have hkept : (c :: cs).filter (!isDropped ·) = c :: cs := by
    refine List.filter_eq_self.2 (List.forall_mem_cons.2 ⟨?_, fun d hd => ?_⟩)
    · rw [not_isDropped_of_isSchemeChar (by simp [isSchemeChar, Char.isAlphanum, hc])]
      rfl
    · rw [not_isDropped_of_isSchemeChar (hcs d hd)]
      rfl
  have hchars : (withPassword scheme user password rest).toList =
      c :: (cs ++ ':' :: '/' :: '/' :: (user.toList ++ ':' :: password.toList)) ++
        '@' :: rest.toList := by
    simp [withPassword, hscheme, String.toList_append]
  have hmarks : isDropped ':' = false ∧ isDropped '/' = false ∧ isDropped '@' = false := by decide
  rw [hchars, significant_append hvisible (by decide), ← List.cons_append, List.append_assoc,
    List.filter_append, hkept]
  simp [hmarks]

/-- The address is one of a file. -/
def IsFileAddress (s : String) : Prop :=
  (splitScheme (significant s.toList)).map (schemeKind ·.1) = some .file

theorem IsFileAddress.scheme_of_read {s : String} (h : IsFileAddress s) {url : Url}
    (hread : read s = .ok url) : url.scheme = "file" := by
  obtain ⟨⟨scheme, rest⟩, hsplit, hkind⟩ := Option.map_eq_some_iff.1 h
  rw [read, hsplit] at hread
  simp only [readAfterScheme, hkind] at hread
  exact readFile_scheme hread

/-- What is read of an authority is the same for all passwords that may stand in
it. -/
theorem readAuthority_passwordText (scheme : String) (special : Bool) {user : List Char}
    (huser : ∀ c ∈ user, endsAuthority true c = false) (rest : List Char) :
    ∃ common : Except Fault Url, ∀ password : String, IsPasswordText password →
      ∃ p, readAuthority scheme special
          (user ++ ':' :: (password.toList.filter (!isDropped ·) ++ '@' :: rest)) =
        common.map fun url => { url with password := some p } := by
  obtain ⟨common, hcommon⟩ := readAuthority_password scheme special
    (fun c hc => endsAuthority_of_special (huser c hc) special) rest
  refine ⟨common, fun password hpassword => hcommon _ ?_ fun c hc => ?_⟩
  · obtain ⟨c, hc, hkept⟩ := hpassword.kept
    exact List.ne_nil_of_mem (List.mem_filter.2 ⟨hc, by rw [hkept]; rfl⟩)
  · exact endsAuthority_of_special (hpassword.user c (List.mem_filter.1 hc).1) special

/-- Behind two slashes an authority is read, unless the scheme is that of files. -/
theorem readAfterScheme_slashes {scheme : String} (hfile : schemeKind scheme ≠ .file)
    {user : List Char} (huser : ∀ c ∈ user, endsAuthority true c = false) :
    ∃ special, ∀ rest, readAfterScheme scheme ('/' :: '/' :: (user ++ ':' :: rest)) =
      readAuthority scheme special (user ++ ':' :: rest) := by
  unfold readAfterScheme
  cases hkind : schemeKind scheme with
  | file => exact absurd hkind hfile
  | other => exact ⟨false, fun rest => rfl⟩
  | hosted =>
    refine ⟨true, fun rest => congrArg (readAuthority scheme true) ?_⟩
    -- There is no third slash to be skipped.
    obtain ⟨c, cs, hc, hhead⟩ : ∃ c cs, endsAuthority true c = false ∧
        user ++ ':' :: rest = c :: cs := by
      cases user with
      | nil => exact ⟨':', _, by decide, rfl⟩
      | cons c cs => exact ⟨c, _, huser c List.mem_cons_self, rfl⟩
    rw [hhead]
    simp only [endsAuthority, Bool.true_and, Bool.or_eq_false_iff, decide_eq_false_iff_not] at hc
    simp [hc]

/-- One URL stands for all passwords, unless the scheme is that of files. -/
theorem read_withPassword {scheme user : String} (hscheme : IsSchemeText scheme)
    (huser : IsUserText user) (rest : String) :
    (∀ password, IsFileAddress (withPassword scheme user password rest)) ∨
    ∃ common : Except Fault Url, ∀ password, IsPasswordText password →
      ∃ p, read (withPassword scheme user password rest) =
        common.map fun url => { url with password := some p } := by
  obtain ⟨c, cs, hchars, hc, hcs⟩ := hscheme
  have huser' : ∀ d ∈ user.toList.filter (!isDropped ·), endsAuthority true d = false :=
    fun d hd => huser d (List.mem_filter.1 hd).1
  have hsplit (password : String) :=
    (congrArg splitScheme (significant_withPassword hchars hc hcs user password rest)).trans
      (splitScheme_append hc hcs _)
  let name := String.ofList ((c :: cs).map Char.toLower)
  let rest' := (rest.toList.reverse.dropWhile isControlOrSpace).reverse.filter (!isDropped ·)
  by_cases hfile : schemeKind name = .file
  · refine Or.inl fun password => ?_
    rw [IsFileAddress, hsplit, Option.map_some, hfile]
  · obtain ⟨special, hslashes⟩ := readAfterScheme_slashes hfile huser'
    obtain ⟨common, hcommon⟩ := readAuthority_passwordText name special huser' rest'
    refine Or.inr ⟨common, fun password hpassword => ?_⟩
    obtain ⟨p, hp⟩ := hcommon password hpassword
    refine ⟨p, Eq.trans ?_ hp⟩
    rw [read, hsplit]
    exact hslashes _

end RemoteConfig.Url
