import RemoteConfig.Proofs.Options.Overlay

/-!
# Spellings of keys

A key may be written in any case and with or without the root in front; only the
name of a header keeps its spelling.  Reading pairs under other spellings of their
keys gives the same options, refuses the same pair and warns about the same keys.

* `IsRecased` and `IsSpelling` are the ways to write a key.
* `IsSpelling.ofKey?_eq` and `IsSpelling.suggestion?_eq` are the step: what a pair
  does depends on the key, and not on how it is written.
* `readPairs_eq` is the run, for any pairs: the first refused one is the error, and
  without one all pairs act in turn.
* `ofPairs_spellings` is the result.
-/

namespace RemoteConfig.ClientOptions

/-! ## Ways to write a key -/

/-- The same key in other letters.  Of the key of a header only the part in front
of the name changes. -/
inductive IsRecased : String → String → Prop where
  | header {front front' : String} (name : String) (hfront : Text.fold front = "headers:")
    (hfront' : Text.fold front' = "headers:") : IsRecased (front ++ name) (front' ++ name)
  | other {key key' : String} (hnone : headerName? key = none)
    (hfold : Text.fold key' = Text.fold key) : IsRecased key key'

/-- The same key in other letters, as it is or behind the root, in any letters. -/
inductive IsSpelling (key : String) : String → Prop where
  | bare {key' : String} (h : IsRecased key key') : IsSpelling key key'
  | rooted {root key' : String} (hroot : Text.fold root = Text.fold (rootKey ++ ":"))
    (h : IsRecased key key') : IsSpelling key (root ++ key')

/-- A key that is not empty and does not stand behind the root, in any case. -/
structure IsRelativeKey (key : String) : Prop where
  nonempty : key ≠ ""
  rootless : ¬ (Text.fold (rootKey ++ ":")).toList <+: (Text.fold key).toList

theorem IsRecased.fold_eq {key key' : String} (h : IsRecased key key') :
    Text.fold key' = Text.fold key := by
  cases h with
  | header name hfront hfront' => rw [Text.fold_append, Text.fold_append, hfront, hfront']
  | other _ hfold => exact hfold

/-! ## Names of headers -/

theorem headerName?_eq_some_iff {key name : String} :
    headerName? key = some name ↔
      name ≠ "" ∧ ∃ front, Text.fold front = "headers:" ∧ key = front ++ name := by
  have hhead : Text.fold "headers:" = "headers:" := by decide
  have hstrip (rest : String) : Text.stripFolded "headers:" key = some rest ↔
      ∃ front, Text.fold front = "headers:" ∧ key = front ++ rest := by
    rw [Text.stripFolded_eq_some_iff, hhead]
  rw [← hstrip]
  unfold headerName?
  cases Text.stripFolded "headers:" key with
  | none => simp
  | some rest =>
    simp only [String.isEmpty_iff]
    split
    · rename_i hempty
      simp only [Option.some.injEq, hempty]
      constructor
      · intro h
        cases h
      · rintro ⟨hne, rfl⟩
        exact absurd rfl hne
    · rename_i hne
      simp only [Option.some.injEq]
      constructor
      · rintro rfl
        exact ⟨hne, rfl⟩
      · exact And.right

/-- Whether a key is that of a header is told by the folded key. -/
theorem headerName?_eq_none {key key' : String} (hfold : Text.fold key' = Text.fold key)
    (hnone : headerName? key = none) : headerName? key' = none := by
  rw [Option.eq_none_iff_forall_ne_some] at hnone ⊢
  intro name hname
  obtain ⟨hne, front, hfront, rfl⟩ := headerName?_eq_some_iff.1 hname
  rw [Text.fold_append, hfront] at hfold
  -- The other key is cut at the same place, and what is left of it is not empty.
  obtain ⟨front₀, name₀, rfl, hfront₀, hname₀⟩ := Text.exists_append_of_fold hfold.symm
  refine hnone name₀ (headerName?_eq_some_iff.2 ⟨?_, front₀, hfront₀, rfl⟩)
  rintro rfl
  exact hne (Text.fold_eq_empty_iff.1 hname₀.symm)

theorem IsRecased.headerName?_eq {key key' : String} (h : IsRecased key key') :
    headerName? key' = headerName? key := by
  cases h with
  | other hnone hfold => rw [hnone, headerName?_eq_none hfold hnone]
  | @header front front' name hfront hfront' =>
    have hstrip {start : String} (hstart : Text.fold start = "headers:") :
        Text.stripFolded "headers:" (start ++ name) = some name :=
      Text.stripFolded_eq_some_iff.2 ⟨start, hstart, rfl⟩
    rw [headerName?, headerName?, hstrip hfront, hstrip hfront']

/-! ## Keys without the root -/

theorem stripRoot_of_isRelativeKey {key : String} (h : IsRelativeKey key) :
    stripRoot key = key := by
  have hnone : Text.stripFolded (rootKey ++ ":") key = none := by
    rw [← Option.not_isSome_iff_eq_none, Text.isSome_stripFolded]
    exact h.rootless
  rw [stripRoot, hnone]

theorem stripRoot_rooted {root key : String} (hroot : Text.fold root = Text.fold (rootKey ++ ":"))
    (hkey : key ≠ "") : stripRoot (root ++ key) = key := by
  have hstrip : Text.stripFolded (rootKey ++ ":") (root ++ key) = some key :=
    Text.stripFolded_eq_some_iff.2 ⟨root, hroot, rfl⟩
  rw [stripRoot, hstrip]
  exact if_neg (mt String.isEmpty_iff.1 hkey)

theorem IsRecased.isRelativeKey {key key' : String} (h : IsRecased key key')
    (hkey : IsRelativeKey key) : IsRelativeKey key' where
  nonempty := by
    rintro rfl
    exact hkey.nonempty (Text.fold_eq_empty_iff.1 h.fold_eq.symm)
  rootless := by
    rw [h.fold_eq]
    exact hkey.rootless

/-- Behind the root or not, what is left of a spelling is the key in other letters. -/
theorem IsSpelling.stripRoot_isRecased {key key' : String} (h : IsSpelling key key')
    (hkey : IsRelativeKey key) : IsRecased key (stripRoot key') := by
  cases h with
  | bare h =>
    rw [stripRoot_of_isRelativeKey (h.isRelativeKey hkey)]
    exact h
  | rooted hroot h =>
    rw [stripRoot_rooted hroot (h.isRelativeKey hkey).nonempty]
    exact h

/-! ## What a pair does -/

/-- What is suggested in place of a key that no option has. -/
def suggestion? (key : String) : Option String :=
  if Slot.ofKey? key = none then some ("Did you mean '" ++ similarKey (stripRoot key) ++ "'?")
  else none

/-- The warning about a key that no option has. -/
def warning? (key : String) : Option Issue :=
  (suggestion? key).map fun hint => ⟨.warning, key, "Unknown client option, ignored", some hint⟩

/-- The warnings about pairs, in their order. -/
def warnings (pairs : List (String × String)) : List Issue :=
  pairs.filterMap fun p => warning? p.1

/-- The value is none that the option with this key can have. -/
def isRefused (p : String × String) : Bool :=
  match Slot.ofKey? p.1 with
  | some s => (s.read p.2).isNone
  | none => false

/-- The options after a pair that is not refused. -/
def afterPair (o : ClientOptions) (p : String × String) : ClientOptions :=
  match Slot.ofKey? p.1 with
  | some s => ((s.read p.2).map (s.put o)).getD o
  | none => o

/-- The slot that is addressed does not depend on the spelling. -/
theorem IsSpelling.ofKey?_eq {key key' : String} (h : IsSpelling key key')
    (hkey : IsRelativeKey key) : Slot.ofKey? key' = Slot.ofKey? key := by
  have hrecased := h.stripRoot_isRecased hkey
  unfold Slot.ofKey?
  rw [stripRoot_of_isRelativeKey hkey, hrecased.headerName?_eq, hrecased.fold_eq]

/-- What is suggested does not depend on the spelling. -/
theorem IsSpelling.suggestion?_eq {key key' : String} (h : IsSpelling key key')
    (hkey : IsRelativeKey key) : suggestion? key' = suggestion? key := by
  have hrecased := h.stripRoot_isRecased hkey
  unfold suggestion? similarKey
  rw [h.ofKey?_eq hkey, stripRoot_of_isRelativeKey hkey, hrecased.fold_eq]

theorem readPair_eq_afterPair (o : ClientOptions) (p : String × String) :
    readPair o p.1 p.2 =
      if isRefused p then .error ⟨p.1, p.2⟩ else .ok (afterPair o p, warning? p.1) := by
  rw [readPair_eq]
  unfold isRefused afterPair warning? suggestion?
  cases hslot : Slot.ofKey? p.1 with
  | none => rfl
  | some s =>
    simp only
    cases hread : s.read p.2 with
    | none => rfl
    | some v => rfl

/-! ## What pairs do -/

/-- What a list of pairs does: the first one that is refused is the error, and
without one all pairs act in turn. -/
theorem readPairs_eq (o : ClientOptions) (pairs : List (String × String)) :
    readPairs o pairs =
      match pairs.find? isRefused with
      | some p => .error ⟨p.1, p.2⟩
      | none => .ok (pairs.foldl afterPair o, warnings pairs) := by
  induction pairs generalizing o with
  | nil => rfl
  | cons p pairs ih =>
    rw [readPairs_cons, readPair_eq_afterPair, List.find?_cons]
    cases hp : isRefused p with
    | true => rfl
    | false =>
      simp only [Bool.false_eq_true, if_false, Except.bind, ih]
      cases pairs.find? isRefused with
      | some q => rfl
      | none =>
        simp only [Except.map, List.foldl_cons, warnings, List.filterMap_cons]
        cases warning? p.1 <;> rfl

/-! ## Headers -/

theorem mem_named_of_ofFolded? {folded : String} {s : Slot}
    (h : Slot.ofFolded? folded = some s) : s ∈ Slot.named := by
  unfold Slot.ofFolded? at h
  split at h
  · obtain rfl := Option.some.inj h
    decide
  · exact List.mem_of_find?_eq_some h

theorem headers_put {s : Slot} (hs : s ∈ Slot.named) (o : ClientOptions) (v : s.Value) :
    (s.put o v).headers = o.headers := by
  cases s with
  | header field => simp [Slot.named] at hs
  | _ => rfl

/-- Only the pair of a header touches the headers: it sets its name as it is
spelled. -/
theorem headers_afterPair {o : ClientOptions} {p : String × String} (hkey : IsRelativeKey p.1) :
    (afterPair o p).headers =
      match headerName? p.1 with
      | some name => o.headers.insert name p.2
      | none => o.headers := by
  unfold afterPair Slot.ofKey?
  rw [stripRoot_of_isRelativeKey hkey]
  cases headerName? p.1 with
  | some name => rfl
  | none =>
    rw [Option.map_none, Option.none_or]
    cases hslot : Slot.ofFolded? (Text.fold p.1) with
    | none => rfl
    | some s =>
      simp only
      cases s.read p.2 with
      | none => rfl
      | some v => exact headers_put (mem_named_of_ofFolded? hslot) o v

/-- The headers that pairs set, under their names as they are spelled. -/
def namedHeaders (pairs : List (String × String)) : List (String × String) :=
  pairs.filterMap fun p => (headerName? p.1).map fun name => (name, p.2)

theorem headers_foldl_afterPair {pairs : List (String × String)}
    (hkeys : ∀ p ∈ pairs, IsRelativeKey p.1) (o : ClientOptions) :
    (pairs.foldl afterPair o).headers =
      (namedHeaders pairs).foldl (fun m p => m.insert p.1 p.2) o.headers := by
  induction pairs generalizing o with
  | nil => rfl
  | cons p pairs ih =>
    obtain ⟨hp, hpairs⟩ := List.forall_mem_cons.1 hkeys
    rw [List.foldl_cons, ih hpairs, headers_afterPair hp, namedHeaders, namedHeaders,
      List.filterMap_cons]
    cases headerName? p.1 <;> rfl

/-! ## Pairs under other spellings -/

/-- Pairs side by side, of which the second has the same value under another spelling
of the key. -/
def AreSpellings (pairs pairs' : List (String × String)) : Prop :=
  List.Forall₂ (fun p p' => IsSpelling p.1 p'.1 ∧ p'.2 = p.2) pairs pairs'

section

variable {pairs pairs' : List (String × String)} (hkeys : ∀ p ∈ pairs, IsRelativeKey p.1)
  (h : AreSpellings pairs pairs')

include hkeys h

theorem AreSpellings.suggestion?_eq :
    List.Forall₂ (fun p p' => suggestion? p'.1 = suggestion? p.1) pairs pairs' := by
  induction h with
  | nil => exact .nil
  | @cons p p' pairs pairs' hp _ ih =>
    obtain ⟨hkey, hrest⟩ := List.forall_mem_cons.1 hkeys
    exact .cons (hp.1.suggestion?_eq hkey) (ih hrest)

theorem AreSpellings.suggestions_eq :
    (warnings pairs').map (·.suggestion) = (warnings pairs).map (·.suggestion) := by
  induction h with
  | nil => rfl
  | @cons p p' pairs pairs' hp _ ih =>
    obtain ⟨hkey, hrest⟩ := List.forall_mem_cons.1 hkeys
    have hhead := hp.1.suggestion?_eq hkey
    have htail := ih hrest
    unfold warnings warning? at htail ⊢
    rw [List.filterMap_cons, List.filterMap_cons, hhead]
    cases suggestion? p.1 with
    | none => exact htail
    | some hint => simp only [Option.map_some, List.map_cons, htail]

/-- The pairs act alike. -/
theorem AreSpellings.foldl_eq (o : ClientOptions) :
    pairs'.foldl afterPair o = pairs.foldl afterPair o := by
  induction h generalizing o with
  | nil => rfl
  | @cons p p' pairs pairs' hp _ ih =>
    obtain ⟨hkey, hrest⟩ := List.forall_mem_cons.1 hkeys
    have hstep : afterPair o p' = afterPair o p := by
      unfold afterPair
      rw [hp.1.ofKey?_eq hkey, hp.2]
    rw [List.foldl_cons, List.foldl_cons, hstep, ih hrest]

/-- The pairs at the same place are refused first, or none is refused. -/
theorem AreSpellings.find?_cases :
    (pairs.find? isRefused = none ∧ pairs'.find? isRefused = none) ∨
    ∃ i p p', pairs[i]? = some p ∧ pairs'[i]? = some p' ∧
      pairs.find? isRefused = some p ∧ pairs'.find? isRefused = some p' ∧
      (pairs.take i).find? isRefused = none ∧ (pairs'.take i).find? isRefused = none := by
  induction h with
  | nil => exact Or.inl ⟨rfl, rfl⟩
  | @cons p p' pairs pairs' hp _ ih =>
    obtain ⟨hkey, hrest⟩ := List.forall_mem_cons.1 hkeys
    have hsame : isRefused p' = isRefused p := by
      unfold isRefused
      rw [hp.1.ofKey?_eq hkey, hp.2]
    rw [List.find?_cons, List.find?_cons, hsame]
    cases hrefused : isRefused p with
    | true => exact Or.inr ⟨0, p, p', rfl, rfl, rfl, rfl, rfl, rfl⟩
    | false =>
      rcases ih hrest with hnone | ⟨i, q, q', hq, hq', hfind, hfind', hbefore, hbefore'⟩
      · exact Or.inl hnone
      · refine Or.inr ⟨i + 1, q, q', hq, hq', hfind, hfind', ?_, ?_⟩
        · rw [List.take_succ_cons, List.find?_cons, hrefused]
          exact hbefore
        · rw [List.take_succ_cons, List.find?_cons, hsame, hrefused]
          exact hbefore'

end

theorem ofPairs_of_find?_eq_none {pairs : List (String × String)}
    (h : pairs.find? isRefused = none) :
    ofPairs pairs = .ok (pairs.foldl afterPair {}, ⟨warnings pairs⟩) := by
  rw [ofPairs, readPairs_eq, h]
  rfl

theorem ofPairs_of_find?_eq_some {pairs : List (String × String)} {p : String × String}
    (h : pairs.find? isRefused = some p) : ofPairs pairs = .error ⟨p.1, p.2⟩ := by
  rw [ofPairs, readPairs_eq, h]
  rfl

/-- Pairs give the same result under any spellings of their keys.

At every place both keys are warned about with the same suggestion, or none of them
is.  Then either both lists give the same options, with as many warnings and the same
suggestions in them, and the headers are those that the pairs name, in the given
spelling; or the pairs at one place are refused, and all in front of them are
accepted. -/
theorem ofPairs_spellings {pairs pairs' : List (String × String)}
    (hkeys : ∀ p ∈ pairs, IsRelativeKey p.1) (h : AreSpellings pairs pairs') :
    List.Forall₂ (fun p p' => suggestion? p'.1 = suggestion? p.1) pairs pairs' ∧
    ((∃ o, ofPairs pairs = .ok (o, ⟨warnings pairs⟩) ∧
        ofPairs pairs' = .ok (o, ⟨warnings pairs'⟩) ∧
        (warnings pairs').map (·.suggestion) = (warnings pairs).map (·.suggestion) ∧
        o.headers = .ofList (namedHeaders pairs)) ∨
      ∃ i p p', pairs[i]? = some p ∧ pairs'[i]? = some p' ∧
        (ofPairs (pairs.take i)).isOk ∧ (ofPairs (pairs'.take i)).isOk ∧
        ofPairs pairs = .error ⟨p.1, p.2⟩ ∧ ofPairs pairs' = .error ⟨p'.1, p'.2⟩) := by
  refine ⟨h.suggestion?_eq hkeys, ?_⟩
  obtain ⟨hnone, hnone'⟩ | ⟨i, p, p', hp, hp', hfind, hfind', hbefore, hbefore'⟩ :=
    h.find?_cases hkeys
  · refine Or.inl ⟨pairs.foldl afterPair {}, ofPairs_of_find?_eq_none hnone, ?_,
      h.suggestions_eq hkeys, headers_foldl_afterPair hkeys {}⟩
    rw [ofPairs_of_find?_eq_none hnone', h.foldl_eq hkeys]
  · refine Or.inr ⟨i, p, p', hp, hp', ?_, ?_, ofPairs_of_find?_eq_some hfind,
      ofPairs_of_find?_eq_some hfind'⟩
    · rw [ofPairs_of_find?_eq_none hbefore]
      rfl
    · rw [ofPairs_of_find?_eq_none hbefore']
      rfl

/-- An option, a header and an unknown key, each in other letters. -/
theorem ofPairs_spellings_mixed :
    let pairs := [("retry:maxAttempts", "3"), ("headers:X-a", "1"), ("nme", "x")]
    let pairs' := [("SPRING:Cloud:config:" ++ "Retry:MAXattempts", "3"),
      ("Headers:" ++ "X-a", "1"), ("spring:cloud:config:" ++ "NmE", "x")]
    let o : ClientOptions :=
      { ({} : ClientOptions) with retry.maxAttempts := 3, headers := ⟨[("X-a", "1")]⟩ }
    (∀ p ∈ pairs, IsRelativeKey p.1) ∧ AreSpellings pairs pairs' ∧
    ofPairs pairs = .ok (o, ⟨[unknownIssue "nme" "nme"]⟩) ∧
    ofPairs pairs' = .ok (o, ⟨warnings pairs'⟩) ∧
    List.Forall₂ (fun p p' => suggestion? p'.1 = suggestion? p.1) pairs pairs' ∧
    (warnings pairs').map (·.suggestion) = [(unknownIssue "nme" "nme").suggestion] := by
  intro pairs pairs' o
  have hkeys : ∀ p ∈ pairs, IsRelativeKey p.1 := by
    intro p hp
    simp only [pairs, List.mem_cons, List.not_mem_nil, or_false] at hp
    rcases hp with rfl | rfl | rfl <;> exact ⟨by decide, by decide⟩
  have hoption : IsSpelling "retry:maxAttempts" ("SPRING:Cloud:config:" ++ "Retry:MAXattempts") :=
    .rooted (by decide) (.other (by decide) (by decide))
  have hheader : IsSpelling ("headers:" ++ "X-a") ("Headers:" ++ "X-a") :=
    .bare (.header "X-a" (by decide) (by decide))
  have hunknown : IsSpelling "nme" ("spring:cloud:config:" ++ "NmE") :=
    .rooted (by decide) (.other (by decide) (by decide))
  have hspell : AreSpellings pairs pairs' :=
    .cons ⟨hoption, rfl⟩ (.cons ⟨hheader, rfl⟩ (.cons ⟨hunknown, rfl⟩ .nil))
  have hread : ofPairs pairs = .ok (o, ⟨[unknownIssue "nme" "nme"]⟩) := rfl
  obtain ⟨hsuggested, ⟨o', hok, hok', hhints, -⟩ | ⟨i, p, p', -, -, -, -, herror, -⟩⟩ :=
    ofPairs_spellings hkeys hspell
  · rw [hread] at hok
    obtain ⟨rfl, hreport⟩ := Prod.mk.inj (Except.ok.inj hok)
    rw [← Report.mk.inj hreport] at hhints
    exact ⟨hkeys, hspell, hread, hok', hsuggested, hhints⟩
  · rw [hread] at herror
    cases herror

end RemoteConfig.ClientOptions
