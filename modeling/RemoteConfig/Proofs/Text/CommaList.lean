import RemoteConfig.Proofs.Text.Split

/-!
# Comma-separated lists

`commaItems` reads a list that is written with commas between its items.  Each item
may have blanks around it, and pieces that are blank are no items.

* `IsCommaList` says how a list may be written.
* `eq_append_trimChars` cuts a piece into blanks, what trimming leaves, and blanks.
* `commaItems_eq_iff` is the result: a text is read as a list exactly if the list
  may be written so.
* `commaItems_join` reads back the items with commas between them.
-/

namespace RemoteConfig.Text

/-! ## How lists are written -/

/-- Nothing but blanks. -/
def IsBlanks (cs : List Char) : Prop :=
  ∀ c ∈ cs, isBlank c = true

instance (cs : List Char) : Decidable (IsBlanks cs) :=
  decidable_of_iff (cs.all isBlank = true) List.all_eq_true

/-- There is no blank at either end. -/
def IsTrimmed (cs : List Char) : Prop :=
  (∀ c ∈ cs.head?, isBlank c = false) ∧ ∀ c ∈ cs.getLast?, isBlank c = false

instance (cs : List Char) : Decidable (IsTrimmed cs) :=
  decidable_of_iff (cs.head?.all (!isBlank ·) = true ∧ cs.getLast?.all (!isBlank ·) = true)
    (by simp [IsTrimmed, Option.all_eq_true])

/-- An item of a comma-separated list. -/
structure IsItem (s : String) : Prop where
  ne_empty : s ≠ ""
  not_mem : ',' ∉ s.toList
  trimmed : IsTrimmed s.toList

theorem isItem_iff {s : String} : IsItem s ↔ s ≠ "" ∧ ',' ∉ s.toList ∧ IsTrimmed s.toList :=
  ⟨fun ⟨h₁, h₂, h₃⟩ => ⟨h₁, h₂, h₃⟩, fun ⟨h₁, h₂, h₃⟩ => ⟨h₁, h₂, h₃⟩⟩

instance (s : String) : Decidable (IsItem s) :=
  decidable_of_iff _ isItem_iff.symm

theorem IsItem.toList_ne_nil {s : String} (h : IsItem s) : s.toList ≠ [] :=
  mt String.toList_eq_nil_iff.1 h.ne_empty

/-- The pieces between the commas of a list: its items with blanks around them,
and blank pieces. -/
inductive IsPieces : List String → List (List Char) → Prop where
  | nil : IsPieces [] []
  | blank {b : List Char} {items : List String} {ps : List (List Char)} (hb : IsBlanks b)
    (h : IsPieces items ps) : IsPieces items (b :: ps)
  | item {b b' : List Char} {x : String} {items : List String} {ps : List (List Char)}
    (hb : IsBlanks b) (hb' : IsBlanks b') (hx : IsItem x) (h : IsPieces items ps) :
    IsPieces (x :: items) ((b ++ (x.toList ++ b')) :: ps)

/-- The list may be written as this text. -/
def IsCommaList (items : List String) (s : String) : Prop :=
  ∃ ps, IsPieces items ps ∧ s.toList = [','].intercalate ps

/-! ## Trimming -/

theorem IsBlanks.not_mem {b : List Char} (hb : IsBlanks b) : ',' ∉ b :=
  fun h => absurd (hb ',' h) (by decide)

/-- Blanks in front are dropped, up to something that starts with none. -/
theorem dropWhile_blanks {b cs : List Char} (hb : IsBlanks b)
    (hcs : ∀ c ∈ cs.head?, isBlank c = false) : (b ++ cs).dropWhile isBlank = cs := by
  rw [List.dropWhile_append_of_pos hb]
  cases cs with
  | nil => rfl
  | cons c cs =>
    have hc : isBlank c = false := hcs c rfl
    rw [List.dropWhile_cons_of_neg (by simp [hc])]

theorem trimChars_blanks {b : List Char} (hb : IsBlanks b) : trimChars b = [] := by
  have hdrop : (b ++ []).dropWhile isBlank = [] := dropWhile_blanks hb fun _ h => nomatch h
  rw [List.append_nil] at hdrop
  rw [trimChars, hdrop]
  rfl

/-- Blanks around something trimmed are dropped. -/
theorem trimChars_append {b x b' : List Char} (hb : IsBlanks b) (hb' : IsBlanks b') (hne : x ≠ [])
    (hx : IsTrimmed x) : trimChars (b ++ (x ++ b')) = x := by
  have hfront : (b ++ (x ++ b')).dropWhile isBlank = x ++ b' := by
    refine dropWhile_blanks hb fun c hc => hx.1 c ?_
    obtain ⟨d, x, rfl⟩ := List.exists_cons_of_ne_nil hne
    exact hc
  have hback : (b'.reverse ++ x.reverse).dropWhile isBlank = x.reverse := by
    refine dropWhile_blanks (fun c hc => hb' c (List.mem_reverse.1 hc)) fun c hc => hx.2 c ?_
    rwa [List.head?_reverse] at hc
  rw [trimChars, hfront, List.reverse_append, hback, List.reverse_reverse]

/-- What stands in front is blank, and what is left starts with no blank. -/
theorem dropWhile_cut (cs : List Char) :
    ∃ b, IsBlanks b ∧ cs = b ++ cs.dropWhile isBlank ∧
      ∀ c ∈ (cs.dropWhile isBlank).head?, isBlank c = false := by
  refine ⟨cs.takeWhile isBlank, fun c hc => List.all_eq_true.1 List.all_takeWhile c hc,
    (List.takeWhile_append_dropWhile).symm, fun c hc => ?_⟩
  have hhead := List.head?_dropWhile_not isBlank cs
  rw [Option.mem_def] at hc
  rwa [hc] at hhead

/-- Trimming takes blanks away at both ends, and no more are left there. -/
theorem eq_append_trimChars (cs : List Char) :
    ∃ b b', IsBlanks b ∧ IsBlanks b' ∧ cs = b ++ (trimChars cs ++ b') ∧
      IsTrimmed (trimChars cs) := by
  obtain ⟨b, hb, hcut, hfirst⟩ := dropWhile_cut cs
  obtain ⟨b', hb', hcut', hlast⟩ := dropWhile_cut (cs.dropWhile isBlank).reverse
  have hback : cs.dropWhile isBlank = trimChars cs ++ b'.reverse := by
    rw [← List.reverse_reverse (cs.dropWhile isBlank), hcut', List.reverse_append]
    rfl
  refine ⟨b, b'.reverse, hb, fun c hc => hb' c (List.mem_reverse.1 hc), ?_, ?_, ?_⟩
  · rw [← hback]
    exact hcut
  · intro c hc
    refine hfirst c ?_
    rw [hback, List.head?_append, Option.mem_def.1 hc]
    rfl
  · intro c hc
    refine hlast c ?_
    rwa [trimChars, List.getLast?_reverse] at hc

/-! ## Items of pieces -/

/-- The items of some pieces. -/
def itemsOf (ps : List (List Char)) : List String :=
  ((ps.map trimChars).filter (fun p => !p.isEmpty)).map String.ofList

theorem commaItems_eq_itemsOf (s : String) : commaItems s = itemsOf (pieces ',' s.toList) :=
  rfl

theorem itemsOf_cons_blank {p : List Char} (hp : trimChars p = []) (ps : List (List Char)) :
    itemsOf (p :: ps) = itemsOf ps := by
  simp [itemsOf, hp]

theorem itemsOf_cons_item {p : List Char} {x : String} (hp : trimChars p = x.toList) (hx : x ≠ "")
    (ps : List (List Char)) : itemsOf (p :: ps) = x :: itemsOf ps := by
  simp [itemsOf, hp, hx]

theorem itemsOf_of_isPieces {items : List String} {ps : List (List Char)}
    (h : IsPieces items ps) : itemsOf ps = items := by
  induction h with
  | nil => rfl
  | blank hb _ ih => rw [itemsOf_cons_blank (trimChars_blanks hb), ih]
  | item hb hb' hx _ ih =>
    rw [itemsOf_cons_item (trimChars_append hb hb' hx.toList_ne_nil hx.trimmed) hx.ne_empty, ih]

/-- Pieces without commas are the pieces of their items. -/
theorem isPieces_itemsOf {ps : List (List Char)} (h : ∀ p ∈ ps, ',' ∉ p) :
    IsPieces (itemsOf ps) ps := by
  induction ps with
  | nil => exact .nil
  | cons p ps ih =>
    obtain ⟨hp, hps⟩ := List.forall_mem_cons.1 h
    obtain ⟨b, b', hb, hb', hcut, htrimmed⟩ := eq_append_trimChars p
    by_cases hempty : trimChars p = []
    · rw [itemsOf_cons_blank hempty]
      refine .blank (fun c hc => ?_) (ih hps)
      rw [hcut, hempty, List.nil_append] at hc
      exact (List.mem_append.1 hc).elim (hb c) (hb' c)
    · have hx : IsItem (String.ofList (trimChars p)) := by
        refine ⟨mt String.ofList_eq_empty_iff.1 hempty, ?_, ?_⟩
        · rw [String.toList_ofList]
          intro hc
          rw [hcut] at hp
          exact hp (List.mem_append_right b (List.mem_append_left b' hc))
        · rwa [String.toList_ofList]
      rw [itemsOf_cons_item String.toList_ofList.symm hx.ne_empty]
      have hpiece := IsPieces.item hb hb' hx (ih hps)
      rwa [String.toList_ofList, ← hcut] at hpiece

theorem IsPieces.not_mem {items : List String} {ps : List (List Char)} (h : IsPieces items ps) :
    ∀ p ∈ ps, ',' ∉ p := by
  induction h with
  | nil => simp
  | blank hb _ ih => exact List.forall_mem_cons.2 ⟨hb.not_mem, ih⟩
  | item hb hb' hx _ ih =>
    refine List.forall_mem_cons.2 ⟨?_, ih⟩
    simp [hb.not_mem, hb'.not_mem, hx.not_mem]

theorem IsPieces.isItem {items : List String} {ps : List (List Char)} (h : IsPieces items ps) :
    ∀ x ∈ items, IsItem x := by
  induction h with
  | nil => simp
  | blank _ _ ih => exact ih
  | item _ _ hx _ ih => exact List.forall_mem_cons.2 ⟨hx, ih⟩

/-! ## Reading and writing lists -/

/-- Pieces with commas between them are read back. -/
theorem itemsOf_pieces_intercalate {items : List String} {ps : List (List Char)}
    (h : IsPieces items ps) : itemsOf (pieces ',' ([','].intercalate ps)) = items := by
  cases ps with
  | nil =>
    cases h
    rfl
  | cons p ps =>
    rw [pieces_intercalate (List.cons_ne_nil p ps) h.not_mem, itemsOf_of_isPieces h]

/-- A text is read as a list exactly if the list may be written so. -/
theorem commaItems_eq_iff {items : List String} {s : String} :
    commaItems s = items ↔ IsCommaList items s := by
  rw [commaItems_eq_itemsOf]
  constructor
  · rintro rfl
    exact ⟨_, isPieces_itemsOf fun p hp => (of_mem_pieces hp).1, (intercalate_pieces _ _).symm⟩
  · rintro ⟨ps, hps, hs⟩
    rw [hs, itemsOf_pieces_intercalate hps]

theorem isItem_of_mem_commaItems {s x : String} (h : x ∈ commaItems s) : IsItem x := by
  obtain ⟨ps, hps, -⟩ := commaItems_eq_iff.1 (Eq.refl (commaItems s))
  exact hps.isItem x h

/-- Items are the pieces of a list that is written without blanks. -/
theorem isPieces_map_toList {items : List String} (h : ∀ x ∈ items, IsItem x) :
    IsPieces items (items.map String.toList) := by
  induction items with
  | nil => exact .nil
  | cons x items ih =>
    obtain ⟨hx, hitems⟩ := List.forall_mem_cons.1 h
    have hnone : IsBlanks [] := fun _ h => nomatch h
    have hpiece := IsPieces.item hnone hnone hx (ih hitems)
    rwa [List.nil_append, List.append_nil] at hpiece

/-- Items with commas between them are read back. -/
theorem commaItems_join {items : List String} (h : ∀ x ∈ items, IsItem x) :
    commaItems (join "," items) = items :=
  commaItems_eq_iff.2 ⟨_, isPieces_map_toList h, String.toList_intercalate⟩

/-- An item is not blank. -/
theorem IsItem.not_allBlank {s : String} (h : IsItem s) : allBlank s = false := by
  obtain ⟨c, cs, hcs⟩ := List.exists_cons_of_ne_nil h.toList_ne_nil
  have hc : isBlank c = false := h.trimmed.1 c (by rw [hcs]; rfl)
  rw [allBlank, hcs, List.all_cons, hc, Bool.false_and]

end RemoteConfig.Text
