import RemoteConfig.Text.Fold

/-!
# Folding and reading

Folding acts on each character by itself: it moves capitals of ASCII up by 32
and leaves every other character alone.  So it keeps the length of a text and
the places of all characters that are no letters, also when these are counted in
bytes.

`stripFolded_eq_some_iff` says what is left of a text behind a head in any case.
-/

namespace RemoteConfig.Text

/-! ## One character -/

/-- Folding moves a capital up by 32, or it does nothing. -/
theorem toLower_cases (c : Char) :
    c.toLower = c ∨
      (0x41 ≤ c.toNat ∧ c.toNat ≤ 0x5A ∧ c.toLower.toNat = c.toNat + 0x20) := by
  unfold Char.toLower
  split
  · rename_i hc
    have hlow : 0x41 ≤ c.toNat := UInt32.le_iff_toNat_le.1 hc.1
    have hhigh : c.toNat ≤ 0x5A := UInt32.le_iff_toNat_le.1 hc.2
    refine Or.inr ⟨hlow, hhigh, ?_⟩
    have hstep : ('a'.val - 'A'.val).toNat = 0x20 := by decide
    change (c.val + ('a'.val - 'A'.val)).toNat = c.val.toNat + 0x20
    have hsmall : c.val.toNat ≤ 0x5A := hhigh
    rw [UInt32.toNat_add, hstep]
    exact Nat.mod_eq_of_lt (by omega)
  · exact Or.inl rfl

@[simp] theorem toLower_toLower (c : Char) : c.toLower.toLower = c.toLower := by
  rcases toLower_cases c with h | ⟨hlow, hhigh, h⟩
  · rw [h, h]
  · rcases toLower_cases c.toLower with h' | ⟨-, hhigh', -⟩
    · exact h'
    · omega

/-- A character that is no letter of ASCII is the folded form of itself only. -/
theorem toLower_eq_iff {c d : Char} (hd : d.toNat < 0x41 ∨ 0x7A < d.toNat) :
    c.toLower = d ↔ c = d := by
  constructor
  · intro h
    rcases toLower_cases c with hc | ⟨hlow, hhigh, hc⟩
    · rw [← h, hc]
    · rw [h] at hc
      omega
  · rintro rfl
    rcases toLower_cases c with hc | ⟨hlow, hhigh, -⟩
    · exact hc
    · omega

/-- The characters that folding changes and those that it makes take one byte. -/
theorem utf8Size_toLower (c : Char) : c.toLower.utf8Size = c.utf8Size := by
  rcases toLower_cases c with h | ⟨-, hhigh, h⟩
  · rw [h]
  · have hone {d : Char} (hd : d.toNat ≤ 0x7F) : d.utf8Size = 1 :=
      if_pos (show d.val ≤ 0x7F from UInt32.le_iff_toNat_le.2 hd)
    rw [hone (by omega), hone (by omega)]

/-! ## Texts -/

theorem toList_fold (s : String) : (fold s).toList = s.toList.map Char.toLower :=
  String.toList_ofList

@[simp] theorem fold_fold (s : String) : fold (fold s) = fold s := by
  rw [← String.toList_inj, toList_fold, toList_fold, List.map_map]
  exact List.map_congr_left fun c _ => toLower_toLower c

theorem fold_append (s t : String) : fold (s ++ t) = fold s ++ fold t := by
  rw [← String.toList_inj, toList_fold, String.toList_append, String.toList_append, toList_fold,
    toList_fold, List.map_append]

theorem fold_eq_empty_iff {s : String} : fold s = "" ↔ s = "" := by
  rw [← String.toList_eq_nil_iff, toList_fold, List.map_eq_nil_iff, String.toList_eq_nil_iff]

/-- A text whose folded form is cut in two is cut at the same place. -/
theorem exists_append_of_fold {s front rest : String} (h : fold s = front ++ rest) :
    ∃ front' rest', s = front' ++ rest' ∧ fold front' = front ∧ fold rest' = rest := by
  rw [← String.toList_inj, toList_fold, String.toList_append] at h
  obtain ⟨cs, ds, hs, hcs, hds⟩ := List.map_eq_append_iff.1 h
  refine ⟨String.ofList cs, String.ofList ds, ?_, ?_, ?_⟩
  · rw [← String.toList_inj, String.toList_append, String.toList_ofList, String.toList_ofList, hs]
  · rw [← String.toList_inj, toList_fold, String.toList_ofList, hcs]
  · rw [← String.toList_inj, toList_fold, String.toList_ofList, hds]

theorem stripFoldedChars_eq_some_iff {hs cs rest : List Char} :
    stripFoldedChars hs cs = some rest ↔
      ∃ front, front.map Char.toLower = hs.map Char.toLower ∧ cs = front ++ rest := by
  induction hs generalizing cs with
  | nil => simp [stripFoldedChars]
  | cons h hs ih =>
    cases cs with
    | nil =>
      rw [stripFoldedChars]
      constructor
      · intro h
        cases h
      · rintro ⟨front, hfront, hcut⟩
        obtain ⟨rfl, -⟩ := List.append_eq_nil_iff.1 hcut.symm
        cases hfront
    | cons c cs =>
      rw [stripFoldedChars]
      by_cases hc : h.toLower = c.toLower
      · rw [if_pos hc, ih]
        constructor
        · rintro ⟨front, hfront, rfl⟩
          exact ⟨c :: front, by rw [List.map_cons, List.map_cons, hfront, hc], rfl⟩
        · rintro ⟨front, hfront, hcut⟩
          cases front with
          | nil => cases hfront
          | cons d front =>
            obtain ⟨rfl, rfl⟩ := List.cons.inj hcut
            exact ⟨front, (List.cons.inj hfront).2, rfl⟩
      · rw [if_neg hc]
        constructor
        · intro h
          cases h
        · rintro ⟨front, hfront, hcut⟩
          cases front with
          | nil => cases hfront
          | cons d front =>
            obtain ⟨rfl, -⟩ := List.cons.inj hcut
            exact absurd (List.cons.inj hfront).1.symm hc

/-- What is left of a text behind a head is what stands behind the head in some case. -/
theorem stripFolded_eq_some_iff {head s rest : String} :
    stripFolded head s = some rest ↔ ∃ front, fold front = fold head ∧ s = front ++ rest := by
  unfold stripFolded
  rw [Option.map_eq_some_iff]
  constructor
  · rintro ⟨cs, hcs, rfl⟩
    obtain ⟨front, hfront, hs⟩ := stripFoldedChars_eq_some_iff.1 hcs
    refine ⟨String.ofList front, ?_, ?_⟩
    · rw [← String.toList_inj, toList_fold, toList_fold, String.toList_ofList, hfront]
    · rw [← String.toList_inj, hs, String.toList_append, String.toList_ofList,
        String.toList_ofList]
  · rintro ⟨front, hfront, rfl⟩
    rw [← String.toList_inj, toList_fold, toList_fold] at hfront
    refine ⟨rest.toList, ?_, String.ofList_toList⟩
    rw [stripFoldedChars_eq_some_iff]
    exact ⟨front.toList, hfront, String.toList_append⟩

/-- What a text starts with is told by the folded texts. -/
theorem isSome_stripFolded (head s : String) :
    (stripFolded head s).isSome ↔ (fold head).toList <+: (fold s).toList := by
  rw [Option.isSome_iff_exists]
  simp only [stripFolded_eq_some_iff]
  constructor
  · rintro ⟨rest, front, hfront, rfl⟩
    exact ⟨(fold rest).toList, by rw [fold_append, hfront, String.toList_append]⟩
  · rintro ⟨cs, hcs⟩
    have hfold : fold s = fold head ++ String.ofList cs := by
      rw [← String.toList_inj, String.toList_append, String.toList_ofList, hcs]
    obtain ⟨front, rest, hs, hfront, -⟩ := exists_append_of_fold hfold
    exact ⟨rest, front, hfront, hs⟩

/-- Folding keeps the place of every byte. -/
theorem utf8ByteSize_map_toLower (cs : List Char) :
    (String.ofList (cs.map Char.toLower)).utf8ByteSize = (String.ofList cs).utf8ByteSize := by
  induction cs with
  | nil => rfl
  | cons c cs ih =>
    rw [List.map_cons, String.ofList_cons, String.ofList_cons, String.utf8ByteSize_append,
      String.utf8ByteSize_append, String.utf8ByteSize_singleton, String.utf8ByteSize_singleton, ih,
      utf8Size_toLower]

end RemoteConfig.Text
