import RemoteConfig.Text.Split

/-!
# Pieces between separators

Texts without a separator are read back when they are written with separators
between them.
-/

namespace RemoteConfig.Text

variable {sep : Char}

theorem pieces_ne_nil (sep : Char) (cs : List Char) : pieces sep cs ≠ [] := by
  cases cs with
  | nil => exact List.cons_ne_nil _ _
  | cons c cs =>
    unfold pieces
    split
    · exact List.cons_ne_nil _ _
    · split <;> exact List.cons_ne_nil _ _

theorem pieces_append_sep {p : List Char} (hp : sep ∉ p) (cs : List Char) :
    pieces sep (p ++ sep :: cs) = p :: pieces sep cs := by
  induction p with
  | nil => simp [pieces]
  | cons c p ih =>
    have hc := List.ne_of_not_mem_cons hp
    rw [List.cons_append, pieces, if_neg hc.symm, ih (List.not_mem_of_not_mem_cons hp)]

theorem pieces_of_not_mem {p : List Char} (hp : sep ∉ p) : pieces sep p = [p] := by
  induction p with
  | nil => rfl
  | cons c p ih =>
    have hc := List.ne_of_not_mem_cons hp
    rw [pieces, if_neg hc.symm, ih (List.not_mem_of_not_mem_cons hp)]

/-- Pieces are read back when each but the first follows a separator. -/
theorem pieces_flatMap {p : List Char} {ps : List (List Char)} (hp : sep ∉ p)
    (hps : ∀ q ∈ ps, sep ∉ q) : pieces sep (p ++ ps.flatMap (sep :: ·)) = p :: ps := by
  induction ps generalizing p with
  | nil => simpa using pieces_of_not_mem hp
  | cons q ps ih =>
    obtain ⟨hq, hps⟩ := List.forall_mem_cons.1 hps
    rw [List.flatMap_cons, List.cons_append, pieces_append_sep hp, ih hq hps]

theorem intercalate_cons (p : List Char) (ps : List (List Char)) :
    [sep].intercalate (p :: ps) = p ++ ps.flatMap (sep :: ·) := by
  induction ps generalizing p with
  | nil => simp
  | cons q ps ih => simp [ih]

theorem pieces_intercalate {ps : List (List Char)} (hne : ps ≠ []) (hps : ∀ q ∈ ps, sep ∉ q) :
    pieces sep ([sep].intercalate ps) = ps := by
  obtain ⟨p, ps, rfl⟩ := List.exists_cons_of_ne_nil hne
  obtain ⟨hp, hps⟩ := List.forall_mem_cons.1 hps
  rw [intercalate_cons, pieces_flatMap hp hps]

/-- With separators between them, the pieces are what was cut. -/
theorem intercalate_pieces (sep : Char) (cs : List Char) :
    [sep].intercalate (pieces sep cs) = cs := by
  induction cs with
  | nil => rfl
  | cons c cs ih =>
    obtain ⟨p, ps, h⟩ := List.exists_cons_of_ne_nil (pieces_ne_nil sep cs)
    rw [h, intercalate_cons] at ih
    unfold pieces
    split
    · rename_i hc
      rw [h, intercalate_cons, List.flatMap_cons, List.nil_append, List.cons_append, ih, hc]
    · rw [h]
      simp only
      rw [intercalate_cons, List.cons_append, ih]

/-- A piece holds no separator, and nothing that was not there. -/
theorem of_mem_pieces {cs p : List Char} (hp : p ∈ pieces sep cs) : sep ∉ p ∧ p ⊆ cs := by
  induction cs generalizing p with
  | nil => simp_all [pieces]
  | cons c cs ih =>
    unfold pieces at hp
    split at hp
    · rcases List.mem_cons.1 hp with rfl | hp
      · simp
      · exact ⟨(ih hp).1, List.subset_cons_of_subset c (ih hp).2⟩
    · rename_i hc
      split at hp
      · rename_i h
        exact absurd h (pieces_ne_nil sep cs)
      · rename_i q qs h
        rw [h] at ih
        rcases List.mem_cons.1 hp with rfl | hp
        · obtain ⟨hsep, hsub⟩ := ih List.mem_cons_self
          exact ⟨by simp [hsep, Ne.symm hc], List.cons_subset_cons c hsub⟩
        · obtain ⟨hsep, hsub⟩ := ih (List.mem_cons_of_mem q hp)
          exact ⟨hsep, List.subset_cons_of_subset c hsub⟩

/-- Every character belongs to a piece, except separators. -/
theorem mem_pieces (sep : Char) {c : Char} {cs : List Char} (h : c ∈ cs) :
    c = sep ∨ ∃ p ∈ pieces sep cs, c ∈ p := by
  induction cs with
  | nil => cases h
  | cons d cs ih =>
    unfold pieces
    split
    · rename_i hd
      rcases List.mem_cons.1 h with rfl | h
      · exact Or.inl hd
      · obtain hc | ⟨p, hp, hc⟩ := ih h
        · exact Or.inl hc
        · exact Or.inr ⟨p, List.mem_cons_of_mem _ hp, hc⟩
    · split
      · rename_i hnil
        exact absurd hnil (pieces_ne_nil sep cs)
      · rename_i q qs hq
        rw [hq] at ih
        rcases List.mem_cons.1 h with rfl | h
        · exact Or.inr ⟨_, List.mem_cons_self, List.mem_cons_self⟩
        · obtain hc | ⟨p, hp, hc⟩ := ih h
          · exact Or.inl hc
          · rcases List.mem_cons.1 hp with rfl | hp
            · exact Or.inr ⟨_, List.mem_cons_self, List.mem_cons_of_mem d hc⟩
            · exact Or.inr ⟨p, List.mem_cons_of_mem _ hp, hc⟩

end RemoteConfig.Text
