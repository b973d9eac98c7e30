import Mathlib.Data.List.Pairwise
import RemoteConfig.Proofs.Number.Digits
import RemoteConfig.Proofs.Snapshot.Children
import RemoteConfig.Proofs.Snapshot.Precedence
import RemoteConfig.Proofs.Text.Fold
import RemoteConfig.Proofs.Text.Split
import RemoteConfig.Snapshot.Tree

/-!
# Trees read back from their flat keys

A tree that a server has flattened is read back from the snapshot into which
its keys are merged: every leaf by its path, and the nodes below a node by
`Snapshot.children`.

Keys are compared character by character, so that `a-b` stands between `a` and
`a:c`, and the leaves of one node need not stand together.  What keeps nodes
apart is that the segments of a path are read back from its key.

* `pieces_pathKey` reads the segments back, and `pieces_stem_append` does so for
  the head that all keys below a node share.
* `mem_leaves_of_isAt` says that a leaf whose folded segments start with those
  of a node's path is a leaf of that node.
* `entries_merge_flattened` gives the entries of the snapshot.
* `merge_flattened` is the result.
-/

namespace RemoteConfig

/-! ## Segments -/

namespace Step

/-- The characters of the segment, folded. -/
def foldedChars (s : Step) : List Char :=
  (Text.fold s.segment).toList

/-- The segment has no reserved character. -/
def IsPlain (s : Step) : Prop :=
  ∀ c ∈ s.segment.toList, c ∉ Tree.reserved

theorem foldedChars_eq_iff {s t : Step} :
    s.foldedChars = t.foldedChars ↔ Text.fold s.segment = Text.fold t.segment :=
  String.toList_inj

theorem isPlain_index (i : Nat) : (index i).IsPlain := by
  intro c hc
  rw [segment, Decimal.text, String.toList_ofList] at hc
  have hdigit := Decimal.of_isDigit (p := fun c => decide (c ∉ Tree.reserved)) (by decide)
    (Decimal.isDigit_of_mem_toDigits hc)
  exact of_decide_eq_true hdigit

theorem segment_index_injective {i j : Nat}
    (h : Text.fold (index i).segment = Text.fold (index j).segment) : i = j := by
  have hfold (n : Nat) : (Text.fold (Decimal.text n)).toList = Nat.toDigits 10 n := by
    rw [Text.fold, Decimal.text, String.toList_ofList, String.toList_ofList]
    refine (List.map_congr_left fun c hc => ?_).trans (List.map_id _)
    have hdigit := Decimal.of_isDigit (p := fun c => c.toLower == c) (by decide)
      (Decimal.isDigit_of_mem_toDigits hc)
    exact eq_of_beq hdigit
  have hdigit : Nat.toDigits 10 i = Nat.toDigits 10 j := by
    rw [← hfold, ← hfold]
    exact congrArg String.toList h
  rw [← Decimal.value_toDigits i, hdigit, Decimal.value_toDigits]

theorem delimiter_not_mem_of_isPlain {s : Step} (h : s.IsPlain) :
    Snapshot.delimiter ∉ s.segment.toList :=
  fun hmem => h _ hmem (by decide)

theorem toLower_eq_delimiter_iff {c : Char} :
    c.toLower = Snapshot.delimiter ↔ c = Snapshot.delimiter :=
  Text.toLower_eq_iff (Or.inl (by decide))

theorem delimiter_not_mem_foldedChars {s : Step} (h : s.IsPlain) :
    Snapshot.delimiter ∉ s.foldedChars := by
  rw [foldedChars, Text.toList_fold]
  intro hmem
  obtain ⟨c, hc, hlower⟩ := List.mem_map.1 hmem
  rw [toLower_eq_delimiter_iff.1 hlower] at hc
  exact delimiter_not_mem_of_isPlain h hc

end Step

/-! ## Keys of paths -/

/-- The characters that the keys of all longer paths share: every segment with
a delimiter after it. -/
def stem (path : List Step) : List Char :=
  path.flatMap fun s => s.segment.toList ++ [Snapshot.delimiter]

theorem stem_cons (s : Step) (path : List Step) :
    stem (s :: path) = s.segment.toList ++ Snapshot.delimiter :: stem path := by
  simp [stem]

theorem toList_pathKey (path : List Step) :
    (pathKey path).toList =
      [Snapshot.delimiter].intercalate (path.map fun s => s.segment.toList) := by
  rw [pathKey, Text.join, String.toList_intercalate, List.map_map]
  rfl

theorem toList_pathKey_cons (s : Step) (path : List Step) :
    (pathKey (s :: path)).toList =
      s.segment.toList ++ path.flatMap fun t => Snapshot.delimiter :: t.segment.toList := by
  rw [toList_pathKey, List.map_cons, Text.intercalate_cons, List.flatMap_map]

theorem toList_pathKey_append (path : List Step) {rest : List Step} (hrest : rest ≠ []) :
    (pathKey (path ++ rest)).toList = stem path ++ (pathKey rest).toList := by
  induction path with
  | nil => rfl
  | cons s path ih =>
    have hne : path ++ rest ≠ [] := by simp [hrest]
    obtain ⟨t, tail, htail⟩ := List.exists_cons_of_ne_nil hne
    rw [htail, toList_pathKey_cons] at ih
    rw [List.cons_append, htail, toList_pathKey_cons, List.flatMap_cons, List.cons_append, ih,
      stem_cons, List.append_assoc, List.cons_append]

theorem stem_eq {path : List Step} (hne : path ≠ []) :
    stem path = (pathKey path).toList ++ [Snapshot.delimiter] := by
  obtain ⟨s, path, rfl⟩ := List.exists_cons_of_ne_nil hne
  rw [toList_pathKey_cons]
  induction path generalizing s with
  | nil => simp [stem]
  | cons t path ih =>
    rw [stem_cons, ih t (List.cons_ne_nil _ _), List.flatMap_cons]
    simp

/-- The head of the keys below a node, read back. -/
theorem pieces_stem_append {path : List Step} (h : ∀ s ∈ path, s.IsPlain) (rest : List Char) :
    Text.pieces Snapshot.delimiter ((stem path).map Char.toLower ++ rest) =
      path.map Step.foldedChars ++ Text.pieces Snapshot.delimiter rest := by
  induction path with
  | nil => rfl
  | cons s path ih =>
    obtain ⟨hs, hpath⟩ := List.forall_mem_cons.1 h
    have hsplit : (stem (s :: path)).map Char.toLower ++ rest =
        s.foldedChars ++ Snapshot.delimiter :: ((stem path).map Char.toLower ++ rest) := by
      simp [stem_cons, Step.foldedChars, Text.toList_fold, Snapshot.delimiter]
    rw [hsplit, Text.pieces_append_sep (Step.delimiter_not_mem_foldedChars hs), ih hpath]
    rfl

/-- The segments of a folded key, read back. -/
theorem pieces_pathKey {path : List Step} (hne : path ≠ []) (h : ∀ s ∈ path, s.IsPlain) :
    Text.pieces Snapshot.delimiter (Text.fold (pathKey path)).toList =
      path.map Step.foldedChars := by
  have hjoined : (Text.fold (pathKey path)).toList =
      [Snapshot.delimiter].intercalate (path.map Step.foldedChars) := by
    obtain ⟨s, path, rfl⟩ := List.exists_cons_of_ne_nil hne
    rw [Text.toList_fold, toList_pathKey_cons, List.map_cons, Text.intercalate_cons]
    simp [List.map_flatMap, List.flatMap_map, Step.foldedChars, Text.toList_fold,
      Snapshot.delimiter]
  rw [hjoined]
  refine Text.pieces_intercalate (by simp [hne]) ?_
  intro q hq
  obtain ⟨s, hs, rfl⟩ := List.mem_map.1 hq
  exact Step.delimiter_not_mem_foldedChars (h s hs)

/-! ## The spelling of servers -/

theorem flatMap_normalChar {cs : List Char} (h : ∀ c ∈ cs, c ∉ Tree.reserved) :
    cs.flatMap Snapshot.normalChar = cs := by
  induction cs with
  | nil => rfl
  | cons c cs ih =>
    obtain ⟨hc, hcs⟩ := List.forall_mem_cons.1 h
    simp only [Tree.reserved, List.mem_cons, List.not_mem_nil, or_false, not_or] at hc
    have hone : Snapshot.normalChar c = [c] := by
      simp [Snapshot.normalChar, hc]
    rw [List.flatMap_cons, hone, ih hcs]
    rfl

theorem Step.flatMap_serverSuffix {s : Step} (h : s.IsPlain) :
    s.serverSuffix.flatMap Snapshot.normalChar = Snapshot.delimiter :: s.segment.toList := by
  have hsegment := flatMap_normalChar h
  cases s with
  | name n =>
    rw [serverSuffix, List.flatMap_cons]
    exact congrArg ([Snapshot.delimiter] ++ ·) hsegment
  | index i =>
    rw [serverSuffix, List.flatMap_cons, List.flatMap_append]
    change [Snapshot.delimiter] ++ (_ ++ []) = _
    rw [List.append_nil]
    exact congrArg ([Snapshot.delimiter] ++ ·) hsegment

/-- Below a map, the two spellings of a path are one key. -/
theorem normalizeKey_serverKey {n : String} {path : List Step}
    (h : ∀ s ∈ Step.name n :: path, s.IsPlain) :
    Snapshot.normalizeKey (serverKey (.name n :: path)) = pathKey (.name n :: path) := by
  obtain ⟨hname, hpath⟩ := List.forall_mem_cons.1 h
  have hsuffixes : (path.flatMap Step.serverSuffix).flatMap Snapshot.normalChar =
      path.flatMap fun t => Snapshot.delimiter :: t.segment.toList := by
    rw [List.flatMap_assoc, List.flatMap_def, List.flatMap_def]
    exact congrArg List.flatten
      (List.map_congr_left fun t ht => Step.flatMap_serverSuffix (hpath t ht))
  rw [← String.toList_inj, Snapshot.normalizeKey, String.toList_ofList, serverKey,
    String.toList_ofList, List.flatMap_append, hsuffixes, toList_pathKey_cons]
  exact congrArg (· ++ _) (flatMap_normalChar hname)

/-! ## Trees -/

namespace Tree

/-- What holds of a node as soon as it holds of the nodes below it holds of
every tree. -/
theorem induction_children {P : Tree → Prop} (step : ∀ t, (∀ c ∈ t.children, P c.2) → P t)
    (t : Tree) : P t := by
  have hsmaller : ∀ t : Tree, ∀ c ∈ t.children, sizeOf c.2 < sizeOf t := by
    intro t c hc
    cases t with
    | leaf text => cases hc
    | map members =>
      obtain ⟨m, hm, rfl⟩ := List.mem_map.1 hc
      have hlist := List.sizeOf_lt_of_mem hm
      have hpair : sizeOf m = 1 + sizeOf m.1 + sizeOf m.2 := rfl
      simp only [map.sizeOf_spec]
      omega
    | list items =>
      obtain ⟨p, hp, rfl⟩ := List.mem_map.1 hc
      have hlist := List.sizeOf_lt_of_mem (List.fst_mem_of_mem_zipIdx hp)
      simp only [list.sizeOf_spec]
      omega
  exact (measure (sizeOf : Tree → Nat)).wf.induction t fun t ih =>
    step t fun c hc => ih c.2 (hsmaller t c hc)

/-- The leaves of a node lie below its children. -/
theorem leaves_eq (t : Tree) :
    t.leaves = (match t with | leaf text => [([], text)] | _ => []) ++
      t.children.flatMap fun c => under c.1 c.2.leaves := by
  cases t with
  | leaf text => rfl
  | map members =>
    rw [leaves, children, List.nil_append]
    induction members with
    | nil => rfl
    | cons m members ih => rw [memberLeaves, ih]; rfl
  | list items =>
    have hfrom : ∀ i, itemLeaves i items =
        ((items.zipIdx i).map fun p => (Step.index p.2, p.1)).flatMap fun c =>
          under c.1 c.2.leaves := by
      induction items with
      | nil => exact fun i => rfl
      | cons t items ih => exact fun i => by rw [itemLeaves, ih]; rfl
    rw [leaves, children, List.nil_append, hfrom]

theorem mem_under_iff {s : Step} {leaves : List (List Step × String)} {l : List Step × String} :
    l ∈ under s leaves ↔ ∃ path, l.1 = s :: path ∧ (path, l.2) ∈ leaves := by
  unfold under
  rw [List.mem_map]
  constructor
  · rintro ⟨l', hl', rfl⟩
    exact ⟨l'.1, rfl, hl'⟩
  · rintro ⟨path, hpath, hmem⟩
    exact ⟨(path, l.2), hmem, Prod.ext hpath.symm rfl⟩

/-- A leaf that is not the node itself lies below one of its children. -/
theorem cons_mem_leaves_iff {t : Tree} {s : Step} {path : List Step} {text : String} :
    (s :: path, text) ∈ t.leaves ↔ ∃ c, (s, c) ∈ t.children ∧ (path, text) ∈ c.leaves := by
  rw [leaves_eq, List.mem_append, List.mem_flatMap]
  have hself : (s :: path, text) ∉
      (match t with | leaf text => [(([] : List Step), text)] | _ => []) := by
    cases t <;> simp
  simp only [hself, false_or, mem_under_iff, List.cons.injEq]
  constructor
  · rintro ⟨⟨s', c⟩, hc, path', ⟨rfl, rfl⟩, hmem⟩
    exact ⟨c, hc, hmem⟩
  · rintro ⟨c, hc, hmem⟩
    exact ⟨(s, c), hc, path, ⟨rfl, rfl⟩, hmem⟩

namespace WellFormed

variable {t : Tree}

theorem child (h : t.WellFormed) {c : Step × Tree} (hc : c ∈ t.children) :
    c.1.IsPlain ∧ c.2.WellFormed := by
  cases h with
  | leaf text => cases hc
  | map names distinct values =>
    obtain ⟨m, hm, rfl⟩ := List.mem_map.1 hc
    exact ⟨names m hm, values m hm⟩
  | list values =>
    obtain ⟨p, hp, rfl⟩ := List.mem_map.1 hc
    exact ⟨Step.isPlain_index p.2, values p.1 (List.fst_mem_of_mem_zipIdx hp)⟩

theorem pairwise_children (h : t.WellFormed) :
    t.children.Pairwise fun c c' => c.1.foldedChars ≠ c'.1.foldedChars := by
  cases h with
  | leaf text => exact List.Pairwise.nil
  | map names distinct values =>
    refine List.pairwise_map.2 (distinct.imp ?_)
    intro m m' hne heq
    exact hne (Step.foldedChars_eq_iff.1 heq)
  | @list items values =>
    refine List.pairwise_map.2 ?_
    have hplaces : (items.zipIdx.map Prod.snd).Nodup := by
      rw [List.zipIdx_map_snd]
      exact List.nodup_range'
    refine (List.pairwise_map.1 hplaces).imp ?_
    intro p p' hne heq
    exact hne (Step.segment_index_injective (Step.foldedChars_eq_iff.1 heq))

theorem eq_of_foldedChars (h : t.WellFormed) {c c' : Step × Tree} (hc : c ∈ t.children)
    (hc' : c' ∈ t.children) (heq : c.1.foldedChars = c'.1.foldedChars) : c = c' := by
  have hsymm : Std.Symm fun c c' : Step × Tree => c.1.foldedChars ≠ c'.1.foldedChars :=
    ⟨fun _ _ hne => hne.symm⟩
  by_contra hne
  exact h.pairwise_children.forall hc hc' hne heq

/-- The paths to leaves have plain segments. -/
theorem isPlain_of_mem_leaves (h : t.WellFormed) {l : List Step × String} (hl : l ∈ t.leaves) :
    ∀ s ∈ l.1, s.IsPlain := by
  induction t using induction_children generalizing l with
  | step t ih =>
    obtain ⟨path, text⟩ := l
    cases path with
    | nil => simp
    | cons s path =>
      obtain ⟨c, hc, hmem⟩ := cons_mem_leaves_iff.1 hl
      obtain ⟨hs, hwf⟩ := h.child hc
      exact List.forall_mem_cons.2 ⟨hs, ih (s, c) hc hwf hmem⟩

theorem isPlain_of_isAt (h : t.WellFormed) {path : List Step} {node : Tree}
    (hat : t.IsAt path node) : (∀ s ∈ path, s.IsPlain) ∧ node.WellFormed := by
  induction hat with
  | here t => exact ⟨by simp, h⟩
  | step hchild hat ih =>
    obtain ⟨hs, hwf⟩ := h.child hchild
    obtain ⟨hpath, hnode⟩ := ih hwf
    exact ⟨List.forall_mem_cons.2 ⟨hs, hpath⟩, hnode⟩

end WellFormed

/-- The leaves of a node are leaves of the tree. -/
theorem IsAt.append_mem_leaves {t node : Tree} {path rest : List Step} {text : String}
    (hat : t.IsAt path node) (hmem : (rest, text) ∈ node.leaves) :
    (path ++ rest, text) ∈ t.leaves := by
  induction hat with
  | here t => exact hmem
  | step hchild hat ih => exact cons_mem_leaves_iff.2 ⟨_, hchild, ih hmem⟩

/-- A leaf whose folded segments start with those of a node's path is a leaf of
that node. -/
theorem mem_leaves_of_isAt {t node : Tree} (h : t.WellFormed) {path leafPath : List Step}
    {text : String} (hat : t.IsAt path node) (hleaf : (leafPath, text) ∈ t.leaves)
    {tail : List (List Char)}
    (htail : leafPath.map Step.foldedChars = path.map Step.foldedChars ++ tail) :
    ∃ rest, leafPath = path ++ rest ∧ (rest, text) ∈ node.leaves := by
  induction hat generalizing leafPath with
  | here t => exact ⟨leafPath, rfl, hleaf⟩
  | @step t child node s path hchild hat ih =>
    cases leafPath with
    | nil => simp at htail
    | cons s' leafPath =>
      simp only [List.map_cons, List.cons_append, List.cons.injEq] at htail
      obtain ⟨hs, htail⟩ := htail
      obtain ⟨child', hchild', hmem⟩ := cons_mem_leaves_iff.1 hleaf
      -- No two children have the same folded segment.
      obtain ⟨rfl, rfl⟩ := Prod.mk.inj (h.eq_of_foldedChars hchild' hchild hs)
      obtain ⟨rest, rfl, hrest⟩ := ih (h.child hchild).2 hmem htail
      exact ⟨rest, rfl, hrest⟩

/-- No two leaves have the same folded path. -/
theorem WellFormed.pairwise_leaves {t : Tree} (h : t.WellFormed) :
    t.leaves.Pairwise fun l l' => l.1.map Step.foldedChars ≠ l'.1.map Step.foldedChars := by
  induction t using induction_children with
  | step t ih =>
    have hbelow : (t.children.flatMap fun c => under c.1 c.2.leaves).Pairwise
        fun l l' => l.1.map Step.foldedChars ≠ l'.1.map Step.foldedChars := by
      refine List.pairwise_flatMap.2 ⟨?_, ?_⟩
      · intro c hc
        refine List.pairwise_map.2 ((ih c hc (h.child hc).2).imp ?_)
        intro l l' hne heq
        exact hne (List.cons.inj heq).2
      · refine h.pairwise_children.imp ?_
        intro c c' hne l hl l' hl' heq
        obtain ⟨path, hpath, -⟩ := mem_under_iff.1 hl
        obtain ⟨path', hpath', -⟩ := mem_under_iff.1 hl'
        rw [hpath, hpath'] at heq
        exact hne (List.cons.inj heq).1
    rw [leaves_eq]
    cases t with
    | leaf text => simp [children]
    | map members => exact hbelow
    | list items => exact hbelow

/-- Paths below a map start with a name. -/
theorem exists_name_of_mem_leaves {members : List (String × Tree)} {l : List Step × String}
    (hl : l ∈ (map members).leaves) : ∃ n path, l.1 = .name n :: path := by
  obtain ⟨path, text⟩ := l
  cases path with
  | nil =>
    rw [leaves_eq, List.nil_append, List.mem_flatMap] at hl
    obtain ⟨c, -, hc⟩ := hl
    obtain ⟨path, hpath, -⟩ := mem_under_iff.1 hc
    cases hpath
  | cons s path =>
    obtain ⟨c, hc, -⟩ := cons_mem_leaves_iff.1 hl
    obtain ⟨m, -, hm⟩ := List.mem_map.1 hc
    exact ⟨m.1, path, by rw [← (Prod.mk.inj hm).1]⟩

/-! ## The flat keys in a snapshot -/

section Merged

variable {members : List (String × Tree)}

theorem normalizeKey_of_mem_leaves (h : (map members).WellFormed) {l : List Step × String}
    (hl : l ∈ (map members).leaves) :
    Snapshot.normalizeKey (serverKey l.1) = pathKey l.1 := by
  have hplain := h.isPlain_of_mem_leaves hl
  obtain ⟨n, path, hpath⟩ := exists_name_of_mem_leaves hl
  rw [hpath] at hplain ⊢
  exact normalizeKey_serverKey hplain

theorem pieces_of_mem_leaves (h : (map members).WellFormed) {l : List Step × String}
    (hl : l ∈ (map members).leaves) :
    Text.pieces Snapshot.delimiter (Text.fold (pathKey l.1)).toList =
      l.1.map Step.foldedChars := by
  obtain ⟨n, path, hpath⟩ := exists_name_of_mem_leaves hl
  refine pieces_pathKey ?_ (h.isPlain_of_mem_leaves hl)
  rw [hpath]
  exact List.cons_ne_nil _ _

/-- No two leaves have the same key, up to case. -/
theorem pairwise_pathKey (h : (map members).WellFormed) :
    (map members).leaves.Pairwise fun l l' =>
      Text.fold (pathKey l.1) ≠ Text.fold (pathKey l'.1) := by
  refine h.pairwise_leaves.imp_of_mem ?_
  intro l l' hl hl' hne heq
  refine hne ?_
  rw [← pieces_of_mem_leaves h hl, ← pieces_of_mem_leaves h hl', heq]

/-- The pairs of the flattened tree, keys in the spelling of snapshots. -/
theorem flattened_perm (h : (map members).WellFormed) :
    ((map members).flattened.toList.map fun p => (Snapshot.normalizeKey p.1, p.2)).Perm
      ((map members).leaves.map fun l => (pathKey l.1, l.2)) := by
  have hraw : ((map members).leaves.map fun l => (serverKey l.1, l.2)).Pairwise
      fun p q => p.1 ≠ q.1 := by
    refine List.pairwise_map.2 ((pairwise_pathKey h).imp_of_mem ?_)
    intro l l' hl hl' hne heq
    refine hne ?_
    rw [← normalizeKey_of_mem_leaves h hl, ← normalizeKey_of_mem_leaves h hl']
    exact congrArg (fun k => Text.fold (Snapshot.normalizeKey k)) heq
  refine ((TextMap.toList_ofList_perm hraw).map _).trans (List.Perm.of_eq ?_)
  rw [List.map_map]
  refine List.map_congr_left fun l hl => ?_
  exact congrArg (·, l.2) (normalizeKey_of_mem_leaves h hl)

/-- An environment whose only source holds a flattened tree leaves one entry
for each leaf. -/
theorem entries_merge_flattened (h : (map members).WellFormed) {e : Environment}
    {sourceName : String} (hversion : e.version = none) (hstate : e.state = none)
    (hsources : e.propertySources = [⟨sourceName, (map members).flattened⟩]) :
    (({} : Snapshot).merge e).entries.toList.Perm
      ((map members).leaves.map fun l => Snapshot.entryOf (pathKey l.1, l.2)) := by
  have hmerged : (({} : Snapshot).merge e).entries =
      (((map members).flattened.toList.map fun p => (Snapshot.normalizeKey p.1, p.2)).foldl
        (fun s p => s.setIfAbsent p.1 p.2) ({} : Snapshot)).entries := by
    rw [Snapshot.merge, hversion, hstate, hsources, List.foldl_map]
    rfl
  have hperm := flattened_perm h
  have hdistinct : ((map members).leaves.map fun l => (pathKey l.1, l.2)).Pairwise
      fun p q => Text.fold p.1 ≠ Text.fold q.1 :=
    List.pairwise_map.2 (pairwise_pathKey h)
  rw [hmerged]
  refine (Snapshot.entries_foldl_setIfAbsent
    ((hperm.pairwise_iff fun hne => hne.symm).2 hdistinct) (by simp [TextMap.empty])).trans ?_
  rw [TextMap.empty, List.append_nil]
  refine (hperm.map _).trans (List.Perm.of_eq ?_)
  rw [List.map_map]
  rfl

/-! ## Reading back -/

/-- The key of a node, in any case, or none for the root. -/
def IsKeyOf (path : List Step) : Option String → Prop
  | none => path = []
  | some key => path ≠ [] ∧ Text.fold key = Text.fold (pathKey path)

theorem parentHead_of_isKeyOf {path : List Step} {parent : Option String}
    (h : IsKeyOf path parent) : Snapshot.parentHead parent = (stem path).map Char.toLower := by
  cases parent with
  | none =>
    have hpath : path = [] := h
    rw [hpath]
    rfl
  | some key =>
    obtain ⟨hne, hkey⟩ := h
    rw [stem_eq hne, List.map_append, ← Text.toList_fold, ← hkey]
    rfl

/-- The first segment of a key. -/
theorem takeWhile_pathKey {s : Step} (hs : s.IsPlain) (path : List Step) :
    (pathKey (s :: path)).toList.takeWhile (· ≠ Snapshot.delimiter) = s.segment.toList := by
  have hsegment : ∀ c ∈ s.segment.toList, decide (c ≠ Snapshot.delimiter) = true := by
    intro c hc
    refine decide_eq_true fun heq => ?_
    exact Step.delimiter_not_mem_of_isPlain hs (heq ▸ hc)
  rw [toList_pathKey_cons, List.takeWhile_append_of_pos hsegment]
  cases path with
  | nil => simp
  | cons t path => simp

/-- The entry of a leaf yields a segment below a node exactly if the leaf lies
below the node, and then it is the step towards the leaf. -/
theorem segmentBelow?_pathKey (h : (map members).WellFormed) {path : List Step} {node : Tree}
    (hat : (map members).IsAt path node) {l : List Step × String}
    (hl : l ∈ (map members).leaves) {segment : String} :
    Snapshot.segmentBelow? ((stem path).map Char.toLower) (Text.fold (pathKey l.1))
        ⟨pathKey l.1, l.2⟩ = some segment ↔
      ∃ s rest, l.1 = path ++ s :: rest ∧ (s :: rest, l.2) ∈ node.leaves ∧
        segment = s.segment := by
  obtain ⟨hpath, hnode⟩ := h.isPlain_of_isAt hat
  -- Past the head of the node's keys, the key of a leaf is that of the rest of its path.
  have hcut {s : Step} {rest : List Step} (hmem : (s :: rest, l.2) ∈ node.leaves) :
      String.ofList (((pathKey (path ++ s :: rest)).toList.drop
        ((stem path).map Char.toLower).length).takeWhile (· ≠ Snapshot.delimiter)) =
        s.segment := by
    have hs : s.IsPlain := hnode.isPlain_of_mem_leaves hmem s List.mem_cons_self
    rw [toList_pathKey_append path (List.cons_ne_nil s rest), List.length_map, List.drop_left,
      takeWhile_pathKey hs, String.ofList_toList]
  rw [Snapshot.segmentBelow?_eq_some_iff]
  constructor
  · rintro ⟨⟨tail, htail⟩, rfl⟩
    have hsegments := pieces_of_mem_leaves h hl
    rw [htail, pieces_stem_append hpath] at hsegments
    obtain ⟨rest, hrest, hmem⟩ := mem_leaves_of_isAt h hat hl hsegments.symm
    cases rest with
    | nil =>
      -- The key of the node itself has no delimiter after the last segment.
      rw [hrest, List.append_nil] at hsegments
      have hnil := List.append_right_eq_self.1 hsegments
      exact absurd hnil (Text.pieces_ne_nil _ _)
    | cons s rest => exact ⟨s, rest, hrest, hmem, by rw [hrest, hcut hmem]⟩
  · rintro ⟨s, rest, hrest, hmem, rfl⟩
    refine ⟨⟨(Text.fold (pathKey (s :: rest))).toList, ?_⟩, by rw [hrest, hcut hmem]⟩
    rw [hrest, Text.toList_fold, toList_pathKey_append path (List.cons_ne_nil s rest),
      List.map_append, Text.toList_fold]

/-- The segments that the entries of a flattened tree yield below a node. -/
theorem mem_segmentsBelow_iff (h : (map members).WellFormed) {path : List Step} {node : Tree}
    (hat : (map members).IsAt path node) {segment : String} :
    segment ∈ ((map members).leaves.map fun l => Snapshot.entryOf (pathKey l.1, l.2)).filterMap
        (fun p => Snapshot.segmentBelow? ((stem path).map Char.toLower) p.1 p.2) ↔
      ∃ c ∈ node.children, c.1.segment = segment ∧ c.2.leaves ≠ [] := by
  simp only [List.mem_filterMap, List.mem_map, Snapshot.entryOf]
  constructor
  · rintro ⟨p, ⟨l, hl, rfl⟩, hsegment⟩
    obtain ⟨s, rest, -, hmem, rfl⟩ := (segmentBelow?_pathKey h hat hl).1 hsegment
    obtain ⟨c, hc, hrest⟩ := cons_mem_leaves_iff.1 hmem
    exact ⟨(s, c), hc, rfl, List.ne_nil_of_mem hrest⟩
  · rintro ⟨⟨s, c⟩, hc, rfl, hne⟩
    obtain ⟨⟨rest, text⟩, hrest⟩ := List.exists_mem_of_ne_nil _ hne
    have hmem : (s :: rest, text) ∈ node.leaves := cons_mem_leaves_iff.2 ⟨c, hc, hrest⟩
    have hl := hat.append_mem_leaves hmem
    exact ⟨_, ⟨_, hl, rfl⟩, (segmentBelow?_pathKey h hat hl).2 ⟨s, rest, rfl, hmem, rfl⟩⟩

/-- A flattened tree is read back: every leaf under its path in any case, as
many keys as there are leaves, and below every node the children that have a
leaf, none of them twice. -/
theorem merge_flattened (h : (map members).WellFormed) {e : Environment} {sourceName : String}
    (hversion : e.version = none) (hstate : e.state = none)
    (hsources : e.propertySources = [⟨sourceName, (map members).flattened⟩]) :
    let s := ({} : Snapshot).merge e
    (∀ l ∈ (map members).leaves, ∀ key, Text.fold key = Text.fold (pathKey l.1) →
      s.get? key = some l.2) ∧
    s.size = (map members).leaves.length ∧
    ∀ path node, (map members).IsAt path node → ∀ parent, IsKeyOf path parent →
      ((s.children parent).Pairwise fun x y => Text.fold x ≠ Text.fold y) ∧
      ∀ segment, segment ∈ s.children parent ↔
        ∃ c ∈ node.children, c.1.segment = segment ∧ c.2.leaves ≠ [] := by
  intro s
  have hentries := entries_merge_flattened h hversion hstate hsources
  have hordered : s.entries.Ordered := (Snapshot.WellFormed.empty.merge e).ordered
  refine ⟨?_, ?_, ?_⟩
  · intro l hl key hkey
    have hmem : Snapshot.entryOf (pathKey l.1, l.2) ∈ s.entries.toList :=
      hentries.mem_iff.2 (List.mem_map.2 ⟨l, hl, rfl⟩)
    rw [Snapshot.get?, hkey, hordered.get?_eq_some_iff.2 hmem]
    rfl
  · rw [Snapshot.size, TextMap.size, hentries.length_eq, List.length_map]
  · intro path node hat parent hparent
    have hbelow (segment : String) :
        segment ∈ s.entries.toList.filterMap
            (fun p => Snapshot.segmentBelow? (Snapshot.parentHead parent) p.1 p.2) ↔
          ∃ c ∈ node.children, c.1.segment = segment ∧ c.2.leaves ≠ [] := by
      rw [parentHead_of_isKeyOf hparent, ← mem_segmentsBelow_iff h hat]
      exact (hentries.filterMap _).mem_iff
    refine ⟨Snapshot.pairwise_distinctFolded _ _, fun segment => ?_⟩
    rw [← hbelow]
    refine Snapshot.mem_distinctFolded_iff ?_
    -- Segments that agree up to case belong to one child.
    intro x hx y hy heq
    obtain ⟨c, hc, rfl, -⟩ := (hbelow x).1 hx
    obtain ⟨c', hc', rfl, -⟩ := (hbelow y).1 hy
    have hnode := (h.isPlain_of_isAt hat).2
    rw [hnode.eq_of_foldedChars hc hc' (Step.foldedChars_eq_iff.2 heq)]

/-- The keys `a`, `a-b` and `a:c` stand in this order with the second between
the others, and one map has no leaf. -/
theorem merge_flattened_interleaved :
    let members := [("a", Tree.map [("C", .leaf "1"), ("list", .list [.leaf "2", .leaf "3"])]),
      ("a-b", .leaf "4"), ("none", .map [])]
    let e : Environment := { name := "app", propertySources := [⟨"s", (map members).flattened⟩] }
    let s := ({} : Snapshot).merge e
    (map members).WellFormed ∧ s.get? "A:List:1" = some "3" ∧ s.size = 4 ∧
    (∀ segment, segment ∈ s.children none ↔ "a" = segment ∨ "a-b" = segment) ∧
    ∀ segment, segment ∈ s.children (some "A") ↔ "C" = segment ∨ "list" = segment := by
  intro members e s
  have hnames {ms : List (String × Tree)}
      (h : (ms.all fun m => m.1.toList.all fun c => decide (c ∉ reserved)) = true) :
      ∀ m ∈ ms, ∀ c ∈ m.1.toList, c ∉ reserved := by
    intro m hm c hc
    exact of_decide_eq_true (List.all_eq_true.1 (List.all_eq_true.1 h m hm) c hc)
  have hlist : (list [.leaf "2", .leaf "3"]).WellFormed := by
    refine .list fun t ht => ?_
    rcases List.mem_cons.1 ht with rfl | ht
    · exact .leaf _
    · rw [List.mem_singleton.1 ht]
      exact .leaf _
  have hmap : (map [("C", .leaf "1"), ("list", .list [.leaf "2", .leaf "3"])]).WellFormed := by
    refine .map (hnames (by decide)) (by decide) fun m hm => ?_
    rcases List.mem_cons.1 hm with rfl | hm
    · exact .leaf _
    · rw [List.mem_singleton.1 hm]
      exact hlist
  have h : (map members).WellFormed := by
    refine .map (hnames (by decide)) (by decide) fun m hm => ?_
    rcases List.mem_cons.1 hm with rfl | hm
    · exact hmap
    · rcases List.mem_cons.1 hm with rfl | hm
      · exact .leaf _
      · rw [List.mem_singleton.1 hm]
        exact .map (hnames (by decide)) (by decide) (by simp)
  obtain ⟨hget, hsize, hchildren⟩ := merge_flattened h (e := e) rfl rfl rfl
  refine ⟨h, ?_, hsize, ?_, ?_⟩
  · exact hget ([.name "a", .name "list", .index 1], "3") (by decide) _ (by decide)
  · intro segment
    rw [(hchildren [] _ (.here _) none rfl).2]
    simp [members, children, leaves, memberLeaves, under, Step.segment]
  · intro segment
    have hat : (map members).IsAt [.name "a"] _ := .step List.mem_cons_self (.here _)
    rw [(hchildren _ _ hat (some "A") ⟨by decide, by decide⟩).2]
    simp [children, leaves, itemLeaves, under, Step.segment]

end Merged

end Tree

end RemoteConfig
