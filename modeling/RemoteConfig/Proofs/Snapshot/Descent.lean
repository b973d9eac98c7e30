import RemoteConfig.Proofs.Snapshot.Children
import RemoteConfig.Proofs.Text.Fold

/-!
# Descending through segments

`Snapshot.children` finds the folded path of a parent in folded keys, and cuts
the segments behind it out of the keys as they are spelled.

* `isAtOrBelow_iff` says that the keys at a segment or below it are those that
  spell it, in some case, behind the path of the parent.
* `isValid_head` says that the cut is always made between two characters of the
  spelled key.
* `exists_first_of_mem_distinctFolded` says that of the segments that agree up
  to case the first one is kept.
* `Reaches` is the descent from the root, and `exists_reaches` says that it
  comes to every key.
* `children_build` is the result, for every snapshot that can be built.
-/

namespace RemoteConfig.Snapshot

/-! ## Paths and keys -/

/-- The path of a segment below a parent. -/
def pathBelow : Option String → String → String
  | some parent, segment => parent ++ ":" ++ segment
  | none, segment => segment

/-- The key is the path, or leads on from it, up to case. -/
def IsAtOrBelow (path key : String) : Prop :=
  Text.fold key = Text.fold path ∨ ∃ rest, Text.fold key = Text.fold (path ++ ":") ++ rest

/-- A segment ends in front of these characters. -/
def IsSegmentEnd (cs : List Char) : Prop :=
  cs = [] ∨ ∃ rest, cs = delimiter :: rest

/-- The key has this segment behind the path of the parent, in this spelling. -/
def SpelledIn (parent : Option String) (segment key : String) : Prop :=
  ∃ front back, key.toList = front ++ segment.toList ++ back ∧
    front.map Char.toLower = parentHead parent ∧ delimiter ∉ segment.toList ∧ IsSegmentEnd back

theorem toLower_eq_delimiter {c : Char} : c.toLower = delimiter ↔ c = delimiter :=
  Text.toLower_eq_iff (by decide)

theorem delimiter_mem_map_toLower {cs : List Char} :
    delimiter ∈ cs.map Char.toLower ↔ delimiter ∈ cs := by
  simp [toLower_eq_delimiter]

theorem isSegmentEnd_map_toLower {cs : List Char} :
    IsSegmentEnd (cs.map Char.toLower) ↔ IsSegmentEnd cs := by
  cases cs with
  | nil => simp [IsSegmentEnd]
  | cons c cs => simp [IsSegmentEnd, toLower_eq_delimiter]

theorem toList_fold_pathBelow (parent : Option String) (segment : String) :
    (Text.fold (pathBelow parent segment)).toList =
      parentHead parent ++ (Text.fold segment).toList := by
  cases parent with
  | none => rfl
  | some parent => simp [pathBelow, parentHead, Text.toList_fold, delimiter]

theorem isAtOrBelow_iff_append {parent : Option String} {segment key : String} :
    IsAtOrBelow (pathBelow parent segment) key ↔ ∃ back,
      (Text.fold key).toList = parentHead parent ++ (Text.fold segment).toList ++ back ∧
        IsSegmentEnd back := by
  have hdelimited : (Text.fold (pathBelow parent segment ++ ":")).toList =
      (Text.fold (pathBelow parent segment)).toList ++ [delimiter] := by
    simp [Text.toList_fold, delimiter]
  simp only [IsAtOrBelow, ← String.toList_inj, String.toList_append, hdelimited,
    toList_fold_pathBelow]
  constructor
  · rintro (h | ⟨rest, h⟩)
    · exact ⟨[], by simp [h], Or.inl rfl⟩
    · exact ⟨delimiter :: rest.toList, by simp [h], Or.inr ⟨_, rfl⟩⟩
  · rintro ⟨back, h, rfl | ⟨rest, rfl⟩⟩
    · exact Or.inl (by simpa using h)
    · exact Or.inr ⟨String.ofList rest, by simp [h]⟩

/-- The keys at a segment or below it are those that spell it in some case. -/
theorem isAtOrBelow_iff {parent : Option String} {segment key : String}
    (hsegment : delimiter ∉ segment.toList) :
    IsAtOrBelow (pathBelow parent segment) key ↔
      ∃ t, SpelledIn parent t key ∧ Text.fold t = Text.fold segment := by
  rw [isAtOrBelow_iff_append]
  constructor
  · rintro ⟨back, hkey, hback⟩
    rw [Text.toList_fold] at hkey
    obtain ⟨fronts, tail, hsplit, hfronts, rfl⟩ := List.map_eq_append_iff.1 hkey
    obtain ⟨front, cs, rfl, hfront, hcs⟩ := List.map_eq_append_iff.1 hfronts
    have hfold : Text.fold (String.ofList cs) = Text.fold segment := by
      rw [← String.toList_inj, Text.toList_fold, String.toList_ofList, hcs]
    refine ⟨String.ofList cs, ⟨front, tail, by rw [hsplit, String.toList_ofList], hfront, ?_,
      isSegmentEnd_map_toLower.1 hback⟩, hfold⟩
    rw [String.toList_ofList, ← delimiter_mem_map_toLower, hcs, Text.toList_fold,
      delimiter_mem_map_toLower]
    exact hsegment
  · rintro ⟨t, ⟨front, back, hkey, hfront, -, hback⟩, hfold⟩
    refine ⟨back.map Char.toLower, ?_, isSegmentEnd_map_toLower.2 hback⟩
    rw [Text.toList_fold, hkey, ← hfold, Text.toList_fold, List.map_append, List.map_append, hfront]

/-! ## The cut -/

/-- A segment is what stands in front of its end. -/
theorem takeWhile_eq_iff {cs segment : List Char} :
    cs.takeWhile (· ≠ delimiter) = segment ↔
      ∃ back, cs = segment ++ back ∧ delimiter ∉ segment ∧ IsSegmentEnd back := by
  constructor
  · rintro rfl
    refine ⟨cs.dropWhile (· ≠ delimiter), List.takeWhile_append_dropWhile.symm, fun hmem => ?_, ?_⟩
    · simpa using List.all_eq_true.1 List.all_takeWhile _ hmem
    · have hhead := List.head?_dropWhile_not (· ≠ delimiter) cs
      cases hdrop : cs.dropWhile (· ≠ delimiter) with
      | nil => exact Or.inl rfl
      | cons c rest =>
        rw [hdrop] at hhead
        have hc : c = delimiter := by simpa using hhead
        exact Or.inr ⟨rest, by rw [hc]⟩
  · rintro ⟨back, rfl, hsegment, hback⟩
    have hpass : ∀ c ∈ segment, decide (c ≠ delimiter) = true := by
      intro c hc
      refine decide_eq_true ?_
      rintro rfl
      exact hsegment hc
    rw [List.takeWhile_append_of_pos hpass]
    rcases hback with rfl | ⟨rest, rfl⟩ <;> simp

/-- What the folded key has in front, the spelled key has in front in some case,
up to the same byte. -/
theorem exists_front {key : String} {head rest : List Char}
    (h : (Text.fold key).toList = head ++ rest) :
    ∃ front back, key.toList = front ++ back ∧ front.map Char.toLower = head ∧
      key.toList.drop head.length = back ∧
      (String.ofList front).utf8ByteSize = (String.ofList head).utf8ByteSize := by
  rw [Text.toList_fold] at h
  obtain ⟨front, back, hkey, rfl, -⟩ := List.map_eq_append_iff.1 h
  refine ⟨front, back, hkey, rfl, ?_, (Text.utf8ByteSize_map_toLower front).symm⟩
  rw [hkey, List.length_map, List.drop_left]

/-- The cut in a spelled key is made where the folded head ends.  That is a place
between two characters, and what stands behind it is what the segment is taken
from. -/
theorem isValid_head {key : String} {head rest : List Char}
    (h : (Text.fold key).toList = head ++ rest) :
    (String.ofList head).rawEndPos.IsValid key ∧
      ∃ front, key = front ++ String.ofList (key.toList.drop head.length) ∧
        front.rawEndPos = (String.ofList head).rawEndPos := by
  obtain ⟨front, back, hkey, -, hdrop, hsize⟩ := exists_front h
  have hsplit : key = String.ofList front ++ String.ofList (key.toList.drop head.length) := by
    rw [hdrop, ← String.ofList_append, ← hkey, String.ofList_toList]
  have hpos : (String.ofList front).rawEndPos = (String.ofList head).rawEndPos :=
    String.Pos.Raw.ext hsize
  exact ⟨String.Pos.Raw.isValid_iff_exists_append.2 ⟨_, _, hsplit, hpos.symm⟩, _, hsplit, hpos⟩

/-- The segment of an entry is spelled as in its key. -/
theorem segmentBelow?_eq_some_iff_spelledIn {parent : Option String} {folded : String}
    {entry : Entry} (hfolded : Text.fold entry.key = folded) {segment : String} :
    segmentBelow? (parentHead parent) folded entry = some segment ↔
      SpelledIn parent segment entry.key := by
  rw [segmentBelow?_eq_some_iff, ← hfolded]
  constructor
  · rintro ⟨⟨rest, hrest⟩, hsegment⟩
    obtain ⟨front, cs, hkey, hfront, hdrop, -⟩ := exists_front hrest
    rw [hdrop, ← String.toList_inj, String.toList_ofList] at hsegment
    obtain ⟨back, rfl, hnot, hback⟩ := takeWhile_eq_iff.1 hsegment.symm
    exact ⟨front, back, by rw [hkey, List.append_assoc], hfront, hnot, hback⟩
  · rintro ⟨front, back, hkey, hfront, hnot, hback⟩
    rw [← hfront, List.length_map, hkey, List.append_assoc, List.drop_left,
      takeWhile_eq_iff.2 ⟨back, rfl, hnot, hback⟩, String.ofList_toList, Text.toList_fold, hkey,
      List.append_assoc, List.map_append]
    exact ⟨⟨_, rfl⟩, rfl⟩

/-! ## The segments that are kept -/

/-- Of the segments that agree up to case the first one is kept. -/
theorem exists_first_of_mem_distinctFolded {seen l : List String} {s : String}
    (h : s ∈ distinctFolded seen l) :
    ∃ before after, l = before ++ s :: after ∧ ∀ t ∈ before, Text.fold t ≠ Text.fold s := by
  induction l generalizing seen with
  | nil => cases h
  | cons t l ih =>
    have hnew := (of_mem_distinctFolded h).2
    rw [distinctFolded] at h
    split at h
    · rename_i hseen
      obtain ⟨before, after, rfl, hbefore⟩ := ih h
      refine ⟨t :: before, after, rfl, List.forall_mem_cons.2 ⟨fun heq => ?_, hbefore⟩⟩
      exact hnew (heq ▸ by simpa using hseen)
    · rcases List.mem_cons.1 h with rfl | h
      · exact ⟨[], l, rfl, by simp⟩
      · obtain ⟨before, after, rfl, hbefore⟩ := ih h
        refine ⟨t :: before, after, rfl, List.forall_mem_cons.2 ⟨fun heq => ?_, hbefore⟩⟩
        exact (of_mem_distinctFolded h).2 (heq ▸ List.mem_cons_self)

section Children

variable {s : Snapshot} {parent : Option String} {segment : String}

/-- What is cut out of all entries. -/
theorem mem_segments_iff (h : s.WellFormed) :
    segment ∈ s.entries.toList.filterMap (fun p => segmentBelow? (parentHead parent) p.1 p.2) ↔
      ∃ p ∈ s.pairs, SpelledIn parent segment p.1 := by
  rw [List.mem_filterMap]
  constructor
  · rintro ⟨p, hp, hsegment⟩
    exact ⟨_, List.mem_map_of_mem hp,
      (segmentBelow?_eq_some_iff_spelledIn (h.folded p hp)).1 hsegment⟩
  · rintro ⟨q, hq, hspelled⟩
    obtain ⟨p, hp, rfl⟩ := List.mem_map.1 hq
    exact ⟨p, hp, (segmentBelow?_eq_some_iff_spelledIn (h.folded p hp)).2 hspelled⟩

theorem exists_spelledIn_of_mem_children (h : s.WellFormed) (hmem : segment ∈ s.children parent) :
    ∃ p ∈ s.pairs, SpelledIn parent segment p.1 :=
  (mem_segments_iff h).1 (of_mem_distinctFolded hmem).1

/-- The segments below a parent are those that keys below it have, up to case. -/
theorem exists_mem_children_iff (h : s.WellFormed) (hsegment : delimiter ∉ segment.toList) :
    (∃ t ∈ s.children parent, Text.fold t = Text.fold segment) ↔
      ∃ p ∈ s.pairs, IsAtOrBelow (pathBelow parent segment) p.1 := by
  simp only [isAtOrBelow_iff hsegment]
  constructor
  · rintro ⟨t, ht, hfold⟩
    obtain ⟨p, hp, hspelled⟩ := exists_spelledIn_of_mem_children h ht
    exact ⟨p, hp, t, hspelled, hfold⟩
  · rintro ⟨p, hp, t, hspelled, hfold⟩
    obtain ⟨u, hu, heq⟩ :=
      exists_mem_distinctFolded ((mem_segments_iff h).2 ⟨p, hp, hspelled⟩) List.not_mem_nil
    exact ⟨u, hu, heq.trans hfold⟩

/-- A segment is spelled as in the first of the keys at it or below it. -/
theorem exists_least_of_mem_children (h : s.WellFormed) (hmem : segment ∈ s.children parent) :
    ∃ p ∈ s.pairs, SpelledIn parent segment p.1 ∧
      ∀ q ∈ s.pairs, IsAtOrBelow (pathBelow parent segment) q.1 →
        Text.fold p.1 ≤ Text.fold q.1 := by
  obtain ⟨before, after, hsplit, hbefore⟩ := exists_first_of_mem_distinctFolded hmem
  obtain ⟨first, others, hentries, hfirst, hothers⟩ := List.filterMap_eq_append_iff.1 hsplit
  obtain ⟨skipped, p, rest, rfl, hskipped, hp, -⟩ := List.filterMap_eq_cons_iff.1 hothers
  have hin {q : String × Entry} (hq : q ∈ first ++ (skipped ++ p :: rest)) :
      q ∈ s.entries.toList := hentries ▸ hq
  have hpmem := hin (by simp : p ∈ first ++ (skipped ++ p :: rest))
  have hspelled := (segmentBelow?_eq_some_iff_spelledIn (h.folded p hpmem)).1 hp
  obtain ⟨-, -, -, -, hdelimiter, -⟩ := id hspelled
  refine ⟨(p.2.key, p.2.value), List.mem_map_of_mem hpmem, hspelled, ?_⟩
  rw [pairs, List.forall_mem_map]
  intro q hq hbelow
  obtain ⟨t, ht, hfold⟩ := (isAtOrBelow_iff hdelimiter).1 hbelow
  have hsegment := (segmentBelow?_eq_some_iff_spelledIn (h.folded q hq)).2 ht
  -- The entries in front of the first one have other segments, or none.
  have hlater : q ∈ p :: rest := by
    rw [hentries, ← List.append_assoc, List.mem_append, List.mem_append] at hq
    rcases hq with (hq | hq) | hq
    · refine absurd hfold (hbefore t ?_)
      rw [← hfirst]
      exact List.mem_filterMap.2 ⟨q, hq, hsegment⟩
    · rw [hskipped q hq] at hsegment
      cases hsegment
    · exact hq
  rw [h.folded p hpmem, h.folded q hq]
  rcases List.mem_cons.1 hlater with rfl | hlater
  · exact String.le_refl _
  · have hordered : (p :: rest).Pairwise fun p q => p.1 < q.1 := by
      have hall := h.ordered
      rw [TextMap.Ordered, hentries, ← List.append_assoc] at hall
      exact (List.pairwise_append.1 hall).2.1
    exact Std.le_of_lt ((List.pairwise_cons.1 hordered).1 q hlater)

/-! ## The descent -/

/-- What is reached from the root by descending through segments. -/
inductive Reaches (s : Snapshot) : Option String → Prop where
  | root : Reaches s none
  | descend {parent : Option String} {segment : String} (h : Reaches s parent)
    (hsegment : segment ∈ s.children parent) : Reaches s (some (pathBelow parent segment))

/-- From a parent whose path a key has in front, the descent comes to the key.  The
induction is on what is left of the key. -/
theorem Reaches.exists_of_append (h : s.WellFormed) {p : String × String} (hp : p ∈ s.pairs)
    {rest : List Char} (hparent : s.Reaches parent)
    (hkey : (Text.fold p.1).toList = parentHead parent ++ rest) :
    ∃ path, s.Reaches (some path) ∧ Text.fold path = Text.fold p.1 := by
  induction hlength : rest.length using Nat.strongRecOn generalizing parent rest with
  | ind n ih =>
    obtain ⟨front, cs, hcs, hfront, -, -⟩ := exists_front hkey
    obtain ⟨back, hback⟩ := takeWhile_eq_iff.1 (Eq.refl (cs.takeWhile (· ≠ delimiter)))
    generalize cs.takeWhile (· ≠ delimiter) = segment at hback
    obtain ⟨rfl, hsegment, hend⟩ := hback
    have hspelled : SpelledIn parent (String.ofList segment) p.1 := by
      refine ⟨front, back, ?_, hfront, ?_, hend⟩ <;> rw [String.toList_ofList]
      · rw [hcs, List.append_assoc]
      · exact hsegment
    obtain ⟨t, ht, hfold⟩ :=
      exists_mem_distinctFolded ((mem_segments_iff h).2 ⟨p, hp, hspelled⟩) List.not_mem_nil
    have hreached : s.Reaches (some (pathBelow parent t)) := .descend hparent ht
    have hpath : (Text.fold p.1).toList =
        (Text.fold (pathBelow parent t)).toList ++ back.map Char.toLower := by
      rw [toList_fold_pathBelow, hfold, Text.toList_fold, Text.toList_fold, hcs, List.map_append,
        List.map_append, hfront, String.toList_ofList, List.append_assoc]
    rcases hend with rfl | ⟨back, rfl⟩
    · refine ⟨_, hreached, ?_⟩
      rw [← String.toList_inj, hpath, List.map_nil, List.append_nil]
    · refine ih (back.map Char.toLower).length ?_ hreached ?_ rfl
      · have hlengths := congrArg List.length (hkey.symm.trans hpath)
        simp only [toList_fold_pathBelow, List.length_append, List.length_map, List.length_cons]
          at hlengths ⊢
        omega
      · rw [hpath, parentHead, List.append_assoc]
        rfl

/-- The descent comes to every key. -/
theorem exists_reaches (h : s.WellFormed) {p : String × String} (hp : p ∈ s.pairs) :
    ∃ path, s.Reaches (some path) ∧ Text.fold path = Text.fold p.1 :=
  Reaches.exists_of_append h hp .root rfl

end Children

/-- The segments below any parent, in every snapshot that is built in steps.

An entry is cut between two characters of its key, where the head of the parent
ends.  A segment without a delimiter is found, up to case, exactly if a key is at
it or below it.  No segment is found twice.  Each is spelled as in the least
folded key at it or below it.  The descent through segments comes to every
key. -/
theorem children_build (steps : List BuildStep) (parent : Option String) :
    let s := build steps
    let head := String.ofList (parentHead parent)
    (∀ p ∈ s.entries.toList, parentHead parent <+: p.1.toList →
      head.rawEndPos.IsValid p.2.key ∧
      ∃ front back : String, p.2.key = front ++ back ∧ front.rawEndPos = head.rawEndPos ∧
        segmentBelow? (parentHead parent) p.1 p.2 =
          some (String.ofList (back.toList.takeWhile (· ≠ delimiter)))) ∧
    (∀ segment : String, delimiter ∉ segment.toList →
      ((∃ t ∈ s.children parent, Text.fold t = Text.fold segment) ↔
        ∃ p ∈ s.pairs, IsAtOrBelow (pathBelow parent segment) p.1)) ∧
    ((s.children parent).Pairwise fun t u => Text.fold t ≠ Text.fold u) ∧
    (∀ t ∈ s.children parent, ∃ p ∈ s.pairs, SpelledIn parent t p.1 ∧
      IsAtOrBelow (pathBelow parent t) p.1 ∧
      ∀ q ∈ s.pairs, IsAtOrBelow (pathBelow parent t) q.1 → Text.fold p.1 ≤ Text.fold q.1) ∧
    ∀ p ∈ s.pairs, ∃ path, s.Reaches (some path) ∧ Text.fold path = Text.fold p.1 := by
  intro s head
  have h : s.WellFormed := wellFormed_build steps
  refine ⟨fun p hp hstarts => ?_, fun segment hsegment => exists_mem_children_iff h hsegment,
    pairwise_distinctFolded _ _, fun t ht => ?_, fun p hp => exists_reaches h hp⟩
  · obtain ⟨rest, hrest⟩ := hstarts
    rw [← h.folded p hp] at hrest
    obtain ⟨hvalid, front, hkey, hfront⟩ := isValid_head hrest.symm
    refine ⟨hvalid, front, _, hkey, hfront, ?_⟩
    rw [segmentBelow?_eq_some_iff, String.toList_ofList, ← h.folded p hp]
    exact ⟨⟨rest, hrest.symm⟩, rfl⟩
  · obtain ⟨p, hp, hspelled, hleast⟩ := exists_least_of_mem_children h ht
    obtain ⟨-, -, -, -, hdelimiter, -⟩ := id hspelled
    exact ⟨p, hp, hspelled, (isAtOrBelow_iff hdelimiter).2 ⟨t, hspelled, rfl⟩, hleast⟩

end RemoteConfig.Snapshot
