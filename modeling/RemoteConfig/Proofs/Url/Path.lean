import RemoteConfig.Proofs.Text.Split
import RemoteConfig.Proofs.Url.Percent
import RemoteConfig.Url.Path

/-!
# Segments of paths

* `isDot_iff` and `isDoubleDot_iff` say in terms of `decode` which segments act
  on a path.
* `IsSegment` holds of the segments that a path is written with.  All readers
  and writers of paths keep to them, and `readSegments_text` reads a path back.
* `Keeps` says that segments stay at the front of a path.  Appending further
  segments never loses them, and `foldl_pushSegment` says what the first one
  that is appended can do.
-/

namespace RemoteConfig.Url

/-! ## Dots -/

/-- A text starts with a dot, as it is or as an escape. -/
def StartsWithDot (cs rest : List Char) : Prop :=
  cs = '.' :: rest ∨ cs = '%' :: '2' :: 'e' :: rest ∨ cs = '%' :: '2' :: 'E' :: rest

theorem isEscape_dot_iff {high low : Char} :
    IsEscape high low 0x2E ↔ high = '2' ∧ (low = 'e' ∨ low = 'E') := by
  constructor
  · rintro ⟨x, y, hx, hy, hb⟩
    have hxlt := Radix.hexValue?_lt hx
    have hylt := Radix.hexValue?_lt hy
    have hn : x * 16 + y = 0x2E := by
      rw [← UInt8.toNat_ofNat_of_lt' (show x * 16 + y < UInt8.size by simp [UInt8.size]; omega), hb]
      rfl
    obtain ⟨rfl, rfl⟩ : x = 2 ∧ y = 14 := by omega
    constructor
    · refine Char.toNat_inj.1 (?_ : high.toNat = 0x32)
      rcases Radix.hexValue?_eq_some hx with h | h | h <;> omega
    · rcases Radix.hexValue?_eq_some hy with h | h | h
      · omega
      · exact Or.inl (Char.toNat_inj.1 (show low.toNat = 0x65 by omega))
      · exact Or.inr (Char.toNat_inj.1 (show low.toNat = 0x45 by omega))
  · rintro ⟨rfl, rfl | rfl⟩ <;> exact ⟨2, 14, rfl, rfl, rfl⟩

theorem charBytes_eq_dot_iff {c : Char} {bs rest : List UInt8} :
    Text.charBytes c ++ bs = 0x2E :: rest ↔ c = '.' ∧ bs = rest := by
  constructor
  · intro h
    by_cases hc : Text.IsAscii c
    · rw [Text.charBytes_of_isAscii hc, List.singleton_append, List.cons.injEq] at h
      refine ⟨Char.toNat_inj.1 ?_, h.2⟩
      rw [← Text.toNat_ofNat_of_isAscii hc, h.1]
      rfl
    · obtain ⟨b, bytes, hb⟩ := List.exists_cons_of_ne_nil (Text.charBytes_ne_nil c)
      have hle := Text.le_of_mem_charBytes hc (hb ▸ List.mem_cons_self)
      rw [hb, List.cons_append, List.cons.injEq] at h
      rw [h.1] at hle
      exact absurd hle (by decide)
  · rintro ⟨rfl, rfl⟩
    rfl

theorem bytesOfChars_eq_dots_iff {n : Nat} {cs : List Char} :
    Text.bytesOfChars cs = List.replicate n 0x2E ↔ cs = List.replicate n '.' := by
  induction n generalizing cs with
  | zero => cases cs <;> simp [Text.bytesOfChars, Text.charBytes_ne_nil]
  | succ n ih =>
    cases cs with
    | nil => simp [Text.bytesOfChars, List.replicate_succ]
    | cons c cs =>
      rw [Text.bytesOfChars, List.flatMap_cons, List.replicate_succ, charBytes_eq_dot_iff,
        List.replicate_succ, List.cons.injEq]
      exact and_congr_right fun _ => ih

theorem decode_eq_cons_dot_iff {cs : List Char} {bs : List UInt8} :
    decode cs = 0x2E :: bs ↔ ∃ rest, StartsWithDot cs rest ∧ decode rest = bs := by
  constructor
  · intro h
    induction cs using decode_induction with
    | nil => cases h
    | escape high low b cs hescape _ =>
      rw [decode_escape hescape, List.cons.injEq] at h
      obtain ⟨rfl, rfl⟩ := h
      obtain ⟨rfl, rfl | rfl⟩ := isEscape_dot_iff.1 hescape
      · exact ⟨cs, Or.inr (Or.inl rfl), rfl⟩
      · exact ⟨cs, Or.inr (Or.inr rfl), rfl⟩
    | literal c cs hliteral _ =>
      rw [decode_literal hliteral] at h
      obtain ⟨rfl, rfl⟩ := charBytes_eq_dot_iff.1 h
      exact ⟨cs, Or.inl rfl, rfl⟩
  · rintro ⟨rest, rfl | rfl | rfl, rfl⟩
    · exact decode_literal fun h => absurd h (by decide)
    · exact decode_escape (isEscape_dot_iff.2 ⟨rfl, Or.inl rfl⟩) rest
    · exact decode_escape (isEscape_dot_iff.2 ⟨rfl, Or.inr rfl⟩) rest

theorem decode_eq_nil_iff {cs : List Char} : decode cs = [] ↔ cs = [] := by
  constructor
  · intro h
    induction cs using decode_induction with
    | nil => rfl
    | escape high low b cs hescape _ =>
      rw [decode_escape hescape] at h
      cases h
    | literal c cs hliteral _ =>
      rw [decode_literal hliteral] at h
      exact absurd (List.append_eq_nil_iff.1 h).1 (Text.charBytes_ne_nil c)
  · rintro rfl
    rfl

theorem plainDots_eq_cons_dot_iff {cs ds : List Char} :
    plainDots cs = '.' :: ds ↔ ∃ rest, StartsWithDot cs rest ∧ plainDots rest = ds := by
  constructor
  · intro h
    fun_cases plainDots cs with
    | case1 rest => exact ⟨rest, Or.inr (Or.inl rfl), by simpa [plainDots] using h⟩
    | case2 rest => exact ⟨rest, Or.inr (Or.inr rfl), by simpa [plainDots] using h⟩
    | case3 c rest h1 h2 =>
      rw [plainDots.eq_3 c rest h1 h2, List.cons.injEq] at h
      exact ⟨rest, Or.inl (by rw [h.1]), h.2⟩
    | case4 => cases h
  · rintro ⟨rest, rfl | rfl | rfl, rfl⟩
    · exact plainDots.eq_3 '.' rest (by simp) (by simp)
    · rfl
    · rfl

theorem plainDots_eq_nil_iff {cs : List Char} : plainDots cs = [] ↔ cs = [] := by
  constructor
  · intro h
    fun_cases plainDots cs with
    | case1 rest => simp [plainDots] at h
    | case2 rest => simp [plainDots] at h
    | case3 c rest h1 h2 =>
      rw [plainDots.eq_3 c rest h1 h2] at h
      cases h
    | case4 => rfl
  · rintro rfl
    rfl

/-- Escaped dots count as dots. -/
theorem plainDots_eq_replicate_iff {n : Nat} {cs : List Char} :
    plainDots cs = List.replicate n '.' ↔ decode cs = List.replicate n 0x2E := by
  induction n generalizing cs with
  | zero => rw [List.replicate_zero, List.replicate_zero, plainDots_eq_nil_iff, decode_eq_nil_iff]
  | succ n ih =>
    rw [List.replicate_succ, List.replicate_succ, plainDots_eq_cons_dot_iff, decode_eq_cons_dot_iff]
    simp only [ih]

theorem isDot_iff {cs : List Char} : isDot cs = true ↔ decode cs = [0x2E] := by
  rw [isDot, decide_eq_true_iff]
  exact plainDots_eq_replicate_iff (n := 1)

theorem isDoubleDot_iff {cs : List Char} : isDoubleDot cs = true ↔ decode cs = [0x2E, 0x2E] := by
  rw [isDoubleDot, decide_eq_true_iff]
  exact plainDots_eq_replicate_iff (n := 2)

/-! ## Segments -/

/-- A segment as it stands in a path: encoded, and neither a dot nor a double
dot. -/
structure IsSegment (s : String) : Prop where
  encoded : ∀ c ∈ s.toList, pathSet c = false
  noSlash : '/' ∉ s.toList
  noBackslash : '\\' ∉ s.toList
  noDot : isDot s.toList = false
  noDoubleDot : isDoubleDot s.toList = false

theorem isSegment_empty : IsSegment "" where
  encoded _ h := by cases h
  noSlash h := by cases h
  noBackslash h := by cases h
  noDot := rfl
  noDoubleDot := rfl

/-- What a set that includes the one of paths makes of a text without slashes
and dots is a segment. -/
theorem isSegment_encode {set : EncodeSet} (hset : ∀ c, pathSet c = true → set c = true)
    {cs : List Char} (hslash : set '/' = true ∨ '/' ∉ cs) (hbackslash : set '\\' = true ∨ '\\' ∉ cs)
    (hdot : decode (encode set cs) ≠ [0x2E]) (hdots : decode (encode set cs) ≠ [0x2E, 0x2E]) :
    IsSegment (String.ofList (encode set cs)) := by
  have hnot {c : Char} (hc : set c = true ∨ c ∉ cs) (hpercent : c ≠ '%')
      (hdigit : Radix.hexValue? c = none) : c ∉ encode set cs := by
    intro hmem
    rcases of_mem_encode hmem with ⟨hmem, hset⟩ | hc | hc
    · exact hc.elim (fun h => by simp [h] at hset) (fun h => h hmem)
    · exact hpercent hc
    · simp [hdigit] at hc
  constructor <;> rw [String.toList_ofList]
  · exact fun c => not_mem_of_mem_encode hset pathSet_sparesEscapes
  · exact hnot hslash (by decide) (by decide)
  · exact hnot hbackslash (by decide) (by decide)
  · exact Bool.eq_false_iff.2 fun h => hdot (isDot_iff.1 h)
  · exact Bool.eq_false_iff.2 fun h => hdots (isDoubleDot_iff.1 h)

theorem IsSegment.encode_eq {s : String} (h : IsSegment s) :
    String.ofList (encode pathSet s.toList) = s := by
  rw [encode_of_not_mem h.encoded, String.ofList_toList]

/-! ## Reading -/

theorem addSegment_of_isSegment {s : String} (h : IsSegment s) (segs : List String) (final : Bool) :
    addSegment segs s.toList final = segs ++ [s] := by
  simp [addSegment, h.noDot, h.noDoubleDot, h.encode_eq]

theorem addSegments_of_isSegment {ss : List String} (h : ∀ s ∈ ss, IsSegment s)
    (segs : List String) : addSegments segs (ss.map String.toList) = segs ++ ss := by
  induction ss generalizing segs with
  | nil => simp [addSegments]
  | cons s ss ih =>
    obtain ⟨hs, hss⟩ := List.forall_mem_cons.1 h
    cases ss with
    | nil => exact addSegment_of_isSegment hs segs true
    | cons t ss =>
      have hrest := ih hss (segs ++ [s])
      simp only [List.map_cons, addSegments, addSegment_of_isSegment hs] at hrest ⊢
      rw [hrest, List.append_assoc, List.singleton_append]

/-- A path is read back from its text. -/
theorem readSegments_text {s : String} {ss : List String} (h : ∀ t ∈ s :: ss, IsSegment t) :
    readSegments true (s.toList ++ ss.flatMap fun t => '/' :: t.toList) = s :: ss := by
  have hchars (c : Char) (hc : c ∈ s.toList ++ ss.flatMap fun t => '/' :: t.toList) : c ≠ '\\' := by
    rintro rfl
    rcases List.mem_append.1 hc with hc | hc
    · exact (h s List.mem_cons_self).noBackslash hc
    · obtain ⟨t, ht, hc⟩ := List.mem_flatMap.1 hc
      exact (h t (List.mem_cons_of_mem s ht)).noBackslash
        (List.mem_of_ne_of_mem (by decide) hc)
  have hplain : (s.toList ++ ss.flatMap fun t => '/' :: t.toList).map
      (fun c => if c = '\\' then '/' else c) = s.toList ++ ss.flatMap fun t => '/' :: t.toList :=
    (List.map_congr_left fun c hc => if_neg (hchars c hc)).trans (List.map_id' _)
  have hpieces : Text.pieces '/' (s.toList ++ ss.flatMap fun t => '/' :: t.toList) =
      (s :: ss).map String.toList := by
    rw [← List.flatMap_map]
    exact Text.pieces_flatMap (h s List.mem_cons_self).noSlash
      (List.forall_mem_map.2 fun t ht => (h t (List.mem_cons_of_mem s ht)).noSlash)
  rw [readSegments, if_pos rfl, hplain, hpieces]
  exact addSegments_of_isSegment h []

theorem isSegment_of_mem_addSegment {segs : List String} (hsegs : ∀ s ∈ segs, IsSegment s)
    {cs : List Char} (hslash : '/' ∉ cs) (hbackslash : '\\' ∉ cs) (final : Bool) :
    ∀ s ∈ addSegment segs cs final, IsSegment s := by
  have hlast : ∀ s ∈ segs.dropLast, IsSegment s := fun s hs => hsegs s (List.dropLast_subset _ hs)
  have hempty {ss : List String} (hss : ∀ s ∈ ss, IsSegment s) : ∀ s ∈ ss ++ [""], IsSegment s :=
    List.forall_mem_append.2 ⟨hss, by simpa using isSegment_empty⟩
  unfold addSegment
  split
  · split
    · exact hempty hlast
    · exact hlast
  · split
    · split
      · exact hempty hsegs
      · exact hsegs
    · rename_i hdots hdot
      rw [isDoubleDot_iff] at hdots
      rw [isDot_iff] at hdot
      refine List.forall_mem_append.2 ⟨hsegs, List.forall_mem_singleton.2 ?_⟩
      apply isSegment_encode (fun _ => id) (Or.inr hslash) (Or.inr hbackslash)
      · rwa [decode_encode pathSet_sparesEscapes]
      · rwa [decode_encode pathSet_sparesEscapes]

theorem addSegment_final_ne_nil (segs : List String) (cs : List Char) :
    addSegment segs cs true ≠ [] := by
  unfold addSegment
  split
  · simp
  · split <;> simp

theorem of_mem_addSegments {segs : List String} {pieces : List (List Char)}
    (hsegs : ∀ s ∈ segs, IsSegment s) (hpieces : ∀ p ∈ pieces, '/' ∉ p ∧ '\\' ∉ p) :
    (∀ s ∈ addSegments segs pieces, IsSegment s) ∧
      (pieces ≠ [] → addSegments segs pieces ≠ []) := by
  fun_induction addSegments segs pieces with
  | case1 => exact ⟨hsegs, fun h => absurd rfl h⟩
  | case2 segs last =>
    obtain ⟨hslash, hbackslash⟩ := hpieces last List.mem_cons_self
    exact ⟨isSegment_of_mem_addSegment hsegs hslash hbackslash true,
      fun _ => addSegment_final_ne_nil segs last⟩
  | case3 segs p rest hrest ih =>
    obtain ⟨⟨hslash, hbackslash⟩, htail⟩ := List.forall_mem_cons.1 hpieces
    obtain ⟨hall, hne⟩ := ih (isSegment_of_mem_addSegment hsegs hslash hbackslash false) htail
    exact ⟨hall, fun _ => hne fun h => by simp [h] at hrest⟩

/-- A path that is read has segments. -/
theorem readSegments_isSegment (cs : List Char) :
    (∀ s ∈ readSegments true cs, IsSegment s) ∧ readSegments true cs ≠ [] := by
  have hplain : '\\' ∉ cs.map fun c => if c = '\\' then '/' else c := by
    intro h
    obtain ⟨c, -, hc⟩ := List.mem_map.1 h
    split at hc
    · exact absurd hc (by decide)
    · exact absurd hc ‹_›
  rw [readSegments, if_pos rfl]
  obtain ⟨hall, hne⟩ := of_mem_addSegments (List.forall_mem_nil IsSegment) fun p hp =>
    have hpiece := Text.of_mem_pieces hp
    ⟨hpiece.1, fun h => hplain (hpiece.2 h)⟩
  exact ⟨hall, hne (Text.pieces_ne_nil _ _)⟩

/-! ## Appending -/

theorem isSegment_of_mem_popEmpty {segs : List String} (hsegs : ∀ s ∈ segs, IsSegment s) :
    ∀ s ∈ popEmpty segs, IsSegment s := by
  unfold popEmpty
  split
  · split
    · exact fun s hs => hsegs s (List.dropLast_subset _ hs)
    · exact hsegs
  · exact hsegs

theorem popEmpty_ne_nil {segs : List String} (h : segs ≠ []) : popEmpty segs ≠ [] := by
  unfold popEmpty
  split
  · split
    · simp
    · simp
  · exact h

theorem stem_subset (segs : List String) : stem segs ⊆ segs := by
  unfold stem
  split
  · exact List.nil_subset _
  · exact List.Subset.refl _

/-- A segment that is not appended. -/
def isSkipped (s : String) : Bool :=
  s = "." || s = ".."

/-- A segment that shortens the path it is appended to: a double dot with tabs
or line ends in it. -/
def isHiddenDoubleDot (s : String) : Bool :=
  s ≠ ".." && s.toList.filter (!isDropped ·) = ['.', '.']

/-- What appending a segment comes to. -/
inductive Pushed (segs : List String) (s : String) : List String → Prop where
  | skipped (h : isSkipped s = true) : Pushed segs s segs
  | shortened (h : isHiddenDoubleDot s = true) : Pushed segs s ((stem segs).dropLast ++ [""])
  | extended (hskipped : isSkipped s = false) (hhidden : isHiddenDoubleDot s = false) (t : String)
    (ht : IsSegment t) : Pushed segs s (stem segs ++ [t])

theorem pushSegment_pushed (segs : List String) (s : String) :
    Pushed segs s (pushSegment segs s) := by
  unfold pushSegment
  split
  · rename_i h
    exact .skipped h
  · rename_i h
    have hskipped : isSkipped s = false := Bool.eq_false_iff.2 h
    have hne : s ≠ ".." := fun hs => by simp [isSkipped, hs] at hskipped
    simp only
    split
    · rename_i hdots
      exact .shortened (by simp [isHiddenDoubleDot, hne, hdots])
    · rename_i hdots
      have hhidden : isHiddenDoubleDot s = false := by simp [isHiddenDoubleDot, hdots]
      split
      · exact .extended hskipped hhidden "" isSegment_empty
      · rename_i hdot
        refine .extended hskipped hhidden _ (isSegment_encode (fun c hc => by simp [segmentSet, hc])
          (Or.inl (by decide)) (Or.inl (by decide)) ?_ ?_)
        · rw [decode_encode_of_percent (by decide)]
          exact fun h => hdot (bytesOfChars_eq_dots_iff (n := 1).1 h)
        · rw [decode_encode_of_percent (by decide)]
          exact fun h => hdots (bytesOfChars_eq_dots_iff (n := 2).1 h)

namespace Pushed

variable {segs segs' : List String} {s : String}

theorem isSegment (h : Pushed segs s segs') (hsegs : ∀ t ∈ segs, IsSegment t) :
    ∀ t ∈ segs', IsSegment t := by
  have hstem : ∀ t ∈ stem segs, IsSegment t := fun t ht => hsegs t (stem_subset segs ht)
  cases h with
  | skipped => exact hsegs
  | shortened =>
    exact List.forall_mem_append.2
      ⟨fun t ht => hstem t (List.dropLast_subset _ ht), List.forall_mem_singleton.2 isSegment_empty⟩
  | extended _ _ t ht => exact List.forall_mem_append.2 ⟨hstem, List.forall_mem_singleton.2 ht⟩

theorem ne_nil (h : Pushed segs s segs') (hsegs : segs ≠ []) : segs' ≠ [] := by
  cases h with
  | skipped => exact hsegs
  | shortened => simp
  | extended => simp

end Pushed

/-- The segments stand at the front of a path, and something follows them. -/
def Keeps (front segs : List String) : Prop :=
  ∃ s rest, segs = front ++ s :: rest

theorem Keeps.isPrefix {front segs : List String} (h : Keeps front segs) : front <+: segs := by
  obtain ⟨s, rest, rfl⟩ := h
  exact List.prefix_append _ _

/-- Appending a segment does not reach what already has something behind it. -/
theorem Pushed.keeps {front segs segs' : List String} {s : String} (h : Pushed segs s segs')
    (hkeeps : Keeps front segs) : Keeps front segs' := by
  obtain ⟨t, rest, rfl⟩ := hkeeps
  have hstem : stem (front ++ t :: rest) = front ++ t :: rest ∨
      front = [] ∧ stem (front ++ t :: rest) = [] := by
    unfold stem
    split
    · rename_i hroot
      exact Or.inr ⟨(List.append_eq_singleton_iff.1 hroot).elim (·.1) fun h => by simp at h, rfl⟩
    · exact Or.inl rfl
  cases h with
  | skipped => exact ⟨t, rest, rfl⟩
  | shortened =>
    rcases hstem with hstem | ⟨rfl, hstem⟩
    · rw [hstem, List.dropLast_append_of_ne_nil (List.cons_ne_nil t rest), List.append_assoc]
      obtain ⟨u, us, hu⟩ := List.exists_cons_of_ne_nil
        (List.append_ne_nil_of_right_ne_nil (t :: rest).dropLast (List.cons_ne_nil "" []))
      exact ⟨u, us, by rw [hu]⟩
    · exact ⟨"", [], by rw [hstem]; rfl⟩
  | extended _ _ u hu =>
    rcases hstem with hstem | ⟨rfl, hstem⟩
    · exact ⟨t, rest ++ [u], by rw [hstem, List.append_assoc, List.cons_append]⟩
    · exact ⟨u, [], by rw [hstem]⟩

theorem keeps_foldl {front : List String} (added : List String) {segs : List String}
    (h : Keeps front segs) : Keeps front (added.foldl pushSegment segs) := by
  induction added generalizing segs with
  | nil => exact h
  | cons s added ih => exact ih ((pushSegment_pushed segs s).keeps h)

theorem isSegment_foldl (added : List String) {segs : List String}
    (h : ∀ t ∈ segs, IsSegment t) : ∀ t ∈ added.foldl pushSegment segs, IsSegment t := by
  induction added generalizing segs with
  | nil => exact h
  | cons s added ih => exact ih ((pushSegment_pushed segs s).isSegment h)

theorem foldl_ne_nil (added : List String) {segs : List String} (h : segs ≠ []) :
    added.foldl pushSegment segs ≠ [] := by
  induction added generalizing segs with
  | nil => exact h
  | cons s added ih => exact ih ((pushSegment_pushed segs s).ne_nil h)

/-! ## What appended segments do to a path -/

/-- The characters of a path. -/
def pathChars (segs : List String) : List Char :=
  segs.flatMap fun s => '/' :: s.toList

theorem Path.toList_text (segs : List String) : (Path.segments segs).text.toList = pathChars segs := by
  simp [Path.text, pathChars, List.flatMap_map]

theorem pathChars_append (segs segs' : List String) :
    pathChars (segs ++ segs') = pathChars segs ++ pathChars segs' :=
  List.flatMap_append

theorem pathChars_isPrefix {segs segs' : List String} (h : segs <+: segs') :
    pathChars segs <+: pathChars segs' := by
  obtain ⟨rest, rfl⟩ := h
  rw [pathChars_append]
  exact List.prefix_append _ _

theorem stem_of_ne {segs : List String} (h : segs ≠ [""]) : stem segs = segs :=
  if_neg h

/-- Segments that are appended in turn shorten the path: the first of them that
is not skipped is a hidden double dot, and the path does not end in a slash. -/
def shortens (segs added : List String) : Bool :=
  (added.find? (!isSkipped ·)).any isHiddenDoubleDot && segs.getLast? ≠ some ""

theorem isSkipped_of_isHiddenDoubleDot {s : String} (h : isHiddenDoubleDot s = true) :
    isSkipped s = false := by
  simp only [isHiddenDoubleDot, Bool.and_eq_true, decide_eq_true_eq] at h
  have hdot : s ≠ "." := by
    rintro rfl
    exact absurd h.2 (by decide)
  simp [isSkipped, hdot, h.1]

theorem pushSegment_of_isHiddenDoubleDot {s : String} (h : isHiddenDoubleDot s = true)
    (segs : List String) : pushSegment segs s = (stem segs).dropLast ++ [""] := by
  have hskipped := isSkipped_of_isHiddenDoubleDot h
  simp only [isSkipped, isHiddenDoubleDot, Bool.and_eq_true, decide_eq_true_eq] at h hskipped
  unfold pushSegment
  rw [if_neg (by simpa using hskipped)]
  exact if_pos h.2

theorem pushSegment_of_isSkipped {s : String} (h : isSkipped s = true) (segs : List String) :
    pushSegment segs s = segs := by
  unfold pushSegment
  exact if_pos (by simpa [isSkipped] using h)

theorem foldl_of_isSkipped {skipped : List String} (h : ∀ s ∈ skipped, isSkipped s = true)
    (segs : List String) : skipped.foldl pushSegment segs = segs := by
  induction skipped with
  | nil => rfl
  | cons s skipped ih =>
    obtain ⟨hs, hskipped⟩ := List.forall_mem_cons.1 h
    rw [List.foldl_cons, pushSegment_of_isSkipped hs, ih hskipped]

/-- A path that ends in a slash is not shortened. -/
theorem dropLast_stem_append_empty {segs : List String} (h : segs.getLast? = some "") :
    (stem segs).dropLast ++ [""] = segs := by
  obtain ⟨init, rfl⟩ := List.getLast?_eq_some_iff.1 h
  unfold stem
  split
  · rename_i hroot
    rw [hroot]
    rfl
  · rw [List.dropLast_concat]

/-- A path that is not shortened stays at the front. -/
theorem pathChars_isPrefix_foldl {segs : List String} (hne : segs ≠ []) {added : List String}
    (h : shortens segs added = false) :
    pathChars segs <+: pathChars (added.foldl pushSegment segs) := by
  induction added with
  | nil => exact List.prefix_rfl
  | cons s added ih =>
    rw [List.foldl_cons]
    generalize hpush : pushSegment segs s = segs'
    have hpushed : Pushed segs s segs' := hpush ▸ pushSegment_pushed segs s
    cases hpushed with
    | skipped hskipped => exact ih (by simpa [shortens, hskipped] using h)
    | shortened hhidden =>
      have hskipped := isSkipped_of_isHiddenDoubleDot hhidden
      have hlast : segs.getLast? = some "" := by
        simpa [shortens, hskipped, hhidden] using h
      rw [dropLast_stem_append_empty hlast]
      exact ih (by simp [shortens, hlast])
    | extended hskipped hhidden t ht =>
      by_cases hroot : segs = [""]
      · -- Every path starts with the slash of the root.
        subst hroot
        obtain ⟨u, us, hu⟩ := List.exists_cons_of_ne_nil
          (foldl_ne_nil added (List.append_ne_nil_of_right_ne_nil (stem [""]) (List.cons_ne_nil t [])))
        rw [hu]
        exact ⟨u.toList ++ pathChars us, rfl⟩
      · refine pathChars_isPrefix (keeps_foldl added ?_).isPrefix
        exact ⟨t, [], by rw [stem_of_ne hroot]⟩

/-- A path that is shortened loses its last segment, and the segments after the
hidden double dot are appended to the rest. -/
theorem foldl_of_shortens {segs added : List String} (h : shortens segs added = true) :
    ∃ skipped s rest, added = skipped ++ s :: rest ∧ (∀ t ∈ skipped, isSkipped t = true) ∧
      isHiddenDoubleDot s = true ∧
      added.foldl pushSegment segs = rest.foldl pushSegment (segs.dropLast ++ [""]) := by
  simp only [shortens, Bool.and_eq_true, decide_eq_true_eq, Option.any_eq_true] at h
  obtain ⟨⟨s, hfind, hhidden⟩, hlast⟩ := h
  obtain ⟨hs, skipped, rest, rfl, hskipped⟩ := List.find?_eq_some_iff_append.1 hfind
  have hskipped : ∀ t ∈ skipped, isSkipped t = true := by simpa using hskipped
  refine ⟨skipped, s, rest, rfl, hskipped, hhidden, ?_⟩
  have hroot : segs ≠ [""] := by
    rintro rfl
    exact hlast rfl
  rw [List.foldl_append, List.foldl_cons, foldl_of_isSkipped hskipped segs, pushSegment_of_isHiddenDoubleDot hhidden,
    stem_of_ne hroot]

end RemoteConfig.Url
