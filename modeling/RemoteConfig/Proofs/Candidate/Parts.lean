import Mathlib.Data.List.Forall2
import RemoteConfig.Proofs.Candidate

/-!
# The parts of a candidate's path

What is appended to a base can be told from the address again.  A part is
escaped as a whole, the percent sign included, so a part that looks escaped is
kept as well.  `make_parts` says which segments the parts become, and that
different parts make different addresses.

Excepted are the texts that act on a path: the empty one, dots, and those with
tabs or line ends, which are dropped.
-/

namespace RemoteConfig.Candidate

variable {base : String} {url : Url}

/-- A text that becomes a segment without losing anything. -/
structure IsPart (s : String) : Prop where
  notEmpty : s ≠ ""
  notDot : s ≠ "."
  notDoubleDot : s ≠ ".."
  noneDropped : ∀ c ∈ s.toList, Url.isDropped c = false

theorem isPart_iff {s : String} :
    IsPart s ↔ (s ≠ "" ∧ s ≠ "." ∧ s ≠ "..") ∧ s.toList.all (!Url.isDropped ·) := by
  have hall : s.toList.all (!Url.isDropped ·) ↔ ∀ c ∈ s.toList, Url.isDropped c = false := by
    simp
  rw [hall]
  exact ⟨fun h => ⟨⟨h.notEmpty, h.notDot, h.notDoubleDot⟩, h.noneDropped⟩,
    fun ⟨⟨hempty, hdot, hdots⟩, hdropped⟩ => ⟨hempty, hdot, hdots, hdropped⟩⟩

instance (s : String) : Decidable (IsPart s) :=
  decidable_of_iff' _ isPart_iff

/-- A segment spells a text: with its escapes decoded, it is the UTF-8 form of
the text. -/
def Spells (segment text : String) : Prop :=
  Url.Decodes segment.toList (Text.bytes text)

theorem spells_iff {segment text : String} :
    Spells segment text ↔ Text.bytes text = Url.decode segment.toList :=
  Url.decodes_iff

/-- A segment that spells a text also stands for it. -/
theorem Spells.standsFor {segment text : String} (h : Spells segment text) :
    StandsFor segment text :=
  ⟨Text.bytes text, h, by
    rw [Text.ofBytes, Text.bytes, Text.charsOfBytes_bytesOfChars, String.ofList_toList]⟩

/-- No segment spells two texts. -/
theorem Spells.unique {segment text text' : String} (h : Spells segment text)
    (h' : Spells segment text') : text = text' :=
  (standsFor_iff.1 h.standsFor).trans (standsFor_iff.1 h'.standsFor).symm

/-! ## Escaped parts -/

/-- A text as a segment. -/
def escaped (s : String) : String :=
  String.ofList (Url.encode Url.segmentSet s.toList)

theorem spells_escaped (s : String) : Spells (escaped s) s := by
  rw [spells_iff, escaped, String.toList_ofList, Url.decode_encode_of_percent (by decide)]
  rfl

theorem escaped_ne_empty {s : String} (h : s ≠ "") : escaped s ≠ "" := by
  intro hempty
  have hspells : Spells "" s := hempty ▸ spells_escaped s
  exact h (hspells.unique (spells_iff.2 rfl))

/-- The parts of a path are spelled by their escaped forms. -/
theorem forall₂_spells_escaped (parts : List String) :
    List.Forall₂ Spells (parts.map escaped) parts :=
  List.forall₂_map_left_iff.2 (List.forall₂_same.2 fun s _ => spells_escaped s)

/-- Segments spell one list of texts at most. -/
theorem eq_of_forall₂_spells {segs texts texts' : List String}
    (h : List.Forall₂ Spells segs texts) (h' : List.Forall₂ Spells segs texts') :
    texts = texts' := by
  induction h generalizing texts' with
  | nil =>
    cases h'
    rfl
  | cons hspells _ ih =>
    cases h' with
    | cons hspells' htail => rw [hspells.unique hspells', ih htail]

/-! ## Appending -/

theorem IsPart.pushSegment_eq {s : String} (h : IsPart s) (segs : List String) :
    Url.pushSegment segs s = Url.stem segs ++ [escaped s] := by
  have hskipped : ¬(decide (s = ".") || decide (s = "..")) = true := by
    simp [h.notDot, h.notDoubleDot]
  have hfilter : s.toList.filter (!Url.isDropped ·) = s.toList :=
    List.filter_eq_self.2 fun c hc => by rw [h.noneDropped c hc]; rfl
  have hdots : s.toList ≠ ['.', '.'] := fun heq =>
    h.notDoubleDot (String.toList_inj.1 heq)
  have hdot : s.toList ≠ ['.'] := fun heq => h.notDot (String.toList_inj.1 heq)
  unfold Url.pushSegment
  rw [if_neg hskipped, hfilter]
  simp only
  rw [if_neg hdots, if_neg hdot, escaped]

/-- The path after parts were appended: only the first one can take the place
of the root. -/
theorem foldl_pushSegment_of_isPart {s : String} {parts : List String}
    (h : ∀ t ∈ s :: parts, IsPart t) (segs : List String) :
    (s :: parts).foldl Url.pushSegment segs = Url.stem segs ++ (s :: parts).map escaped := by
  induction parts generalizing s segs with
  | nil => exact (h s List.mem_cons_self).pushSegment_eq segs
  | cons t parts ih =>
    obtain ⟨hs, hparts⟩ := List.forall_mem_cons.1 h
    have hroot : Url.stem segs ++ [escaped s] ≠ [""] := by
      intro hroot
      have hlast := congrArg List.getLast? hroot
      simp only [List.getLast?_append, List.getLast?_singleton, Option.some_or,
        Option.some.injEq] at hlast
      exact escaped_ne_empty hs.notEmpty hlast
    rw [List.foldl_cons, hs.pushSegment_eq, ih hparts, Url.stem_of_ne hroot, List.append_assoc,
      List.singleton_append, List.map_cons (l := t :: parts)]

/-- The path of a candidate's address ends in its parts. -/
theorem target_path {segs : List String} (hpath : url.path = .segments segs)
    {name profile : String} {label : Option String}
    (h : ∀ s ∈ appended name profile label, IsPart s) :
    (target url name profile label).path =
      .segments (Url.stem (Url.popEmpty segs) ++ (appended name profile label).map escaped) := by
  rw [target, extend_path hpath]
  exact congrArg _ (foldl_pushSegment_of_isPart h _)

/-- Candidates of one base with the same address have the same parts. -/
theorem appended_inj_of_target_path {segs : List String} (hpath : url.path = .segments segs)
    {name profile name' profile' : String} {label label' : Option String}
    (h : ∀ s ∈ appended name profile label, IsPart s)
    (h' : ∀ s ∈ appended name' profile' label', IsPart s)
    (heq : (target url name profile label).path = (target url name' profile' label').path) :
    appended name profile label = appended name' profile' label' := by
  rw [target_path hpath h, target_path hpath h'] at heq
  have hsegs := List.append_cancel_left (Url.Path.segments.inj heq)
  exact eq_of_forall₂_spells (forall₂_spells_escaped _) (hsegs ▸ forall₂_spells_escaped _)

/-- The addresses of the candidates of one base.  Each is the text of a URL,
and is read back as that URL.  The last segments of its path spell the name,
the profile and the parts of the label, and no other parts have the same
address. -/
theorem make_parts (hread : Url.read base = .ok url)
    (hscheme : ClientOptions.isServerScheme url.scheme = true) :
    (∀ name profile label, (∀ s ∈ name :: profile :: labelSegments label, IsPart s) →
      ∃ c read front last, make base name profile label = .ok c ∧
        Url.read c.uri = .ok read ∧ c.uri = read.text ∧
        read.path = .segments (front ++ last) ∧
        last.length = 2 + (labelSegments label).length ∧
        List.Forall₂ Spells last (name :: profile :: labelSegments label)) ∧
    ∀ name profile label name' profile' label',
      (∀ s ∈ name :: profile :: labelSegments label, IsPart s) →
      (∀ s ∈ name' :: profile' :: labelSegments label', IsPart s) →
      (make base name profile label).map (·.uri) =
        (make base name' profile' label').map (·.uri) →
      name = name' ∧ profile = profile' ∧ labelSegments label = labelSegments label' := by
  obtain ⟨segs, hpath, -, -⟩ :=
    (Url.isCanonical_of_read hread (defaultPort?_of_isServerScheme hscheme)).path
  refine ⟨fun name profile label hparts => ?_,
    fun name profile label name' profile' label' hparts hparts' heq => ?_⟩
  · exact ⟨_, target url name profile label, _, _, make_of_read hread hscheme name profile label,
      read_uri hread hscheme name profile label, rfl, target_path hpath hparts,
      by simp [appended]; omega, forall₂_spells_escaped _⟩
  · rw [make_of_read hread hscheme, make_of_read hread hscheme] at heq
    -- Equal addresses are read as one URL.
    have htext : (target url name profile label).text = (target url name' profile' label').text :=
      Except.ok.inj heq
    have hurl : target url name profile label = target url name' profile' label' :=
      Except.ok.inj (by
        rw [← read_uri hread hscheme name profile label, htext,
          read_uri hread hscheme name' profile' label'])
    have hparts := appended_inj_of_target_path hpath hparts hparts' (congrArg Url.path hurl)
    simpa [appended] using hparts

/-- Parts that look like escapes, separators or dots are told apart. -/
theorem make_parts_escaped :
    ∃ url, Url.read "http://[::1]/c//?q#f" = .ok url ∧
      ClientOptions.isServerScheme url.scheme = true ∧
      (∀ s ∈ "%2e%2e" :: "a/b\\?#" :: labelSegments (some "x//é/..%2F"), IsPart s) ∧
      ∃ c read front last,
        make "http://[::1]/c//?q#f" "%2e%2e" "a/b\\?#" (some "x//é/..%2F") = .ok c ∧
        Url.read c.uri = .ok read ∧ read.path = .segments (front ++ last) ∧
        List.Forall₂ Spells last ["%2e%2e", "a/b\\?#", "x", "é", "..%2F"] := by
  have hread : Url.read "http://[::1]/c//?q#f" =
      .ok { scheme := "http", host := some (.ipv6 [0, 0, 0, 0, 0, 0, 0, 1])
            path := .segments ["c", "", ""], query := some "q", fragment := some "f" } :=
    eq_ok_of_toOption (by decide +kernel)
  have hlabel : labelSegments (some "x//é/..%2F") = ["x", "é", "..%2F"] := by decide +kernel
  have hparts : ∀ s ∈ "%2e%2e" :: "a/b\\?#" :: labelSegments (some "x//é/..%2F"), IsPart s := by
    rw [hlabel]
    decide +kernel
  obtain ⟨c, read, front, last, hmake, huri, -, hpath, -, hspells⟩ :=
    (make_parts hread rfl).1 _ _ _ hparts
  rw [hlabel] at hspells
  exact ⟨_, hread, rfl, hparts, c, read, front, last, hmake, huri, hpath, hspells⟩

end RemoteConfig.Candidate
