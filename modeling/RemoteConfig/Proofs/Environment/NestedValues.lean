import RemoteConfig.Proofs.Environment.Document

/-!
# Arrays and objects as values

A value of a property source that is an array or an object is kept as a text.
That text is canonical: however the value is written, the same text is kept, and
for another value another one.

* `Template` is the document of an environment with places for a value, and
  `IsKeptAs` says which text is kept for what stands there.
* `keeps_render` says that it is the canonical text of the normal form.
* `keptText` is the result.
-/

namespace RemoteConfig

open Json
open Environment (Keeps sourceDepth)

/-! ## Documents with places -/

/-- A property source.  An entry is a place, or the text that is kept for it. -/
structure SourceTemplate where
  name : String
  entries : List (String × Option String)

/-- An environment whose property sources have places. -/
structure Template where
  /-- All but the property sources. -/
  frame : Environment
  sources : List SourceTemplate

namespace SourceTemplate

/-- The property source if `t` is kept at the places. -/
def fill (t : String) (s : SourceTemplate) : PropertySource where
  name := s.name
  source := Environment.keptMap (·.getD t) s.entries

/-- The value of an entry: `x` at a place, and otherwise what is kept as the text of
the entry. -/
def IsEntry (x : List Char) (kept? : Option String) (text : List Char) : Prop :=
  match kept? with
  | none => text = x
  | some kept => Keeps sourceDepth kept text

/-- A field may be missing. -/
def IsDefault (s : SourceTemplate) (field : String) : Prop :=
  field = "source" ∧ s.entries = []

/-- The value of a field, with `x` at the places. -/
def IsField (x : List Char) (s : SourceTemplate) (field : String) : List Char → Prop :=
  if field = "name" then IsText s.name
  else if field = "source" then
    IsObject (fun p => IsMember (Spells p.1.toList) (IsEntry x p.2)) s.entries
  else IsValue

/-- A text that stands for the property source, with `x` at the places. -/
def IsDocument (x : List Char) (s : SourceTemplate) : List Char → Prop :=
  IsRecord PropertySource.fields s.IsDefault (s.IsField x)

end SourceTemplate

namespace Template

/-- The environment if `t` is kept at the places. -/
def fill (t : String) (d : Template) : Environment :=
  { d.frame with propertySources := d.sources.map (SourceTemplate.fill t) }

/-- A field has its default value. -/
def IsDefault (d : Template) (field : String) : Prop :=
  if field = "propertySources" then d.sources = [] else d.frame.IsDefault field

/-- The value of a field, with `x` at the places. -/
def IsField (x : List Char) (d : Template) (field : String) : List Char → Prop :=
  if field = "propertySources" then IsArray (SourceTemplate.IsDocument x) d.sources
  else d.frame.IsField field

/-- A text that stands for the environment, with `x` at the places. -/
def IsDocument (x : List Char) (d : Template) (text : List Char) : Prop :=
  ∃ b v b', Blank b ∧ Blank b' ∧ IsRecord Environment.fields d.IsDefault (d.IsField x) v ∧
    text = b ++ (v ++ b')

end Template

/-- In every document with `x` at its places, `t` is kept there. -/
def IsKeptAs (x : List Char) (t : String) : Prop :=
  ∀ (d : Template) (text : String), d.IsDocument x text.toList →
    Environment.ofJson text = .ok (d.fill t)

/-! ## Reading documents with places -/

theorem IsRecord.imp {known : List String} {optional optional' : String → Prop}
    {value : String → List Char → Prop} {text : List Char}
    (h : IsRecord known optional value text) (himp : ∀ name, optional name → optional' name) :
    IsRecord known optional' value text := by
  obtain ⟨names, hcount, hmissing, hobject⟩ := h
  exact ⟨names, hcount, fun name hknown hmem => himp name (hmissing name hknown hmem), hobject⟩

section Reading

variable {x : List Char} {t : String}

theorem SourceTemplate.keeps_entry (hx : Keeps sourceDepth t x)
    (kept? : Option String) (text : List Char) (h : IsEntry x kept? text) :
    Keeps sourceDepth (kept?.getD t) text := by
  cases kept? with
  | none =>
    obtain rfl : text = x := h
    exact hx
  | some kept => exact h

theorem SourceTemplate.reads (hx : Keeps sourceDepth t x)
    {s : SourceTemplate} {text : List Char} (h : s.IsDocument x text) :
    Starts text ∧
      Reads (Environment.readPropertySource sourceDepth) text (s.fill t) := by
  have hfields : Environment.ReadsSource sourceDepth (s.fill t) (s.IsField x) := by
    constructor
    · intro text htext
      exact Environment.reads_keptMap (keeps_entry hx) htext
    · intro field text hother htext
      simpa [PropertySource.IsField, IsField, hother, fill] using htext
  refine ⟨Environment.starts_record h, Environment.reads_readPropertySource hfields (h.imp ?_)⟩
  rintro field ⟨hfield, hentries⟩
  refine ⟨hfield, ?_⟩
  rw [fill, hentries]
  rfl

theorem Template.ofJson_of_isDocument (hx : Keeps sourceDepth t x)
    {d : Template} {text : String} (h : d.IsDocument x text.toList) :
    Environment.ofJson text = .ok (d.fill t) := by
  obtain ⟨b, v, b', hb, hb', hv, htext⟩ := h
  have hfields : Environment.ReadsFields (d.fill t) (d.IsField x) := by
    constructor
    · intro text htext
      obtain ⟨body, hbody, rfl⟩ := htext
      have hsources : Body ']' (fun s text => Starts text ∧
          Reads (Environment.readPropertySource sourceDepth) text s)
          (d.sources.map (SourceTemplate.fill t)) body :=
        hbody.map fun _ _ hs => SourceTemplate.reads hx hs
      exact Environment.reads_readList (fun _ _ hs => hs) ⟨body, hsources, rfl⟩
    · intro field text hother htext
      simpa [Environment.IsField, IsField, hother, fill] using htext
  refine Environment.ofJson_of_isRecord hfields hb hb' (hv.imp fun field hdefault => ?_) htext
  by_cases hfield : field = "propertySources"
  · have hsources : d.sources = [] := by rwa [IsDefault, if_pos hfield] at hdefault
    simp [Environment.IsDefault, fill, hfield, hsources]
  · rw [IsDefault, if_neg hfield] at hdefault
    simpa [Environment.IsDefault, fill, hfield] using hdefault

theorem isKeptAs_of_keeps (hx : Keeps sourceDepth t x) : IsKeptAs x t :=
  fun _ _ h => Template.ofJson_of_isDocument hx h

end Reading

/-! ## One place -/

/-- A document with nothing but a place. -/
def Template.single : Template where
  frame := {}
  sources := [⟨"s", [("k", none)]⟩]

theorem Template.exists_isDocument_single (x : List Char) :
    ∃ text, single.IsDocument x text := by
  have hsource : SourceTemplate.IsDocument x ⟨"s", [("k", none)]⟩ _ :=
    ⟨["name", "source"], by decide, by simp [PropertySource.fields], _,
      .cons blank_nil (isMember_quoted "name" (isText_quoted "s"))
        (.cons blank_nil blank_nil (isMember_quoted "source"
          ⟨_, .cons blank_nil (isMember_quoted "k" (Eq.refl x)) (.nil blank_nil), rfl⟩)
          (.nil blank_nil)), rfl⟩
  have hrecord : IsRecord Environment.fields single.IsDefault (single.IsField x) _ :=
    ⟨["propertySources"], by decide,
      by simp [Environment.fields, IsDefault, Environment.IsDefault, single], _, .cons blank_nil (isMember_quoted "propertySources"
        ⟨_, .cons blank_nil hsource (.nil blank_nil), rfl⟩) (.nil blank_nil), rfl⟩
  exact ⟨_, [], _, [], blank_nil, blank_nil, hrecord, rfl⟩

/-- What is kept for a text is one text. -/
theorem IsKeptAs.unique {x : List Char} {t t' : String} (h : IsKeptAs x t) (h' : IsKeptAs x t') :
    t = t' := by
  obtain ⟨text, hdocument⟩ := Template.exists_isDocument_single x
  have hstring : Template.single.IsDocument x (String.ofList text).toList := by
    rwa [String.toList_ofList]
  have hfill := Except.ok.inj ((h _ _ hstring).symm.trans (h' _ _ hstring))
  have hget (t : String) :
      (Template.single.fill t).propertySources.map (·.source.get? "k") = [some t] := rfl
  have heq := hget t
  rw [hfill, hget] at heq
  exact (Option.some.inj (List.singleton_inj.1 heq)).symm

/-! ## Canonical texts -/

/-- Arrays and objects. -/
def Json.isCompound : Json → Bool
  | array _ | object _ => true
  | _ => false

theorem isCompound_normal {v : Json} (hv : v.isCompound = true) : (normal v).isCompound = true := by
  cases v with
  | array items =>
    rw [normal_array]
    rfl
  | object members =>
    rw [normal_object]
    rfl
  | _ => cases hv

theorem scalarText_of_isCompound {v : Json} (hv : v.isCompound = true) :
    Environment.scalarText v = v.render := by
  cases v with
  | array _ => rfl
  | object _ => rfl
  | _ => cases hv

/-- An array or an object is kept as the canonical text of its normal form. -/
theorem keeps_render {depth : Nat} {v : Json} {x : List Char} (hv : v.isCompound = true)
    (hx : IsWritten depth v x) : Keeps depth (normal v).render x :=
  ⟨normal v, (reads_value hx).2, scalarText_of_isCompound (isCompound_normal hv)⟩

/-- The canonical text of a normal form is kept as it is. -/
theorem keeps_render_self {depth : Nat} {v : Json} {x : List Char} (hv : v.isCompound = true)
    (hx : IsWritten depth v x) :
    Keeps depth (normal v).render (normal v).render.toList := by
  have hkeeps := keeps_render (isCompound_normal hv) (isWritten_normal hx)
  rwa [normal_normal, ← toList_render] at hkeeps

theorem render_normal_inj {depth : Nat} {v w : Json} {x y : List Char} (hx : IsWritten depth v x)
    (hy : IsWritten depth w y) : (normal v).render = (normal w).render ↔ Same v w := by
  rw [same_iff]
  exact ⟨fun h => chars_normal_inj hx hy (String.ofList_injective h), fun h => by rw [h]⟩

/-- For an array or an object, however it is written, one text is kept wherever the
value stands in a document.  In place of the value this text is kept as it is, and
for two values the same text is kept exactly if they are the same value. -/
theorem keptText {v w : Json} {x y : List Char} (hv : v.isCompound = true)
    (hw : w.isCompound = true) (hx : IsWritten sourceDepth v x)
    (hy : IsWritten sourceDepth w y) :
    (∃! t, IsKeptAs x t) ∧ (∀ t, IsKeptAs x t → IsKeptAs t.toList t) ∧
      ∀ t t', IsKeptAs x t → IsKeptAs y t' → (t = t' ↔ Same v w) := by
  have hkept := isKeptAs_of_keeps (keeps_render hv hx)
  have hkept' := isKeptAs_of_keeps (keeps_render hw hy)
  refine ⟨⟨_, hkept, fun t ht => ht.unique hkept⟩, fun t ht => ?_, fun t t' ht ht' => ?_⟩
  · rw [ht.unique hkept]
    exact isKeptAs_of_keeps (keeps_render_self hv hx)
  · rw [ht.unique hkept, ht'.unique hkept']
    exact render_normal_inj hx hy

/-- Blanks, an escape, the order of the members and a member that another hides do not
show in the text that is kept. -/
theorem keptText_spelled :
    let x := "\x7b \"b\":-1, \"a\":[\"\\u00e9\" ],\"b\":\x7b\x7d\x7d".toList
    let t := "\x7b\"a\":[\"é\"],\"b\":\x7b\x7d\x7d"
    IsKeptAs x t ∧ IsKeptAs t.toList t := by
  intro x t
  let v : Json := .object [("b", .integer (-1)), ("a", .array [.text "é"]), ("b", .object [])]
  let w : Json := .object [("a", .array [.text "é"]), ("b", .object [])]
  have hspace : Blank [' '] := by simp [Blank, isSpace]
  have hempty (depth : Nat) : IsWritten (depth + 1) (.object []) ['\x7b', '\x7d'] :=
    .inr (.object ⟨_, .nil blank_nil, rfl⟩)
  have hnumber (depth : Nat) : IsWritten depth (.integer (-1)) ['-', '1'] :=
    (IsScalar.integer (by simp [Fits]) (isInteger_chars (-1))).isWritten depth
  have hescape : Spells ['é'] ('\\' :: 'u' :: (['0', '0', 'e', '9'] ++ [])) :=
    .unit (n := 0xe9) rfl rfl (by simp [IsSurrogate]) .nil
  have harray (depth : Nat) {b text : List Char} (hb : Blank b) (htext : IsText "é" text) :
      IsWritten (depth + 1) (.array [.text "é"]) ('[' :: ([] ++ (text ++ (b ++ [']'])))) :=
    .inr (.array ⟨_, .cons blank_nil ((IsScalar.text htext).isWritten depth) (.nil hb), rfl⟩)
  have hx : IsWritten sourceDepth v x :=
    .inr (.object ⟨_, .cons hspace (isMember_quoted "b" (hnumber 122))
      (.cons blank_nil hspace (isMember_quoted "a" (harray 121 hspace ⟨_, hescape, rfl⟩))
        (.cons blank_nil blank_nil (isMember_quoted "b" (hempty 121)) (.nil blank_nil))),
      by decide +kernel⟩)
  have ht : IsWritten sourceDepth w t.toList :=
    .inr (.object ⟨_, .cons blank_nil
      (isMember_quoted "a" (harray 121 blank_nil (isText_quoted "é")))
        (.cons blank_nil blank_nil (isMember_quoted "b" (hempty 121)) (.nil blank_nil)),
      by decide +kernel⟩)
  have hrender : (normal w).render = t := by decide +kernel
  have hkept : IsKeptAs t.toList t := by
    have hkeeps := keeps_render_self rfl ht
    rw [hrender] at hkeeps
    exact isKeptAs_of_keeps hkeeps
  obtain ⟨⟨s, hs, -⟩, -, hsame⟩ := keptText rfl rfl hx ht
  obtain rfl : s = t := (hsame s t hs hkept).2 (same_iff.2 rfl)
  exact ⟨hs, hkept⟩

end RemoteConfig
