import RemoteConfig.Environment.Document
import RemoteConfig.Environment.Reader
import RemoteConfig.Proofs.Json.Written

/-!
# Documents of environments are read back

Every document of an environment is read as that environment.

The reader goes through the members of an object in the order of the text, and
its state is what it has found so far.  Since a document has each field with
its own value only, that state depends on nothing but the names read:
`foundIn` and `fieldsAfter` say what it is after some names, and the step lemmas
`readsMembers_source` and `readsMembers_environment` that reading one more
member is adding its name.  They hold for any grammar of the fields that the
readers of the fields take: `ReadsSource` and `ReadsFields` say so.

* `reads_keptMap` and `reads_readPropertySource` are the results for property
  sources.
* `ofJson_of_isRecord` and `ofJson_of_isDocument` are the results for whole texts.
* `isDocument_render` says that plain documents are documents.
-/

namespace RemoteConfig

open Json

/-! ## Plain documents -/

theorem isText_chars (s : String) : IsText s (chars (.text s)) := by
  rw [chars]
  exact isText_quoted s

theorem isOptionalText_chars (s? : Option String) :
    IsOptionalText s? (chars (optionalJson s?)) := by
  cases s? with
  | none =>
    rw [optionalJson, chars]
    rfl
  | some s => exact isText_chars s

/-- An object with all known fields and no other members. -/
theorem isRecord_chars {known : List String} (hknown : known.Nodup) (optional : String → Prop)
    {value : String → List Char → Prop} {json : String → Json}
    (h : ∀ name ∈ known, value name (chars (json name))) :
    IsRecord known optional value (chars (.object (known.map fun name => (name, json name)))) :=
  ⟨known, fun name _ => List.nodup_iff_count.1 hknown name,
    fun _ hmem hmissing => absurd hmem hmissing, isObject_chars id h⟩

/-- The plain document of a property source has both of its fields. -/
theorem PropertySource.isDocument_toJson (s : PropertySource) :
    s.IsDocument (chars s.toJson) := by
  have hmap : IsMap s.source (chars (.object (s.source.toList.map fun p => (p.1, .text p.2)))) :=
    ⟨s.source.toList, .refl _, isObject_chars Prod.fst fun p _ => isText_chars p.2⟩
  let json (field : String) : Json :=
    if field = "name" then .text s.name
    else .object (s.source.toList.map fun p => (p.1, .text p.2))
  have hfields : ∀ field ∈ fields, s.IsField field (chars (json field)) := by
    simpa [fields, IsField, json] using ⟨isText_chars s.name, hmap⟩
  have hrecord := isRecord_chars (by decide) s.IsDefault hfields
  simpa [fields, json, toJson, IsDocument] using hrecord

/-- The plain document of an environment has all of its fields. -/
theorem Environment.isRecord_toJson (e : Environment) :
    IsRecord fields e.IsDefault e.IsField (chars e.toJson) := by
  have hprofiles : IsArray IsText e.profiles (chars (.array (e.profiles.map .text))) :=
    isArray_chars fun s _ => isText_chars s
  have hsources : IsArray PropertySource.IsDocument e.propertySources
      (chars (.array (e.propertySources.map PropertySource.toJson))) :=
    isArray_chars fun s _ => s.isDocument_toJson
  let json (field : String) : Json :=
    if field = "name" then .text e.name
    else if field = "profiles" then .array (e.profiles.map .text)
    else if field = "label" then optionalJson e.label
    else if field = "version" then optionalJson e.version
    else if field = "state" then optionalJson e.state
    else .array (e.propertySources.map PropertySource.toJson)
  have hfields : ∀ field ∈ fields, e.IsField field (chars (json field)) := by
    simpa [fields, IsField, json] using ⟨isText_chars e.name, hprofiles,
      isOptionalText_chars e.label, isOptionalText_chars e.version,
      isOptionalText_chars e.state, hsources⟩
  have hrecord := isRecord_chars (by decide) e.IsDefault hfields
  simpa [fields, json, toJson] using hrecord

/-- The plain document of an environment is one of its documents. -/
theorem Environment.isDocument_render (e : Environment) : e.IsDocument e.toJson.render.toList := by
  refine ⟨[], chars e.toJson, [], blank_nil, blank_nil, e.isRecord_toJson, ?_⟩
  rw [toList_render, List.append_nil, List.nil_append]

namespace Environment

/-! ## Values of fields -/

/-- A text is found behind blanks. -/
theorem reads_readText {s : String} {text : List Char} (h : IsText s text) :
    Reads readText text s := by
  obtain ⟨spelling, hspells, rfl⟩ := h
  intro b rest hb _
  have hskip := skipSpace_word hb (show isSpace '"' = false by decide) (spelling ++ '"' :: rest)
  rw [List.cons_append, List.append_assoc]
  change readText (b ++ '"' :: (spelling ++ '"' :: rest)) = _
  simp only [readText, hskip, if_true]
  exact string_of_spells hspells rest

theorem starts_text {s : String} {text : List Char} (h : IsText s text) : Starts text := by
  obtain ⟨spelling, -, rfl⟩ := h
  exact ⟨'"', _, rfl, by decide, by decide⟩

theorem reads_readOptional {s? : Option String} {text : List Char} (h : IsOptionalText s? text) :
    Reads (readOptional readText) text s? := by
  intro b rest hb hrest
  cases s? with
  | none =>
    obtain rfl : text = ['n', 'u', 'l', 'l'] := h
    have hskip := skipSpace_word hb (show isSpace 'n' = false by decide) ('u' :: 'l' :: 'l' :: rest)
    simp only [List.cons_append, List.nil_append, readOptional, hskip]
    rfl
  | some s =>
    have hread := reads_readText h [] rest blank_nil hrest
    obtain ⟨spelling, -, rfl⟩ := h
    have hskip := skipSpace_word hb (show isSpace '"' = false by decide)
      (spelling ++ ['"'] ++ rest)
    rw [List.nil_append, List.cons_append] at hread
    simp only [List.cons_append, readOptional, hskip, hread]
    rfl

theorem reads_readList {α : Type} {read : Reader α} {item : α → List Char → Prop}
    (hitem : ∀ x text, item x text → Starts text ∧ Reads read text x) {xs : List α}
    {text : List Char} (h : IsArray item xs text) : Reads (readList read) text xs := by
  obtain ⟨body, hbody, rfl⟩ := h
  intro b rest hb _
  have hskip := skipSpace_word hb (show isSpace '[' = false by decide) (body ++ rest)
  simp only [List.cons_append, readList, hskip, if_true]
  exact arrayOf_append hitem hbody rest

/-! ## Maps of property sources -/

/-- The text of a value is kept as `s` in the map of a property source. -/
def Keeps (depth : Nat) (s : String) (text : List Char) : Prop :=
  ∃ v, Reads (value depth) text v ∧ scalarText v = s

/-- A text is kept as it is. -/
theorem keeps_text (depth : Nat) {s : String} {text : List Char} (h : IsText s text) :
    Keeps depth s text :=
  ⟨.text s, (reads_scalar (.text h)).2, rfl⟩

section Maps

variable {α : Type} {held : α → List Char → Prop} {kept : α → String} {depth : Nat}

/-- The map of a property source whose values are kept as these texts. -/
def keptMap (kept : α → String) (entries : List (String × α)) : TextMap String :=
  .ofList (entries.map fun p => (p.1, kept p.2))

theorem readsMembers_entry (h : ∀ x text, held x text → Keeps depth (kept x) text)
    (entries : List (String × α)) :
    ReadsMembers string (readEntry depth) (fun p => Spells p.1.toList) (fun p => held p.2)
      Prod.fst (keptMap kept) entries where
  name_append := string_of_spells
  step_append := by
    intro before after p _ b b' v rest hb hb' hv hrest
    obtain ⟨w, hread, hkept⟩ := h p.2 v hv
    have hvalue := hread b' rest hb' hrest
    simp only [readEntry, colon_append hb, hvalue, bind, Except.bind, hkept]
    rw [keptMap, keptMap, List.map_append, List.map_singleton, TextMap.ofList_concat]
    rfl

theorem reads_keptMap (h : ∀ x text, held x text → Keeps depth (kept x) text)
    {entries : List (String × α)} {text : List Char}
    (hobject : IsObject (fun p => IsMember (Spells p.1.toList) (held p.2)) entries text) :
    Reads (readSource depth) text (keptMap kept entries) := by
  obtain ⟨body, hbody, rfl⟩ := hobject
  intro b rest hb _
  have hskip := skipSpace_word hb (show isSpace '{' = false by decide) (body ++ rest)
  have hskip' := skipSpace_cons (show isSpace '{' = false by decide) (body ++ rest)
  have hread := objectOf_append (readsMembers_entry h entries) hbody rest
  change objectOf string (readEntry depth) .empty (body ++ rest) = _ at hread
  have hmap : readMap depth ('{' :: (body ++ rest)) = .ok (keptMap kept entries, rest) := by
    simp only [readMap, hskip', if_true]
    exact hread
  simp only [List.cons_append, readSource, readOptional, hskip, hmap, bind, Except.bind]
  rfl

end Maps

theorem reads_readSource (depth : Nat) {m : TextMap String} (hm : m.Ordered) {text : List Char}
    (h : PropertySource.IsMap m text) : Reads (readSource depth) text m := by
  obtain ⟨entries, hperm, hobject⟩ := h
  have hmap : keptMap id entries = m := by
    rw [← hm.ofList_of_perm hperm]
    exact congrArg TextMap.ofList (List.map_id entries)
  have hkeeps (s : String) (text : List Char) (h : IsText s text) : Keeps depth (id s) text :=
    keeps_text depth h
  rw [← hmap]
  exact reads_keptMap hkeeps hobject

/-! ## Fields of records -/

section Fields

variable {α σ : Type} {b b' text rest : List Char}

/-- A member with another name is passed over. -/
theorem skip_member {f : σ} (hb : Blank b) (hb' : Blank b') (hv : IsValue text)
    (hrest : Ends rest) :
    (do
      let (_, cs) ← colon (b ++ ':' :: (b' ++ (text ++ rest)))
      let (_, cs) ← skip cs
      return (f, cs)) = (.ok (f, rest) : Except Fault (σ × List Char)) := by
  have hskip := skip_append hv b' rest hb' hrest
  simp only [colon_append hb, hskip, bind, Except.bind]
  rfl

/-- A field that occurs once is new when it is met. -/
theorem not_mem_of_count {known names before after : List String} {name : String}
    (hcount : ∀ name ∈ known, names.count name ≤ 1) (hnames : names = before ++ name :: after)
    (hname : name ∈ known) : name ∉ before := by
  intro hmem
  have hone := hcount name hname
  have hbefore := List.count_pos_iff.2 hmem
  rw [hnames, List.count_append, List.count_cons_self] at hone
  omega

/-- What is found in a field after some names. -/
def found (names : List String) (field : String) (x : α) : Option α :=
  if field ∈ names then some x else none

theorem found_of_not_mem {names : List String} {field : String} (h : field ∉ names) (x : α) :
    found names field x = none :=
  if_neg h

theorem found_append_self (names : List String) (field : String) (x : α) :
    found (names ++ [field]) field x = some x :=
  if_pos (List.mem_append_right names List.mem_cons_self)

theorem found_append_of_ne {name field : String} (h : name ≠ field) (names : List String)
    (x : α) : found (names ++ [name]) field x = found names field x := by
  have hmem : field ∈ names ++ [name] ↔ field ∈ names := by
    rw [List.mem_append, List.mem_singleton]
    exact or_iff_left h.symm
  simp only [found, hmem]

/-- A field that is new is read, and found from then on. -/
theorem readOnce_found {read : Reader α} {x : α} (hread : Reads read text x) (hb : Blank b)
    (hb' : Blank b') (hrest : Ends rest) {names : List String} {field : String}
    (hnew : field ∉ names) (store : Option α → σ) :
    readOnce (found names field x) read store (b ++ ':' :: (b' ++ (text ++ rest))) =
      .ok (store (found (names ++ [field]) field x), rest) := by
  have hvalue := hread b' rest hb' hrest
  rw [found_of_not_mem hnew, found_append_self]
  simp only [readOnce, colon_append hb, hvalue, bind, Except.bind]
  rfl

/-- A field that is missing has its default value. -/
theorem getD_found {names : List String} {field : String} {x default : α}
    (h : field ∉ names → x = default) : (found names field x).getD default = x := by
  by_cases hmem : field ∈ names
  · rw [found, if_pos hmem, Option.getD_some]
  · rw [found_of_not_mem hmem, Option.getD_none, h hmem]

end Fields

/-! ## Property sources -/

/-- What is found in a property source after some names. -/
def foundIn (s : PropertySource) (names : List String) : SourceFields where
  name := found names "name" s.name
  source := found names "source" s.source

/-- What stands in the fields is read as the fields of the property source. -/
structure ReadsSource (depth : Nat) (s : PropertySource) (value : String → List Char → Prop) :
    Prop where
  source {text : List Char} (h : value "source" text) : Reads (readSource depth) text s.source
  other {field : String} {text : List Char} (hother : field ≠ "source") (h : value field text) :
    s.IsField field text

theorem readsSource_isField (depth : Nat) {s : PropertySource} (hs : s.source.Ordered) :
    ReadsSource depth s s.IsField where
  source h := reads_readSource depth hs h
  other _ h := h

theorem readsMembers_source {depth : Nat} {s : PropertySource} {value : String → List Char → Prop}
    (h : ReadsSource depth s value) {names : List String}
    (hcount : ∀ name ∈ PropertySource.fields, names.count name ≤ 1) :
    ReadsMembers string (readSourceField depth) (fun n => Spells n.toList) value id
      (foundIn s) names where
  name_append := string_of_spells
  step_append := by
    intro before after name hnames b b' v rest hb hb' hv hrest
    have hnew := not_mem_of_count hcount hnames
    simp only [id, readSourceField, foundIn]
    by_cases hname : name = "name"
    · subst hname
      have htext : IsText s.name v := h.other (by decide) hv
      rw [if_pos rfl, readOnce_found (reads_readText htext) hb hb' hrest (hnew (by decide))]
      simp [found_append_of_ne]
    rw [if_neg hname]
    by_cases hsource : name = "source"
    · subst hsource
      rw [if_pos rfl, readOnce_found (h.source hv) hb hb' hrest (hnew (by decide))]
      simp [found_append_of_ne]
    have hunknown : IsValue v := by
      have hfield := h.other hsource hv
      rwa [PropertySource.IsField, if_neg hname, if_neg hsource] at hfield
    rw [if_neg hsource, skip_member hb hb' hunknown hrest]
    simp [found_append_of_ne, hname, hsource]

/-- The fields that are found make up the property source. -/
theorem finish_foundIn {s : PropertySource} {names : List String}
    (hmissing : ∀ name ∈ PropertySource.fields, name ∉ names → s.IsDefault name) :
    (foundIn s names).finish = .ok s := by
  have hname : "name" ∈ names := by
    by_cases hmem : "name" ∈ names
    · exact hmem
    · exact absurd (hmissing "name" (by decide) hmem).1 (by decide)
  have hsource := getD_found fun hmem => (hmissing "source" (by decide) hmem).2
  have hfound : found names "name" s.name = some s.name := if_pos hname
  simp only [SourceFields.finish, foundIn, hfound, hsource]

theorem starts_record {known : List String} {optional : String → Prop}
    {value : String → List Char → Prop} {text : List Char}
    (h : IsRecord known optional value text) : Starts text := by
  obtain ⟨names, -, -, body, -, rfl⟩ := h
  exact ⟨'{', _, rfl, by decide, by decide⟩

theorem reads_readPropertySource {depth : Nat} {s : PropertySource}
    {value : String → List Char → Prop} (hs : ReadsSource depth s value) {text : List Char}
    (h : IsRecord PropertySource.fields s.IsDefault value text) :
    Reads (readPropertySource depth) text s := by
  obtain ⟨names, hcount, hmissing, body, hbody, rfl⟩ := h
  intro b rest hb _
  have hskip := skipSpace_word hb (show isSpace '{' = false by decide) (body ++ rest)
  have hread := objectOf_append (readsMembers_source hs hcount) hbody rest
  change objectOf string (readSourceField depth) {} (body ++ rest) = _ at hread
  have hbrace : '{' ≠ '[' := by decide
  simp only [List.cons_append, readPropertySource, hskip, if_neg hbrace, if_true, hread, bind,
    Except.bind, finish_foundIn hmissing]
  rfl

/-! ## Environments -/

/-- What is found in an environment after some names. -/
def fieldsAfter (e : Environment) (names : List String) : Fields where
  name := found names "name" e.name
  profiles := found names "profiles" e.profiles
  label := found names "label" e.label
  version := found names "version" e.version
  state := found names "state" e.state
  propertySources := found names "propertySources" e.propertySources

/-- The list of property sources, all of them with maps that are in order. -/
theorem reads_sources {e : Environment} (he : e.WellFormed) {text : List Char}
    (h : IsArray PropertySource.IsDocument e.propertySources text) :
    Reads (readList (readPropertySource sourceDepth)) text e.propertySources := by
  have hitem (s : PropertySource) (t : List Char) (hs : s.source.Ordered ∧ s.IsDocument t) :=
    And.intro (starts_record hs.2)
      (reads_readPropertySource (readsSource_isField sourceDepth hs.1) hs.2)
  obtain ⟨body, hbody, rfl⟩ := h
  exact reads_readList hitem ⟨body, hbody.imp fun s hs t ht _ => ⟨he s hs, ht⟩, rfl⟩

/-- What stands in the fields is read as the fields of the environment. -/
structure ReadsFields (e : Environment) (value : String → List Char → Prop) : Prop where
  sources {text : List Char} (h : value "propertySources" text) :
    Reads (readList (readPropertySource sourceDepth)) text e.propertySources
  other {field : String} {text : List Char} (hother : field ≠ "propertySources")
    (h : value field text) : e.IsField field text

theorem readsFields_isField {e : Environment} (he : e.WellFormed) : ReadsFields e e.IsField where
  sources h := reads_sources he h
  other _ h := h

theorem readsMembers_environment {e : Environment} {value : String → List Char → Prop}
    (h : ReadsFields e value) {names : List String}
    (hcount : ∀ name ∈ fields, names.count name ≤ 1) :
    ReadsMembers string readField (fun n => Spells n.toList) value id e.fieldsAfter
      names where
  name_append := string_of_spells
  step_append := by
    intro before after name hnames b b' v rest hb hb' hv hrest
    have hnew := not_mem_of_count hcount hnames
    simp only [id, readField, fieldsAfter]
    by_cases hname : name = "name"
    · subst hname
      have htext : IsText e.name v := h.other (by decide) hv
      rw [if_pos rfl, readOnce_found (reads_readText htext) hb hb' hrest (hnew (by decide))]
      simp [found_append_of_ne]
    rw [if_neg hname]
    by_cases hprofiles : name = "profiles"
    · subst hprofiles
      have htexts : IsArray IsText e.profiles v := h.other (by decide) hv
      have hitem (s : String) (text : List Char) (h : IsText s text) :=
        And.intro (starts_text h) (reads_readText h)
      rw [if_pos rfl, readOnce_found (reads_readList hitem htexts) hb hb' hrest (hnew (by decide))]
      simp [found_append_of_ne]
    rw [if_neg hprofiles]
    by_cases hlabel : name = "label"
    · subst hlabel
      have htext : IsOptionalText e.label v := h.other (by decide) hv
      rw [if_pos rfl, readOnce_found (reads_readOptional htext) hb hb' hrest (hnew (by decide))]
      simp [found_append_of_ne]
    rw [if_neg hlabel]
    by_cases hversion : name = "version"
    · subst hversion
      have htext : IsOptionalText e.version v := h.other (by decide) hv
      rw [if_pos rfl, readOnce_found (reads_readOptional htext) hb hb' hrest (hnew (by decide))]
      simp [found_append_of_ne]
    rw [if_neg hversion]
    by_cases hstate : name = "state"
    · subst hstate
      have htext : IsOptionalText e.state v := h.other (by decide) hv
      rw [if_pos rfl, readOnce_found (reads_readOptional htext) hb hb' hrest (hnew (by decide))]
      simp [found_append_of_ne]
    rw [if_neg hstate]
    by_cases hsources : name = "propertySources"
    · subst hsources
      rw [if_pos rfl, readOnce_found (h.sources hv) hb hb' hrest (hnew (by decide))]
      simp [found_append_of_ne]
    have hunknown : IsValue v := by
      have hfield := h.other hsources hv
      rwa [IsField, if_neg hname, if_neg hprofiles, if_neg hlabel, if_neg hversion, if_neg hstate,
        if_neg hsources] at hfield
    rw [if_neg hsources, skip_member hb hb' hunknown hrest]
    simp [found_append_of_ne, hname, hprofiles, hlabel, hversion, hstate, hsources]

/-- The fields that are found make up the environment. -/
theorem finish_fieldsAfter {e : Environment} {names : List String}
    (hmissing : ∀ name ∈ fields, name ∉ names → e.IsDefault name) :
    (e.fieldsAfter names).finish = e := by
  have hname := getD_found fun h => (hmissing "name" (by decide) h).1 rfl
  have hprofiles := getD_found fun h => (hmissing "profiles" (by decide) h).2.1 rfl
  have hlabel := getD_found fun h => (hmissing "label" (by decide) h).2.2.1 rfl
  have hversion := getD_found fun h => (hmissing "version" (by decide) h).2.2.2.1 rfl
  have hstate := getD_found fun h => (hmissing "state" (by decide) h).2.2.2.2.1 rfl
  have hsources := getD_found fun h => (hmissing "propertySources" (by decide) h).2.2.2.2.2 rfl
  simp only [Fields.finish, fieldsAfter, hname, hprofiles, hlabel, hversion, hstate, hsources]

/-- An environment is found in a record of its fields, with blanks around it. -/
theorem ofJson_of_isRecord {e : Environment} {value : String → List Char → Prop}
    (he : ReadsFields e value) {b v b' : List Char} (hb : Blank b) (hb' : Blank b')
    (h : IsRecord fields e.IsDefault value v) {text : String}
    (htext : text.toList = b ++ (v ++ b')) : ofJson text = .ok e := by
  obtain ⟨names, hcount, hmissing, body, hbody, rfl⟩ := h
  have hskip := skipSpace_word hb (show isSpace '{' = false by decide) (body ++ b')
  have hread := objectOf_append (readsMembers_environment he hcount) hbody b'
  change objectOf string readField {} (body ++ b') = _ at hread
  have hrecord : readEnvironment (b ++ '{' :: (body ++ b')) = .ok (e, b') := by
    have hbrace : '{' ≠ '[' := by decide
    simp only [readEnvironment, hskip, if_neg hbrace, if_true, hread, bind, Except.bind,
      finish_fieldsAfter hmissing]
    rfl
  have hend : skipSpace b' = [] := by
    have := skipSpace_append hb' []
    rwa [List.append_nil] at this
  rw [ofJson, htext, List.cons_append, hrecord, finish]
  simp only [bind, Except.bind, hend]
  rfl

/-- The environment of a document is found. -/
theorem ofJson_of_isDocument {e : Environment} (he : e.WellFormed) {text : String}
    (h : e.IsDocument text.toList) : ofJson text = .ok e := by
  obtain ⟨b, v, b', hb, hb', hv, htext⟩ := h
  exact ofJson_of_isRecord (readsFields_isField he) hb hb' hv htext

/-! ## Round trip -/

/-- An environment is found in its plain document, and in every other text that
is one of its documents: with members in any order, default values left out,
members with other names, and blanks. -/
theorem ofJson_document {e : Environment} (he : e.WellFormed) :
    e.IsDocument e.toJson.render.toList ∧
      ∀ text : String, e.IsDocument text.toList → ofJson text = .ok e :=
  ⟨e.isDocument_render, fun _ h => ofJson_of_isDocument he h⟩

/-- A document with an unknown member in front, blanks, an escape, the members
of a property source and of its map the other way round, and no label, version
or state. -/
theorem ofJson_document_decorated :
    let e : Environment :=
      { name := "app", profiles := ["é"]
        propertySources := [⟨"s", .ofList [("k", "1"), ("l", "2")]⟩] }
    let text := "\x7b\"x\":[ \x7b\x7d ], \"propertySources\":" ++
      "[\x7b\"source\":\x7b\"l\":\"2\", \"k\":\"1\"\x7d,\"name\":\"s\"\x7d]," ++
      "\"profiles\":[\"\\u00e9\"],\"name\":\"app\"\x7d\n"
    e.WellFormed ∧ e.IsDocument text.toList ∧ ofJson text = .ok e := by
  intro e text
  have he : e.WellFormed := by
    intro s hs
    rw [List.mem_singleton.1 hs]
    exact TextMap.ordered_ofList _
  have hspace : Blank [' '] := by simp [Blank, isSpace]
  have hline : Blank ['\n'] := by simp [Blank, isSpace]
  have hunknown : IsValue "[ \x7b\x7d ]".toList := by
    have hobject : IsNested 1 ['{', '}'] := .object ⟨['}'], .nil blank_nil, rfl⟩
    have harray : IsArray (fun _ => IsNested 1) [()] "[ \x7b\x7d ]".toList :=
      ⟨_, .cons hspace hobject (.nil hspace), rfl⟩
    exact ⟨2, .array harray⟩
  have hmap : PropertySource.IsMap (.ofList [("k", "1"), ("l", "2")])
      "\x7b\"l\":\"2\", \"k\":\"1\"\x7d".toList :=
    ⟨[("l", "2"), ("k", "1")], by decide, _,
      .cons blank_nil (isMember_quoted "l" (isText_quoted "2"))
        (.cons blank_nil hspace (isMember_quoted "k" (isText_quoted "1")) (.nil blank_nil)), rfl⟩
  have hsource : PropertySource.IsDocument ⟨"s", .ofList [("k", "1"), ("l", "2")]⟩
      "\x7b\"source\":\x7b\"l\":\"2\", \"k\":\"1\"\x7d,\"name\":\"s\"\x7d".toList :=
    ⟨["source", "name"], by decide, by simp [PropertySource.fields], _,
      .cons blank_nil (isMember_quoted "source" hmap)
        (.cons blank_nil blank_nil (isMember_quoted "name" (isText_quoted "s"))
          (.nil blank_nil)), rfl⟩
  have hsources : IsArray PropertySource.IsDocument e.propertySources _ :=
    ⟨_, .cons blank_nil hsource (.nil blank_nil), rfl⟩
  have hescape : Spells ['é'] ('\\' :: 'u' :: (['0', '0', 'e', '9'] ++ [])) :=
    .unit (n := 0xe9) rfl rfl (by simp [IsSurrogate]) .nil
  have hprofiles : IsArray IsText e.profiles _ :=
    ⟨_, .cons blank_nil ⟨_, hescape, rfl⟩ (.nil blank_nil), rfl⟩
  have hrecord : IsRecord fields e.IsDefault e.IsField _ :=
    ⟨["x", "propertySources", "profiles", "name"], by decide, by simp [fields, IsDefault, e], _,
      .cons blank_nil (isMember_quoted "x" hunknown)
        (.cons blank_nil hspace (isMember_quoted "propertySources" hsources)
          (.cons blank_nil blank_nil (isMember_quoted "profiles" hprofiles)
            (.cons blank_nil blank_nil (isMember_quoted "name" (isText_quoted "app"))
              (.nil blank_nil)))), rfl⟩
  have hdocument : e.IsDocument text.toList :=
    ⟨[], _, ['\n'], blank_nil, hline, hrecord, by decide +kernel⟩
  exact ⟨he, hdocument, (ofJson_document he).2 text hdocument⟩

end Environment

end RemoteConfig
