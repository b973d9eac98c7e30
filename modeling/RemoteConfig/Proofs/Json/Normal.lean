import Mathlib.Data.List.Forall2
import RemoteConfig.Json.Value
import RemoteConfig.Proofs.TextMap

/-!
# Normal values

A value of a document as it is written has its members in the order of the text,
with all that have the same name.  Two of these denote the same value if they do
not differ but in the order of members and in members that a later one hides.

* `Same` says so.
* `normal` is the value with its members in the order of their names, each name
  once.  `normal_normal` says that this is a normal form, and `same_iff` that it
  is one for `Same`.
-/

namespace RemoteConfig.Json

/-! ## Induction -/

/-- What holds of an array if it holds of the items, and of an object if it holds of
the values of the members, holds of all values. -/
@[elab_as_elim]
theorem induction {motive : Json → Prop} (null : motive .null) (bool : ∀ b, motive (.bool b))
    (integer : ∀ i, motive (.integer i)) (double : ∀ d, motive (.double d))
    (text : ∀ s, motive (.text s))
    (array : ∀ items, (∀ v ∈ items, motive v) → motive (.array items))
    (object : ∀ members : List (String × Json), (∀ p ∈ members, motive p.2) →
      motive (.object members)) (v : Json) : motive v := by
  refine Json.rec (motive_1 := motive) (motive_2 := fun items => ∀ v ∈ items, motive v)
    (motive_3 := fun members => ∀ p ∈ members, motive p.2) (motive_4 := fun p => motive p.2)
    null bool integer double text array object (fun _ h => nomatch h) ?_ (fun _ h => nomatch h) ?_
    (fun _ _ h => h) v
  · exact fun _ _ hv hrest => List.forall_mem_cons.2 ⟨hv, hrest⟩
  · exact fun _ _ hp hrest => List.forall_mem_cons.2 ⟨hp, hrest⟩

/-! ## The same value -/

/-- The value of the last member with a name. -/
def lastMember (name : String) (members : List (String × Json)) : Option Json :=
  TextMap.lookup name members.reverse

theorem mem_of_lastMember {name : String} {members : List (String × Json)} {v : Json}
    (h : lastMember name members = some v) : (name, v) ∈ members :=
  List.mem_reverse.1 (TextMap.mem_of_get? (m := ⟨members.reverse⟩) h)

/-- Two values as they are written denote the same value: arrays have the same items
in the same order, and objects have the same names with the same last values. -/
inductive Same : Json → Json → Prop where
  | null : Same .null .null
  | bool (b : Bool) : Same (.bool b) (.bool b)
  | integer (i : Int) : Same (.integer i) (.integer i)
  | double (d : Double) : Same (.double d) (.double d)
  | text (s : String) : Same (.text s) (.text s)
  | array {items items' : List Json} (h : List.Forall₂ Same items items') :
    Same (.array items) (.array items')
  | object {members members' : List (String × Json)}
    (h : ∀ name, Option.Rel Same (lastMember name members) (lastMember name members')) :
    Same (.object members) (.object members')

/-! ## Normal forms -/

mutual

/-- The value with its members in the order of their names.  The last of several
members with a name stays. -/
def normal : Json → Json
  | null => null
  | bool b => bool b
  | integer i => integer i
  | double d => double d
  | text s => text s
  | array items => array (normalItems items)
  | object members => object (TextMap.ofList (normalMembers members)).toList

def normalItems : List Json → List Json
  | [] => []
  | v :: rest => normal v :: normalItems rest

def normalMembers : List (String × Json) → List (String × Json)
  | [] => []
  | (name, v) :: rest => (name, normal v) :: normalMembers rest

end

theorem normal_array (items : List Json) : normal (.array items) = .array (items.map normal) := by
  have hitems : normalItems items = items.map normal := by
    induction items with
    | nil => rfl
    | cons v rest ih => rw [normalItems, ih, List.map_cons]
  rw [normal, hitems]

/-- The members of an object as a map of normal values. -/
def normalMap (members : List (String × Json)) : TextMap Json :=
  .ofList (members.map fun p => (p.1, normal p.2))

theorem normal_object (members : List (String × Json)) :
    normal (.object members) = .object (normalMap members).toList := by
  have hmembers : normalMembers members = members.map fun p => (p.1, normal p.2) := by
    induction members with
    | nil => rfl
    | cons p rest ih => rw [normalMembers, ih, List.map_cons]
  rw [normal, hmembers, normalMap]

theorem get?_normalMap (name : String) (members : List (String × Json)) :
    (normalMap members).get? name = (lastMember name members).map normal := by
  rw [normalMap, TextMap.get?_ofList, ← List.map_reverse, lastMember, TextMap.lookup_map]

theorem mem_of_mem_normalMap {members : List (String × Json)} {p : String × Json}
    (h : p ∈ (normalMap members).toList) : ∃ q ∈ members, p = (q.1, normal q.2) := by
  obtain ⟨q, hq, rfl⟩ := List.mem_map.1 (TextMap.mem_of_mem_ofList h)
  exact ⟨q, hq, rfl⟩

theorem normal_object_eq_iff {members members' : List (String × Json)} :
    normal (.object members) = normal (.object members') ↔
      ∀ name, (lastMember name members).map normal = (lastMember name members').map normal := by
  simp only [normal_object, Json.object.injEq, ← get?_normalMap]
  constructor
  · intro heq name
    rw [TextMap.get?, TextMap.get?, heq]
  · intro hget
    have heq := (TextMap.ordered_ofList _).ext (TextMap.ordered_ofList _) hget
    exact congrArg TextMap.toList heq

/-- What is normal already stays as it is. -/
theorem normal_normal (v : Json) : normal (normal v) = normal v := by
  induction v using Json.induction with
  | array items ih =>
    rw [normal_array, normal_array, List.map_map]
    exact congrArg Json.array (List.map_congr_left ih)
  | object members ih =>
    have hmembers : (normalMap members).toList.map (fun p => (p.1, normal p.2)) =
        (normalMap members).toList := by
      refine (List.map_congr_left fun p hp => ?_).trans (List.map_id _)
      obtain ⟨q, hq, rfl⟩ := mem_of_mem_normalMap hp
      rw [ih q hq, id]
    have hmap : normalMap (normalMap members).toList = normalMap members := by
      conv_lhs => rw [normalMap, hmembers]
      exact (TextMap.ordered_ofList _).ofList_of_perm (.refl _)
    rw [normal_object, normal_object, hmap]
  | _ => rfl

/-! ## The normal form tells values apart -/

section Relations

variable {α β : Type} {R : α → α → Prop} {f : α → β}

theorem forall₂_iff_map_eq {l l' : List α} (h : ∀ x ∈ l, ∀ y, R x y ↔ f x = f y) :
    List.Forall₂ R l l' ↔ l.map f = l'.map f := by
  induction l generalizing l' with
  | nil => cases l' <;> simp
  | cons x l ih =>
    obtain ⟨hx, hl⟩ := List.forall_mem_cons.1 h
    cases l' with
    | nil => simp
    | cons y l' => rw [List.forall₂_cons, hx, ih hl, List.map_cons, List.map_cons, List.cons.injEq]

theorem optionRel_iff_map_eq {x? y? : Option α} (h : ∀ x ∈ x?, ∀ y, R x y ↔ f x = f y) :
    Option.Rel R x? y? ↔ x?.map f = y?.map f := by
  constructor
  · rintro (hxy | _)
    · exact congrArg some ((h _ rfl _).1 hxy)
    · rfl
  · intro heq
    cases x? with
    | none =>
      cases y? with
      | none => exact .none
      | some y => cases heq
    | some x =>
      cases y? with
      | none => cases heq
      | some y => exact .some ((h x rfl y).2 (Option.some.inj heq))

end Relations

/-- Two values as they are written denote the same value exactly if their normal forms
are the same. -/
theorem same_iff {v w : Json} : Same v w ↔ normal v = normal w := by
  induction v using Json.induction generalizing w with
  | null =>
    cases w with
    | null => exact iff_of_true .null rfl
    | _ => exact ⟨nofun, nofun⟩
  | bool b =>
    cases w with
    | bool b' => exact ⟨fun | .bool _ => rfl, fun | rfl => .bool _⟩
    | _ => exact ⟨nofun, nofun⟩
  | integer i =>
    cases w with
    | integer i' => exact ⟨fun | .integer _ => rfl, fun | rfl => .integer _⟩
    | _ => exact ⟨nofun, nofun⟩
  | double d =>
    cases w with
    | double d' => exact ⟨fun | .double _ => rfl, fun | rfl => .double _⟩
    | _ => exact ⟨nofun, nofun⟩
  | text s =>
    cases w with
    | text s' => exact ⟨fun | .text _ => rfl, fun | rfl => .text _⟩
    | _ => exact ⟨nofun, nofun⟩
  | array items ih =>
    cases w with
    | array items' =>
      rw [normal_array, normal_array, Json.array.injEq, ← forall₂_iff_map_eq fun v hv w => ih v hv]
      exact ⟨fun | .array h => h, .array⟩
    | _ => exact ⟨nofun, nofun⟩
  | object members ih =>
    cases w with
    | object members' =>
      have hmember (name : String) :
          Option.Rel Same (lastMember name members) (lastMember name members') ↔
            (lastMember name members).map normal = (lastMember name members').map normal :=
        optionRel_iff_map_eq fun v hv _ => ih (name, v) (mem_of_lastMember hv)
      rw [normal_object_eq_iff]
      exact ⟨fun | .object h => fun name => (hmember name).1 (h name),
        fun h => .object fun name => (hmember name).2 (h name)⟩
    | _ => exact ⟨nofun, nofun⟩

end RemoteConfig.Json
