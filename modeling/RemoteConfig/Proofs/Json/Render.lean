import Mathlib.Tactic.SplitIfs
import RemoteConfig.Json.Value
import RemoteConfig.Proofs.Json.Scan

/-!
# Canonical texts follow the grammar

What `Json.chars` writes is text of the grammar: every character is spelled by
its escape, and items and members stand between their brackets without blanks.
-/

namespace RemoteConfig.Json

theorem toList_render (v : Json) : v.render.toList = chars v :=
  String.toList_ofList

/-! ## Texts -/

/-- A control character without an escape of its own is spelled by two digits. -/
theorem value?_control {n : Nat} (hn : n < 0x20) :
    Radix.value? 16 ['0', '0', Radix.lowerDigit (n / 16), Radix.lowerDigit (n % 16)] = some n := by
  revert n
  decide

/-- Every character is spelled by its escape. -/
theorem spells_escapeChar (c : Char) {cs text : List Char} (h : Spells cs text) :
    Spells (c :: cs) (escapeChar c ++ text) := by
  unfold escapeChar
  split_ifs with hquote hslash _ _ _ _ _ hcontrol
  -- the characters with an escape of one letter
  any_goals
    subst c
    exact .simple rfl h
  · have hunit : ¬ IsSurrogate c.toNat := fun hsurrogate => by
      have := hsurrogate.1
      omega
    have hspells := Spells.unit rfl (value?_control hcontrol) hunit h
    rw [Char.ofNat_toNat] at hspells
    exact hspells
  · exact .plain ⟨hquote, hslash, by omega⟩ h

theorem spells_flatMap (cs : List Char) : Spells cs (cs.flatMap escapeChar) := by
  induction cs with
  | nil => exact .nil
  | cons c cs ih => exact spells_escapeChar c ih

theorem isText_quoted (s : String) : IsText s (quoted s) :=
  ⟨_, spells_flatMap s.toList, rfl⟩

/-! ## Items and members -/

theorem isMember_quoted {value : List Char → Prop} (name : String) {text : List Char}
    (h : value text) : IsMember (Spells name.toList) value (quoted name ++ ':' :: text) := by
  refine ⟨_, [], [], text, spells_flatMap name.toList, blank_nil, blank_nil, h, ?_⟩
  simp [quoted]

section Items

variable {α : Type} {close : Char} {item : α → List Char → Prop} {word : α → List Char}

/-- Items with commas between them, up to the closing bracket. -/
theorem body_join (join : List α → List Char) (hnil : join [] = [])
    (hone : ∀ x, join [x] = word x)
    (hcons : ∀ x y ys, join (x :: y :: ys) = word x ++ ',' :: join (y :: ys)) {xs : List α}
    (h : ∀ x ∈ xs, item x (word x)) : Body close item xs (join xs ++ [close]) := by
  have htail (x : α) (xs : List α) (h : ∀ y ∈ x :: xs, item y (word y)) :
      ∃ tail, Tail close item xs tail ∧ join (x :: xs) ++ [close] = word x ++ tail := by
    induction xs generalizing x with
    | nil => exact ⟨[close], .nil blank_nil, by rw [hone]⟩
    | cons y ys ih =>
      obtain ⟨tail, htail, heq⟩ := ih y fun z hz => h z (List.mem_cons_of_mem x hz)
      have hy := h y (List.mem_cons_of_mem x List.mem_cons_self)
      refine ⟨',' :: (word y ++ tail), .cons blank_nil blank_nil hy htail, ?_⟩
      rw [hcons, List.append_assoc, List.cons_append, heq]
  cases xs with
  | nil =>
    rw [hnil]
    exact .nil blank_nil
  | cons x xs =>
    obtain ⟨tail, htail, heq⟩ := htail x xs h
    rw [heq]
    exact .cons blank_nil (h x List.mem_cons_self) htail

variable {xs : List α}

/-- The items of an array stand between its brackets. -/
theorem isArray_chars {f : α → Json} (h : ∀ x ∈ xs, item x (chars (f x))) :
    IsArray item xs (chars (.array (xs.map f))) := by
  have hbody : Body ']' item xs (itemChars (xs.map f) ++ [']']) := by
    refine body_join (fun xs => itemChars (xs.map f)) ?_ ?_ ?_ h
    · rw [List.map_nil, itemChars]
    · intro x
      rw [List.map_cons, List.map_nil, itemChars]
    · intro x y ys
      rw [List.map_cons, List.map_cons, itemChars]
      simp
  exact ⟨_, hbody, by rw [chars]⟩

/-- The members of an object stand between its braces. -/
theorem isObject_chars {value : α → List Char → Prop} (name : α → String) {f : α → Json}
    (h : ∀ x ∈ xs, value x (chars (f x))) :
    IsObject (fun x => IsMember (Spells (name x).toList) (value x)) xs
      (chars (.object (xs.map fun x => (name x, f x)))) := by
  have hmember (x : α) (hx : x ∈ xs) := isMember_quoted (name x) (h x hx)
  have hbody : Body '}' (fun x => IsMember (Spells (name x).toList) (value x)) xs
      (memberChars (xs.map fun x => (name x, f x)) ++ ['}']) := by
    refine body_join (fun xs => memberChars (xs.map fun x => (name x, f x))) ?_ ?_ ?_ hmember
    · rw [List.map_nil, memberChars]
    · intro x
      rw [List.map_cons, List.map_nil, memberChars]
    · intro x y ys
      rw [List.map_cons, List.map_cons, memberChars]
      · simp
      · simp
  exact ⟨_, hbody, by rw [chars]⟩

end Items

end RemoteConfig.Json
