import RemoteConfig.Json.Reader
import RemoteConfig.Proofs.Json.Scan

/-!
# Reading JSON values

The loops over arrays and objects take what the grammar says stands between
the brackets.  An array needs a reader of its items; an object needs a reader
of names and a step for each member, which may depend on the members before
it.

* `arrayOf_append` and `objectOf_append` are the loops.
* `skip_append` is the result about values that are passed over: any value of
  any depth.
-/

namespace RemoteConfig.Json

/-- A reader takes a text off the front and finds `x`, whatever ends the text.
Blanks in front are skipped. -/
def Reads {α : Type} (read : Reader α) (text : List Char) (x : α) : Prop :=
  ∀ b rest, Blank b → Ends rest → read (b ++ (text ++ rest)) = .ok (x, rest)

/-- A text that starts with a word, and not with the end of an array. -/
def Starts (text : List Char) : Prop :=
  ∃ c cs, text = c :: cs ∧ isSpace c = false ∧ c ≠ ']'

/-- A reader that passes over blanks need only read from the first character on. -/
theorem reads_of_first {α : Type} {read : Reader α} {x : α} {c : Char} {cs : List Char}
    (hblank : ∀ {b : List Char}, Blank b → ∀ more, read (b ++ c :: more) = read (c :: more))
    (hc : isSpace c = false) (hclose : c ≠ ']')
    (h : ∀ rest, Ends rest → read (c :: (cs ++ rest)) = .ok (x, rest)) :
    Starts (c :: cs) ∧ Reads read (c :: cs) x := by
  refine ⟨⟨c, cs, rfl, hc, hclose⟩, fun b rest hb hrest => ?_⟩
  rw [List.cons_append, hblank hb]
  exact h rest hrest

theorem colon_append {b : List Char} (hb : Blank b) (rest : List Char) :
    colon (b ++ ':' :: rest) = .ok ((), rest) := by
  have hskip := skipSpace_word hb (show isSpace ':' = false by decide) rest
  simp only [colon, hskip, if_true]

/-! ## Items and their ends -/

section Items

variable {α : Type} {close : Char} {item : α → List Char → Prop} {xs : List α} {text : List Char}

theorem Ends.blank_append {b rest : List Char} (hb : Blank b) (h : Ends rest) :
    Ends (b ++ rest) := by
  cases b with
  | nil => exact h
  | cons c b =>
    intro d hd
    obtain rfl := Option.some.inj hd
    exact Or.inl (hb c List.mem_cons_self)

/-- A word in front of further items or a closing bracket ends there. -/
theorem Tail.ends (hclose : close = ']' ∨ close = '}') (h : Tail close item xs text)
    (rest : List Char) : Ends (text ++ rest) := by
  cases h with
  | nil hb =>
    rw [List.append_assoc]
    refine Ends.blank_append hb ?_
    intro c hc
    obtain rfl := Option.some.inj hc
    exact Or.inr (Or.inr hclose)
  | cons hb _ _ _ =>
    rw [List.append_assoc]
    refine Ends.blank_append hb ?_
    intro c hc
    obtain rfl := Option.some.inj hc
    exact Or.inr (Or.inl rfl)

theorem Tail.length_lt (h : Tail close item xs text) : xs.length < text.length := by
  induction h with
  | nil _ =>
    rw [List.length_append]
    exact Nat.lt_of_lt_of_le Nat.one_pos (Nat.le_add_left _ _)
  | cons _ _ _ _ ih =>
    simp only [List.length_append, List.length_cons]
    omega

theorem Body.length_le (h : Body close item xs text) : xs.length ≤ text.length := by
  cases h with
  | nil _ => exact Nat.zero_le _
  | cons _ _ h =>
    have := h.length_lt
    simp only [List.length_append, List.length_cons]
    omega

/-- Items may be known to be of the list, and no longer than the text. -/
theorem Tail.imp {item' : α → List Char → Prop} (h : Tail close item xs text)
    (himp : ∀ x ∈ xs, ∀ t, item x t → t.length ≤ text.length → item' x t) :
    Tail close item' xs text := by
  induction h with
  | nil hb => exact .nil hb
  | @cons b b' t tail x xs hb hb' hx _ ih =>
    simp only [List.length_append, List.length_cons] at himp
    refine .cons hb hb' (himp x List.mem_cons_self t hx (by omega)) (ih fun y hy t' ht' hle => ?_)
    exact himp y (List.mem_cons_of_mem x hy) t' ht' (by omega)

theorem Body.imp {item' : α → List Char → Prop} (h : Body close item xs text)
    (himp : ∀ x ∈ xs, ∀ t, item x t → t.length ≤ text.length → item' x t) :
    Body close item' xs text := by
  cases h with
  | nil hb => exact .nil hb
  | @cons b t tail x xs hb hx h =>
    simp only [List.length_append] at himp
    refine .cons hb (himp x List.mem_cons_self t hx (by omega)) (h.imp fun y hy t' ht' hle => ?_)
    exact himp y (List.mem_cons_of_mem x hy) t' ht' (by omega)

/-- Items may be seen through a function. -/
theorem Tail.map {β : Type} {item' : β → List Char → Prop} {f : α → β}
    (himp : ∀ x t, item x t → item' (f x) t) (h : Tail close item xs text) :
    Tail close item' (xs.map f) text := by
  induction h with
  | nil hb => exact .nil hb
  | cons hb hb' hx _ ih => exact .cons hb hb' (himp _ _ hx) ih

theorem Body.map {β : Type} {item' : β → List Char → Prop} {f : α → β}
    (himp : ∀ x t, item x t → item' (f x) t) (h : Body close item xs text) :
    Body close item' (xs.map f) text := by
  cases h with
  | nil hb => exact .nil hb
  | cons hb hx h => exact .cons hb (himp _ _ hx) (h.map himp)

/-- Every item stands somewhere in the text. -/
theorem Tail.exists_item (h : Tail close item xs text) {x : α} (hx : x ∈ xs) :
    ∃ t, item x t := by
  induction h with
  | nil _ => cases hx
  | cons _ _ hitem _ ih =>
    rcases List.mem_cons.1 hx with rfl | hx
    · exact ⟨_, hitem⟩
    · exact ih hx

theorem Body.exists_item (h : Body close item xs text) {x : α} (hx : x ∈ xs) :
    ∃ t, item x t := by
  cases h with
  | nil _ => cases hx
  | cons _ hitem h =>
    rcases List.mem_cons.1 hx with rfl | hx
    · exact ⟨_, hitem⟩
    · exact h.exists_item hx

end Items

/-! ## Arrays -/

section Arrays

variable {α : Type} {read : Reader α} {item : α → List Char → Prop}

theorem nextElement_close (first : Bool) {b : List Char} (hb : Blank b) (rest : List Char) :
    nextElement first (b ++ ']' :: rest) = .ok none := by
  have hskip := skipSpace_word hb (show isSpace ']' = false by decide) rest
  simp only [nextElement, hskip, if_true]

theorem nextElement_first {b text : List Char} (hb : Blank b) (htext : Starts text)
    (rest : List Char) : nextElement true (b ++ (text ++ rest)) = .ok (some (text ++ rest)) := by
  obtain ⟨c, cs, rfl, hspace, hclose⟩ := htext
  have hskip := skipSpace_word hb hspace (cs ++ rest)
  simp only [List.cons_append, nextElement, hskip, if_neg hclose, if_true]

theorem nextElement_next {b b' text : List Char} (hb : Blank b) (hb' : Blank b')
    (htext : Starts text) (rest : List Char) :
    nextElement false (b ++ ',' :: (b' ++ (text ++ rest))) = .ok (some (text ++ rest)) := by
  obtain ⟨c, cs, rfl, hspace, hclose⟩ := htext
  have hcomma := skipSpace_word hb (show isSpace ',' = false by decide)
    (b' ++ (c :: cs ++ rest))
  have hskip := skipSpace_word hb' hspace (cs ++ rest)
  rw [List.cons_append] at hcomma ⊢
  simp only [nextElement, hcomma, hskip, if_neg hclose]
  rfl

theorem endArray_append {b : List Char} (hb : Blank b) (rest : List Char) :
    endArray (b ++ ']' :: rest) = .ok ((), rest) := by
  have hskip := skipSpace_word hb (show isSpace ']' = false by decide) rest
  simp only [endArray, hskip, if_true]

/-- One turn of the loop. -/
theorem elements_step {fuel : Nat} {first : Bool} {cs cs' text : List Char} {x : α}
    (hnext : nextElement first cs = .ok (some (text ++ cs'))) (hread : Reads read text x)
    (hends : Ends cs') :
    elements read (fuel + 1) first cs =
      (elements read fuel false cs').map fun r => (x :: r.1, r.2) := by
  have hitem := hread [] cs' blank_nil hends
  rw [List.nil_append] at hitem
  rw [elements, hnext]
  simp only [bind, Except.bind, hitem]
  cases elements read fuel false cs' <;> rfl

theorem elements_close {fuel : Nat} {first : Bool} {b : List Char} (hb : Blank b)
    (rest : List Char) : elements read (fuel + 1) first (b ++ ']' :: rest) = .ok ([], rest) := by
  rw [elements, nextElement_close first hb]
  simp only [bind, Except.bind, endArray_append hb]
  rfl

theorem elements_tail (hitem : ∀ x text, item x text → Starts text ∧ Reads read text x)
    {xs : List α} {text : List Char} (h : Tail ']' item xs text) {fuel : Nat}
    (hfuel : xs.length < fuel) (rest : List Char) :
    elements read fuel false (text ++ rest) = .ok (xs, rest) := by
  induction h generalizing fuel with
  | nil hb =>
    obtain ⟨fuel, rfl⟩ := Nat.exists_eq_add_of_lt hfuel
    rw [List.append_assoc]
    exact elements_close hb rest
  | @cons b b' text tail x xs hb hb' hx h ih =>
    obtain ⟨fuel, rfl⟩ : ∃ n, fuel = n + 1 := ⟨fuel - 1, by omega⟩
    obtain ⟨hstarts, hread⟩ := hitem x text hx
    have hnext := nextElement_next hb hb' hstarts (tail ++ rest)
    have hrest := ih (Nat.lt_of_succ_lt_succ hfuel)
    rw [List.append_assoc, List.cons_append, List.append_assoc, List.append_assoc,
      elements_step hnext hread (h.ends (Or.inl rfl) rest), hrest]
    rfl

/-- What stands between the brackets of an array is read item by item. -/
theorem arrayOf_append (hitem : ∀ x text, item x text → Starts text ∧ Reads read text x)
    {xs : List α} {body : List Char} (h : Body ']' item xs body) (rest : List Char) :
    arrayOf read (body ++ rest) = .ok (xs, rest) := by
  have hlength := h.length_le
  have hfuel : xs.length ≤ (body ++ rest).length := by
    rw [List.length_append]
    omega
  rw [arrayOf]
  cases h with
  | nil hb =>
    rw [List.append_assoc]
    exact elements_close hb rest
  | @cons b text tail x xs hb hx h =>
    obtain ⟨hstarts, hread⟩ := hitem x text hx
    have hnext := nextElement_first hb hstarts (tail ++ rest)
    rw [List.length_cons] at hfuel
    have hrest := elements_tail hitem h hfuel rest
    rw [List.append_assoc, List.append_assoc] at hrest ⊢
    rw [elements_step hnext hread (h.ends (Or.inl rfl) rest), hrest]
    rfl

end Arrays

/-! ## Objects -/

/-- How the members of an object are read: the names as they are spelled, and
each member by a step from the state after the members before it. -/
structure ReadsMembers {ν σ α : Type} (name : Reader ν) (step : σ → ν → Reader σ)
    (spelled value : α → List Char → Prop) (nameOf : α → ν) (state : List α → σ)
    (all : List α) : Prop where
  name_append {x : α} {n : List Char} (hn : spelled x n) (rest : List Char) :
    name (n ++ '"' :: rest) = .ok (nameOf x, rest)
  step_append {before after : List α} {x : α} (hall : all = before ++ x :: after)
    {b b' v rest : List Char} (hb : Blank b) (hb' : Blank b') (hv : value x v)
    (hrest : Ends rest) :
    step (state before) (nameOf x) (b ++ ':' :: (b' ++ (v ++ rest))) =
      .ok (state (before ++ [x]), rest)

section Objects

variable {ν σ α : Type} {name : Reader ν} {step : σ → ν → Reader σ}
  {spelled value : α → List Char → Prop} {nameOf : α → ν} {state : List α → σ} {all : List α}

theorem nextName_close (first : Bool) {b : List Char} (hb : Blank b) (rest : List Char) :
    nextName first (b ++ '}' :: rest) = .ok (none, rest) := by
  have hskip := skipSpace_word hb (show isSpace '}' = false by decide) rest
  simp only [nextName, hskip, if_true]

theorem nextName_first {b : List Char} (hb : Blank b) (rest : List Char) :
    nextName true (b ++ '"' :: rest) = .ok (some rest, []) := by
  have hskip := skipSpace_word hb (show isSpace '"' = false by decide) rest
  simp only [nextName, hskip]
  rfl

theorem nextName_next {b b' : List Char} (hb : Blank b) (hb' : Blank b') (rest : List Char) :
    nextName false (b ++ ',' :: (b' ++ '"' :: rest)) = .ok (some rest, []) := by
  have hcomma := skipSpace_word hb (show isSpace ',' = false by decide) (b' ++ '"' :: rest)
  have hskip := skipSpace_word hb' (show isSpace '"' = false by decide) rest
  simp only [nextName, hcomma, hskip]
  rfl

/-- One turn of the loop. -/
theorem members_step (h : ReadsMembers name step spelled value nameOf state all)
    (before : List α) {after : List α} {x : α} (hall : all = before ++ x :: after)
    {text : List Char} (htext : IsMember (spelled x) (value x) text) {first : Bool} {cs rest : List Char}
    (hnext : ∀ more, text = '"' :: more → nextName first cs = .ok (some (more ++ rest), []))
    (hrest : Ends rest) (fuel : Nat) :
    members name step (fuel + 1) first (state before) cs =
      members name step fuel false (state (before ++ [x])) rest := by
  obtain ⟨n, b, b', v, hn, hb, hb', hv, rfl⟩ := htext
  have hname := h.name_append hn (b ++ ':' :: (b' ++ (v ++ rest)))
  have hstep := h.step_append hall hb hb' hv hrest
  have hfirst := hnext _ rfl
  simp only [List.append_assoc, List.cons_append] at hfirst
  rw [members, hfirst]
  simp only [bind, Except.bind, hname, hstep]

theorem members_close {fuel : Nat} {first : Bool} {b : List Char} (hb : Blank b) (s : σ)
    (rest : List Char) :
    members name step (fuel + 1) first s (b ++ '}' :: rest) = .ok (s, rest) := by
  rw [members, nextName_close first hb]
  rfl

theorem members_tail (h : ReadsMembers name step spelled value nameOf state all)
    (before : List α) {after : List α} {text : List Char} (hall : all = before ++ after)
    (htext : Tail '}' (fun x => IsMember (spelled x) (value x)) after text) {fuel : Nat}
    (hfuel : after.length < fuel) (rest : List Char) :
    members name step fuel false (state before) (text ++ rest) = .ok (state all, rest) := by
  induction htext generalizing before fuel with
  | nil hb =>
    obtain ⟨fuel, rfl⟩ := Nat.exists_eq_add_of_lt hfuel
    rw [List.append_nil] at hall
    rw [List.append_assoc, hall]
    exact members_close hb _ rest
  | @cons b b' text tail x after hb hb' hx htail ih =>
    obtain ⟨fuel, rfl⟩ : ∃ n, fuel = n + 1 := ⟨fuel - 1, by omega⟩
    have hnext (more : List Char) (hmore : text = '"' :: more) :
        nextName false (b ++ ',' :: (b' ++ (text ++ (tail ++ rest)))) =
          .ok (some (more ++ (tail ++ rest)), []) := by
      rw [hmore, List.cons_append]
      exact nextName_next hb hb' _
    have hall' : all = before ++ [x] ++ after := by
      rw [hall, List.append_assoc]
      rfl
    rw [List.append_assoc, List.cons_append, List.append_assoc, List.append_assoc,
      members_step h before hall hx hnext (htail.ends (Or.inr rfl) rest)]
    exact ih (before ++ [x]) hall' (Nat.lt_of_succ_lt_succ hfuel)

/-- What stands between the braces of an object is read member by member. -/
theorem objectOf_append (h : ReadsMembers name step spelled value nameOf state all)
    {body : List Char}
    (hbody : Body '}' (fun x => IsMember (spelled x) (value x)) all body) (rest : List Char) :
    objectOf name step (state []) (body ++ rest) = .ok (state all, rest) := by
  have hlength := hbody.length_le
  have hfuel : all.length ≤ (body ++ rest).length := by
    rw [List.length_append]
    omega
  rw [objectOf]
  cases hbody with
  | nil hb =>
    rw [List.append_assoc]
    exact members_close hb _ rest
  | @cons b text tail x after hb hx htail =>
    have hnext (more : List Char) (hmore : text = '"' :: more) :
        nextName true (b ++ (text ++ (tail ++ rest))) =
          .ok (some (more ++ (tail ++ rest)), []) := by
      rw [hmore, List.cons_append]
      exact nextName_first hb _
    rw [List.length_cons] at hfuel
    have hrest := members_tail h [x] rfl htail hfuel rest
    rw [List.append_assoc, List.append_assoc] at hrest ⊢
    rw [members_step h [] rfl hx hnext (htail.ends (Or.inr rfl) rest)]
    exact hrest

end Objects

/-! ## Values that are passed over -/

section Skip

variable {depth : Nat}

/-- Blanks in front of a value are passed over with it. -/
theorem skipNested_blank {b : List Char} (hb : Blank b) {c : Char} (hc : isSpace c = false)
    (cs : List Char) :
    skipNested (depth + 1) (b ++ c :: cs) = skipNested (depth + 1) (c :: cs) := by
  rw [skipNested, skipNested, skipSpace_word hb hc, skipSpace_cons hc]

/-! The first character of a value tells which reader goes on. -/

theorem skipNested_null (cs : List Char) :
    skipNested (depth + 1) ('n' :: cs) = literal ['u', 'l', 'l'] cs :=
  rfl

theorem skipNested_true (cs : List Char) :
    skipNested (depth + 1) ('t' :: cs) = literal ['r', 'u', 'e'] cs :=
  rfl

theorem skipNested_false (cs : List Char) :
    skipNested (depth + 1) ('f' :: cs) = literal ['a', 'l', 's', 'e'] cs :=
  rfl

theorem skipNested_quote (cs : List Char) :
    skipNested (depth + 1) ('"' :: cs) = skipString cs :=
  rfl

theorem skipNested_minus (cs : List Char) :
    skipNested (depth + 1) ('-' :: cs) = skipNumber cs :=
  rfl

theorem isSpace_of_isDigit {d : Char} (hd : Decimal.isDigit d = true) : isSpace d = false := by
  have hspace := Decimal.of_isDigit (p := fun d => isSpace d == false) (by decide) hd
  exact eq_of_beq hspace

theorem ne_of_isDigit {d : Char} (hd : Decimal.isDigit d = true) :
    ∀ c ∈ ['n', 't', 'f', '"', '-', ']', '[', '{'], d ≠ c := by
  have hne := Decimal.of_isDigit
    (p := fun d => ['n', 't', 'f', '"', '-', ']', '[', '{'].all (d != ·)) (by decide) hd
  intro c hc
  exact bne_iff_ne.1 (List.all_eq_true.1 hne c hc)

theorem skipNested_digit {d : Char} (hd : Decimal.isDigit d = true) (cs : List Char) :
    skipNested (depth + 1) (d :: cs) = skipNumber (d :: cs) := by
  have hne := ne_of_isDigit hd
  rw [skipNested, skipSpace_cons (isSpace_of_isDigit hd)]
  simp only
  rw [if_neg (hne 'n' (by decide)), if_neg (hne 't' (by decide)), if_neg (hne 'f' (by decide)),
    if_neg (hne '"' (by decide)), if_neg (hne '-' (by decide)), if_pos hd]

theorem skipNested_bracket (cs : List Char) :
    skipNested (depth + 1) ('[' :: cs) =
      (arrayOf (skipNested depth) cs).map fun r => ((), r.2) :=
  rfl

theorem skipNested_brace (cs : List Char) :
    skipNested (depth + 1) ('{' :: cs) =
      objectOf skipString (skipMember (skipNested depth)) () cs :=
  rfl

/-- Reading from the first character on is enough. -/
theorem reads_skipNested {c : Char} {cs : List Char} (hc : isSpace c = false) (hclose : c ≠ ']')
    (h : ∀ rest, Ends rest → skipNested (depth + 1) (c :: (cs ++ rest)) = .ok ((), rest)) :
    Starts (c :: cs) ∧ Reads (skipNested (depth + 1)) (c :: cs) () :=
  reads_of_first (fun hb => skipNested_blank hb hc) hc hclose h

/-- Members are passed over if their values are. -/
theorem readsMembers_skip {nested : List Char → Prop} {read : Reader Unit}
    (h : ∀ text, nested text → Reads read text ()) (members : List Unit) :
    ReadsMembers skipString (skipMember read) (fun _ => IsSpelling) (fun _ => nested) id
      (fun _ => ()) members where
  name_append := skipString_of_isSpelling
  step_append := by
    intro _ _ _ _ b b' v rest hb hb' hv hrest
    simp only [skipMember, colon_append hb, bind, Except.bind]
    exact h v hv b' rest hb' hrest

theorem IsValueOver.length_pos {nested : List Char → Prop} {text : List Char}
    (h : IsValueOver nested text) : 0 < text.length := by
  cases h with
  | number h =>
    obtain ⟨d, cs, rfl, -⟩ := exists_digit h
    exact Nat.succ_pos _
  | array h =>
    obtain ⟨body, -, rfl⟩ := h
    exact Nat.succ_pos _
  | object h =>
    obtain ⟨body, -, rfl⟩ := h
    exact Nat.succ_pos _
  | _ => exact Nat.succ_pos _

/-- The value of a member is shorter than the member. -/
theorem IsMember.imp {name value value' : List Char → Prop} {text : List Char}
    (h : IsMember name value text)
    (himp : ∀ v, value v → v.length ≤ text.length → value' v) : IsMember name value' text := by
  obtain ⟨n, b, b', v, hn, hb, hb', hv, rfl⟩ := h
  refine ⟨n, b, b', v, hn, hb, hb', himp v hv ?_, rfl⟩
  simp only [List.length_append, List.length_cons]
  omega

/-- A value is passed over with any depth that is at least its length. -/
theorem skipNested_of_isNested {levels : Nat} {text : List Char} (h : IsNested levels text)
    (hdepth : text.length ≤ depth) : Starts text ∧ Reads (skipNested depth) text () := by
  induction levels generalizing text depth with
  | zero => exact h.elim
  | succ levels ih =>
    have hlength := IsValueOver.length_pos h
    obtain ⟨depth, rfl⟩ : ∃ n, depth = n + 1 := ⟨depth - 1, by omega⟩
    cases h with
    | null =>
      refine reads_skipNested (by decide) (by decide) fun rest _ => ?_
      rw [skipNested_null]
      exact literal_append _ rest
    | true =>
      refine reads_skipNested (by decide) (by decide) fun rest _ => ?_
      rw [skipNested_true]
      exact literal_append _ rest
    | false =>
      refine reads_skipNested (by decide) (by decide) fun rest _ => ?_
      rw [skipNested_false]
      exact literal_append _ rest
    | text h =>
      refine reads_skipNested (by decide) (by decide) fun rest _ => ?_
      rw [skipNested_quote, List.append_assoc]
      exact skipString_of_isSpelling h rest
    | negative h =>
      refine reads_skipNested (by decide) (by decide) fun rest hrest => ?_
      rw [skipNested_minus]
      exact skipNumber_of_isUnsigned h hrest
    | number h =>
      obtain ⟨d, cs, rfl, hd⟩ := exists_digit h
      refine reads_skipNested (isSpace_of_isDigit hd) (ne_of_isDigit hd ']' (by decide))
        fun rest hrest => ?_
      rw [skipNested_digit hd]
      exact skipNumber_of_isUnsigned h hrest
    | array h =>
      obtain ⟨body, hbody, rfl⟩ := h
      rw [List.length_cons] at hdepth
      refine reads_skipNested (by decide) (by decide) fun rest _ => ?_
      have hitem (_ : Unit) (t : List Char) (ht : IsNested levels t ∧ t.length ≤ depth) :=
        ih ht.1 ht.2
      have hread := arrayOf_append hitem (hbody.imp fun _ _ t ht hle => ⟨ht, by omega⟩) rest
      rw [skipNested_bracket, hread]
      rfl
    | @object members _ h =>
      obtain ⟨body, hbody, rfl⟩ := h
      rw [List.length_cons] at hdepth
      refine reads_skipNested (by decide) (by decide) fun rest _ => ?_
      have hvalue (t : List Char) (ht : IsNested levels t ∧ t.length ≤ depth) := (ih ht.1 ht.2).2
      have hmember (u : Unit) (_ : u ∈ members) (t : List Char)
          (ht : IsMember IsSpelling (IsNested levels) t) (hle : t.length ≤ body.length) :
          IsMember IsSpelling (fun v => IsNested levels v ∧ v.length ≤ depth) t :=
        ht.imp fun v hv hle' => ⟨hv, by omega⟩
      rw [skipNested_brace]
      exact objectOf_append (readsMembers_skip hvalue members) (hbody.imp hmember) rest

/-- Every value is passed over, however deep it is nested. -/
theorem skip_append {v : List Char} (hv : IsValue v) : Reads skip v () := by
  obtain ⟨levels, h⟩ := hv
  intro b rest hb hrest
  refine (skipNested_of_isNested h ?_).2 b rest hb hrest
  simp only [List.length_append]
  omega

end Skip

end RemoteConfig.Json
