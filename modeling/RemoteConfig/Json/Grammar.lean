import RemoteConfig.Json.Scan

/-!
# The grammar of JSON

What JSON texts look like, without regard to how they are read: blanks
between words, the spellings of texts, numbers, and arrays and objects as
lists of items between brackets.

`Body` says what stands between the brackets; it takes the grammar of the items
as a parameter, so that documents with a fixed shape use it as well as values
of any shape.  `IsValue` is the grammar of all values, nested as deep as you
like.
-/

namespace RemoteConfig.Json

/-- Blanks, or nothing. -/
def Blank (cs : List Char) : Prop :=
  ∀ c ∈ cs, isSpace c = true

/-! ## Texts -/

/-- A character that stands for itself between quotes. -/
def IsPlain (c : Char) : Prop :=
  c ≠ '"' ∧ c ≠ '\\' ∧ 0x20 ≤ c.toNat

/-- A half of a surrogate pair. -/
def IsSurrogate (n : Nat) : Prop :=
  0xD800 ≤ n ∧ n ≤ 0xDFFF

/-- How characters are spelled between quotes: as themselves, or as escapes, of
which there may be several for a character. -/
inductive Spells : List Char → List Char → Prop where
  | nil : Spells [] []
  | plain {c : Char} {cs text : List Char} (hc : IsPlain c) (h : Spells cs text) :
    Spells (c :: cs) (c :: text)
  | simple {c letter : Char} {cs text : List Char} (hc : simpleEscape? letter = some c)
    (h : Spells cs text) : Spells (c :: cs) ('\\' :: letter :: text)
  | unit {digits : List Char} {n : Nat} {cs text : List Char} (hlength : digits.length = 4)
    (hn : Radix.value? 16 digits = some n) (hunit : ¬ IsSurrogate n) (h : Spells cs text) :
    Spells (Char.ofNat n :: cs) ('\\' :: 'u' :: (digits ++ text))
  | pair {digits digits' : List Char} {high low : Nat} {cs text : List Char}
    (hlength : digits.length = 4) (hlength' : digits'.length = 4)
    (hhigh : Radix.value? 16 digits = some high) (hlow : Radix.value? 16 digits' = some low)
    (hhigh' : 0xD800 ≤ high ∧ high < 0xDC00) (hlow' : 0xDC00 ≤ low ∧ low ≤ 0xDFFF)
    (h : Spells cs text) :
    Spells (Char.ofNat (0x10000 + (high - 0xD800) * 0x400 + (low - 0xDC00)) :: cs)
      ('\\' :: 'u' :: (digits ++ '\\' :: 'u' :: (digits' ++ text)))

/-- What may stand between the quotes of a text: as in `Spells`, but escapes
with four digits need not make up characters. -/
inductive IsSpelling : List Char → Prop where
  | nil : IsSpelling []
  | plain {c : Char} {text : List Char} (hc : IsPlain c) (h : IsSpelling text) :
    IsSpelling (c :: text)
  | simple {letter : Char} {text : List Char} (hletter : (simpleEscape? letter).isSome)
    (h : IsSpelling text) : IsSpelling ('\\' :: letter :: text)
  | unit {digits text : List Char} {n : Nat} (hlength : digits.length = 4)
    (hn : Radix.value? 16 digits = some n) (h : IsSpelling text) :
    IsSpelling ('\\' :: 'u' :: (digits ++ text))

/-- A text between quotes. -/
def IsText (s : String) (text : List Char) : Prop :=
  ∃ spelling, Spells s.toList spelling ∧ text = '"' :: (spelling ++ ['"'])

/-! ## Numbers -/

/-- Digits, at least one. -/
def IsNumeral (cs : List Char) : Prop :=
  cs ≠ [] ∧ ∀ c ∈ cs, Decimal.isDigit c = true

/-- Digits before the point: none in front of others is a zero. -/
def IsWhole (cs : List Char) : Prop :=
  cs = ['0'] ∨ (IsNumeral cs ∧ cs.head? ≠ some '0')

/-- Nothing, or a point and digits. -/
def IsFraction (cs : List Char) : Prop :=
  cs = [] ∨ ∃ ds, IsNumeral ds ∧ cs = '.' :: ds

/-- Nothing, or `e` and digits with an optional sign. -/
def IsExponent (cs : List Char) : Prop :=
  cs = [] ∨ ∃ e sign ds, (e = 'e' ∨ e = 'E') ∧ (sign = [] ∨ sign = ['+'] ∨ sign = ['-']) ∧
    IsNumeral ds ∧ cs = e :: (sign ++ ds)

/-- A number without its sign. -/
def IsUnsigned (cs : List Char) : Prop :=
  ∃ whole fraction exponent, IsWhole whole ∧ IsFraction fraction ∧ IsExponent exponent ∧
    cs = whole ++ (fraction ++ exponent)

/-! ## Items between brackets -/

section Items

variable {α : Type}

/-- Items after the first one, each behind a comma, up to the closing
bracket. -/
inductive Tail (close : Char) (item : α → List Char → Prop) : List α → List Char → Prop where
  | nil {b : List Char} (hb : Blank b) : Tail close item [] (b ++ [close])
  | cons {b b' text rest : List Char} {x : α} {xs : List α} (hb : Blank b) (hb' : Blank b')
    (hx : item x text) (h : Tail close item xs rest) :
    Tail close item (x :: xs) (b ++ ',' :: (b' ++ (text ++ rest)))

/-- Items up to the closing bracket. -/
inductive Body (close : Char) (item : α → List Char → Prop) : List α → List Char → Prop where
  | nil {b : List Char} (hb : Blank b) : Body close item [] (b ++ [close])
  | cons {b text rest : List Char} {x : α} {xs : List α} (hb : Blank b) (hx : item x text)
    (h : Tail close item xs rest) : Body close item (x :: xs) (b ++ (text ++ rest))

/-- An array of items. -/
def IsArray (item : α → List Char → Prop) (xs : List α) (text : List Char) : Prop :=
  ∃ body, Body ']' item xs body ∧ text = '[' :: body

/-- An object of members. -/
def IsObject (item : α → List Char → Prop) (xs : List α) (text : List Char) : Prop :=
  ∃ body, Body '}' item xs body ∧ text = '{' :: body

/-- A member of an object: a name, a colon and a value. -/
def IsMember (name value : List Char → Prop) (text : List Char) : Prop :=
  ∃ n b b' v, name n ∧ Blank b ∧ Blank b' ∧ value v ∧
    text = '"' :: (n ++ '"' :: (b ++ ':' :: (b' ++ v)))

end Items

/-! ## Values -/

/-- A value whose items and members are of a given grammar. -/
inductive IsValueOver (nested : List Char → Prop) : List Char → Prop where
  | null : IsValueOver nested ['n', 'u', 'l', 'l']
  | true : IsValueOver nested ['t', 'r', 'u', 'e']
  | false : IsValueOver nested ['f', 'a', 'l', 's', 'e']
  | text {spelling : List Char} (h : IsSpelling spelling) :
    IsValueOver nested ('"' :: (spelling ++ ['"']))
  | negative {cs : List Char} (h : IsUnsigned cs) : IsValueOver nested ('-' :: cs)
  | number {cs : List Char} (h : IsUnsigned cs) : IsValueOver nested cs
  | array {items : List Unit} {cs : List Char} (h : IsArray (fun _ => nested) items cs) :
    IsValueOver nested cs
  | object {members : List Unit} {cs : List Char}
    (h : IsObject (fun _ => IsMember IsSpelling nested) members cs) : IsValueOver nested cs

/-- A value that is nested less than `depth` levels deep. -/
def IsNested : (depth : Nat) → List Char → Prop
  | 0, _ => False
  | depth + 1, cs => IsValueOver (IsNested depth) cs

/-- A value of any depth. -/
def IsValue (cs : List Char) : Prop :=
  ∃ depth, IsNested depth cs

end RemoteConfig.Json
