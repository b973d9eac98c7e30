/-!
# Maps from texts

Finite maps whose keys are texts, kept as a list of pairs in strictly
increasing order of keys.  Texts are ordered by code points, which is also the
order of their UTF-8 bytes.  `TextMap.Ordered` is the representation
invariant; every operation keeps it.
-/

namespace RemoteConfig

/-- A map from texts, as its pairs in increasing order of keys. -/
structure TextMap (α : Type) where
  /-- The pairs, in increasing order of keys. -/
  toList : List (String × α)
  deriving Repr, BEq, DecidableEq

namespace TextMap

variable {α β : Type}

/-- The map without keys. -/
def empty : TextMap α := ⟨[]⟩

instance : Inhabited (TextMap α) := ⟨empty⟩

/-- The keys increase strictly. -/
def Ordered (m : TextMap α) : Prop :=
  m.toList.Pairwise (fun p q => p.1 < q.1)

/-- The value found under `key` in a list of pairs. -/
def lookup (key : String) : List (String × α) → Option α
  | [] => none
  | (k, v) :: rest => if k = key then some v else lookup key rest

/-- The value under `key`. -/
def get? (m : TextMap α) (key : String) : Option α :=
  lookup key m.toList

/-- The key occurs. -/
def contains (m : TextMap α) (key : String) : Bool :=
  (m.get? key).isSome

/-- The number of keys. -/
def size (m : TextMap α) : Nat :=
  m.toList.length

/-- The keys in order. -/
def keys (m : TextMap α) : List String :=
  m.toList.map (·.1)

/-- Puts a pair into an ordered list of pairs.  On a pair with the same key,
`merge` chooses the value from the old and the new one. -/
def insertPair (merge : α → α → α) (key : String) (value : α) :
    List (String × α) → List (String × α)
  | [] => [(key, value)]
  | (k, v) :: rest =>
    if key < k then (key, value) :: (k, v) :: rest
    else if k = key then (k, merge v value) :: rest
    else (k, v) :: insertPair merge key value rest

/-- The map with `value` under `key`, in place of any earlier value. -/
def insert (m : TextMap α) (key : String) (value : α) : TextMap α :=
  ⟨insertPair (fun _ new => new) key value m.toList⟩

/-- The map with `value` under `key`, unless the key has a value already. -/
def insertIfAbsent (m : TextMap α) (key : String) (value : α) : TextMap α :=
  ⟨insertPair (fun old _ => old) key value m.toList⟩

/-- The map of a list of pairs, where the last pair with a key counts. -/
def ofList (pairs : List (String × α)) : TextMap α :=
  pairs.foldl (fun m p => m.insert p.1 p.2) empty

end TextMap

end RemoteConfig
