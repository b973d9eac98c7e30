import RemoteConfig.Number.Decimal
import RemoteConfig.Snapshot

/-!
# Trees behind flat keys

Configuration is written as a tree of maps and lists with texts at its leaves.
Servers flatten such a tree: each leaf gets a key that spells the path to it,
names with dots between them and places in lists in brackets, as in
`servers[0].host`.  Snapshots spell the same path with colons, as in
`servers:0:host`.
-/

namespace RemoteConfig

/-- A step into a tree: by a name into a map, or by a place into a list. -/
inductive Step where
  | name (n : String)
  | index (i : Nat)
  deriving Repr, DecidableEq

namespace Step

/-- The step as a segment of a key. -/
def segment : Step → String
  | name n => n
  | index i => Decimal.text i

/-- What servers append to a key for the step. -/
def serverSuffix : Step → List Char
  | name n => '.' :: n.toList
  | index i => '[' :: ((Decimal.text i).toList ++ [']'])

end Step

/-- The key of a path in snapshots. -/
def pathKey (path : List Step) : String :=
  Text.join ":" (path.map Step.segment)

/-- The key of a path in the spelling of servers. -/
def serverKey : List Step → String
  | .name n :: rest => String.ofList (n.toList ++ rest.flatMap Step.serverSuffix)
  | path => String.ofList (path.flatMap Step.serverSuffix)

/-- A tree of maps and lists. -/
inductive Tree where
  | leaf (text : String)
  | map (members : List (String × Tree))
  | list (items : List Tree)

namespace Tree

/-- The nodes one step below, in order. -/
def children : Tree → List (Step × Tree)
  | leaf _ => []
  | map members => members.map fun m => (.name m.1, m.2)
  | list items => items.zipIdx.map fun p => (.index p.2, p.1)

/-- Leaves one step further down. -/
def under (step : Step) (leaves : List (List Step × String)) : List (List Step × String) :=
  leaves.map fun l => (step :: l.1, l.2)

mutual

/-- The leaves with the paths to them, in order. -/
def leaves : Tree → List (List Step × String)
  | leaf text => [([], text)]
  | map members => memberLeaves members
  | list items => itemLeaves 0 items

/-- The leaves of the members of a map. -/
def memberLeaves : List (String × Tree) → List (List Step × String)
  | [] => []
  | (n, t) :: members => under (.name n) t.leaves ++ memberLeaves members

/-- The leaves of the items of a list from a place on. -/
def itemLeaves (i : Nat) : List Tree → List (List Step × String)
  | [] => []
  | t :: items => under (.index i) t.leaves ++ itemLeaves (i + 1) items

end

/-- The flat keys and values of a tree, as servers have them. -/
def flattened (t : Tree) : TextMap String :=
  .ofList (t.leaves.map fun l => (serverKey l.1, l.2))

/-- A path leads from a tree to a node. -/
inductive IsAt : Tree → List Step → Tree → Prop where
  | here (t : Tree) : IsAt t [] t
  | step {t child node : Tree} {s : Step} {path : List Step}
    (hchild : (s, child) ∈ t.children) (hat : IsAt child path node) : IsAt t (s :: path) node

/-- The characters that have a meaning in keys. -/
def reserved : List Char := ['.', '[', ']', Snapshot.delimiter]

/-- No name has a reserved character, and no two names in a map agree up to
case. -/
inductive WellFormed : Tree → Prop where
  | leaf (text : String) : WellFormed (.leaf text)
  | map {members : List (String × Tree)}
    (names : ∀ m ∈ members, ∀ c ∈ m.1.toList, c ∉ reserved)
    (distinct : members.Pairwise fun m m' => Text.fold m.1 ≠ Text.fold m'.1)
    (values : ∀ m ∈ members, WellFormed m.2) : WellFormed (.map members)
  | list {items : List Tree} (values : ∀ t ∈ items, WellFormed t) : WellFormed (.list items)

end Tree

end RemoteConfig
