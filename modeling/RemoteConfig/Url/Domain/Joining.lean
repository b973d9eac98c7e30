import RemoteConfig.Url.Domain.Composition
import RemoteConfig.Url.Domain.JoiningTable

/-!
# Joiners

Two invisible characters say whether the letters beside them join.  They may
stand only where that makes a difference: behind a mark that takes away a
vowel, and the one that keeps letters apart also between two that would join.
-/

namespace RemoteConfig.Url.Domain

/-- The character that keeps letters apart. -/
def nonJoiner : Char := '\u200C'

/-- The character that joins letters. -/
def joiner : Char := '\u200D'

/-- Letters that join with the one after them. -/
def joiningAfter : Text.Ranges :=
  .ofText joiningAfterText

/-- Letters that join with the one before them. -/
def joiningBefore : Text.Ranges :=
  .ofText joiningBeforeText

/-- Characters that letters join across. -/
def transparent : Text.Ranges :=
  .ofText transparentText

/-- The class of the marks that take away a vowel. -/
def vowelless : Nat := 9

/-- The next character that letters do not join across is in a set. -/
def meets (set : Text.Ranges) (cs : List Char) : Bool :=
  ((cs.dropWhile transparent.contains).head?.map set.contains).getD false

/-- A joiner fits between the characters before it, from the last one on, and
those after it. -/
def joinerFits (c : Char) (before after : List Char) : Bool :=
  before.head?.any (fun d => markClass d = vowelless) ||
    (c = nonJoiner && meets joiningAfter before && meets joiningBefore after)

/-- The joiners among characters fit, behind others given from the last one
on. -/
def joinersFitFrom (before : List Char) : List Char → Bool
  | [] => true
  | c :: cs =>
    (!(c = nonJoiner || c = joiner) || joinerFits c before cs) &&
      joinersFitFrom (c :: before) cs

/-- The joiners in a label fit. -/
def joinersFit (label : List Char) : Bool :=
  joinersFitFrom [] label

end RemoteConfig.Url.Domain
