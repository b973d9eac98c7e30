/-!
# Folding of ASCII letters

Keys, header names and option names compare without regard to the case of
ASCII letters; every other character stands for itself.  `fold` is the
representative of such a class, and `stripFolded` removes a leading text up to
folding.
-/

namespace RemoteConfig.Text

/-- The text with its ASCII capitals made small. -/
def fold (s : String) : String :=
  String.ofList (s.toList.map Char.toLower)

/-- Two texts agree up to the case of ASCII letters. -/
def sameFolded (a b : String) : Bool :=
  fold a == fold b

/-- What follows `head` in a list of characters, if the list starts with it up
to ASCII case. -/
def stripFoldedChars : List Char → List Char → Option (List Char)
  | [], rest => some rest
  | _ :: _, [] => none
  | h :: head, c :: rest =>
    if h.toLower = c.toLower then stripFoldedChars head rest else none

/-- What follows `head` in `s`, if `s` starts with it up to ASCII case. -/
def stripFolded (head s : String) : Option String :=
  (stripFoldedChars head.toList s.toList).map String.ofList

end RemoteConfig.Text
