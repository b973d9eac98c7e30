import RemoteConfig.Text.Blank

/-!
# Splitting and joining

`pieces` cuts a list of characters at every occurrence of a separator, so
there is always one piece more than there are separators.  `commaItems` is the
reading of a comma-separated list: pieces are trimmed and blank ones dropped.
-/

namespace RemoteConfig.Text

/-- The pieces between the occurrences of `sep`. -/
def pieces (sep : Char) : List Char → List (List Char)
  | [] => [[]]
  | c :: cs =>
    if c = sep then [] :: pieces sep cs
    else
      match pieces sep cs with
      | [] => [[c]]
      | p :: ps => (c :: p) :: ps

/-- The pieces of a text between the occurrences of `sep`. -/
def split (sep : Char) (s : String) : List String :=
  (pieces sep s.toList).map String.ofList

/-- The texts with `sep` between them. -/
def join (sep : String) (items : List String) : String :=
  sep.intercalate items

/-- The items of a comma-separated list, trimmed, without the blank ones. -/
def commaItems (s : String) : List String :=
  (((pieces ',' s.toList).map trimChars).filter (fun p => !p.isEmpty)).map String.ofList

end RemoteConfig.Text
