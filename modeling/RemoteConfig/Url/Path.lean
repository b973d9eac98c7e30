import RemoteConfig.Text.Split
import RemoteConfig.Url.Basic

/-!
# Paths of URLs

The reading of a path, and the appending of segments to one.  A dot segment
stands for its directory and a double dot shortens the path, whether the dots
are written plainly or as escapes.  A segment that is appended is escaped, so
it stays one segment.
-/

namespace RemoteConfig.Url

/-- Characters that are left out wherever they stand in a URL. -/
def isDropped (c : Char) : Bool :=
  c = '\t' || c = '\n' || c = '\r'

/-! ## Reading -/

/-- The segment with escaped dots as dots. -/
def plainDots : List Char → List Char
  | '%' :: '2' :: 'e' :: rest => '.' :: plainDots rest
  | '%' :: '2' :: 'E' :: rest => '.' :: plainDots rest
  | c :: rest => c :: plainDots rest
  | [] => []

/-- A segment that stands for its directory. -/
def isDot (segment : List Char) : Bool :=
  plainDots segment = ['.']

/-- A segment that shortens the path. -/
def isDoubleDot (segment : List Char) : Bool :=
  plainDots segment = ['.', '.']

/-- Appends a segment that was read.  Dots at the end of a path leave an empty
segment. -/
def addSegment (segs : List String) (segment : List Char) (final : Bool) : List String :=
  if isDoubleDot segment then
    if final then segs.dropLast ++ [""] else segs.dropLast
  else if isDot segment then
    if final then segs ++ [""] else segs
  else segs ++ [String.ofList (encode pathSet segment)]

/-- Appends the segments of a path in turn. -/
def addSegments (segs : List String) : List (List Char) → List String
  | [] => segs
  | [last] => addSegment segs last true
  | s :: rest => addSegments (addSegment segs s false) rest

/-- The segments of a path after its first slash.  Backslashes of special
schemes are slashes. -/
def readSegments (special : Bool) (cs : List Char) : List String :=
  let cs := if special then cs.map (fun c => if c = '\\' then '/' else c) else cs
  addSegments [] (Text.pieces '/' cs)

/-! ## Appending -/

/-- Drops an empty last segment, unless it is the only one. -/
def popEmpty (segs : List String) : List String :=
  match segs with
  | _ :: _ :: _ => if segs.getLast? = some "" then segs.dropLast else segs
  | _ => segs

/-- The segments that another one is appended to: the root alone has none. -/
def stem (segs : List String) : List String :=
  if segs = [""] then [] else segs

/-- Appends a segment.  One that is a dot or a double dot is skipped.  Tabs and
line ends are dropped only after that, so what remains may still be dots, and
then acts on the path. -/
def pushSegment (segs : List String) (segment : String) : List String :=
  if segment = "." || segment = ".." then segs
  else
    let cs := segment.toList.filter (!isDropped ·)
    if cs = ['.', '.'] then (stem segs).dropLast ++ [""]
    else if cs = ['.'] then stem segs ++ [""]
    else stem segs ++ [String.ofList (encode segmentSet cs)]

end RemoteConfig.Url
