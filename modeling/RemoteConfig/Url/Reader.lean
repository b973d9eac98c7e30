import RemoteConfig.Url.Host
import RemoteConfig.Url.Path

/-!
# Reading URLs

An absolute URL is read from its front: the scheme, then for most schemes user
name and password, host and port, then path, query and fragment.  Controls and
blanks around the text, and tabs and line ends inside it, do not count.
-/

namespace RemoteConfig.Url

/-- Controls and the space. -/
def isControlOrSpace (c : Char) : Bool :=
  c.toNat ≤ 0x20

/-- The characters of a URL that count. -/
def significant (cs : List Char) : List Char :=
  let cs := cs.dropWhile isControlOrSpace
  let cs := (cs.reverse.dropWhile isControlOrSpace).reverse
  cs.filter (!isDropped ·)

def isSchemeChar (c : Char) : Bool :=
  c.isAlphanum || c = '+' || c = '-' || c = '.'

/-- The scheme and what follows its colon. -/
def splitScheme (cs : List Char) : Option (String × List Char) :=
  match cs with
  | [] => none
  | c :: _ =>
    if c.isAlpha then
      match cs.dropWhile isSchemeChar with
      | ':' :: rest => some (String.ofList ((cs.takeWhile isSchemeChar).map Char.toLower), rest)
      | _ => none
    else none

/-- Where host and user information end. -/
def endsAuthority (special : Bool) (c : Char) : Bool :=
  c = '/' || c = '?' || c = '#' || (special && c = '\\')

/-! ## User name and password -/

/-- The characters before and after the last `@`. -/
def splitLastAt (cs : List Char) : Option (List Char × List Char) :=
  match cs with
  | [] => none
  | c :: rest =>
    match splitLastAt rest with
    | some (l, r) => some (c :: l, r)
    | none => if c = '@' then some ([], rest) else none

/-- User name and password.  An empty password is none. -/
def readUserInfo (cs : List Char) : String × Option String :=
  let name := cs.takeWhile (· ≠ ':')
  let password := match cs.dropWhile (· ≠ ':') with
    | _ :: p :: ps => some (String.ofList (encode userInfoSet (p :: ps)))
    | _ => none
  (String.ofList (encode userInfoSet name), password)

/-! ## Host and port -/

/-- The characters of the host, up to a colon outside brackets, and the rest. -/
def splitHost (inBrackets : Bool) : List Char → List Char × List Char
  | [] => ([], [])
  | c :: cs =>
    if c = ':' && !inBrackets then ([], c :: cs)
    else
      let inBrackets := if c = '[' then true else if c = ']' then false else inBrackets
      let (host, rest) := splitHost inBrackets cs
      (c :: host, rest)

/-- The port after the host, unless it is missing or the one that the scheme
implies. -/
def readPort (scheme : String) : List Char → Except Fault (Option Nat)
  | ':' :: ds =>
    if !ds.all Decimal.isDigit then .error .portNumber
    else if ds.isEmpty then .ok none
    else
      let n := Decimal.value 0 ds
      if 65535 < n then .error .portNumber
      else if defaultPort? scheme = some n then .ok none
      else .ok (some n)
  | _ => .ok none

/-- Host and port. -/
def readHostPort (scheme : String) (special : Bool) (cs : List Char) :
    Except Fault (Host × Option Nat) :=
  let (host, rest) := splitHost false cs
  if host.isEmpty && (special || !rest.isEmpty) then .error .emptyHost
  else do
    let host ← if special then readHost host else readPlainHost host
    let port ← readPort scheme rest
    return (host, port)

/-! ## Path, query and fragment -/

/-- Query and fragment, from the character that starts them. -/
def readTail (special : Bool) (cs : List Char) : Option String × Option String :=
  let set := if special then specialQuerySet else querySet
  let query := match cs.takeWhile (· ≠ '#') with
    | '?' :: q => some (String.ofList (encode set q))
    | _ => none
  let fragment := match cs.dropWhile (· ≠ '#') with
    | _ :: f => some (String.ofList (encode fragmentSet f))
    | [] => none
  (query, fragment)

/-- The path that follows a host. -/
def readPath (special : Bool) (cs : List Char) : Path :=
  match cs with
  | [] => .segments (if special then [""] else [])
  | _ :: rest => .segments (readSegments special rest)

/-- The path of a URL without a host: segments after a slash, or a text. -/
def readHostlessPath (followed : Bool) (cs : List Char) : Path :=
  match cs with
  | '/' :: rest => .segments (readSegments false rest)
  | _ =>
    let written := encode controlSet cs
    .unstructured <| String.ofList <|
      if followed && written.getLast? = some ' ' then written.dropLast ++ "%20".toList else written

def isTailStart (c : Char) : Bool :=
  c = '?' || c = '#'

/-- Appends path, query and fragment. -/
def withTail (url : Url) (special : Bool) (path : Path) (tail : List Char) : Url :=
  let (query, fragment) := readTail special tail
  { url with path, query, fragment }

/-- A URL after the slashes before its user information or host. -/
def readAuthority (scheme : String) (special : Bool) (cs : List Char) : Except Fault Url := do
  let authority := cs.takeWhile (!endsAuthority special ·)
  let rest := cs.dropWhile (!endsAuthority special ·)
  let (userInfo, hostPort) := (splitLastAt authority).getD ([], authority)
  let (username, password) := readUserInfo userInfo
  if (splitLastAt authority).isSome && userInfo.isEmpty && hostPort.isEmpty && !rest.isEmpty then
    throw .emptyHost
  let (host, port) ← readHostPort scheme special hostPort
  if host = .name "" && (username ≠ "" || password.isSome) then throw .emptyHost
  let path := readPath special (rest.takeWhile (!isTailStart ·))
  return withTail { scheme, username, password, host := some host, port } special path
    (rest.dropWhile (!isTailStart ·))

/-! ## Files -/

/-- The host of a file: a domain name, or none for this machine. -/
def readFileHost (cs : List Char) : Except Fault Host :=
  if cs.isEmpty then .ok (.name "")
  else
    (readHost cs).map fun h => if h = .name "localhost" then .name "" else h

/-- A file's URL after its scheme. -/
def readFile (cs : List Char) : Except Fault Url := do
  let slash (c : Char) : Bool := c = '/' || c = '\\'
  match cs with
  | a :: b :: rest =>
    if slash a && slash b then
      let host ← readFileHost (rest.takeWhile (!endsAuthority true ·))
      let rest := rest.dropWhile (!endsAuthority true ·)
      let path := readPath true (rest.takeWhile (!isTailStart ·))
      return withTail { scheme := "file", host := some host } true path
        (rest.dropWhile (!isTailStart ·))
    else inner cs
  | _ => inner cs
where
  /-- A file's URL without host. -/
  inner (cs : List Char) : Except Fault Url :=
    let path := match cs.takeWhile (!isTailStart ·) with
      | [] => ['/']
      | c :: rest => if c = '/' || c = '\\' then c :: rest else '/' :: c :: rest
    .ok (withTail { scheme := "file", host := some (.name "") } true (readPath true path)
      (cs.dropWhile (!isTailStart ·)))

/-! ## Whole URLs -/

/-- A URL after its scheme. -/
def readAfterScheme (scheme : String) (cs : List Char) : Except Fault Url :=
  match schemeKind scheme with
  | .file => readFile cs
  | .hosted => readAuthority scheme true (cs.dropWhile (fun c => c = '/' || c = '\\'))
  | .other =>
    match cs with
    | '/' :: '/' :: rest => readAuthority scheme false rest
    | _ =>
      let tail := cs.dropWhile (!isTailStart ·)
      .ok (withTail { scheme } false
        (readHostlessPath (!tail.isEmpty) (cs.takeWhile (!isTailStart ·))) tail)

/-- The URL that a text denotes. -/
def read (s : String) : Except Fault Url :=
  match splitScheme (significant s.toList) with
  | none => .error .relative
  | some (scheme, rest) => readAfterScheme scheme rest

end RemoteConfig.Url
