import MapStandin.Url.Basic

/-! # Reading addresses

An address by itself, and an address that is given relative to another. -/

namespace MapStandin.Url

/-! ## Characters -/

/-- Whether a character is dropped at both ends: a control character of ASCII or a space. -/
def isEdge (c : Char) : Bool := c.toNat ≤ 0x20

/-- Whether a character is dropped everywhere: a tab or a line break. -/
def isDropped (c : Char) : Bool := c = '\t' || c = '\n' || c = '\r'

def clean (s : String) : List Char :=
  ((s.toList.dropWhile isEdge).reverse.dropWhile isEdge).reverse.filter (!isDropped ·)

def isPlainBut (others : List Char) (c : Char) : Bool :=
  0x20 < c.toNat && c.toNat < 0x7F && !others.contains c

def plainInFragment : Char → Bool := isPlainBut ['"', '<', '>', '`']

def plainInPath : Char → Bool := isPlainBut ['"', '<', '>', '`', '#', '?', '\x7b', '\x7d']

def plainInUser : Char → Bool :=
  isPlainBut ['"', '<', '>', '`', '#', '?', '\x7b', '\x7d', '/', ':', ';', '=', '@', '[', '\\', ']',
    '^', '|']

/-- The characters that stand as they are in a query. -/
def plainInQuery (special : Bool) : Char → Bool :=
  isPlainBut (['"', '<', '>', '#'] ++ if special then ['\''] else [])

def encoded (isPlain : Char → Bool) (cs : List Char) : String :=
  String.ofList (Percent.encode isPlain cs)

def isSlash (special : Bool) (c : Char) : Bool := c = '/' || (special && c = '\\')

def endsAuthority (special : Bool) (c : Char) : Bool :=
  isSlash special c || c = '?' || c = '#'

/-! ## Schemes -/

/-- The scheme at the front of an address, in small letters, and the rest after its colon. -/
def scheme? (cs : List Char) : Option (String × List Char) :=
  let isNameChar (c : Char) : Bool := c.isAlphanum || c = '+' || c = '-' || c = '.'
  match cs, cs.dropWhile isNameChar with
  | c :: _, ':' :: rest =>
    if c.isAlpha then some (String.ofList ((cs.takeWhile isNameChar).map Char.toLower), rest)
    else none
  | _, _ => none

/-! ## Authorities -/

/-- The text before the last at sign and the text after it. -/
def splitUser (cs : List Char) : Option (List Char × List Char) :=
  (Text.splitFirst '@' cs.reverse).map fun (after, before) => (before.reverse, after.reverse)

/-- A host and what follows its colon; brackets hide colons. -/
def splitPort (cs : List Char) : List Char × Option (List Char) :=
  go false cs
where
  go (hidden : Bool) : List Char → List Char × Option (List Char)
    | [] => ([], none)
    | c :: rest =>
      if c = ':' && !hidden then ([], some rest)
      else
        let (host, port) := go (c = '[' || (hidden && c ≠ ']')) rest
        (c :: host, port)

/-- A port in digits; without digits there is none. -/
def port? (cs : List Char) : Except Fault (Option Nat) :=
  if !cs.all Char.isDigit then .error .invalidPort
  else if cs = [] then .ok none
  else match Host.inBase? 10 cs with
    | some n => if n < 65536 then .ok (some n) else .error .invalidPort
    | none => .error .invalidPort

/-- A user name and, after a colon, a password, both encoded; an empty password is none. -/
def readUser (cs : List Char) : String × Option String :=
  match Text.splitFirst ':' cs with
  | none => (encoded plainInUser cs, none)
  | some (user, password) =>
    (encoded plainInUser user,
      if password = [] then none else some (encoded plainInUser password))

/-- The authority that a text names. A port that the scheme uses anyway is left out. -/
def readAuthority (scheme : String) (cs : List Char) : Except Fault Authority := do
  let (userText, place) := match splitUser cs with
    | some (user, place) => (some user, place)
    | none => (none, cs)
  let (hostText, portText) := splitPort place
  -- A host may be missing where hosts are free, if neither a user nor a port is named.
  if hostText = [] && (isSpecial scheme || (userText.any (· ≠ [':'])) || portText.isSome) then
    throw .emptyHost
  let host ← Host.read (isSpecial scheme) hostText
  let port ← port? (portText.getD [])
  let (user, password) := readUser (userText.getD [])
  return {
    user := user
    password := password
    host := host
    port := if port = usualPort? scheme then none else port }

/-- Cuts an authority where a backslash follows its port. Before the port, and where hosts are
known, a backslash cuts nothing here. -/
def cutPort (special : Bool) (cs : List Char) : List Char × List Char :=
  let place := match splitUser cs with
    | some (_, place) => place
    | none => cs
  match (splitPort place).2 with
  | some port =>
    if special then (cs, [])
    else
      let after := port.dropWhile (· ≠ '\\')
      (cs.take (cs.length - after.length), after)
  | none => (cs, [])

/-! ## Paths -/

def isHere (name : String) : Bool :=
  [".", "%2e"].contains (Text.small name)

def isUp (name : String) : Bool :=
  ["..", ".%2e", "%2e.", "%2e%2e"].contains (Text.small name)

/-- Whether a text starts with a drive: a letter and a colon or an upright line, with the end or a
backslash after them. -/
def startsWithDrive : List Char → Bool
  | letter :: mark :: rest =>
    letter.isAlpha && (mark = ':' || mark = '|') && (rest = [] || rest.head? = some '\\')
  | _ => false

/-- The letter of a name that is a drive and nothing else. -/
def driveLetter? (name : String) : Option Char :=
  match name.toList with
  | [letter, mark] => if startsWithDrive [letter, mark] then some letter else none
  | _ => none

def driveName (letter : Char) : String := String.ofList [letter, ':']

def isDrive (name : String) : Bool :=
  (driveLetter? name).any (driveName · = name)

/-- The place above. There is none above the root and none above a drive. -/
def above (place : List String) : List String :=
  match place.getLast? with
  | some name => if startsWithDrive name.toList then place else place.dropLast
  | none => []

/-- The place of a name. At the root of a file system a drive is written with a colon. -/
def below (scheme : String) (place : List String) (name : String) : List String :=
  match driveLetter? name with
  | some letter =>
    if scheme = "file" && place = [] then [driveName letter] else place ++ [name]
  | none => place ++ [name]

/-- Follows names from a place. The last name is empty if it leads to a folder. -/
def follow (scheme : String) (place : List String) : List String → List String
  | [] => place
  | [name] =>
    if isUp name then above place ++ [""]
    else if isHere name then place ++ [""]
    else below scheme place name
  | name :: rest =>
    if isUp name then follow scheme (above place) rest
    else if isHere name then follow scheme place rest
    else follow scheme (below scheme place name) rest

def pathNames (special : Bool) (cs : List Char) : List String :=
  (Text.fields '/' (cs.map fun c => if isSlash special c then '/' else c)).map (encoded plainInPath)

/-- The path of a file has no empty name at its start. -/
def settle (scheme : String) (names : List String) : List String :=
  if scheme ≠ "file" then names
  else match names.dropWhile (·.isEmpty) with
    | [] => [""]
    | rest => rest

def readPath (scheme : String) (cs : List Char) : List String :=
  follow scheme [] (pathNames (isSpecial scheme) cs)

def dropSlash (special : Bool) : List Char → List Char
  | [] => []
  | c :: rest => if isSlash special c then rest else c :: rest

/-- The path of an address with an authority. Where hosts are known it is never empty. -/
def readRootPath (scheme : String) (cs : List Char) : List String :=
  if cs = [] && !isSpecial scheme then [] else readPath scheme (dropSlash (isSpecial scheme) cs)

/-- The path that leads along names from the file or folder at a path. -/
def continuePath (scheme : String) (place names : List String) : List String :=
  match place.getLast?, names with
  | some last, name :: rest =>
    -- A drive is always a folder. One that does not stand at the root goes on with the first name.
    if scheme = "file" && isDrive last then
      if place = [last] then follow scheme place names
      else follow scheme place.dropLast ((last ++ name) :: rest)
    else follow scheme place.dropLast names
  | _, _ => follow scheme place.dropLast names

/-! ## Files -/

/-- The host of a file and the path after it. The machine itself is no host. -/
def readFileHost (place path : List Char) : Except Fault (Host × List String) := do
  let host ← if place = [] then pure (Host.name "") else Host.read true place
  if host = .name "" || host = .name "localhost" then
    return (.name "", readPath "file" path)
  else
    let names := readPath "file" (dropSlash true path)
    -- A drive at the root takes the place of the host.
    return (if names.head?.any isDrive then .name "" else host, names)

/-- The host and the path of a file. What follows two slashes is a host, unless it is a drive. -/
def readFile (cs : List Char) : Except Fault (Host × List String) :=
  match cs with
  | a :: b :: rest =>
    if isSlash true a && isSlash true b then
      let place := rest.takeWhile (!endsAuthority true ·)
      if (driveLetter? (String.ofList place)).isSome then .ok (.name "", readPath "file" rest)
      else readFileHost place (rest.dropWhile (!endsAuthority true ·))
    else .ok (.name "", readPath "file" (dropSlash true cs))
  | _ => .ok (.name "", readPath "file" (dropSlash true cs))

/-! ## Whole addresses -/

def splitTail (special : Bool) (cs : List Char) :
    List Char × Option String × Option String :=
  let (cs, fragment) := match Text.splitFirst '#' cs with
    | some (front, fragment) => (front, some (encoded plainInFragment fragment))
    | none => (cs, none)
  match Text.splitFirst '?' cs with
  | some (front, query) => (front, some (encoded (plainInQuery special) query), fragment)
  | none => (cs, none, fragment)

/-- The text from the authority on, if an address has one after its scheme. Where hosts are known,
any number of slashes may stand before it. -/
def afterSlashes? (special : Bool) (cs : List Char) : Option (List Char) :=
  if special then some (cs.dropWhile (isSlash true))
  else Text.afterList ['/', '/'] cs

def readPlace (scheme : String) (cs : List Char) : Except Fault (Option Authority × Path) := do
  let special := isSpecial scheme
  match afterSlashes? special cs with
  | some cs =>
    let (place, after) := cutPort special (cs.takeWhile (!endsAuthority special ·))
    let authority ← readAuthority scheme place
    return (some authority,
      .names (readRootPath scheme (after ++ cs.dropWhile (!endsAuthority special ·))))
  | none =>
    match cs with
    | '/' :: rest => return (none, .names (readPath scheme rest))
    | _ => return (none, .bare (String.ofList cs))

def parse (s : String) : Except Fault Url := do
  let some (scheme, rest) := scheme? (clean s) | throw .noBase
  let (front, query, fragment) := splitTail (isSpecial scheme) rest
  if scheme = "file" then
    let (host, names) ← readFile front
    return ⟨scheme, some ⟨"", none, host, none⟩, .names (settle scheme names), query, fragment⟩
  else
    let (authority, path) ← readPlace scheme front
    return ⟨scheme, authority, path, query, fragment⟩

/-- The address that a path names from the place of another address. The text starts with a name and
has no scheme. -/
def join (base : Url) (s : String) : Except Fault Url :=
  let special := isSpecial base.scheme
  let (front, query, fragment) := splitTail special (clean s)
  match base.path with
  | .bare _ => .error .baseWithoutPath
  | .names place =>
    .ok { base with
      path := .names (settle base.scheme
        (continuePath base.scheme place (pathNames special front)))
      query := query
      fragment := fragment }

end MapStandin.Url
