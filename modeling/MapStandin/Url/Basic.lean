import MapStandin.Url.Host

/-! # Addresses

The parts of an address and how they are written. -/

namespace MapStandin

namespace Url

/-- Who is asked, and where: a user, a host and a port. User and password are in their encoded
form. -/
structure Authority where
  user : String
  password : Option String
  host : Host
  port : Option Nat
  deriving DecidableEq, Repr

/-- What is asked for: names to follow from the root, or a text that leads nowhere else. -/
inductive Path
  | names (all : List String)
  | bare (s : String)
  deriving DecidableEq, Repr

/-- The schemes whose addresses name a host, and their usual ports. -/
def schemes : List (String × Option Nat) :=
  [("http", some 80), ("https", some 443), ("ws", some 80), ("wss", some 443), ("ftp", some 21),
    ("file", none)]

def isSpecial (scheme : String) : Bool :=
  (schemes.lookup scheme).isSome

def usualPort? (scheme : String) : Option Nat :=
  (schemes.lookup scheme).join

end Url

structure Url where
  scheme : String
  authority : Option Url.Authority
  path : Url.Path
  query : Option String
  fragment : Option String
  deriving DecidableEq, Repr

namespace Url

/-! ## Writing -/

/-- The user and the password, up to the sign that ends them. -/
def Authority.userText (a : Authority) : String :=
  match a.password with
  | some password => a.user ++ ":" ++ password ++ "@"
  | none => if a.user.isEmpty then "" else a.user ++ "@"

def Authority.text (a : Authority) : String :=
  "//" ++ a.userText ++ a.host.text ++
    match a.port with
    | some port => ":" ++ toString port
    | none => ""

def Path.text : Path → String
  | .names all => String.join (all.map ("/" ++ ·))
  | .bare s => s

/-- What is written before the path: an authority, or a dot that keeps two slashes at the start of
a path from reading like one. -/
def beforePath (u : Url) : String :=
  match u.authority, u.path with
  | some a, _ => a.text
  | none, .names ("" :: _ :: _) => "/."
  | none, _ => ""

/-- A part that may be absent, after its sign. -/
def optionalText (sign : String) : Option String → String
  | some s => sign ++ s
  | none => ""

def text (u : Url) : String :=
  u.scheme ++ ":" ++ u.beforePath ++ u.path.text ++ optionalText "?" u.query ++
    optionalText "#" u.fragment

end Url

end MapStandin
