import MapStandin.Text.Class
import MapStandin.Text.Fields

/-! # Requests and responses

Messages of HTTP as far as the services look at them. -/

namespace MapStandin.Http

/-! ## Requests -/

inductive Method
  | get
  | head
  | post
  | options
  | other (name : String)
  deriving DecidableEq, Repr

namespace Method

def name : Method → String
  | .get => "GET"
  | .head => "HEAD"
  | .post => "POST"
  | .options => "OPTIONS"
  | .other name => name

def ofName (name : String) : Method :=
  ([get, head, post, options].find? fun m => m.name == name).getD (.other name)

end Method

structure Target where
  path : String
  query : String
  deriving DecidableEq, Repr

/-- The target that a text names; a fragment is left out. -/
def Target.ofText (s : String) : Target :=
  let cs := s.toList.takeWhile (· ≠ '#')
  match Text.splitFirst '?' cs with
  | some (path, query) => ⟨String.ofList path, String.ofList query⟩
  | none => ⟨String.ofList cs, ""⟩

structure Request where
  method : Method
  target : Target
  headers : List (String × List UInt8)
  body : List UInt8
  deriving Repr

/-- Whether a byte of a header can be read as text: visible ASCII, a space or a tab. -/
def isReadable (b : UInt8) : Bool :=
  (0x20 ≤ b && b ≤ 0x7E) || b == 0x09

def readable? (value : List UInt8) : Option String :=
  if value.all isReadable then some (String.ofList (value.map fun b => Char.ofNat b.toNat))
  else none

/-- The text of the first header of a name, which is given in small letters. -/
def Request.header? (r : Request) (name : String) : Option String :=
  ((r.headers.find? fun h => Text.small h.1 == name).map Prod.snd).bind readable?

/-! ## Responses -/

inductive Status
  | ok
  | badRequest
  | unauthorized
  | notFound
  | methodNotAllowed
  | payloadTooLarge
  | serverError
  deriving DecidableEq, Repr

def Status.code : Status → Nat
  | .ok => 200
  | .badRequest => 400
  | .unauthorized => 401
  | .notFound => 404
  | .methodNotAllowed => 405
  | .payloadTooLarge => 413
  | .serverError => 500

/-- What a response carries: bytes, or an archive of named texts. -/
inductive Body
  | bytes (content : List UInt8)
  | archive (entries : List (String × String))
  deriving DecidableEq, Repr

def Body.empty : Body := .bytes []

structure Response where
  status : Status
  headers : List (String × String)
  body : Body
  deriving DecidableEq, Repr

def Response.header? (r : Response) (name : String) : Option String :=
  r.headers.lookup name

def Response.withHeader (r : Response) (name value : String) : Response :=
  { r with headers := r.headers ++ [(name, value)] }

def Response.bare (status : Status) : Response := ⟨status, [], .empty⟩

end MapStandin.Http
