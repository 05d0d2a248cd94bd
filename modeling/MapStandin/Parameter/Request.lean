import MapStandin.Parameter.Schema
import MapStandin.Rejection
import MapStandin.Text.Class

/-! # Requests

A request holds the values that a schema accepted. It is read from flags, as on a command line, or
from a mapping of names to texts, such as a query string or the properties of a feature. -/

namespace MapStandin.Parameter

structure Accepted where
  raw : String
  value : Value
  deriving Repr

/-- The accepted parameters in the order in which they were accepted. -/
structure Request where
  values : List (String × Accepted)
  deriving Repr

namespace Request

def get? (r : Request) (name : String) : Option Accepted :=
  r.values.lookup name

def raw? (r : Request) (name : String) : Option String :=
  (r.get? name).map Accepted.raw

def contains (r : Request) (name : String) : Bool :=
  (r.get? name).isSome

def size (r : Request) : Nat := r.values.length

def isEmpty (r : Request) : Bool := r.values.isEmpty

def texts (r : Request) : List (String × String) :=
  r.values.map fun (name, a) => (name, a.raw)

end Request

def Spec.accept (spec : Spec) (raw : String) : Except Rejection Accepted :=
  match spec.kind.read? raw with
  | some value => .ok ⟨raw, value⟩
  | none => .error (.invalidValue spec.name (spec.kind.refusal spec.name raw))

/-- Checks texts in order; the first that does not fit is reported. -/
def acceptAll : List (Spec × String) → Except Rejection (List (String × Accepted))
  | [] => .ok []
  | (spec, raw) :: rest => do
    let a ← spec.accept raw
    let values ← acceptAll rest
    return (spec.name, a) :: values

/-! ## Flags -/

def flagMark : String := "--"

def flagName? (token : String) : Option String :=
  Text.after? flagMark token

def flag (name : String) : String := flagMark ++ name

namespace Schema

/-- The declared flags with their texts, two tokens at a time. `seen` holds the declared names found
so far. -/
def pairUp (schema : Schema) (seen : List String) :
    List String → Except Rejection (List (Spec × String))
  | [] => .ok []
  | [token] =>
    match flagName? token with
    | none => .error (.positionalArgument token)
    | some name => .error (.missingValue name)
  | token :: raw :: rest =>
    match flagName? token with
    | none => .error (.positionalArgument token)
    | some name =>
      match schema.spec? name with
      | none => schema.pairUp seen rest
      | some spec =>
        if name ∈ seen then .error (.duplicateParameter name)
        else (schema.pairUp (name :: seen) rest).map ((spec, raw) :: ·)

/-- The names of flags that are skipped because they are not declared, as far as pairing comes. -/
def skippedFlags (schema : Schema) (seen : List String) : List String → List String
  | [] | [_] => []
  | token :: _ :: rest =>
    match flagName? token with
    | none => []
    | some name =>
      if schema.declares name then
        if name ∈ seen then [] else schema.skippedFlags (name :: seen) rest
      else name :: schema.skippedFlags seen rest

/-- The required names that are not among the given ones, in declared order. -/
def missingFrom (schema : Schema) (names : List String) : List String :=
  schema.requiredNames.filter fun name => !names.contains name

/-- Reads a request from flags: first the shape of the whole list, then each value, then whether
all required names are there. -/
def readFlags (schema : Schema) (tokens : List String) : Except Rejection Request := do
  let pairs ← schema.pairUp [] tokens
  let values ← acceptAll pairs
  match schema.missingFrom (values.map Prod.fst) with
  | [] => return ⟨values⟩
  | names => throw (.missingParameters names)

/-! ## Mappings -/

/-- The declared names of a mapping with their texts, in declared order. -/
def declaredEntries (schema : Schema) (entries : List (String × String)) :
    List (Spec × String) :=
  schema.specs.filterMap fun spec => (entries.lookup spec.name).map fun raw => (spec, raw)

/-- Reads a request from a mapping: first whether all required names are there, then each value in
declared order. Schemas are taken to be distinct: a name that is declared twice is listed twice. -/
def readMapping (schema : Schema) (entries : List (String × String)) :
    Except Rejection Request := do
  match schema.missingFrom (entries.map Prod.fst) with
  | [] => return ⟨← acceptAll (schema.declaredEntries entries)⟩
  | names => throw (.missingParameters names)

end Schema

/-! ## Building mappings -/

/-- Sets the text of a name; a name that is there keeps its place. -/
def setEntry (name raw : String) : List (String × String) → List (String × String)
  | [] => [(name, raw)]
  | (n, r) :: rest =>
    if n = name then (n, raw) :: rest else (n, r) :: setEntry name raw rest

/-- The mapping of a list of pairs in which the last text of a name counts. -/
def lastValues (pairs : List (String × String)) : List (String × String) :=
  pairs.foldl (fun m p => setEntry p.1 p.2 m) []

/-- The mapping of a list of pairs in which the first text of a name counts. -/
def firstValues : List (String × String) → List (String × String)
  | [] => []
  | (name, raw) :: rest =>
    (name, raw) :: (firstValues rest).filter fun p => p.1 != name

end MapStandin.Parameter
