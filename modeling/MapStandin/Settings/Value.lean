import MapStandin.Decimal.Reading
import MapStandin.Decimal.Shortest
import MapStandin.Json.Value
import MapStandin.Text.Class
import MapStandin.Text.Quoted

/-! # Values of settings

What a settings file or the environment says, before it is known which settings there are. -/

namespace MapStandin.Settings

inductive Origin
  | file
  | environment
  deriving DecidableEq, Repr

def fileName : String := "config.json"

def Origin.text : Origin → String
  | .file => fileName
  | .environment => "the environment"

inductive Scalar
  | null
  | flag (b : Bool)
  | whole (n : Int)
  | double (d : Decimal.Double)
  | text (s : String)
  deriving DecidableEq, Repr

/-- A value. One that is put together from several places is written nowhere itself. -/
inductive Value
  | scalar (s : Scalar) (origin : Option Origin)
  | list (items : List Value) (origin : Option Origin)
  | table (entries : List (String × Value)) (origin : Option Origin)
  deriving Repr

abbrev Entries := List (String × Value)

namespace Value

def origin? : Value → Option Origin
  | scalar _ origin | list _ origin | table _ origin => origin

def null : Value := scalar .null none

end Value

/-! ## Values from files -/

def greatestWhole : Int := twoTo 63 - 1

def ofNumber : Json.Number → Scalar
  | .whole n =>
    if n ≤ greatestWhole then .whole n else .double (.ofQuotient false n.natAbs 1)
  | .double d => .double d

mutual

def ofJson : Json → Value
  | .null => .scalar .null (some .file)
  | .bool b => .scalar (.flag b) (some .file)
  | .number n => .scalar (ofNumber n) (some .file)
  | .string s => .scalar (.text s) (some .file)
  | .array items => .list (ofItems items) (some .file)
  | .object members => .table (ofMembers members) (some .file)

def ofItems : List Json → List Value
  | [] => []
  | j :: rest => ofJson j :: ofItems rest

def ofMembers : List (String × Json) → Entries
  | [] => []
  | (name, j) :: rest => (name, ofJson j) :: ofMembers rest

end

/-! ## Values from the environment -/

def whole? (s : String) : Option Int :=
  let n : Option Int := match s.toList with
    | '-' :: cs => (Decimal.number? cs).map fun n => -(n : Int)
    | cs => (Decimal.signedNumber? cs).map fun n => (n : Int)
  n.filter fun n => -(twoTo 63 : Int) ≤ n && n ≤ greatestWhole

/-- The value that a text of the environment stands for: a truth value in any case, else a whole
number, else a number, else the text itself. -/
def ofText (s : String) : Scalar :=
  if Text.small s = "true" then .flag true
  else if Text.small s = "false" then .flag false
  else match whole? s with
    | some n => .whole n
    | none =>
      match Decimal.double? s.toList with
      | some d => .double d
      | none => .text s

end MapStandin.Settings
