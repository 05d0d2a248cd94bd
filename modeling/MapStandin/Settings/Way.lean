import MapStandin.Settings.Value
import MapStandin.Text.Fields

/-! # Ways to settings

A key says where a value belongs: a name in a table, a name in the table that lies there, or a place
in a list. Values are put there one after another, and what stands in the way is replaced. -/

namespace MapStandin.Settings

/-! ## Keys -/

/-- A step to a setting: a name in a table or a place in a list, which counts from the end if it is
negative. -/
inductive Step
  | name (s : String)
  | place (i : Int)
  deriving DecidableEq, Repr

/-- Whether a name in a key with several steps may hold a character. -/
def isNameChar (c : Char) : Bool :=
  c.isAlphanum || c = '_' || c = '-' || c = ' '

/-- A name in the form in which names are compared: in small letters. The sign of the unit kelvin is
a capital letter. -/
def comparedName (s : String) : String :=
  Text.small (String.ofList (s.toList.map fun c => if c = '\u212a' then 'k' else c))

def withoutBlanks (cs : List Char) : List Char :=
  let isBlank (c : Char) : Bool := c = ' ' || c = '\t'
  ((cs.dropWhile isBlank).reverse.dropWhile isBlank).reverse

/-- The place that brackets hold: a number of 64 bits, possibly negative. -/
def place? (cs : List Char) : Option Step :=
  let n : Option Int := match withoutBlanks cs with
    | '-' :: digits => (Decimal.number? digits).map fun n => -(n : Int)
    | digits => (Decimal.number? digits).map fun n => (n : Int)
  (n.filter fun n => -(twoTo 63 : Int) ≤ n && n ≤ greatestWhole).map .place

def places? (cs : List Char) : Option (List Step) :=
  match (Text.fields ']' cs).reverse with
  | [] :: before => before.reverse.mapM fun
    | '[' :: inside => place? inside
    | _ => none
  | _ => none

/-- The steps between two points of a key: a name, and places after it. -/
def steps? (cs : List Char) : Option (List Step) := do
  let name := cs.takeWhile isNameChar
  if name = [] then none
  let places ← places? (cs.dropWhile isNameChar)
  return .name (comparedName (String.ofList name)) :: places

/-- The way that a key names; a key that is not made of steps is one name by itself. -/
def wayOf (key : String) : List Step :=
  match (Text.fields '.' key.toList).mapM steps? with
  | some ways => ways.flatten
  | none => [.name (comparedName key)]

/-! ## Tables -/

/-- Gives the value under a name another one, made from it. -/
def alter (name : String) (f : Option Value → Value) : Entries → Entries
  | [] => [(name, f none)]
  | (n, v) :: rest => if n = name then (n, f (some v)) :: rest else (n, v) :: alter name f rest

/-- Gives the value under a name of a table another one. What is no table becomes one. -/
def alterName (name : String) (f : Option Value → Value) : Option Value → Value
  | some (.table entries origin) => .table (alter name f entries) origin
  | _ => .table [(name, f none)] none

mutual

/-- A value over another one. A table is added to the table that is there entry by entry. -/
def merged : Value → Option Value → Value
  | .table entries _, old => mergedEntries entries (old.getD (.table [] none))
  | v, _ => v

def mergedEntries : Entries → Value → Value
  | [], v => v
  | (name, w) :: rest, v => mergedEntries rest (alterName (comparedName name) (merged w) (some v))

end

/-! ## Lists -/

/-- The number of an item in a list of the given length. -/
def itemNumber (i : Int) (length : Nat) : Nat :=
  if i < 0 then (length + i).toNat else i.toNat

/-- Gives an item of a list another value. The list grows as far as it takes. -/
def alterItem (n : Nat) (f : Option Value → Value) : List Value → List Value
  | [] => List.replicate n Value.null ++ [f none]
  | v :: rest => match n with
    | 0 => f (some v) :: rest
    | n + 1 => v :: alterItem n f rest

/-- Gives an item another value. What is no list becomes one. -/
def alterPlace (i : Int) (f : Option Value → Value) : Option Value → Value
  | some (.list items origin) => .list (alterItem (itemNumber i items.length) f items) origin
  | _ => .list (alterItem (itemNumber i 0) f []) none

/-! ## Putting values -/

/-- Puts a value at the end of a way. Under a name it goes over the value that is there, and as an
item of a list it replaces it. -/
def putAlong (v : Value) : (way : List Step) → Option Value → Value
  | [], _ => v
  | [.name s], old => alterName s (merged v) old
  | .name s :: way, old => alterName s (putAlong v way) old
  | .place i :: way, old => alterPlace i (putAlong v way) old

def Value.entries : Value → Entries
  | .table entries _ => entries
  | _ => []

end MapStandin.Settings
