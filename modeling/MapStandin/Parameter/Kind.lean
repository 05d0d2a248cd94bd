import MapStandin.Decimal.Word
import MapStandin.Guid
import MapStandin.Json.Reader
import MapStandin.Wkt.Polygon

/-! # Kinds of parameter values

What a parameter's text must be, and the value that a fitting text stands for. -/

namespace MapStandin.Parameter

inductive Kind
  | guid
  | positiveInteger
  | json
  | path
  | polygon
  | nonEmpty
  | anyText
  deriving DecidableEq, Repr

inductive Value
  | guid (g : Guid)
  | positiveInteger (n : UInt64)
  | json (v : Json)
  | path (p : String)
  | polygon (p : Wkt.Polygon)
  | text (s : String)
  | anyText (s : String)
  deriving Repr

/-- The place in the file system that a value can name. -/
def Value.asPath? : Value → Option String
  | .path p | .text p | .anyText p => some p
  | _ => none

/-! ## Reading -/

/-- The positive integer of 64 bits that a text spells between blanks. -/
def positiveInteger? (s : String) : Option UInt64 :=
  (Decimal.signedWord? (Text.trimList s.toList)).filter (0 < ·)

def longestPath : Nat := 4096

/-- Whether a text can be a path: not empty, not too long and without control characters. -/
def isPath (s : String) : Bool :=
  !s.isEmpty && s.utf8ByteSize ≤ longestPath && !s.toList.any Text.isControl

def Kind.read? : Kind → String → Option Value
  | .guid, s => (Guid.read? s).map .guid
  | .positiveInteger, s => (positiveInteger? s).map .positiveInteger
  | .json, s => (Json.readBytes (Utf8.encode s)).toOption.map .json
  | .path, s => if isPath s then some (.path s) else none
  | .polygon, s => (Wkt.polygon? s).map .polygon
  | .nonEmpty, s => if s.isEmpty then none else some (.text s)
  | .anyText, s => some (.anyText s)

def Kind.accepts (k : Kind) (s : String) : Bool :=
  (k.read? s).isSome

def Kind.refusal (k : Kind) (name value : String) : String :=
  match k with
  | .guid => s!"Value for parameter {name} is not a valid GUID: {value}"
  | .positiveInteger => s!"Value for parameter {name} is not a valid positive integer: {value}"
  | .json => s!"Value for parameter {name} is not valid JSON: {value}"
  | .path => s!"Value for parameter {name} is not a valid path: {value}"
  | .polygon => s!"Value for parameter {name} is not a valid WKT polygon: {value}"
  | .nonEmpty => s!"Value for parameter {name} is null or empty"
  | .anyText => s!"Value for parameter {name} is invalid: {value}"

end MapStandin.Parameter
