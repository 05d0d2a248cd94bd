import MapStandin.Settings.Value

/-! # Faults of settings

Why settings cannot be used. -/

namespace MapStandin.Settings

inductive Fault
  | unreadable (reason : String)
  | wrongType (found expected : String) (key : Option String) (origin : Option Origin)
  deriving DecidableEq, Repr

namespace Fault

def originText : Option Origin → String
  | some o => " in " ++ o.text
  | none => ""

def keyText : Option String → String
  | some key => " for key `" ++ key ++ "`"
  | none => ""

def message : Fault → String
  | .unreadable reason => reason ++ originText (some .file)
  | .wrongType found expected key origin =>
    s!"invalid type: {found}, expected {expected}" ++ keyText key ++ originText origin

end Fault

/-! ## Naming values -/

def doubleName (d : Decimal.Double) : String :=
  "floating point `" ++ Decimal.plain.writeDouble d ++ "`"

/-- How a value that is no number or record is named. -/
def nameOf : Value → String
  | .scalar .null _ => "unit value"
  | .scalar (.flag true) _ => "boolean `true`"
  | .scalar (.flag false) _ => "boolean `false`"
  | .scalar (.whole n) _ => s!"64-bit integer `{n}`"
  | .scalar (.double d) _ => doubleName d
  | .scalar (.text s) _ => "string " ++ Text.quoted s
  | .list _ _ => "sequence"
  | .table _ _ => "map"

/-- The fault of a value at a key that is not what is expected there. -/
def unexpected (v : Value) (expected key : String) : Fault :=
  .wrongType (nameOf v) expected (some key) v.origin?

end MapStandin.Settings
