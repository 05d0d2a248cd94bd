import MapStandin.Decimal.Double
import MapStandin.Text.Class

/-! # Reading decimals

The free spelling of a number in a text: an optional sign, then a name of a value that is no finite
number, or digits with an optional point and an optional exponent. -/

namespace MapStandin.Decimal

def spanDigits (cs : List Char) : List Char × List Char :=
  (cs.takeWhile Char.isDigit, cs.dropWhile Char.isDigit)

/-- The number that a run of digits spells, zero for none. -/
def ofDigits (cs : List Char) : Nat :=
  (extend? 0 cs).getD 0

/-- The exponent after an exponent mark: an optional sign and one or more digits. -/
def exponent? : List Char → Option Int
  | '+' :: cs => (number? cs).map fun n => (n : Int)
  | '-' :: cs => (number? cs).map fun n => -(n : Int)
  | cs => (number? cs).map fun n => (n : Int)

/-- The digits after a point, none without one, and the rest. -/
def spanPlaces : List Char → List Char × List Char
  | '.' :: rest => spanDigits rest
  | rest => ([], rest)

/-- The double `± digits · 10 ^ power`, raised by the exponent that follows, if one does. -/
def raised? (negative : Bool) (digits : Nat) (power : Int) : List Char → Option Double
  | [] => some (.ofDecimal negative digits power)
  | c :: rest =>
    if c = 'e' || c = 'E' then
      (exponent? rest).map fun e => .ofDecimal negative digits (power + e)
    else none

def unsignedDigits? (negative : Bool) (cs : List Char) : Option Double :=
  let (whole, rest) := spanDigits cs
  let (places, rest) := spanPlaces rest
  if whole.isEmpty && places.isEmpty then none
  else raised? negative (ofDigits (whole ++ places)) (-(places.length : Int)) rest

def unsigned? (negative : Bool) (cs : List Char) : Option Double :=
  let name := String.ofList (cs.map Char.toLower)
  if name = "inf" || name = "infinity" then some (.infinite negative)
  else if name = "nan" then some .nan
  else unsignedDigits? negative cs

def double? : List Char → Option Double
  | '+' :: cs => unsigned? false cs
  | '-' :: cs => unsigned? true cs
  | cs => unsigned? false cs

end MapStandin.Decimal
