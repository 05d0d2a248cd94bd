import MapStandin.Decimal.Digits

/-! # Doubles

Numbers with 53 binary digits, held exactly as sign, whole mantissa and binary exponent. All
arithmetic is carried out on whole numbers and rounded once, to the nearest double with ties to the
even mantissa. -/

namespace MapStandin.Decimal

/-- A double. A finite one stands for `± mantissa · 2 ^ exponent`; the mantissa has 53 binary digits
unless the exponent is the least one. -/
inductive Double
  | nan
  | infinite (negative : Bool)
  | finite (negative : Bool) (mantissa : Nat) (exponent : Int)
  deriving DecidableEq, Repr

namespace Double

def leastExponent : Int := -1074

def greatestExponent : Int := 971

def zero (negative : Bool) : Double := .finite negative 0 leastExponent

/-! ## Rounding -/

/-- The quotient rounded to the nearest whole number, a tie to the even one. -/
def roundQuotient (num den : Nat) : Nat :=
  let q := num / den
  let r := num % den
  if den < 2 * r || (2 * r == den && q % 2 == 1) then q + 1 else q

/-- The numerator and denominator of `num / den / 2 ^ exponent`. -/
def scaled (num den : Nat) : (exponent : Int) → Nat × Nat
  | .ofNat k => (num, den * twoTo k)
  | .negSucc k => (num * twoTo (k + 1), den)

/-- The binary exponent at which `num / den` has 53 binary digits before the point, or the least
exponent if that is greater. -/
def exponentOf (num den : Nat) : Int :=
  let guess : Int := (num.log2 : Int) - (den.log2 : Int) - 53
  let (n, d) := scaled num den guess
  max (if n / d < twoTo 53 then guess else guess + 1) leastExponent

/-- The double nearest to `± num / den`. -/
def ofQuotient (negative : Bool) (num den : Nat) : Double :=
  if num = 0 then zero negative
  else
    let e := exponentOf num den
    let (n, d) := scaled num den e
    let m := roundQuotient n d
    -- Rounding up can make one digit more.
    let (m, e) := if m = twoTo 53 then (twoTo 52, e + 1) else (m, e)
    if greatestExponent < e then .infinite negative else .finite negative m e

/-- The double nearest to `± digits · 10 ^ power`. A power so great or so small that the result is
infinite or zero is not computed. -/
def ofDecimal (negative : Bool) (digits : Nat) (power : Int) : Double :=
  let size : Int := (count digits : Int) + power
  if digits = 0 || size < -400 then zero negative
  else if 400 < size then .infinite negative
  else match power with
    | .ofNat k => ofQuotient negative (digits * tenTo k) 1
    | .negSucc k => ofQuotient negative digits (tenTo (k + 1))

/-! ## Arithmetic -/

def fraction (mantissa : Nat) : (exponent : Int) → Nat × Nat
  | .ofNat k => (mantissa * twoTo k, 1)
  | .negSucc k => (mantissa, twoTo (k + 1))

/-- The double nearest to a quotient of whole numbers with its sign; an exact zero is positive. -/
def ofSigned (num : Int) (den : Nat) : Double :=
  ofQuotient (decide (num < 0)) num.natAbs den

def signedFraction (negative : Bool) (mantissa : Nat) (exponent : Int) : Int × Nat :=
  let (n, d) := fraction mantissa exponent
  (if negative then -(n : Int) else n, d)

def add : Double → Double → Double
  | .nan, _ | _, .nan => .nan
  | .infinite s, .infinite t => if s = t then .infinite s else .nan
  | .infinite s, .finite _ _ _ | .finite _ _ _, .infinite s => .infinite s
  | .finite s m e, .finite t n f =>
    if m = 0 && n = 0 then zero (s && t)
    else
      let (a, b) := signedFraction s m e
      let (c, d) := signedFraction t n f
      ofSigned (a * d + c * b) (b * d)

/-- The rounded product of a finite double and a positive finite one. -/
def scaleUp : (value factor : Double) → Double
  | .finite s m e, .finite _ n f =>
    let (a, b) := fraction m e
    let (c, d) := fraction n f
    ofQuotient s (a * c) (b * d)
  | value, _ => value

/-- The rounded quotient of a finite double by a positive finite one. -/
def scaleDown : (value divisor : Double) → Double
  | .finite s m e, .finite _ n f =>
    let (a, b) := fraction m e
    let (c, d) := fraction n f
    ofQuotient s (a * d) (b * c)
  | value, _ => value

/-- Equality of values: a number that is none equals nothing, and the two zeros are equal. -/
def equals : Double → Double → Bool
  | .infinite s, .infinite t => s == t
  | .finite s m e, .finite t n f => (m == 0 && n == 0) || (s == t && m == n && e == f)
  | _, _ => false

/-- The whole number nearest to a finite double, a half rounded away from zero. -/
def toNearestInt (negative : Bool) (mantissa : Nat) (exponent : Int) : Int :=
  let (n, d) := fraction mantissa exponent
  let q : Int := ((2 * n + d) / (2 * d) : Nat)
  if negative then -q else q

/-! ## The 64-bit form -/

def ofBits (bits : Nat) : Double :=
  let negative : Bool := bits / twoTo 63 % 2 == 1
  let field : Nat := bits / twoTo 52 % twoTo 11
  let fraction : Nat := bits % twoTo 52
  if field = 2047 then (if fraction = 0 then .infinite negative else .nan)
  else if field = 0 then .finite negative fraction leastExponent
  -- The first binary digit is not written.
  else .finite negative (fraction + twoTo 52) ((field : Int) - 1075)

/-- The 64-bit word of a double; a quiet word for a number that is none. -/
def toBits : Double → Nat
  | .nan => 0x7FF8000000000000
  | .infinite s => (if s then twoTo 63 else 0) + 2047 * twoTo 52
  | .finite s m e =>
    (if s then twoTo 63 else 0) +
      (if m < twoTo 52 then m else (m - twoTo 52) + (e + 1075).toNat * twoTo 52)

example : add (ofDecimal false 1 (-1)) (ofDecimal false 2 (-1)) = ofBits 0x3FD3333333333334 := by
  decide +kernel

end Double

end MapStandin.Decimal
