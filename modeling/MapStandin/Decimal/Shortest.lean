import MapStandin.Decimal.Double

/-! # The shortest decimal of a double

Of the decimals that round to a double, the one with the fewest digits, and of those the nearest
one. Whether the upper or the even one of two equally near decimals is taken is a choice of the
caller. -/

namespace MapStandin.Decimal

inductive Tie
  | up
  | even
  deriving DecidableEq, Repr

structure Scientific where
  digits : Nat
  power : Int
  deriving DecidableEq, Repr

def Scientific.exponent (s : Scientific) : Int :=
  s.power + (count s.digits : Int) - 1

def Scientific.trimmed (s : Scientific) : Scientific :=
  let (d, k) := stripZeros s.digits (s.digits.log2 + 1)
  ⟨d, s.power + k⟩

/-- The reals that round to a positive double, in quarters of its unit: from `low` to `high`, the
ends included if `closed`, around `value`; a quarter is `num / den`. -/
structure Interval where
  low : Nat
  value : Nat
  high : Nat
  closed : Bool
  num : Nat
  den : Nat

/-- The interval of `mantissa · 2 ^ exponent`. Below a power of two the doubles lie twice as close.
-/
def Interval.of (mantissa : Nat) (exponent : Int) : Interval :=
  let narrow := mantissa = twoTo 52 && Double.leastExponent < exponent
  let (num, den) := Double.fraction 1 (exponent - 2)
  { low := 4 * mantissa - (if narrow then 1 else 2)
    value := 4 * mantissa
    high := 4 * mantissa + 2
    closed := mantissa % 2 == 0
    num := num
    den := den }

def powerOfTen : (power : Int) → Nat × Nat
  | .ofNat k => (tenTo k, 1)
  | .negSucc k => (1, tenTo (k + 1))

/-- The exponent of the leading decimal digit of `num / den`. -/
def leadingExponent (num den : Nat) : Int :=
  if den ≤ num then (count (num / den) : Int) - 1 else -(count ((den - 1) / num) : Int)

def Interval.holds (i : Interval) (digits : Nat) (power : Int) : Bool :=
  let (c, d) := powerOfTen power
  let x := digits * c * i.den
  let low := i.low * i.num * d
  let high := i.high * i.num * d
  if i.closed then low ≤ x && x ≤ high else low < x && x < high

/-- The nearest decimal of the interval on the grid of the given power, if there is one. -/
def Interval.onGrid? (tie : Tie) (i : Interval) (power : Int) : Option Scientific :=
  let (c, d) := powerOfTen power
  let num := i.value * i.num * d
  let den := i.den * c
  let f := num / den
  match i.holds f power, i.holds (f + 1) power with
  | false, false => none
  | true, false => some ⟨f, power⟩
  | false, true => some ⟨f + 1, power⟩
  | true, true =>
    -- Both neighbours of the value round to the double.
    let twice := 2 * (num % den)
    let upper := den < twice || (twice == den && (tie = .up || f % 2 == 1))
    some ⟨if upper then f + 1 else f, power⟩

/-- The first grid that holds a decimal of the interval, from the grid of `power` downwards. -/
def Interval.search (tie : Tie) (i : Interval) (power : Int) : (fuel : Nat) → Scientific
  | 0 => ⟨i.value, 0⟩
  | fuel + 1 =>
    match i.onGrid? tie power with
    | some s => s
    | none => i.search tie (power - 1) fuel

/-- The shortest decimal of `mantissa · 2 ^ exponent`. Seventeen digits are always enough. -/
def shortest (tie : Tie) (mantissa : Nat) (exponent : Int) : Scientific :=
  if mantissa = 0 then ⟨0, 0⟩
  else
    let i := Interval.of mantissa exponent
    (i.search tie (leadingExponent (i.value * i.num) i.den) 18).trimmed

/-! ## Writing decimals -/

/-- How a decimal is laid out: in which range of exponents without an exponent, and whether a whole
number shows a fraction. -/
structure Layout where
  tie : Tie
  isPositional : Int → Bool
  showsFraction : Bool

/-- The digits with a point so that the last one has the weight `10 ^ power`. -/
def positional (showsFraction : Bool) (s : Scientific) : List Char :=
  let digits := Nat.toDigits 10 s.digits
  match s.power with
  | .ofNat k =>
    digits ++ List.replicate (if s.digits = 0 then 0 else k) '0' ++
      (if showsFraction then ['.', '0'] else [])
  | .negSucc k =>
    let places := k + 1
    let padded := List.replicate (places + 1 - digits.length) '0' ++ digits
    padded.take (padded.length - places) ++ '.' :: padded.drop (padded.length - places)

/-- The digits with a point after the first, and a signed exponent. -/
def withExponent (s : Scientific) : List Char :=
  let mantissa := match Nat.toDigits 10 s.digits with
    | [] => []
    | [d] => [d]
    | d :: ds => d :: '.' :: ds
  let e := s.exponent
  mantissa ++ 'e' :: (if e < 0 then '-' else '+') :: Nat.toDigits 10 e.natAbs

def Layout.write (l : Layout) (s : Scientific) : List Char :=
  if s.digits = 0 || l.isPositional s.exponent then positional l.showsFraction s
  else withExponent s

theorem positional_ne_nil (showsFraction : Bool) (s : Scientific) :
    positional showsFraction s ≠ [] := by
  have hdigits : Nat.toDigits 10 s.digits ≠ [] := Nat.toDigits_ne_nil
  unfold positional
  cases s.power with
  | ofNat k => simp [hdigits]
  | negSucc k => simp

theorem withExponent_ne_nil (s : Scientific) : withExponent s ≠ [] := by
  unfold withExponent
  simp

theorem Layout.write_ne_nil (l : Layout) (s : Scientific) : l.write s ≠ [] := by
  unfold Layout.write
  split
  · exact positional_ne_nil l.showsFraction s
  · exact withExponent_ne_nil s

/-- The text of a double; the names of the values that are no finite numbers are fixed. -/
def Layout.writeDouble (l : Layout) : Double → String
  | .nan => "NaN"
  | .infinite s => if s then "-inf" else "inf"
  | .finite s m e =>
    String.ofList ((if s then ['-'] else []) ++ l.write (shortest l.tie m e))

/-- Every digit in place and no exponent: coordinates and settings are written so. -/
def plain : Layout where
  tie := .up
  isPositional _ := true
  showsFraction := false

example : shortest .even 1 Double.leastExponent = ⟨5, -324⟩ := by decide +kernel

end MapStandin.Decimal
