import MapStandin.Power

/-! # Decimal digits

Reading a run of ASCII digits as a number, and counting the digits of a number. -/

namespace MapStandin.Decimal

def digit? (c : Char) : Option Nat :=
  if c.isDigit then some (c.toNat - '0'.toNat) else none

/-- The number that `n` followed by the given digits spells. -/
def extend? (n : Nat) : List Char → Option Nat
  | [] => some n
  | c :: cs => (digit? c).bind fun d => extend? (10 * n + d) cs

/-- The number that one or more digits spell. -/
def number? : List Char → Option Nat
  | [] => none
  | cs => extend? 0 cs

/-- The number after an optional single plus sign. -/
def signedNumber? : List Char → Option Nat
  | '+' :: cs => number? cs
  | cs => number? cs

/-- The least `k` with `n < 10 ^ k`, searched upward from `start` in at most `fuel` steps. -/
def countFrom (n start : Nat) : (fuel : Nat) → Nat
  | 0 => start
  | fuel + 1 => if n < tenTo start then start else countFrom n (start + 1) fuel

/-- The number of decimal digits of `n`, zero for zero. -/
def count (n : Nat) : Nat :=
  -- three digits for each ten bits is never too many
  countFrom n (3 * (n.log2 / 10)) (n.log2 + 2)

/-- A number without its trailing zeros, and how many there were; `fuel` bounds the count. -/
def stripZeros (n : Nat) : (fuel : Nat) → Nat × Nat
  | 0 => (n, 0)
  | fuel + 1 =>
    if n ≠ 0 ∧ n % 10 = 0 then
      let (d, k) := stripZeros (n / 10) fuel
      (d, k + 1)
    else (n, 0)

end MapStandin.Decimal
