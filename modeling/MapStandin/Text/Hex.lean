/-! # Hexadecimal digits

Digits of base sixteen, as characters and as bytes. -/

namespace MapStandin.Hex

/-- The lowercase digit of a number below sixteen. -/
def digit (n : Nat) : Char :=
  if n < 10 then Char.ofNat ('0'.toNat + n) else Char.ofNat ('a'.toNat + (n - 10))

def capital (n : Nat) : Char :=
  if n < 10 then Char.ofNat ('0'.toNat + n) else Char.ofNat ('A'.toNat + (n - 10))

def small? (c : Char) : Option Nat :=
  if '0' ≤ c ∧ c ≤ '9' then some (c.toNat - '0'.toNat)
  else if 'a' ≤ c ∧ c ≤ 'f' then some (c.toNat - 'a'.toNat + 10)
  else none

/-- The number of a digit of either case. -/
def value? (c : Char) : Option Nat :=
  if 'A' ≤ c ∧ c ≤ 'F' then some (c.toNat - 'A'.toNat + 10) else small? c

def byteValue? (b : UInt8) : Option Nat :=
  value? (Char.ofNat b.toNat)

theorem small?_digit {n : Nat} (h : n < 16) : small? (digit n) = some n := by
  have all : ∀ k ∈ List.range 16, small? (digit k) = some k := by decide
  exact all n (List.mem_range.2 h)

end MapStandin.Hex
