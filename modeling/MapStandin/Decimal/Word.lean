import MapStandin.Decimal.Digits

/-! # Decimals of 64 bits

Reading a run of ASCII digits as a number of 64 bits. Each product and each sum on the way is
checked: a number that does not fit ends the reading. -/

namespace MapStandin.Decimal

def times? (a b : UInt64) : Option UInt64 :=
  if BitVec.umulOverflow a.toBitVec b.toBitVec then none else some (a * b)

def plus? (a b : UInt64) : Option UInt64 :=
  if BitVec.uaddOverflow a.toBitVec b.toBitVec then none else some (a + b)

/-- The number that `n` followed by the given digits spells, if it fits 64 bits. -/
def extendWord? (n : UInt64) : List Char → Option UInt64
  | [] => some n
  | c :: cs => do
    let shifted ← times? n 10
    let d ← digit? c
    let extended ← plus? shifted (UInt64.ofNat d)
    extendWord? extended cs

def word? : List Char → Option UInt64
  | [] => none
  | cs => extendWord? 0 cs

/-- The number after an optional single plus sign, if it fits 64 bits. -/
def signedWord? : List Char → Option UInt64
  | '+' :: cs => word? cs
  | cs => word? cs

end MapStandin.Decimal
