/-! # Ranges of characters

Sets of characters, given by ranges of code points. -/

namespace MapStandin.Unicode

/-- Ranges of code points, both ends included. -/
abbrev Ranges := List (Nat × Nat)

def Ranges.has (ranges : Ranges) (c : Char) : Bool :=
  ranges.any fun (low, high) => low ≤ c.toNat && c.toNat ≤ high

end MapStandin.Unicode
