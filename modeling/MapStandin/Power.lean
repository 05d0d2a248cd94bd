/-! # Powers

Powers of the two bases in which numbers are kept and written. -/

namespace MapStandin

def twoTo (k : Nat) : Nat := Nat.pow 2 k

def tenTo (k : Nat) : Nat := Nat.pow 10 k

end MapStandin
