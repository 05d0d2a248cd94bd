import MapStandin.Power

/-! # Labels in ASCII

Writing a label of a domain name with letters outside ASCII in ASCII, and reading it back: the ASCII
characters first, then the others as numbers of base 36, ordered by code point and placed by
differences. -/

namespace MapStandin.Url.Punycode

/-- The digit of a number below 36: letters first. -/
def digit (n : Nat) : Char :=
  if n < 26 then Char.ofNat ('a'.toNat + n) else Char.ofNat ('0'.toNat + (n - 26))

def value? (c : Char) : Option Nat :=
  if 'a' ≤ c ∧ c ≤ 'z' then some (c.toNat - 'a'.toNat)
  else if '0' ≤ c ∧ c ≤ '9' then some (c.toNat - '0'.toNat + 26)
  else none

/-- The number from which on another digit follows, at a place `k` of 36, 72, …. -/
def threshold (k bias : Nat) : Nat :=
  if k ≤ bias then 1 else min (k - bias) 26

theorem threshold_pos (k bias : Nat) : 0 < threshold k bias := by
  unfold threshold
  split <;> omega

/-! ## Writing -/

/-- The digits of a number, the lowest first. -/
def number (bias k n : Nat) : List Char :=
  let t := threshold k bias
  if h : n < t then [digit n]
  else digit (t + (n - t) % (36 - t)) :: number bias (k + 36) ((n - t) / (36 - t))
termination_by n
decreasing_by
  have pos := threshold_pos k bias
  exact Nat.lt_of_le_of_lt (Nat.div_le_self _ _) (by omega)

/-- Divides a difference by 35 until it is small, and counts 36 for each division. -/
def shrink (delta k : Nat) : Nat × Nat :=
  if 455 < delta then shrink (delta / 35) (k + 36) else (delta, k)
termination_by delta
decreasing_by omega

/-- The bias after a difference; `count` characters are then written. -/
def adapt (delta count : Nat) (first : Bool) : Nat :=
  let delta := if first then delta / 700 else delta / 2
  let (delta, k) := shrink (delta + delta / count) 0
  k + 36 * delta / (delta + 38)

/-- What is written so far, and where writing stands. -/
structure State where
  out : List Char
  delta : Nat
  bias : Nat
  count : Nat

/-- Passes a character of the label while those with code point `n` are written; `basic` characters
are ASCII. -/
def pass (basic n : Nat) (s : State) (c : Char) : State :=
  if c.toNat < n then { s with delta := s.delta + 1 }
  else if c.toNat = n then
    { out := s.out ++ number s.bias 36 s.delta
      delta := 0
      bias := adapt s.delta (s.count + 1) (s.count == basic)
      count := s.count + 1 }
  else s

/-- Writes the characters of the given code points, which ascend; `n` is the least not yet passed.
-/
def writeAll (label : List Char) (basic : Nat) : (n : Nat) → List Nat → State → State
  | _, [], s => s
  | n, m :: rest, s =>
    let s := { s with delta := s.delta + (m - n) * (s.count + 1) }
    let s := label.foldl (pass basic m) s
    writeAll label basic (m + 1) rest { s with delta := s.delta + 1 }

/-- The code points outside ASCII, ascending, each once. -/
def foreign (label : List Char) : List Nat :=
  ((label.map Char.toNat).filter (128 ≤ ·)).mergeSort.eraseDups

def encode (label : List Char) : List Char :=
  let basic := label.filter fun c => c.toNat < 128
  let written :=
    (writeAll label basic.length 128 (foreign label) ⟨[], 0, 72, basic.length⟩).out
  (if basic.isEmpty then [] else basic ++ ['-']) ++ written

/-! ## Reading -/

/-- What is read so far: the characters, the code point and the place of the next one, the place
after the last one, and where the number that is being read stands. -/
structure Draft where
  out : List Char
  code : Nat
  place : Nat
  start : Nat
  bias : Nat
  weight : Nat
  digits : Nat

/-- Reads a digit. The last digit of a number puts a character in its place. -/
def take? (s : Draft) (c : Char) : Option Draft := do
  let d ← value? c
  let k := 36 * (s.digits + 1)
  let place := s.place + d * s.weight
  let t := threshold k s.bias
  if d < t then
    let count := s.out.length + 1
    let code := s.code + place / count
    let next := place % count
    if Nat.isValidChar code then
      some {
        out := s.out.take next ++ Char.ofNat code :: s.out.drop next
        code := code
        place := next + 1
        start := next + 1
        bias := adapt (place - s.start) count (s.start == 0)
        weight := 1
        digits := 0 }
    else none
  else
    -- The weight of a digit has 32 bits.
    let weight := s.weight * (36 - t)
    if weight < twoTo 32 then
      some { s with place := place, weight := weight, digits := s.digits + 1 }
    else none

/-- The ASCII characters before the last hyphen, and the digits after it. A hyphen with nothing
before it stands among the digits, and is none. -/
def splitBasic (written : List Char) : List Char × List Char :=
  match written.reverse.dropWhile (· ≠ '-') with
  | [] | [_] => ([], written)
  | _ :: before => (before.reverse, (written.reverse.takeWhile (· ≠ '-')).reverse)

def decode? (written : List Char) : Option (List Char) := do
  let (basic, digits) := splitBasic written
  if basic.any (128 ≤ ·.toNat) then none
  let s ← digits.foldlM take? ⟨basic, 128, 0, 0, 72, 1, 0⟩
  if s.digits = 0 then some s.out else none

example : String.ofList (encode "bücher".toList) = "bcher-kva" := by decide +kernel

end MapStandin.Url.Punycode
