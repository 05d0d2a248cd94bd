import MapStandin.Text.Class
import MapStandin.Text.Hex

/-! # GUIDs

Random identifiers of 128 bits. An identifier can be spelled in many ways; the one that is accepted
is the one in which it is written: lowercase hexadecimal digits in groups of 8, 4, 4, 4 and 12
joined by hyphens. -/

namespace MapStandin

structure Guid where
  bits : BitVec 128
  deriving DecidableEq, Repr

namespace Guid

def groups : List Nat := [8, 4, 4, 4, 12]

def size : Nat := 32

/-- The hexadecimal digit at a place counted from the last one. -/
def nibble (bits : BitVec 128) (place : Nat) : Nat :=
  bits.toNat / Nat.pow 16 place % 16

/-! ## Writing -/

/-- The digits of `count` places that end at `place`, the last digit last. -/
def digitsDown (bits : BitVec 128) : (count place : Nat) → List Char
  | 0, _ => []
  | count + 1, place => Hex.digit (nibble bits (place + count)) :: digitsDown bits count place

def hyphenate : List Nat → List Char → List Char
  | [], ds | [_], ds => ds
  | count :: rest, ds => ds.take count ++ '-' :: hyphenate rest (ds.drop count)

def text (g : Guid) : String :=
  String.ofList (hyphenate groups (digitsDown g.bits size 0))

/-! ## Reading -/

/-- Reads `count` digits of either case after the number `n`: the number they extend it to, and the
rest. -/
def readGroup : (count n : Nat) → List Char → Option (Nat × List Char)
  | 0, n, cs => some (n, cs)
  | _ + 1, _, [] => none
  | count + 1, n, c :: cs => (Hex.value? c).bind fun d => readGroup count (16 * n + d) cs

/-- Reads groups of digits with a hyphen between them, and nothing after the last. -/
def readGroups : List Nat → (n : Nat) → List Char → Option Nat
  | [], n, [] => some n
  | [], _, _ :: _ => none
  | [count], n, cs =>
    match readGroup count n cs with
    | some (n, []) => some n
    | _ => none
  | count :: rest, n, cs =>
    match readGroup count n cs with
    | some (n, '-' :: cs) => readGroups rest n cs
    | _ => none

def simple? (cs : List Char) : Option Nat := readGroups [size] 0 cs

def hyphenated? (cs : List Char) : Option Nat := readGroups groups 0 cs

def braced? : List Char → Option Nat
  | '\x7b' :: cs => if cs.getLast? = some '\x7d' then hyphenated? cs.dropLast else none
  | _ => none

def resourceMark : String := "urn:uuid:"

def resourceName? (cs : List Char) : Option Nat :=
  (Text.afterList resourceMark.toList cs).bind hyphenated?

/-- The identifier that a text spells, random or not, in any of the ways to spell it. -/
def ofText? (s : String) : Option Guid :=
  let cs := s.toList
  ((simple? cs).or <| (hyphenated? cs).or <| (braced? cs).or (resourceName? cs)).map fun n =>
    ⟨BitVec.ofNat 128 n⟩

/-- The version, which is the digit that starts the third group. -/
def version (g : Guid) : Nat := nibble g.bits 19

/-- Whether the digit that starts the fourth group has the two leading bits `10`. -/
def isStandardVariant (g : Guid) : Bool := nibble g.bits 15 / 4 == 2

def isRandom (g : Guid) : Bool := g.version == 4 && g.isStandardVariant

/-- The random identifier whose canonical spelling is the text. -/
def read? (s : String) : Option Guid :=
  (ofText? s).filter fun g => g.isRandom && g.text == s

end Guid

end MapStandin
