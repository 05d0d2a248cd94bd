import MapStandin.Text.Class
import MapStandin.Unicode.Direction
import MapStandin.Unicode.Joining
import MapStandin.Unicode.Unprintable
import MapStandin.Url.Domain.PlainForm
import MapStandin.Url.Punycode

/-! # Labels

The parts of a domain name between its points. A label with letters outside ASCII is written in
ASCII behind a mark; the other way round, what stands behind the mark must be such a label in its
plain form. -/

namespace MapStandin.Url.Domain

def isAscii (c : Char) : Bool := c.toNat < 0x80

/-- What introduces a label that stands for one with letters outside ASCII. -/
def encodedMark : List Char := ['x', 'n', '-', '-']

/-- The greatest number of characters of a label that needs encoding. -/
def labelLimit : Nat := 1000

/-- The greatest number of characters behind the mark of an encoded label. -/
def encodedLimit : Nat := 2000

/-- Whether a label may hold a character outside ASCII: one with a shape that no rule refuses, or
one that ties letters or keeps them apart. -/
def isLabelChar (c : Char) : Bool :=
  c = Unicode.joiner || c = Unicode.nonJoiner ||
    !(Unicode.isUnprintable c || refusedRanges.has c)

/-- Whether letters outside ASCII make up a label: it starts with no mark, and characters without a
shape stand where they mean something. -/
def isLabel (cs : List Char) : Bool :=
  cs.all (fun c => isAscii c || isLabelChar c) && !(cs.head?.any Unicode.isMark) &&
    Unicode.joinersFit [] cs && cs.length ≤ labelLimit

structure Label where
  written : List Char
  meant : List Char
  deriving DecidableEq, Repr

namespace Label

/-- The label that stands behind the mark of an encoded one. -/
def decode? (cs : List Char) : Option (List Char) := do
  if encodedLimit < cs.length then none
  let label ← Punycode.decode? cs
  if label.all isAscii || plainForm label ≠ label || !isLabel label then none
  return label

def ofPlain? (cs : List Char) : Option Label :=
  match Text.afterList encodedMark cs with
  | some behind => (decode? behind).map fun meant => ⟨cs, meant⟩
  | none =>
    if cs.all isAscii then some ⟨cs, cs⟩
    else if isLabel cs then some ⟨encodedMark ++ Punycode.encode cs, cs⟩
    else none

/-- Whether all of a label is written in one direction. A label from left to right starts with a
letter and ends with a letter or digit. One from right to left may end with a digit of either kind,
but does not hold both kinds. Marks at the end do not count. -/
def isDirected (label : Label) : Bool :=
  let directions := label.meant.map Unicode.direction
  let last := directions.reverse.find? (· ≠ .mark)
  match directions.head? with
  | none => true
  | some .left =>
    directions.all (fun d => d ≠ .right && d ≠ .arabicNumber) &&
      (last = some .left || last = some .europeanNumber)
  | some .right =>
    directions.all (· ≠ .left) && last ≠ some .neutral &&
      !(directions.contains .europeanNumber && directions.contains .arabicNumber)
  | some _ => false

/-- Whether a label holds letters or digits of a script that is written from right to left. -/
def turnsRight (label : Label) : Bool :=
  label.meant.any fun c => Unicode.direction c = .right || Unicode.direction c = .arabicNumber

end Label

end MapStandin.Url.Domain
