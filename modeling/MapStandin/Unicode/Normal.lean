import MapStandin.Unicode.CombiningClass
import MapStandin.Unicode.Composition

/-! # Composed texts

A letter with marks can be written as one character or as several. Every text has one composed form:
all characters are taken apart, marks that do not touch are put in order of their classes, and what
can be put together is put together. -/

namespace MapStandin.Unicode

/-! ## Taking apart -/

/-- Takes marks off a character, at most `depth` of them. -/
def stripMarks : (depth : Nat) → Char → (marks : List Char) → List Char
  | 0, c, marks => c :: marks
  | depth + 1, c, marks =>
    match parts? c with
    | some (base, mark) => stripMarks depth base (mark :: marks)
    | none => c :: marks

/-- The parts of a character. No character has more than four marks. -/
def decompose (c : Char) : List Char :=
  if c.toNat < 0x80 then [c]
  else match syllableParts? c with
    | some parts => parts
    | none =>
      match separableForms.find? c with
      | some parts => parts
      | none => stripMarks 4 c []

/-! ## Ordering -/

/-- Puts a character before others; a mark goes past the marks of lower classes. -/
def insertMark (c : Char) : List Char → List Char
  | [] => [c]
  | d :: rest =>
    if 0 < combiningClass d && combiningClass d < combiningClass c then d :: insertMark c rest
    else c :: d :: rest

/-- The characters with the marks between two letters in order of their classes. -/
def ordered (cs : List Char) : List Char :=
  cs.foldr insertMark []

/-! ## Putting together -/

/-- Puts characters together with the letter before them. `apart` holds the marks between that did
not go together with it, the last one first; a mark of the same class, or of a higher one, stands in
the way of those after it. -/
def composeAfter (letter : Char) (apart : List Char) : List Char → List Char
  | [] => letter :: apart.reverse
  | c :: rest =>
    let isFree := apart.head?.all (combiningClass · < combiningClass c)
    match if isFree then whole? letter c else none with
    | some whole => composeAfter whole apart rest
    | none =>
      if combiningClass c = 0 then letter :: apart.reverse ++ composeAfter c [] rest
      else composeAfter letter (c :: apart) rest

/-- Puts characters together. Marks with no letter before them stay as they are. -/
def compose : List Char → List Char
  | [] => []
  | c :: rest => if combiningClass c = 0 then composeAfter c [] rest else c :: compose rest

def composed (cs : List Char) : List Char :=
  compose (ordered (cs.flatMap decompose))

end MapStandin.Unicode
