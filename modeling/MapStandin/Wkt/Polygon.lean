import MapStandin.Wkt.Token

/-! # Polygons in well-known text

A polygon is an outer ring and the rings of its holes. The text may give a height and a measure with
each point; both are checked and dropped. -/

namespace MapStandin.Wkt

structure Point where
  x : Decimal.Double
  y : Decimal.Double
  deriving DecidableEq, Repr

def Point.equals (p q : Point) : Bool :=
  p.x.equals q.x && p.y.equals q.y

abbrev Ring := List Point

/-- The ring with its first point repeated at the end, unless it ends there already. -/
def Ring.closed : Ring → Ring
  | [] => []
  | p :: rest =>
    if p.equals ((p :: rest).getLast (by simp)) then p :: rest else p :: rest ++ [p]

structure Polygon where
  exterior : Ring
  interiors : List Ring
  deriving DecidableEq, Repr

/-- The polygon of closed rings, the outer one first. -/
def Polygon.ofRings : List Ring → Polygon
  | [] => ⟨[], []⟩
  | outer :: holes => ⟨outer.closed, holes.map Ring.closed⟩

/-! ## Reading -/

/-- Whether a word is the given small word in any case of its letters. -/
def isWord (name : String) (cs : List Char) : Bool :=
  cs.map Char.toLower == name.toList

/-- A point of `size` numbers, and the rest. -/
def point? (size : Nat) (ts : List Token) : Option (Point × List Token) :=
  match ts with
  | .number x :: .number y :: rest =>
    match size, rest with
    | 2, rest => some (⟨x, y⟩, rest)
    | 3, .number _ :: rest => some (⟨x, y⟩, rest)
    | 4, .number _ :: .number _ :: rest => some (⟨x, y⟩, rest)
    | _, _ => none
  | _ => none

/-- Items with commas between them, and the rest; `fuel` exceeds the number of tokens. -/
def separated? (item : List Token → Option (α × List Token)) :
    (fuel : Nat) → List Token → Option (List α × List Token)
  | 0, _ => none
  | fuel + 1, ts =>
    match item ts with
    | none => none
    | some (x, .comma :: rest) =>
      (separated? item fuel rest).map fun (xs, rest) => (x :: xs, rest)
    | some (x, rest) => some ([x], rest)

/-- The word for nothing, or items in brackets. -/
def body? (item : List Token → Option (α × List Token)) (ts : List Token) :
    Option (List α × List Token) :=
  match ts with
  | .word w :: rest => if isWord "empty" w then some ([], rest) else none
  | .openBracket :: rest =>
    match separated? item (rest.length + 1) rest with
    | some (xs, .closeBracket :: rest) => some (xs, rest)
    | _ => none
  | _ => none

/-- The polygon of points of `size` numbers that the tokens start with. -/
def rings? (size : Nat) (ts : List Token) : Option Polygon :=
  (body? (body? (point? size)) ts).map fun (rings, _) => .ofRings rings

/-- The number of coordinates that a suffix asks for. -/
def suffixSize? (w : List Char) : Option Nat :=
  if isWord "z" w || isWord "m" w then some 3
  else if isWord "zm" w then some 4
  else none

/-- The polygon that a text spells. What follows its last bracket is not looked at. -/
def polygon? (s : String) : Option Polygon :=
  match tokens s with
  | .word w :: rest =>
    if isWord "polygon" w then
      match rest with
      | .word v :: more =>
        match suffixSize? v with
        | some size => rings? size more
        | none => rings? 2 rest
      | _ => rings? 2 rest
    else if isWord "polygonz" w || isWord "polygonm" w then rings? 3 rest
    else if isWord "polygonzm" w then rings? 4 rest
    else none
  | _ => none

end MapStandin.Wkt
