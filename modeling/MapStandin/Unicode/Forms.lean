import MapStandin.Text.Fields

/-! # Forms of characters

Tables that give characters another form, one text for each of some characters in a row. -/

namespace MapStandin.Unicode

/-- Code points, and the forms of the characters from there on. -/
abbrev Forms := List (Nat × List (List Char))

namespace Forms

/-- The table whose forms are written in one text for each row, with blanks between them. -/
def ofRows (rows : List (Nat × String)) : Forms :=
  rows.map fun (first, forms) => (first, Text.fields ' ' forms.toList)

def find? (forms : Forms) (c : Char) : Option (List Char) :=
  forms.findSome? fun (first, row) => if first ≤ c.toNat then row[c.toNat - first]? else none

end Forms

end MapStandin.Unicode
