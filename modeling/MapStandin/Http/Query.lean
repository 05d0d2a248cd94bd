import MapStandin.Text.Fields
import MapStandin.Text.Percent
import MapStandin.Text.Utf8

/-! # Queries

The names and texts in the query of a request, in their order. -/

namespace MapStandin.Http.Query

/-- The text of one side of a pair: a plus sign is a space, and what is no UTF-8 is replaced. -/
def readText (sent : List UInt8) : String :=
  Utf8.decodeLossy (Percent.decode (sent.map fun b => if b = 0x2B then 0x20 else b))

/-- The name and the text of one part; without an equals sign the text is empty. -/
def readPart (part : List UInt8) : String × String :=
  match Text.splitFirst 0x3D part with
  | some (name, value) => (readText name, readText value)
  | none => (readText part, "")

def pairs (query : String) : List (String × String) :=
  ((Text.fields 0x26 (Utf8.encode query)).filter (· ≠ [])).map readPart

end MapStandin.Http.Query
