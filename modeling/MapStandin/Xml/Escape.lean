/-! # Escaping for XML

The five characters that have a predefined entity are written as that entity, in text and in
attribute values alike. -/

namespace MapStandin.Xml

def entities : List (Char × String) :=
  [('&', "amp"), ('<', "lt"), ('>', "gt"), ('"', "quot"), ('\'', "apos")]

def entity (name : String) : List Char :=
  '&' :: (name.toList ++ [';'])

def escapeChar (c : Char) : List Char :=
  match entities.lookup c with
  | some name => entity name
  | none => [c]

def escape (s : String) : String :=
  String.ofList (s.toList.flatMap escapeChar)

end MapStandin.Xml
