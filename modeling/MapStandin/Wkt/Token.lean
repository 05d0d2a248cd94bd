import MapStandin.Decimal.Reading

/-! # The tokens of well-known text

Brackets, commas, numbers and words. Four blanks separate tokens, and a null character ends the
text. -/

namespace MapStandin.Wkt

/-- A token; `malformed` starts like a number and is none. -/
inductive Token
  | openBracket
  | closeBracket
  | comma
  | number (d : Decimal.Double)
  | word (cs : List Char)
  | malformed
  deriving DecidableEq, Repr

/-- Whether a token with this first character is meant as a number. -/
def startsNumber (c : Char) : Bool :=
  c.isDigit || c == '.' || c == '-' || c == '+'

/-- The number in a token; one leading plus sign is dropped before it is read. -/
def numberToken (cs : List Char) : Token :=
  let unsigned := match cs with
    | '+' :: rest => rest
    | cs => cs
  match Decimal.double? unsigned with
  | some d => .number d
  | none => .malformed

/-- The token of a run of characters without blanks, brackets and commas, if there are any. -/
def runToken : List Char → List Token
  | [] => []
  | c :: cs => if startsNumber c then [numberToken (c :: cs)] else [.word (c :: cs)]

def isGap (c : Char) : Bool :=
  c == ' ' || c == '\t' || c == '\r' || c == '\n'

def mark? (c : Char) : Option Token :=
  if c = '(' then some .openBracket
  else if c = ')' then some .closeBracket
  else if c = ',' then some .comma
  else none

/-- The tokens of a text, given the run read so far in reverse. -/
def tokensAfter (run : List Char) : List Char → List Token
  | [] => runToken run.reverse
  | c :: cs =>
    if c = '\x00' then runToken run.reverse
    else if isGap c then runToken run.reverse ++ tokensAfter [] cs
    else match mark? c with
      | some t => runToken run.reverse ++ t :: tokensAfter [] cs
      | none => tokensAfter (c :: run) cs

def tokens (s : String) : List Token :=
  tokensAfter [] s.toList

end MapStandin.Wkt
