import MapStandin.Text.Hex

/-! # Percent encoding

A byte written as a percent sign and two hexadecimal digits. -/

namespace MapStandin.Percent

def sign : UInt8 := 0x25

def pair? (high low : UInt8) : Option UInt8 := do
  let h ← Hex.byteValue? high
  let l ← Hex.byteValue? low
  return UInt8.ofNat (h * 16 + l)

/-- The bytes that a text stands for; a sign that no two digits follow stands for itself. -/
def decode : List UInt8 → List UInt8
  | [] => []
  | [b] => [b]
  | [b, c] => [b, c]
  | b :: h :: l :: rest =>
    if b = sign then
      match pair? h l with
      | some v => v :: decode rest
      | none => b :: decode (h :: l :: rest)
    else b :: decode (h :: l :: rest)

def encodeByte (b : UInt8) : List Char :=
  ['%', Hex.capital (b.toNat / 16), Hex.capital (b.toNat % 16)]

def encodeChar (isPlain : Char → Bool) (c : Char) : List Char :=
  if isPlain c then [c] else (String.utf8EncodeChar c).flatMap encodeByte

/-- A text in which every character that is not plain is encoded. -/
def encode (isPlain : Char → Bool) (cs : List Char) : List Char :=
  cs.flatMap (encodeChar isPlain)

end MapStandin.Percent
