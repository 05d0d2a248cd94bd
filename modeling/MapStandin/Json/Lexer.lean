import MapStandin.Json.Fault
import MapStandin.Json.Value
import MapStandin.Text.Hex
import MapStandin.Text.Utf8

/-! # The tokens of JSON text

Blanks, names, strings and numbers, read from bytes. -/

namespace MapStandin.Json

abbrev byte (c : Char) : UInt8 := UInt8.ofNat c.toNat

def isLayout (b : UInt8) : Bool :=
  b == 0x20 || b == 0x0A || b == 0x09 || b == 0x0D

def skipLayout (input : List UInt8) : List UInt8 :=
  input.dropWhile isLayout

/-- Consumes the rest of a name, such as `ull` after the `n` of `null`. -/
def name : List Char → Reader Unit
  | [], input => .ok ((), input)
  | _ :: _, [] => failBefore .eofValue []
  | c :: cs, b :: rest => if b = byte c then name cs rest else failBefore .expectedName rest

/-! ## Strings -/

def fourHex? (a b c d : UInt8) : Option Nat := do
  let high := (← Hex.byteValue? a) * 16 + (← Hex.byteValue? b)
  let low := (← Hex.byteValue? c) * 16 + (← Hex.byteValue? d)
  return high * 256 + low

def codeUnit : Reader Nat
  | a :: b :: c :: d :: rest =>
    match fourHex? a b c d with
    | some n => .ok (n, rest)
    | none => failBefore .invalidEscape rest
  | _ => failBefore .eofString []

/-- The second half of a pair of escapes whose first half is `high`. -/
def lowHalf (high : Nat) : Reader (List UInt8)
  | [] => failBefore .eofString []
  | b :: rest =>
    if b ≠ byte '\\' then failBefore .brokenPair rest
    else match rest with
      | [] => failBefore .eofString []
      | u :: rest =>
        if u ≠ byte 'u' then failBefore .brokenPair rest
        else do
          let (low, rest) ← codeUnit rest
          if low < 0xDC00 || 0xDFFF < low then failBefore .loneSurrogate rest
          else
            let n := (high - 0xD800) * 0x400 + (low - 0xDC00) + 0x10000
            return (String.utf8EncodeChar (Char.ofNat n), rest)

/-- The bytes that an escape stands for, after its backslash. -/
def escape : Reader (List UInt8)
  | [] => failBefore .eofString []
  | b :: rest =>
    if b = byte '"' || b = byte '\\' || b = byte '/' then .ok ([b], rest)
    else if b = byte 'b' then .ok ([0x08], rest)
    else if b = byte 'f' then .ok ([0x0C], rest)
    else if b = byte 'n' then .ok ([0x0A], rest)
    else if b = byte 'r' then .ok ([0x0D], rest)
    else if b = byte 't' then .ok ([0x09], rest)
    else if b = byte 'u' then do
      let (n, rest) ← codeUnit rest
      if 0xDC00 ≤ n && n ≤ 0xDFFF then failBefore .loneSurrogate rest
      else if n < 0xD800 || 0xDBFF < n then return (String.utf8EncodeChar (Char.ofNat n), rest)
      else lowHalf n rest
    else failBefore .invalidEscape rest

/-- The bytes of a string up to its closing quote; `fuel` exceeds the number of bytes. -/
def stringBytes : (fuel : Nat) → Reader (List UInt8)
  | 0, input => failBefore .eofString input
  | fuel + 1, input =>
    match input with
    | [] => failBefore .eofString []
    | b :: rest =>
      if b = byte '"' then .ok ([], rest)
      else if b = byte '\\' then do
        let (front, rest) ← escape rest
        let (bytes, rest) ← stringBytes fuel rest
        return (front ++ bytes, rest)
      else if b < 0x20 then failBefore .controlCharacter rest
      else do
        let (bytes, rest) ← stringBytes fuel rest
        return (b :: bytes, rest)

/-- The text of a string, after its opening quote. -/
def stringText : Reader String := fun input => do
  let (bytes, rest) ← stringBytes (input.length + 1) input
  match Utf8.decode bytes with
  | .ok s => return (s, rest)
  -- The fault is placed at the end of the string, moved back by all that the string spells from the
  -- first ill-formed byte on.
  | .error fault => .error ⟨.invalidCodePoint, rest.length + (bytes.length - fault.index)⟩

/-! ## Numbers -/

def isDigit (b : UInt8) : Bool :=
  byte '0' ≤ b && b ≤ byte '9'

def digitNext : List UInt8 → Bool
  | [] => false
  | b :: _ => isDigit b

/-- The greatest whole number that is kept exactly while digits are read. -/
def greatestSignificand : Nat := twoTo 64 - 1

/-- Appends digits to a significand while it stays in range: the significand, the number of digits
taken, and the rest. -/
def appendDigits (significand taken : Nat) : List UInt8 → Nat × Nat × List UInt8
  | [] => (significand, taken, [])
  | b :: rest =>
    let next := significand * 10 + (b.toNat - 0x30)
    if isDigit b && next ≤ greatestSignificand then appendDigits next (taken + 1) rest
    else (significand, taken, b :: rest)

/-- The double of `± significand · 10 ^ power`: the significand is rounded to a double, then scaled
by a power of ten that is a double, so that the result may miss the nearest one by a unit. -/
def scaleSignificand? (negative : Bool) (significand : Nat) (power : Int) :
    Option Decimal.Double :=
  let m := Decimal.Double.ofQuotient negative significand 1
  let ten (k : Nat) := Decimal.Double.ofQuotient false (tenTo k) 1
  if significand = 0 then some m
  else match power with
    | .ofNat k =>
      if 308 < k then none
      else match m.scaleUp (ten k) with
        | .infinite _ => none
        | d => some d
    | .negSucc k =>
      if k + 1 ≤ 308 then some (m.scaleDown (ten (k + 1)))
      -- Two divisions are enough: below them every significand of 64 bits gives zero.
      else if k + 1 ≤ 616 then some ((m.scaleDown (ten 308)).scaleDown (ten (k + 1 - 308)))
      else some (.zero negative)

def finishDouble (negative : Bool) (significand : Nat) (power : Int) : Reader Number :=
  fun rest =>
    match scaleSignificand? negative significand power with
    | some d => .ok (.double d, rest)
    | none => failBefore .numberTooLarge rest

def greatestExponent : Nat := twoTo 31 - 1

/-- Appends digits to an exponent; `none` once it is too great, with the rest after the digit that
made it so. -/
def exponentDigits (n : Nat) : List UInt8 → Option Nat × List UInt8
  | [] => (some n, [])
  | b :: rest =>
    if isDigit b then
      let next := n * 10 + (b.toNat - 0x30)
      if next ≤ greatestExponent then exponentDigits next rest else (none, rest)
    else (some n, b :: rest)

def exponentPart (negative : Bool) (significand : Nat) (power : Int) : Reader Number :=
  fun input =>
    let (down, input) := match input with
      | [] => (false, [])
      | b :: rest =>
        if b = byte '+' then (false, rest) else if b = byte '-' then (true, rest)
        else (false, b :: rest)
    match input with
    | [] => failBefore .eofValue []
    | b :: rest =>
      if isDigit b then
        match exponentDigits (b.toNat - 0x30) rest with
        | (some e, rest) =>
          finishDouble negative significand (if down then power - e else power + e) rest
        | (none, rest) =>
          -- Zero stays zero, and whatever goes down so far becomes zero.
          if significand ≠ 0 && !down then failBefore .numberTooLarge rest
          else .ok (.double (.zero negative), rest.dropWhile isDigit)
      else failBefore .invalidNumber rest

def afterDigits (negative : Bool) (significand : Nat) (power : Int) : Reader Number
  | [] => finishDouble negative significand power []
  | b :: rest =>
    if b = byte 'e' || b = byte 'E' then exponentPart negative significand power rest
    else finishDouble negative significand power (b :: rest)

def fractionPart (negative : Bool) (significand : Nat) (power : Int) : Reader Number :=
  fun input =>
    let (significand, taken, rest) := appendDigits significand 0 input
    if digitNext rest then
      -- The places that do not fit are dropped.
      afterDigits negative significand (power - taken) (rest.dropWhile isDigit)
    else if taken = 0 then
      failAt (if rest.isEmpty then .eofValue else .invalidNumber) rest
    else afterDigits negative significand (power - taken) rest

/-- The whole number of a numeral without fraction and exponent. A negative zero and a number below
the range of 64 bits are doubles. -/
def wholeNumber (negative : Bool) (significand : Nat) : Number :=
  if negative then
    if significand = 0 || twoTo 63 < significand then
      .double (.ofQuotient true significand 1)
    else .whole (-(significand : Int))
  else .whole significand

/-- What may follow the whole part of a numeral; `dropped` digits of it were not kept. -/
def afterWhole (negative : Bool) (significand dropped : Nat) : Reader Number :=
  fun input =>
    match input with
    | b :: rest =>
      if b = byte '.' then fractionPart negative significand dropped rest
      else if b = byte 'e' || b = byte 'E' then exponentPart negative significand dropped rest
      else if dropped = 0 then .ok (wholeNumber negative significand, input)
      else finishDouble negative significand dropped input
    | [] =>
      if dropped = 0 then .ok (wholeNumber negative significand, [])
      else finishDouble negative significand dropped []

def numeral (negative : Bool) : Reader Number
  | [] => failBefore .eofValue []
  | b :: rest =>
    if b = byte '0' then
      if digitNext rest then failAt .invalidNumber rest else afterWhole negative 0 0 rest
    else if isDigit b then
      let (significand, _, rest) := appendDigits (b.toNat - 0x30) 1 rest
      -- The digits that do not fit count as zeros.
      let dropped := rest.takeWhile isDigit
      afterWhole negative significand dropped.length (rest.dropWhile isDigit)
    else failBefore .invalidNumber rest

end MapStandin.Json
