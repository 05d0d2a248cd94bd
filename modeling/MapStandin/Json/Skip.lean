import MapStandin.Json.Reader

/-! # Skipping JSON

Passing over a value that nobody asked for. Any depth is allowed, and neither the size of a number
nor the characters that escapes stand for are looked at. -/

namespace MapStandin.Json

/-! ## Strings and numbers -/

def skipEscape : Reader Unit
  | [] => failBefore .eofString []
  | b :: rest =>
    if b = byte 'u' then (codeUnit rest).map fun (_, rest) => ((), rest)
    else if ['"', '\\', '/', 'b', 'f', 'n', 'r', 't'].any (byte · == b) then .ok ((), rest)
    else failBefore .invalidEscape rest

/-- Passes over a string, after its opening quote; `fuel` exceeds the number of bytes. -/
def skipString : (fuel : Nat) → Reader Unit
  | 0, input => failBefore .eofString input
  | fuel + 1, input =>
    match input with
    | [] => failBefore .eofString []
    | b :: rest =>
      if b = byte '"' then .ok ((), rest)
      else if b = byte '\\' then do
        let ((), rest) ← skipEscape rest
        skipString fuel rest
      else if b < 0x20 then failBefore .controlCharacter (b :: rest)
      else skipString fuel rest

def skipExponent : Reader Unit := fun input =>
  let input := match input with
    | [] => []
    | b :: rest => if b = byte '+' || b = byte '-' then rest else b :: rest
  match input with
  | [] => failBefore .invalidNumber []
  | b :: rest =>
    if isDigit b then .ok ((), rest.dropWhile isDigit) else failBefore .invalidNumber rest

def skipAfterDigits : Reader Unit
  | [] => .ok ((), [])
  | b :: rest =>
    if b = byte 'e' || b = byte 'E' then skipExponent rest else .ok ((), b :: rest)

def skipNumeral : Reader Unit
  | [] => failBefore .invalidNumber []
  | b :: rest =>
    if !isDigit b then failBefore .invalidNumber rest
    else if b = byte '0' && digitNext rest then failAt .invalidNumber rest
    else match rest.dropWhile isDigit with
      | [] => .ok ((), [])
      | c :: rest =>
        if c ≠ byte '.' then skipAfterDigits (c :: rest)
        else if digitNext rest then skipAfterDigits (rest.dropWhile isDigit)
        else failAt .invalidNumber rest

/-! ## Values -/

/-- Passes over items up to the bracket; `fuel` exceeds the number of bytes. -/
def skipItems (item : Reader Unit) : (fuel : Nat) → (first : Bool) → Reader Unit
  | 0, _, input => failBefore .eofList input
  | fuel + 1, first, input =>
    match skipLayout input with
    | [] => failAt .eofList []
    | b :: rest =>
      if b = byte ']' then .ok ((), rest)
      else if first then do
        let ((), rest) ← item (b :: rest)
        skipItems item fuel false rest
      else if b = byte ',' then do
        let ((), rest) ← item rest
        skipItems item fuel false rest
      else failAt .expectedListEnd (b :: rest)

def skipName : Reader Unit := fun input =>
  match skipLayout input with
  | [] => failAt .eofObject []
  | b :: rest =>
    if b = byte '"' then do
      let ((), rest) ← skipString (rest.length + 1) rest
      colon rest
    else failAt .keyNotString (b :: rest)

def skipMembers (item : Reader Unit) : (fuel : Nat) → (first : Bool) → Reader Unit
  | 0, _, input => failBefore .eofObject input
  | fuel + 1, first, input =>
    match skipLayout input with
    | [] => failAt .eofObject []
    | b :: rest =>
      if b = byte '\x7d' then .ok ((), rest)
      else if first || b = byte ',' then do
        let ((), rest) ← skipName (if first then b :: rest else rest)
        let ((), rest) ← item rest
        skipMembers item fuel false rest
      else failAt .expectedObjectEnd (b :: rest)

/-- Passes over a value; `depth` exceeds the number of arrays and objects inside one another. -/
def skipTo : (depth : Nat) → Reader Unit
  | depth, input =>
    match skipLayout input with
    | [] => failAt .eofValue []
    | b :: rest =>
      if b = byte '[' || b = byte '\x7b' then
        match depth with
        | 0 => failAt .tooDeep (b :: rest)
        | depth + 1 =>
          if b = byte '[' then skipItems (skipTo depth) (rest.length + 1) true rest
          else skipMembers (skipTo depth) (rest.length + 1) true rest
      else if b = byte '"' then skipString (rest.length + 1) rest
      else if b = byte '-' then skipNumeral rest
      else if isDigit b then skipNumeral (b :: rest)
      else (scalar b rest).map fun (_, rest) => ((), rest)

def skipValue : Reader Unit := fun input => skipTo input.length input

end MapStandin.Json
