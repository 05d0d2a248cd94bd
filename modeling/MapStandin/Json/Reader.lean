import MapStandin.Json.Lexer

/-! # Reading JSON

One value from a byte string, at most 127 arrays and objects deep. A repeated name keeps its last
value. -/

namespace MapStandin.Json

/-! ## Lists and objects of any content -/

/-- The items of a list up to its bracket; `fuel` exceeds the number of bytes. `first` holds before
the first item. -/
def listItems (item : Reader α) : (fuel : Nat) → (first : Bool) → Reader (List α)
  | 0, _, input => failBefore .eofList input
  | fuel + 1, first, input =>
    match skipLayout input with
    | [] => failAt .eofList []
    | b :: rest =>
      if b = byte ']' then .ok ([], rest)
      else if first then do
        let (x, rest) ← item (b :: rest)
        let (xs, rest) ← listItems item fuel false rest
        return (x :: xs, rest)
      else if b = byte ',' then
        match skipLayout rest with
        | [] => failAt .eofValue []
        | c :: rest =>
          if c = byte ']' then failAt .trailingComma (c :: rest)
          else do
            let (x, rest) ← item (c :: rest)
            let (xs, rest) ← listItems item fuel false rest
            return (x :: xs, rest)
      else failAt .expectedListEnd (b :: rest)

def colon : Reader Unit := fun input =>
  match skipLayout input with
  | [] => failAt .eofObject []
  | b :: rest => if b = byte ':' then .ok ((), rest) else failAt .expectedColon (b :: rest)

/-- The place of the next name of an object: after its opening quote, or after the bracket that
closes the object. -/
def nextName (first : Bool) (input : List UInt8) : Except Fault (Bool × List UInt8) :=
  match skipLayout input with
  | [] => failAt .eofObject []
  | b :: rest =>
    if b = byte '\x7d' then .ok (false, rest)
    else if first then
      if b = byte '"' then .ok (true, rest) else failAt .keyNotString (b :: rest)
    else if b = byte ',' then
      match skipLayout rest with
      | [] => failAt .eofValue []
      | c :: rest =>
        if c = byte '"' then .ok (true, rest)
        else if c = byte '\x7d' then failAt .trailingComma (c :: rest)
        else failAt .keyNotString (c :: rest)
    else failAt .expectedObjectEnd (b :: rest)

/-- The members of an object up to its bracket, in the order of the text. -/
def objectMembers (item : Reader α) : (fuel : Nat) → (first : Bool) → Reader (List (String × α))
  | 0, _, input => failBefore .eofObject input
  | fuel + 1, first, input => do
    match ← nextName first input with
    | (false, rest) => return ([], rest)
    | (true, rest) =>
      let (name, rest) ← stringText rest
      let ((), rest) ← colon rest
      let (x, rest) ← item rest
      let (xs, rest) ← objectMembers item fuel false rest
      return ((name, x) :: xs, rest)

/-! ## Values -/

/-- A value that is no array and no object, given its first byte. -/
def scalar (b : UInt8) (rest : List UInt8) : Except Fault (Json × List UInt8) := do
  if b = byte 'n' then
    let ((), rest) ← name ['u', 'l', 'l'] rest
    return (.null, rest)
  else if b = byte 't' then
    let ((), rest) ← name ['r', 'u', 'e'] rest
    return (.bool true, rest)
  else if b = byte 'f' then
    let ((), rest) ← name ['a', 'l', 's', 'e'] rest
    return (.bool false, rest)
  else if b = byte '"' then
    let (s, rest) ← stringText rest
    return (.string s, rest)
  else if b = byte '-' then
    let (n, rest) ← numeral true rest
    return (.number n, rest)
  else if isDigit b then
    let (n, rest) ← numeral false (b :: rest)
    return (.number n, rest)
  else failAt .expectedValue (b :: rest)

/-- A value with at most `depth` arrays and objects inside one another. -/
def value : (depth : Nat) → Reader Json
  | depth, input =>
    match skipLayout input with
    | [] => failAt .eofValue []
    | b :: rest =>
      if b = byte '[' then
        match depth with
        | 0 => failAt .tooDeep (b :: rest)
        | depth + 1 => do
          let (items, rest) ← listItems (value depth) (rest.length + 1) true rest
          return (.array items, rest)
      else if b = byte '\x7b' then
        match depth with
        | 0 => failAt .tooDeep (b :: rest)
        | depth + 1 => do
          let (members, rest) ← objectMembers (value depth) (rest.length + 1) true rest
          return (ofMembers members, rest)
      else scalar b rest

def depthLimit : Nat := 127

def atEnd (x : α) (rest : List UInt8) : Except Fault α :=
  match skipLayout rest with
  | [] => .ok x
  | b :: rest => failAt .trailingCharacters (b :: rest)

def readBytes (input : List UInt8) : Except Fault Json := do
  let (v, rest) ← value depthLimit input
  atEnd v rest

/-- The one value of a byte string, or the wording of the fault. -/
def parse (input : List UInt8) : Except String Json :=
  (readBytes input).mapError fun f => f.message input

end MapStandin.Json
