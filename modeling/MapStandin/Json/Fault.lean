/-! # Faults of JSON text

Why a text is refused and where. The place is kept as the number of bytes not yet consumed, which
is all that a reader knows; line and column are counted when the fault is shown. -/

namespace MapStandin.Json

/-- Why a text is refused. The last four are sound JSON that does not hold what is expected. -/
inductive Cause
  | eofValue
  | eofObject
  | eofList
  | eofString
  | expectedValue
  | expectedName
  | expectedColon
  | expectedObjectEnd
  | expectedListEnd
  | keyNotString
  | trailingComma
  | trailingCharacters
  | invalidNumber
  | numberTooLarge
  | invalidEscape
  | brokenPair
  | loneSurrogate
  | controlCharacter
  | invalidCodePoint
  | tooDeep
  | missingField (name : String)
  | repeatedField (name : String)
  | wrongType (found expected : String)
  | wrongLength (found : Nat) (expected : String)
  deriving DecidableEq, Repr

def Cause.message : Cause → String
  | .eofValue => "EOF while parsing a value"
  | .eofObject => "EOF while parsing an object"
  | .eofList => "EOF while parsing a list"
  | .eofString => "EOF while parsing a string"
  | .expectedValue => "expected value"
  | .expectedName => "expected ident"
  | .expectedColon => "expected `:`"
  | .expectedObjectEnd => "expected `,` or `\x7d`"
  | .expectedListEnd => "expected `,` or `]`"
  | .keyNotString => "key must be a string"
  | .trailingComma => "trailing comma"
  | .trailingCharacters => "trailing characters"
  | .invalidNumber => "invalid number"
  | .numberTooLarge => "number out of range"
  | .invalidEscape => "invalid escape"
  | .brokenPair => "unexpected end of hex escape"
  | .loneSurrogate => "lone leading surrogate in hex escape"
  | .controlCharacter => "control character (\\u0000-\\u001F) found while parsing a string"
  | .invalidCodePoint => "invalid unicode code point"
  | .tooDeep => "recursion limit exceeded"
  | .missingField name => s!"missing field `{name}`"
  | .repeatedField name => s!"duplicate field `{name}`"
  | .wrongType found expected => s!"invalid type: {found}, expected {expected}"
  | .wrongLength found expected => s!"invalid length {found}, expected {expected}"

/-- A cause and the number of bytes after the place of the fault. -/
structure Fault where
  cause : Cause
  left : Nat
  deriving DecidableEq, Repr

/-- A reader of the front of a byte string, which hands back the rest. -/
abbrev Reader (α : Type) := List UInt8 → Except Fault (α × List UInt8)

/-- A fault just before `rest`. -/
def failBefore (cause : Cause) (rest : List UInt8) : Except Fault α :=
  .error ⟨cause, rest.length⟩

/-- A fault at the first byte of `rest`, or at the end if there is none. -/
def failAt (cause : Cause) (rest : List UInt8) : Except Fault α :=
  .error ⟨cause, rest.length - 1⟩

/-! ## The place of a fault -/

def lineOf (consumed : List UInt8) : Nat :=
  1 + consumed.count 10

/-- The number of bytes after the last line break of a byte string. -/
def columnOf (consumed : List UInt8) : Nat :=
  (consumed.reverse.takeWhile (· != 10)).length

def Fault.message (f : Fault) (input : List UInt8) : String :=
  let consumed := input.take (input.length - f.left)
  s!"{f.cause.message} at line {lineOf consumed} column {columnOf consumed}"

end MapStandin.Json
