import MapStandin.Text.Class

/-! # Base64

Bytes written with sixty-four symbols, four symbols for three bytes. Reading accepts only what
writing produces: the last group is padded to four, and bits that stand for nothing are zero. -/

namespace MapStandin.Base64

/-! ## Symbols -/

/-- The byte that fills up the last group: an equals sign. -/
def pad : UInt8 := 0x3D

def symbol (n : Nat) : UInt8 :=
  if n < 26 then UInt8.ofNat (0x41 + n)
  else if n < 52 then UInt8.ofNat (0x61 + (n - 26))
  else if n < 62 then UInt8.ofNat (0x30 + (n - 52))
  else if n = 62 then 0x2B
  else 0x2F

def number? (b : UInt8) : Option Nat :=
  let n := b.toNat
  if 0x41 ≤ n && n ≤ 0x5A then some (n - 0x41)
  else if 0x61 ≤ n && n ≤ 0x7A then some (n - 0x61 + 26)
  else if 0x30 ≤ n && n ≤ 0x39 then some (n - 0x30 + 52)
  else if n = 0x2B then some 62
  else if n = 0x2F then some 63
  else none

/-! ## Writing -/

def encode : List UInt8 → List UInt8
  | [] => []
  | [a] => [symbol (a.toNat / 4), symbol (a.toNat % 4 * 16), pad, pad]
  | [a, b] =>
    [symbol (a.toNat / 4), symbol (a.toNat % 4 * 16 + b.toNat / 16),
      symbol (b.toNat % 16 * 4), pad]
  | a :: b :: c :: rest =>
    symbol (a.toNat / 4) :: symbol (a.toNat % 4 * 16 + b.toNat / 16) ::
      symbol (b.toNat % 16 * 4 + c.toNat / 64) :: symbol (c.toNat % 64) :: encode rest

def encodeText (bytes : List UInt8) : String :=
  String.ofList ((encode bytes).map fun b => Char.ofNat b.toNat)

/-! ## Reading -/

inductive Fault
  | symbol (byte : UInt8) (offset : Nat)
  | lastSymbol (byte : UInt8) (offset : Nat)
  | length (n : Nat)
  | padding
  deriving DecidableEq, Repr

def Fault.message : Fault → String
  | .symbol byte offset => s!"Invalid symbol {byte}, offset {offset}."
  | .lastSymbol byte offset => s!"Invalid last symbol {byte}, offset {offset}."
  | .length n => s!"Invalid input length: {n}"
  | .padding => "Invalid padding"

/-- The numbers of symbols; `offset` is the place of the first. -/
def numbers (offset : Nat) : List UInt8 → Except Fault (List Nat)
  | [] => .ok []
  | b :: rest => do
    let some n := number? b | throw (.symbol b offset)
    return n :: (← numbers (offset + 1) rest)

/-- The bytes of a group of two to four numbers, and the bits that are left over. -/
def join : List Nat → List UInt8 × Nat
  | [a, b] => ([UInt8.ofNat (a * 4 + b / 16)], b % 16)
  | [a, b, c] => ([UInt8.ofNat (a * 4 + b / 16), UInt8.ofNat (b % 16 * 16 + c / 4)], c % 4)
  | [a, b, c, d] =>
    ([UInt8.ofNat (a * 4 + b / 16), UInt8.ofNat (b % 16 * 16 + c / 4),
      UInt8.ofNat (c % 4 * 64 + d)], 0)
  | _ => ([], 0)

/-- The bytes of the last group, which may be padded. -/
def lastGroup (offset : Nat) (group : List UInt8) : Except Fault (List UInt8) := do
  let symbols := group.takeWhile (· ≠ pad)
  let tail := group.dropWhile (· ≠ pad)
  let ns ← numbers offset symbols
  if tail ≠ [] ∧ (symbols.length < 2 ∨ tail.any (· ≠ pad)) then
    throw (.symbol pad (offset + symbols.length))
  if symbols.length < 2 then throw (.length (offset + symbols.length))
  if group.length ≠ 4 then throw .padding
  match join ns with
  | (bytes, 0) => return bytes
  | _ => throw (.lastSymbol ((symbols.getLast?).getD 0) (offset + symbols.length - 1))

/-- The bytes of groups of four; only the last may be padded. -/
def groups (offset : Nat) : List UInt8 → Except Fault (List UInt8)
  | a :: b :: c :: d :: e :: rest => do
    let ns ← numbers offset [a, b, c, d]
    return (join ns).1 ++ (← groups (offset + 4) (e :: rest))
  | group => lastGroup offset group

/-- A single byte after the last full group that is no symbol. -/
def strayLast? (input : List UInt8) : Option Fault :=
  match input.getLast? with
  | some b =>
    if input.length % 4 = 1 ∧ b ≠ pad ∧ (number? b).isNone then
      some (.symbol b (input.length - 1))
    else none
  | none => none

def decode (input : List UInt8) : Except Fault (List UInt8) :=
  if input = [] then .ok []
  else match strayLast? input with
    | some f => .error f
    | none => groups 0 input

end MapStandin.Base64
