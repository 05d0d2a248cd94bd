/-! # UTF-8

Writing characters as bytes and reading bytes as characters. A byte string is read as a list of
pieces, each a character or a stretch of bytes that cannot be part of one; strict reading, lossy
reading and the place of the first fault are views of that list. -/

namespace MapStandin.Utf8

/-! ## Writing -/

def encodeList (cs : List Char) : List UInt8 :=
  cs.flatMap String.utf8EncodeChar

def encode (s : String) : List UInt8 :=
  encodeList s.toList

@[simp]
theorem encodeList_nil : encodeList [] = [] := rfl

@[simp]
theorem encodeList_cons (c : Char) (cs : List Char) :
    encodeList (c :: cs) = String.utf8EncodeChar c ++ encodeList cs := rfl

@[simp]
theorem encodeList_append (a b : List Char) :
    encodeList (a ++ b) = encodeList a ++ encodeList b := by
  simp [encodeList]

/-! ## Pieces -/

/-- A character, or the longest stretch of bytes that starts like one and is not. `cutShort` says
that the stretch fails only because the bytes end. -/
inductive Piece
  | char (c : Char)
  | illFormed (size : Nat) (cutShort : Bool)
  deriving DecidableEq, Repr

def Piece.size : Piece → Nat
  | .char c => c.utf8Size
  | .illFormed n _ => n

def isTail (b : UInt8) : Bool :=
  0x80 ≤ b && b ≤ 0xBF

/-- What a lead byte promises: the least and the greatest second byte, the number of bytes after
the second, and the bits of the lead. -/
structure Lead where
  low : UInt8
  high : UInt8
  more : Nat
  bits : Nat

/-- The promise of a lead byte, for the bytes that start a sequence of two to four. -/
def lead? (b : UInt8) : Option Lead :=
  -- Nothing below leads, or a single byte would do.
  if b < 0xC2 then none
  else if b ≤ 0xDF then some ⟨0x80, 0xBF, 0, b.toNat % 32⟩
  -- `E0` and `F0` lead what two or three bytes cannot say, `ED` no surrogate, and `F4` nothing beyond
  -- the last character.
  else if b = 0xE0 then some ⟨0xA0, 0xBF, 1, 0⟩
  else if b = 0xED then some ⟨0x80, 0x9F, 1, 13⟩
  else if b ≤ 0xEF then some ⟨0x80, 0xBF, 1, b.toNat % 16⟩
  else if b = 0xF0 then some ⟨0x90, 0xBF, 2, 0⟩
  else if b ≤ 0xF3 then some ⟨0x80, 0xBF, 2, b.toNat % 8⟩
  else if b = 0xF4 then some ⟨0x80, 0x8F, 2, 4⟩
  else none

/-- The bytes after the second: `more` of them are still due, `size` are taken and `value` is what
they spell. -/
def tailPiece : (more size value : Nat) → List UInt8 → Piece
  | 0, _, value, _ => .char (Char.ofNat value)
  | _ + 1, size, _, [] => .illFormed size true
  | more + 1, size, value, b :: rest =>
    if isTail b then tailPiece more (size + 1) (value * 64 + b.toNat % 64) rest
    else .illFormed size false

def frontPiece (b : UInt8) (rest : List UInt8) : Piece :=
  if b < 0x80 then .char (Char.ofNat b.toNat)
  else match lead? b with
    | none => .illFormed 1 false
    | some lead => match rest with
      | [] => .illFormed 1 true
      | b2 :: rest =>
        if lead.low ≤ b2 && b2 ≤ lead.high then
          tailPiece lead.more 2 (lead.bits * 64 + b2.toNat % 64) rest
        else .illFormed 1 false

/-- The pieces of the bytes that follow the first `skip`. -/
def piecesAfter : (skip : Nat) → List UInt8 → List Piece
  | _, [] => []
  | skip + 1, _ :: rest => piecesAfter skip rest
  | 0, b :: rest =>
    let piece := frontPiece b rest
    piece :: piecesAfter (piece.size - 1) rest

def pieces (bytes : List UInt8) : List Piece :=
  piecesAfter 0 bytes

/-! ## Reading -/

structure Fault where
  index : Nat
  size : Nat
  cutShort : Bool
  deriving DecidableEq, Repr

def Fault.message (f : Fault) : String :=
  if f.cutShort then s!"incomplete utf-8 byte sequence from index {f.index}"
  else s!"invalid utf-8 sequence of {f.size} bytes from index {f.index}"

/-- The characters of well-formed pieces, or the first fault; `index` bytes lie before them. -/
def ofPieces (index : Nat) : List Piece → Except Fault (List Char)
  | [] => .ok []
  | .illFormed size cutShort :: _ => .error ⟨index, size, cutShort⟩
  | .char c :: rest => (ofPieces (index + c.utf8Size) rest).map (c :: ·)

def decodeList (bytes : List UInt8) : Except Fault (List Char) :=
  ofPieces 0 (pieces bytes)

def decode (bytes : List UInt8) : Except Fault String :=
  (decodeList bytes).map String.ofList

def decode? (bytes : List UInt8) : Option String :=
  (decode bytes).toOption

def replacement : Char := '\uFFFD'

def Piece.shown : Piece → Char
  | .char c => c
  | .illFormed _ _ => replacement

/-- The text of any byte string, each ill-formed stretch shown as one replacement character. -/
def decodeLossy (bytes : List UInt8) : String :=
  String.ofList ((pieces bytes).map Piece.shown)

end MapStandin.Utf8
