import MapStandin.Xml.Escape

/-! # XML documents

Elements that hold a text, other elements or nothing, and how they are laid out. A document is
written as pieces: markup as it stands and data in its escaped form. -/

namespace MapStandin.Xml

structure Attribute where
  name : String
  value : String
  deriving DecidableEq, Repr

/-- An element. The attributes of a parent may take several lines. -/
inductive Element
  | empty (name : String) (attributes : List Attribute)
  | text (name : String) (attributes : List Attribute) (content : String)
  | parent (name : String) (lines : List (List Attribute)) (children : List Element)
  deriving Repr

/-! ## Pieces -/

inductive Piece
  | markup (s : String)
  | data (s : String)
  deriving DecidableEq, Repr

def Piece.written : Piece → String
  | .markup s => s
  | .data s => escape s

def margin (depth : Nat) : String :=
  String.ofList (List.replicate (2 * depth) ' ')

def Attribute.pieces (a : Attribute) : List Piece :=
  [.markup (" " ++ a.name ++ "=\""), .data a.value, .markup "\""]

def linePieces (attributes : List Attribute) : List Piece :=
  attributes.flatMap Attribute.pieces

/-- The pieces of attributes on several lines; those of later lines stand below those of the
first. -/
def linesPieces (depth : Nat) (name : String) : List (List Attribute) → List Piece
  | [] => []
  | line :: rest =>
    linePieces line ++ rest.flatMap fun line =>
      .markup ("\n" ++ margin depth ++ String.ofList (List.replicate (name.length + 1) ' ')) ::
        linePieces line

def endTag (name : String) : List Piece :=
  [.markup "</", .data name, .markup ">"]

mutual

/-- The pieces of an element inside `depth` others; every child starts a line. -/
def Element.pieces (depth : Nat) : Element → List Piece
  | .empty name attributes =>
    .markup (margin depth ++ "<") :: .data name :: (linePieces attributes ++ [.markup "/>"])
  | .text name attributes content =>
    .markup (margin depth ++ "<") :: .data name ::
      (linePieces attributes ++ [.markup ">", .data content] ++ endTag name)
  | .parent name lines children =>
    .markup (margin depth ++ "<") :: .data name ::
      (linesPieces depth name lines ++ [.markup ">\n"] ++ childPieces (depth + 1) children ++
        [.markup ("\n" ++ margin depth)] ++ endTag name)

def childPieces (depth : Nat) : List Element → List Piece
  | [] => []
  | [e] => e.pieces depth
  | e :: rest => e.pieces depth ++ .markup "\n" :: childPieces depth rest

end

/-! ## Documents -/

def declaration : String := "<?xml version=\"1.0\" encoding=\"UTF-8\"?>\n"

def documentPieces (root : Element) : List Piece :=
  .markup declaration :: root.pieces 0

def document (root : Element) : String :=
  String.join ((documentPieces root).map Piece.written)

end MapStandin.Xml
