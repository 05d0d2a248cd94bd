import MapStandin.Power
import MapStandin.Text.Fields
import MapStandin.Text.Hex
import MapStandin.Text.Percent
import MapStandin.Text.Utf8
import MapStandin.Url.Domain
import MapStandin.Url.Fault

/-! # Hosts

The part of an address that names a machine: a domain name, or a number of 32 or 128 bits. -/

namespace MapStandin.Url

/-- A host. The groups of a long number have 16 bits each. -/
inductive Host
  | name (s : String)
  | v4 (address : Nat)
  | v6 (groups : List Nat)
  deriving DecidableEq, Repr

namespace Host

/-! ## Numbers of 32 bits -/

/-- The number that digits of a base spell, if all of them are digits of it. -/
def inBase? (base : Nat) (cs : List Char) : Option Nat :=
  cs.foldlM (fun n c => do
    let d ← Hex.value? c
    if d < base then some (n * base + d) else none) 0

/-- A part of a short number: hexadecimal after `0x`, octal after another zero, else decimal. -/
def v4Part? : List Char → Option Nat
  | [] => none
  | ['0'] => some 0
  | '0' :: c :: rest =>
    if c = 'x' || c = 'X' then inBase? 16 rest else inBase? 8 (c :: rest)
  | cs => inBase? 10 cs

/-- The parts of a domain name; a point at its end starts no part. -/
def parts (domain : List Char) : List (List Char) :=
  match (Text.fields '.' domain).reverse with
  | [] :: p :: before => (p :: before).reverse
  | all => all.reverse

/-- Whether a domain name is meant as a number: its last part is one. -/
def endsInNumber (domain : List Char) : Bool :=
  match (parts domain).getLast? with
  | some p => (p ≠ [] && p.all Char.isDigit) || (v4Part? p).isSome
  | none => false

/-- The number of parts, of which all but the last fill one byte; the last fills the bytes that are
left. -/
def v4OfParts (ps : List Nat) : Option Nat :=
  match ps.reverse with
  | [] => none
  | last :: before =>
    if 3 < before.length || before.any (255 < ·) || twoTo (32 - 8 * before.length) ≤ last then none
    else some (before.reverse.foldr (fun p n => p * twoTo 24 + n / 256) 0 + last)

def readV4 (domain : List Char) : Except Fault Host :=
  match ((parts domain).mapM v4Part?).bind v4OfParts with
  | some n => .ok (.v4 n)
  | none => .error .invalidV4

/-! ## Numbers of 128 bits -/

def splitGap : List Char → Option (List Char × List Char)
  | [] => none
  | [_] => none
  | c :: d :: rest =>
    if c = ':' && d = ':' then some ([], rest)
    else (splitGap (d :: rest)).map fun (a, b) => (c :: a, b)

def group? (cs : List Char) : Option Nat :=
  if cs = [] || 4 < cs.length then none else inBase? 16 cs

/-- A byte in decimal without a leading zero. -/
def decimalByte? (cs : List Char) : Option Nat := do
  if cs = [] || (1 < cs.length && cs.head? = some '0') then none
  let n ← inBase? 10 cs
  if n < 256 then some n else none

/-- The two groups that four decimal bytes with points between them spell. -/
def dottedGroups? (cs : List Char) : Option (List Nat) :=
  match (Text.fields '.' cs).mapM decimalByte? with
  | some [a, b, c, d] => some [a * 256 + b, c * 256 + d]
  | _ => none

/-- Groups with colons between them; the last two may be dotted if `dotted` allows it. -/
def groups? (dotted : Bool) (cs : List Char) : Option (List Nat) :=
  if cs = [] then some []
  else match (Text.fields ':' cs).reverse with
    | [] => none
    | last :: before => do
      let front ← before.reverse.mapM group?
      let back ← match group? last with
        | some n => some [n]
        | none => if dotted then dottedGroups? last else none
      return front ++ back

/-- The host between brackets. -/
def readV6 (cs : List Char) : Except Fault Host :=
  let found := match splitGap cs with
    | some (left, right) => do
      let a ← groups? false left
      let b ← groups? true right
      -- Two colons stand for one zero group at least.
      if 7 < a.length + b.length then none
      else some (a ++ List.replicate (8 - a.length - b.length) 0 ++ b)
    | none => (groups? true cs).bind fun all => if all.length = 8 then some all else none
  match found with
  | some all => .ok (.v6 all)
  | none => .error .invalidV6

/-! ## Names -/

/-- The host of a domain name as it is written, possibly in percent encoding. -/
def readDomain (cs : List Char) : Except Fault Host := do
  let some s := Utf8.decode? (Percent.decode (Utf8.encodeList cs)) | throw .invalidDomain
  let some domain := Domain.ascii? s.toList | throw .invalidDomain
  if domain = [] then throw .emptyHost
  if endsInNumber domain then readV4 domain else return .name (String.ofList domain)

/-- The host of a scheme that says nothing about domain names. -/
def readFree (cs : List Char) : Except Fault Host :=
  let forbidden (c : Char) : Bool :=
    ['\x00', '\t', '\n', '\r', ' ', '#', '/', ':', '<', '>', '?', '@', '[', '\\', ']', '^',
      '|'].contains c
  if cs.any forbidden then .error .forbiddenHostChar
  else .ok (.name (String.ofList (Percent.encode (fun c => 0x20 ≤ c.toNat && c.toNat < 0x7F) cs)))

/-- The host that a text names; `special` schemes know domain names. -/
def read (special : Bool) (cs : List Char) : Except Fault Host :=
  match cs with
  | '[' :: rest =>
    match rest.reverse with
    | ']' :: inner => readV6 inner.reverse
    | _ => .error .invalidV6
  | _ => if special then readDomain cs else readFree cs

/-! ## Writing -/

/-- The longest stretch of two or more zero groups: where it starts and its length. -/
def longestGap? (groups : List Nat) : Option (Nat × Nat) :=
  [8, 7, 6, 5, 4, 3, 2].findSome? fun n =>
    ((List.range (9 - n)).find? fun start => ((groups.drop start).take n) = List.replicate n 0).map
      fun start => (start, n)

def groupsText (groups : List Nat) : String :=
  ":".intercalate (groups.map fun n => String.ofList (Nat.toDigits 16 n))

def text : Host → String
  | .name s => s
  | .v4 n =>
    ".".intercalate ([n / twoTo 24, n / twoTo 16 % 256, n / twoTo 8 % 256, n % 256].map toString)
  | .v6 groups =>
    match longestGap? groups with
    | some (start, n) =>
      "[" ++ groupsText (groups.take start) ++ "::" ++ groupsText (groups.drop (start + n)) ++ "]"
    | none => "[" ++ groupsText groups ++ "]"

end Host

end MapStandin.Url
