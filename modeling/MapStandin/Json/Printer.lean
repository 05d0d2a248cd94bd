import MapStandin.Json.Value
import MapStandin.Text.Hex

/-! # Writing JSON

The compact text of a value: no blanks, members in their order, and in strings only the quote, the
backslash and the control characters escaped. -/

namespace MapStandin.Json

/-! ## Strings -/

def escaped (c : Char) : List Char :=
  if c = '"' then ['\\', '"']
  else if c = '\\' then ['\\', '\\']
  else if c = '\x08' then ['\\', 'b']
  else if c = '\x0c' then ['\\', 'f']
  else if c = '\n' then ['\\', 'n']
  else if c = '\r' then ['\\', 'r']
  else if c = '\t' then ['\\', 't']
  else if c.toNat < 0x20 then
    ['\\', 'u', '0', '0', Hex.digit (c.toNat / 16), Hex.digit (c.toNat % 16)]
  else [c]

def quoted (s : String) : List Char :=
  '"' :: (s.toList.flatMap escaped ++ ['"'])

/-! ## Numbers -/

/-- Doubles show a fraction, and an exponent outside the range of 10^-5 to 10^16. -/
def doubles : Decimal.Layout where
  tie := .even
  isPositional e := -5 ≤ e && e < 16
  showsFraction := true

/-- The text of a number; a double that is no finite number has none. -/
def Number.text : Number → String
  | .whole n => if n < 0 then "-" ++ toString n.natAbs else toString n.natAbs
  | .double (.finite s m e) => doubles.writeDouble (.finite s m e)
  | .double _ => "null"

theorem Number.text_ne_empty (n : Number) : n.text ≠ "" := by
  cases n with
  | whole n =>
    have hdigits : toString n.natAbs ≠ "" := by
      rw [Nat.toString_eq_ofList_toDigits, ne_eq, String.ofList_eq_empty_iff]
      exact Nat.toDigits_ne_nil
    show (if n < 0 then "-" ++ toString n.natAbs else toString n.natAbs) ≠ ""
    split
    · simp
    · exact hdigits
  | double d =>
    cases d with
    | finite s m e =>
      show String.ofList (_ ++ doubles.write _) ≠ ""
      rw [ne_eq, String.ofList_eq_empty_iff, List.append_eq_nil_iff]
      exact fun h => doubles.write_ne_nil _ h.2
    | nan | infinite s => simp [Number.text]

/-! ## Values -/

mutual

def chars : Json → List Char
  | .null => "null".toList
  | .bool true => "true".toList
  | .bool false => "false".toList
  | .number n => n.text.toList
  | .string s => quoted s
  | .array items => '[' :: (itemChars items ++ [']'])
  | .object members => '\x7b' :: (memberChars members ++ ['\x7d'])

def itemChars : List Json → List Char
  | [] => []
  | [v] => chars v
  | v :: rest => chars v ++ ',' :: itemChars rest

def memberChars : List (String × Json) → List Char
  | [] => []
  | [(n, v)] => quoted n ++ ':' :: chars v
  | (n, v) :: rest => quoted n ++ ':' :: (chars v ++ ',' :: memberChars rest)

end

def render (v : Json) : String :=
  String.ofList (chars v)

theorem chars_ne_nil (v : Json) : v.chars ≠ [] := by
  cases v with
  | null => decide
  | bool b => cases b <;> decide
  | number n =>
    intro h
    exact n.text_ne_empty (String.toList_eq_nil_iff.1 h)
  | string s | array items | object members => exact List.cons_ne_nil _ _

theorem render_ne_empty (v : Json) : v.render ≠ "" := by
  unfold render
  rw [ne_eq, String.ofList_eq_empty_iff]
  exact v.chars_ne_nil

end MapStandin.Json
