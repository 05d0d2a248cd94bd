import MapStandin.Json.Printer
import MapStandin.Json.Reader
import MapStandin.Proofs.Text.Line

/-! # JSON in a single line

The written form of a value is a single line, whatever is in its strings. So is the wording of the
fault of any text that is no JSON. -/

namespace MapStandin.Json

open Text (OneLine)

/-! ## Written values -/

/-- A text without control characters. -/
def Visible (s : List Char) : Prop := ∀ c ∈ s, 0x20 ≤ c.toNat

instance {s : List Char} : Decidable (Visible s) :=
  inferInstanceAs (Decidable (∀ c ∈ s, 0x20 ≤ c.toNat))

section Written

variable {s t : List Char} {c : Char}

theorem Visible.append (hs : Visible s) (ht : Visible t) : Visible (s ++ t) :=
  List.forall_mem_append.2 ⟨hs, ht⟩

theorem Visible.cons (hc : 0x20 ≤ c.toNat) (h : Visible s) : Visible (c :: s) :=
  List.forall_mem_cons.2 ⟨hc, h⟩

theorem visible_of_numerals (h : Decimal.Numerals s) : Visible s := fun c hc =>
  Nat.le_trans (by decide) (Decimal.toNat_of_isNumeral (h c hc)).1

theorem visible_escaped (c : Char) : Visible (escaped c) := by
  unfold escaped
  iterate 7
    split
    · decide
  split
  case isTrue hcontrol =>
    have hdigits : ∀ n ∈ List.range 0x20,
        Visible ['\\', 'u', '0', '0', Hex.digit (n / 16), Hex.digit (n % 16)] := by decide
    exact hdigits c.toNat (List.mem_range.2 hcontrol)
  case isFalse hplain => exact Visible.cons (Nat.not_lt.1 hplain) nofun

theorem visible_quoted (s : String) : Visible (quoted s) := by
  have hchars : Visible (s.toList.flatMap escaped) := fun c hc => by
    obtain ⟨d, -, hd⟩ := List.mem_flatMap.1 hc
    exact visible_escaped d c hd
  exact .cons (by decide) (hchars.append (by decide))

theorem visible_number (n : Number) : Visible n.text.toList := by
  cases n with
  | whole n =>
    have hdigits : Visible (toString n.natAbs).toList :=
      visible_of_numerals (Decimal.numerals_toString _)
    show Visible (if n < 0 then "-" ++ toString n.natAbs else toString n.natAbs).toList
    split
    · rw [String.toList_append]
      exact .append (by decide) hdigits
    · exact hdigits
  | double d =>
    cases d with
    | nan | infinite s => exact (by decide : Visible "null".toList)
    | finite s m e => exact visible_of_numerals (Decimal.numerals_writeDouble _ _)

mutual

theorem visible_chars : ∀ v : Json, Visible v.chars
  | .null => (by decide : Visible "null".toList)
  | .bool true => (by decide : Visible "true".toList)
  | .bool false => (by decide : Visible "false".toList)
  | .number n => visible_number n
  | .string s => visible_quoted s
  | .array items => .cons (by decide) ((visible_itemChars items).append (by decide))
  | .object members => .cons (by decide) ((visible_memberChars members).append (by decide))

theorem visible_itemChars : ∀ items : List Json, Visible (itemChars items)
  | [] => nofun
  | [v] => visible_chars v
  | v :: w :: rest => (visible_chars v).append (.cons (by decide) (visible_itemChars (w :: rest)))

theorem visible_memberChars : ∀ members : List (String × Json), Visible (memberChars members)
  | [] => nofun
  | [(n, v)] => (visible_quoted n).append (.cons (by decide) (visible_chars v))
  | (n, v) :: m :: rest =>
    (visible_quoted n).append <| .cons (by decide) <|
      (visible_chars v).append <| .cons (by decide) <| visible_memberChars (m :: rest)

end

theorem oneLine_render (v : Json) : OneLine v.render :=
  Text.oneLine_ofList.2 fun c hc => Text.not_mem_lineBreaks (visible_chars v c hc)

end Written

/-! ## Faults -/

/-- Whether a cause is one that JSON text itself can have. The others tell of a record. -/
def Cause.isBare : Cause → Bool
  | .missingField _ | .repeatedField _ | .wrongType _ _ | .wrongLength _ _ => false
  | _ => true

theorem Cause.oneLine_of_isBare {cause : Cause} (h : cause.isBare) : OneLine cause.message := by
  cases cause with
  | missingField | repeatedField | wrongType | wrongLength => simp [isBare] at h
  | _ => exact Text.oneLine_ofList.2 (by decide)

/-- Whatever goes wrong has a cause that JSON text itself can have. -/
def Bare {α : Type} (x : Except Fault α) : Prop := ∀ f, x = .error f → f.cause.isBare

section Faults

variable {α β : Type} {x y : Except Fault α} {rest : List UInt8} {cause : Cause} {item : Reader α}

theorem bare_ok (a : α) : Bare (.ok a) := nofun

theorem bare_failBefore (h : cause.isBare) : Bare (failBefore cause rest : Except Fault α) := by
  rintro _ ⟨⟩
  exact h

theorem bare_failAt (h : cause.isBare) : Bare (failAt cause rest : Except Fault α) := by
  rintro _ ⟨⟩
  exact h

theorem Bare.ite {p : Prop} [Decidable p] (hx : Bare x) (hy : Bare y) :
    Bare (if p then x else y) := by
  split
  · exact hx
  · exact hy

theorem Bare.bind {f : α → Except Fault β} (hx : Bare x) (hf : ∀ a, Bare (f a)) :
    Bare (x >>= f) := by
  cases x with
  | error e =>
    rintro _ ⟨⟩
    exact hx e rfl
  | ok a => exact hf a

theorem bare_name : ∀ (cs : List Char) (input : List UInt8), Bare (name cs input)
  | [], _ => bare_ok _
  | _ :: _, [] => bare_failBefore rfl
  | _ :: cs, _ :: rest => (bare_name cs rest).ite (bare_failBefore rfl)

/-! ### Strings -/

theorem bare_codeUnit (input : List UInt8) : Bare (codeUnit input) := by
  unfold codeUnit
  split
  · split
    · exact bare_ok _
    · exact bare_failBefore rfl
  · exact bare_failBefore rfl

theorem bare_lowHalf (high : Nat) : ∀ input, Bare (lowHalf high input)
  | [] => bare_failBefore rfl
  | [_] => .ite (bare_failBefore rfl) (bare_failBefore rfl)
  | _ :: _ :: rest =>
    .ite (bare_failBefore rfl) <| .ite (bare_failBefore rfl) <|
      (bare_codeUnit rest).bind fun _ => .ite (bare_failBefore rfl) (bare_ok _)

theorem bare_escape : ∀ input, Bare (escape input)
  | [] => bare_failBefore rfl
  | _ :: rest =>
    .ite (bare_ok _) <| .ite (bare_ok _) <| .ite (bare_ok _) <| .ite (bare_ok _) <|
      .ite (bare_ok _) <| .ite (bare_ok _) <|
        .ite ((bare_codeUnit rest).bind fun _ =>
          .ite (bare_failBefore rfl) <| .ite (bare_ok _) (bare_lowHalf _ _))
        (bare_failBefore rfl)

theorem bare_stringBytes : ∀ (fuel : Nat) (input : List UInt8), Bare (stringBytes fuel input)
  | 0, _ => bare_failBefore rfl
  | _ + 1, [] => bare_failBefore rfl
  | fuel + 1, _ :: rest =>
    .ite (bare_ok _) <|
      .ite ((bare_escape rest).bind fun _ => (bare_stringBytes fuel _).bind fun _ => bare_ok _) <|
        .ite (bare_failBefore rfl) ((bare_stringBytes fuel rest).bind fun _ => bare_ok _)

theorem bare_stringText (input : List UInt8) : Bare (stringText input) := by
  refine (bare_stringBytes _ _).bind fun ⟨bytes, rest⟩ => ?_
  simp only
  split
  · exact bare_ok _
  · rintro _ ⟨⟩
    rfl

/-! ### Numbers -/

theorem bare_finishDouble (negative : Bool) (significand : Nat) (power : Int)
    (rest : List UInt8) : Bare (finishDouble negative significand power rest) := by
  unfold finishDouble
  split
  · exact bare_ok _
  · exact bare_failBefore rfl

theorem bare_exponentPart (negative : Bool) (significand : Nat) (power : Int)
    (input : List UInt8) : Bare (exponentPart negative significand power input) := by
  unfold exponentPart
  cases input with
  | nil => exact bare_failBefore rfl
  | cons b rest =>
    simp only
    -- Whatever sign the exponent has, the digits are read in one way.
    generalize (if b = byte '+' then (false, rest) else if b = byte '-' then (true, rest)
      else (false, b :: rest)) = signed
    obtain ⟨down, digits⟩ := signed
    cases digits with
    | nil => exact bare_failBefore rfl
    | cons d rest =>
      refine .ite ?_ (bare_failBefore rfl)
      split
      · exact bare_finishDouble _ _ _ _
      · exact .ite (bare_failBefore rfl) (bare_ok _)

theorem bare_afterDigits (negative : Bool) (significand : Nat) (power : Int) :
    ∀ input, Bare (afterDigits negative significand power input)
  | [] => bare_finishDouble _ _ _ _
  | _ :: _ => .ite (bare_exponentPart _ _ _ _) (bare_finishDouble _ _ _ _)

theorem bare_fractionPart (negative : Bool) (significand : Nat) (power : Int)
    (input : List UInt8) : Bare (fractionPart negative significand power input) := by
  unfold fractionPart
  obtain ⟨significand', taken, rest⟩ := appendDigits significand 0 input
  refine .ite (bare_afterDigits _ _ _ _) (.ite (bare_failAt ?_) (bare_afterDigits _ _ _ _))
  split <;> rfl

theorem bare_afterWhole (negative : Bool) (significand dropped : Nat) :
    ∀ input, Bare (afterWhole negative significand dropped input)
  | [] => .ite (bare_ok _) (bare_finishDouble _ _ _ _)
  | _ :: _ =>
    .ite (bare_fractionPart _ _ _ _) <| .ite (bare_exponentPart _ _ _ _) <|
      .ite (bare_ok _) (bare_finishDouble _ _ _ _)

theorem bare_numeral (negative : Bool) : ∀ input, Bare (numeral negative input)
  | [] => bare_failBefore rfl
  | _ :: _ =>
    .ite (.ite (bare_failAt rfl) (bare_afterWhole _ _ _ _)) <|
      .ite (bare_afterWhole _ _ _ _) (bare_failBefore rfl)

/-! ### Values -/

theorem bare_listItems (h : ∀ input, Bare (item input)) (fuel : Nat) :
    ∀ first input, Bare (listItems item fuel first input) := by
  induction fuel with
  | zero => exact fun _ _ => bare_failBefore rfl
  | succ fuel ih =>
    intro first input
    unfold listItems
    split
    · exact bare_failAt rfl
    · refine .ite (bare_ok _) (.ite ?hitem (.ite ?_ (bare_failAt rfl)))
      case hitem => exact (h _).bind fun _ => (ih _ _).bind fun _ => bare_ok _
      split
      · exact bare_failAt rfl
      · exact .ite (bare_failAt rfl) ((h _).bind fun _ => (ih _ _).bind fun _ => bare_ok _)

theorem bare_colon (input : List UInt8) : Bare (colon input) := by
  unfold colon
  split
  · exact bare_failAt rfl
  · exact .ite (bare_ok _) (bare_failAt rfl)

theorem bare_nextName (first : Bool) (input : List UInt8) : Bare (nextName first input) := by
  unfold nextName
  split
  · exact bare_failAt rfl
  · refine .ite (bare_ok _) (.ite (.ite (bare_ok _) (bare_failAt rfl))
      (.ite ?_ (bare_failAt rfl)))
    split
    · exact bare_failAt rfl
    · exact .ite (bare_ok _) (.ite (bare_failAt rfl) (bare_failAt rfl))

theorem bare_objectMembers (h : ∀ input, Bare (item input)) (fuel : Nat) :
    ∀ first input, Bare (objectMembers item fuel first input) := by
  induction fuel with
  | zero => exact fun _ _ => bare_failBefore rfl
  | succ fuel ih =>
    intro first input
    refine (bare_nextName first input).bind fun next => ?_
    split
    · exact bare_ok _
    · exact (bare_stringText _).bind fun _ => (bare_colon _).bind fun _ =>
        (h _).bind fun _ => (ih _ _).bind fun _ => bare_ok _

theorem bare_scalar (b : UInt8) (rest : List UInt8) : Bare (scalar b rest) :=
  .ite ((bare_name _ _).bind fun _ => bare_ok _) <|
    .ite ((bare_name _ _).bind fun _ => bare_ok _) <|
      .ite ((bare_name _ _).bind fun _ => bare_ok _) <|
        .ite ((bare_stringText _).bind fun _ => bare_ok _) <|
          .ite ((bare_numeral _ _).bind fun _ => bare_ok _) <|
            .ite ((bare_numeral _ _).bind fun _ => bare_ok _) (bare_failAt rfl)

theorem bare_value (depth : Nat) : ∀ input, Bare (value depth input) := by
  induction depth with
  | zero =>
    intro input
    unfold value
    split
    · exact bare_failAt rfl
    · exact .ite (bare_failAt rfl) (.ite (bare_failAt rfl) (bare_scalar _ _))
  | succ depth ih =>
    intro input
    unfold value
    split
    · exact bare_failAt rfl
    · exact .ite ((bare_listItems ih _ _ _).bind fun _ => bare_ok _) <|
        .ite ((bare_objectMembers ih _ _ _).bind fun _ => bare_ok _) (bare_scalar _ _)

theorem bare_readBytes (input : List UInt8) : Bare (readBytes input) := by
  refine (bare_value _ _).bind fun ⟨v, rest⟩ => ?_
  simp only [atEnd]
  split
  · exact bare_ok _
  · exact bare_failAt rfl

theorem oneLine_of_parse {input : List UInt8} {reason : String}
    (h : parse input = .error reason) : OneLine reason := by
  unfold parse at h
  cases hread : readBytes input with
  | ok v =>
    rw [hread] at h
    cases h
  | error f =>
    have hcause := Cause.oneLine_of_isBare (bare_readBytes input f hread)
    rw [hread] at h
    obtain rfl := Except.error.inj h
    show OneLine (f.cause.message ++ " at line " ++ toString (_ : Nat) ++ " column " ++
      toString (_ : Nat))
    simp only [Text.oneLine_append]
    exact ⟨⟨⟨⟨hcause, Text.oneLine_ofList.2 (by decide)⟩, Text.oneLine_toString _⟩,
      Text.oneLine_ofList.2 (by decide)⟩, Text.oneLine_toString _⟩

end Faults

end MapStandin.Json
