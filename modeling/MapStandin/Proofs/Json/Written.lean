import MapStandin.Json.Record
import MapStandin.Proofs.Text.Utf8

/-! # Reading what is written

A string is read back from its written form, whatever characters are in it. So is a record from an
object whose members are written forms of its fields. -/

namespace MapStandin.Json

open Utf8 (encodeList)

variable {input rest bytes : List UInt8} {b : UInt8} {c : Char}

theorem ok_bind {ε α β : Type} (a : α) (f : α → Except ε β) : Except.ok a >>= f = f a := rfl

/-! ## Strings -/

/-- The input spells the bytes of a string up to its closing quote, and `rest` follows. -/
def Spells (input bytes rest : List UInt8) : Prop :=
  ∀ fuel, input.length < fuel → stringBytes fuel input = .ok (bytes, rest)

theorem spells_quote (rest : List UInt8) : Spells (byte '"' :: rest) [] rest := by
  intro fuel hfuel
  cases fuel with
  | zero => exact absurd hfuel (Nat.not_lt_zero _)
  | succ fuel => rfl

/-- A byte that stands for itself in a string. -/
def IsPlain (b : UInt8) : Prop := b ≠ byte '"' ∧ b ≠ byte '\\' ∧ ¬ b < 0x20

theorem Spells.plain (h : Spells input bytes rest) (hb : IsPlain b) :
    Spells (b :: input) (b :: bytes) rest := by
  obtain ⟨quote, backslash, control⟩ := hb
  intro fuel hfuel
  cases fuel with
  | zero => exact absurd hfuel (Nat.not_lt_zero _)
  | succ fuel =>
    rw [stringBytes]
    simp only [if_neg quote, if_neg backslash, if_neg control]
    rw [h fuel (Nat.lt_of_succ_lt_succ hfuel)]
    rfl

theorem Spells.plains {front : List UInt8} (h : Spells input bytes rest)
    (hfront : ∀ b ∈ front, IsPlain b) : Spells (front ++ input) (front ++ bytes) rest := by
  induction front with
  | nil => exact h
  | cons b front ih =>
    exact (ih fun t ht => hfront t (List.mem_cons_of_mem b ht)).plain (hfront b List.mem_cons_self)

theorem Spells.escape {front sequence : List UInt8} (h : Spells input bytes rest)
    (hescape : escape (sequence ++ input) = .ok (front, input)) :
    Spells (byte '\\' :: (sequence ++ input)) (front ++ bytes) rest := by
  intro fuel hfuel
  cases fuel with
  | zero => exact absurd hfuel (Nat.not_lt_zero _)
  | succ fuel =>
    have hinput : input.length < fuel := by
      simp only [List.length_cons, List.length_append] at hfuel
      omega
    rw [stringBytes]
    simp only [if_neg (by decide : byte '\\' ≠ byte '"'), if_true, hescape, ok_bind]
    rw [h fuel hinput]
    rfl

/-! ## Characters of a string -/

theorem isPlain_of_mem (quote : c ≠ '"') (backslash : c ≠ '\\') (control : ¬ c.toNat < 0x20) :
    ∀ b ∈ String.utf8EncodeChar c, IsPlain b := by
  intro b hb
  have hquote : c.toNat ≠ 0x22 := fun h => quote (Char.toNat_inj.1 h)
  have hbackslash : c.toNat ≠ 0x5C := fun h => backslash (Char.toNat_inj.1 h)
  have hbyte := Utf8.toNat_of_mem_encode hb
  refine ⟨?_, ?_, ?_⟩
  · rintro rfl
    have : (byte '"').toNat = 0x22 := rfl
    omega
  · rintro rfl
    have : (byte '\\').toNat = 0x5C := rfl
    omega
  · simp only [UInt8.lt_iff_toNat_lt, UInt8.reduceToNat]
    omega

theorem escape_control {n : Nat} (hn : n < 0x20) (input : List UInt8) :
    escape (encodeList ['u', '0', '0', Hex.digit (n / 16), Hex.digit (n % 16)] ++ input) =
      .ok (String.utf8EncodeChar (Char.ofNat n), input) := by
  have hdigits : ∀ k ∈ List.range 0x20, ∃ high low,
      encodeList ['u', '0', '0', Hex.digit (k / 16), Hex.digit (k % 16)] =
          [byte 'u', byte '0', byte '0', high, low] ∧
        fourHex? (byte '0') (byte '0') high low = some k := by
    intro k hk
    refine ⟨byte (Hex.digit (k / 16)), byte (Hex.digit (k % 16)), ?_⟩
    revert k
    decide
  obtain ⟨high, low, hbytes, hvalue⟩ := hdigits n (List.mem_range.2 hn)
  rw [hbytes]
  show escape (byte 'u' :: byte '0' :: byte '0' :: high :: low :: input) = _
  rw [escape]
  simp only [codeUnit, hvalue, ok_bind]
  have hlow : (decide (0xDC00 ≤ n) && decide (n ≤ 0xDFFF)) = false := by
    simp only [Bool.and_eq_false_iff, decide_eq_false_iff_not]
    omega
  have hhigh : (decide (n < 0xD800) || decide (0xDBFF < n)) = true := by
    simp only [Bool.or_eq_true, decide_eq_true_eq]
    omega
  rw [hlow, hhigh]
  rfl

theorem Spells.escaped (h : Spells input bytes rest) (c : Char) :
    Spells (encodeList (escaped c) ++ input) (String.utf8EncodeChar c ++ bytes) rest := by
  unfold Json.escaped
  split_ifs with h1 h2 h3 h4 h5 h6 h7 h8
  -- The pairs of a backslash and a letter, then a code unit, then a plain character.
  iterate 7
    subst c
    exact h.escape rfl
  · have hunit := h.escape (escape_control h8 input)
    rw [Char.ofNat_toNat] at hunit
    exact hunit
  · rw [Utf8.encodeList_cons, Utf8.encodeList_nil, List.append_nil]
    exact h.plains (isPlain_of_mem h1 h2 h8)

theorem spells_escaped (cs : List Char) (rest : List UInt8) :
    Spells (encodeList (cs.flatMap escaped) ++ byte '"' :: rest) (encodeList cs) rest := by
  induction cs with
  | nil => exact spells_quote rest
  | cons c cs ih =>
    rw [List.flatMap_cons, Utf8.encodeList_append, List.append_assoc, Utf8.encodeList_cons]
    exact ih.escaped c

theorem stringText_escaped (s : String) (rest : List UInt8) :
    stringText (encodeList (s.toList.flatMap escaped) ++ byte '"' :: rest) = .ok (s, rest) := by
  have hbytes := spells_escaped s.toList rest _ (Nat.lt_succ_self _)
  have hdecode : Utf8.decode (encodeList s.toList) = .ok s := Utf8.decode_eq_ok_iff.2 rfl
  unfold stringText
  rw [hbytes, ok_bind]
  simp only [hdecode]
  rfl

/-! ## Values -/

section Values

variable {α σ : Type} {a : α} {item : Reader α} {v : Json}

/-- The reader takes the written form of a value for `a`, whatever follows. -/
def Takes (item : Reader α) (v : Json) (a : α) : Prop :=
  ∀ rest, item (encodeList v.chars ++ rest) = .ok (a, rest)

theorem encode_string (s : String) (rest : List UInt8) :
    encodeList (chars (.string s)) ++ rest =
      byte '"' :: (encodeList (s.toList.flatMap escaped) ++ byte '"' :: rest) := by
  rw [chars, quoted, Utf8.encodeList_cons, Utf8.encodeList_append, List.append_assoc,
    List.append_assoc]
  rfl

theorem takes_text (s : String) : Takes text (.string s) s := by
  intro rest
  rw [encode_string]
  exact stringText_escaped s rest

theorem takes_optional_text (s : String) : Takes (optional text) (.string s) (some s) := by
  intro rest
  have htext := takes_text s rest
  rw [encode_string] at htext ⊢
  show Except.map _ (text _) = _
  rw [htext]
  rfl

/-! ## Records -/

/-- The members after the first one of an object, as they are written. -/
def laterChars : List (String × Json) → List Char
  | [] => []
  | m :: rest => ',' :: memberChars (m :: rest)

theorem memberChars_cons (name : String) (v : Json) (ms : List (String × Json)) :
    memberChars ((name, v) :: ms) = quoted name ++ ':' :: (v.chars ++ laterChars ms) := by
  cases ms with
  | nil => simp [memberChars, laterChars]
  | cons m ms => rfl

theorem laterChars_cons (name : String) (v : Json) (ms : List (String × Json)) :
    laterChars ((name, v) :: ms) =
      ',' :: (quoted name ++ ':' :: (v.chars ++ laterChars ms)) := by
  rw [laterChars, memberChars_cons]

/-- Members whose written forms are taken by the fields of a record, from one draft to another. -/
inductive Record.Fills (r : Record σ α) : σ → List (String × Json) → σ → Prop
  | done {draft : σ} : Fills r draft [] draft
  | field {draft draft' last : σ} {name : String} {v : Json} {ms : List (String × Json)}
      {f : Field σ} (find : (r.fields.find? fun f => f.name == name) = some f)
      (unset : f.isSet draft = false) (takes : Takes (f.read draft) v draft')
      (more : Fills r draft' ms last) : Fills r draft ((name, v) :: ms) last

theorem takes_field {name : String} {get : σ → Option α} {set : σ → α → σ}
    (takes : Takes item v a) (draft : σ) :
    Takes ((Field.of name get set item).read draft) v (set draft a) := by
  intro rest
  unfold Field.of
  simp only
  rw [takes rest]
  rfl

theorem Record.member_written {r : Record σ α} {draft draft' : σ} {name : String} {f : Field σ}
    (find : (r.fields.find? fun f => f.name == name) = some f) (unset : f.isSet draft = false)
    (takes : Takes (f.read draft) v draft') (rest : List UInt8) :
    r.member name draft (byte ':' :: (encodeList v.chars ++ rest)) = .ok (draft', rest) := by
  unfold Record.member
  rw [find]
  simp only [unset, Bool.false_eq_true, if_false]
  exact takes rest

theorem nextName_written (first : Bool) (input : List UInt8) :
    nextName first ((if first then [] else [byte ',']) ++ byte '"' :: input) =
      .ok (true, input) := by
  cases first <;> rfl

theorem Record.members_written {r : Record σ α} {draft last : σ} {ms : List (String × Json)}
    (h : r.Fills draft ms last) (rest : List UInt8) (fuel : Nat) (first : Bool)
    (hfuel : (encodeList (laterChars ms)).length < fuel) :
    r.members fuel first draft
        (encodeList (if first then memberChars ms else laterChars ms) ++ byte '\x7d' :: rest) =
      r.close last rest := by
  -- The induction is on the members that are left; `first` tells whether a comma comes before them.
  induction h generalizing fuel first with
  | done =>
    cases fuel with
    | zero => exact absurd hfuel (Nat.not_lt_zero _)
    | succ fuel => cases first <;> rfl
  | @field draft draft' last name v ms f find unset takes more ih =>
    cases fuel with
    | zero => exact absurd hfuel (Nat.not_lt_zero _)
    | succ fuel =>
      have hinput : encodeList (if first then memberChars ((name, v) :: ms)
            else laterChars ((name, v) :: ms)) ++ byte '\x7d' :: rest =
          (if first then [] else [byte ',']) ++ byte '"' ::
            (encodeList (name.toList.flatMap escaped) ++ byte '"' :: byte ':' ::
              (encodeList v.chars ++ (encodeList (laterChars ms) ++ byte '\x7d' :: rest))) := by
        cases first <;>
          simp only [laterChars_cons, memberChars_cons, quoted, Bool.false_eq_true, if_false,
            if_true, Utf8.encodeList_cons, Utf8.encodeList_append, List.append_assoc,
            List.cons_append, List.nil_append] <;> rfl
      -- One member more takes at least one character of what the fuel has to exceed.
      have hlater : (encodeList (laterChars ms)).length < fuel := by
        simp only [laterChars_cons, Utf8.encodeList_cons, Utf8.encodeList_append,
          List.length_append, String.length_utf8EncodeChar] at hfuel
        have hcomma : Char.utf8Size ',' = 1 := rfl
        have hcolon : Char.utf8Size ':' = 1 := rfl
        omega
      rw [hinput, Record.members, nextName_written, ok_bind]
      simp only [stringText_escaped, ok_bind, r.member_written find unset takes]
      exact ih fuel false hlater

theorem Record.takes_object {r : Record σ α} {ms : List (String × Json)} {last : σ}
    (h : r.Fills r.blank ms last) (finish : r.finish last = .ok a) :
    Takes r.read (.object ms) a := by
  intro rest
  have hinput : encodeList (chars (.object ms)) ++ rest =
      byte '\x7b' :: (encodeList (memberChars ms) ++ byte '\x7d' :: rest) := by
    rw [chars, Utf8.encodeList_cons, Utf8.encodeList_append, List.append_assoc, List.append_assoc]
    rfl
  rw [hinput]
  show r.members _ true r.blank _ = _
  have hmembers := r.members_written h rest
    ((encodeList (memberChars ms) ++ byte '\x7d' :: rest).length + 1) true
  rw [if_pos rfl] at hmembers
  rw [hmembers ?_, Record.close, finish]
  cases ms with
  | nil => exact Nat.succ_pos _
  | cons m ms =>
    have hcomma : Char.utf8Size ',' = 1 := rfl
    simp only [laterChars, Utf8.encodeList_cons, List.length_append, List.length_cons,
      String.length_utf8EncodeChar]
    omega

theorem Record.parse_written {r : Record σ α} (h : Takes r.read v a) :
    r.parse (Utf8.encode v.render) = .ok a := by
  have hread := h []
  rw [List.append_nil] at hread
  unfold Record.parse Utf8.encode Json.render
  rw [String.toList_ofList, hread]
  rfl

end Values

end MapStandin.Json
