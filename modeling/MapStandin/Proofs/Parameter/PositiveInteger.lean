import Mathlib.Algebra.Group.Nat.Defs
import MapStandin.Parameter.Kind
import MapStandin.Proofs.Decimal.Reading
import MapStandin.Proofs.Text.Trim

/-! # The spellings of a positive integer

A number of 64 bits is read digit after digit. The checks on the way refuse exactly the numbers that
do not fit, however many zeros stand in front, so that what is read is what is spelled. -/

namespace MapStandin.Decimal

variable {a b w n m : UInt64} {c : Char} {cs : List Char} {k v : Nat}

/-! ## Checked arithmetic -/

theorem checked_eq_some_iff (hw : w.toNat = k % 2 ^ 64) :
    (if k ≥ 2 ^ 64 then none else some w) = some m ↔ k = m.toNat := by
  have hm : m.toNat < 2 ^ 64 := m.toNat_lt
  by_cases h : k ≥ 2 ^ 64
  · rw [if_pos h]
    simp only [reduceCtorEq, false_iff]
    omega
  · rw [if_neg h, Option.some.injEq, ← UInt64.toNat_inj, hw, Nat.mod_eq_of_lt (Nat.not_le.1 h)]

theorem times?_eq_some_iff : times? a b = some m ↔ a.toNat * b.toNat = m.toNat := by
  unfold times? BitVec.umulOverflow
  simp only [UInt64.toNat_toBitVec, decide_eq_true_eq]
  exact checked_eq_some_iff (UInt64.toNat_mul a b)

theorem plus?_eq_some_iff : plus? a b = some m ↔ a.toNat + b.toNat = m.toNat := by
  unfold plus? BitVec.uaddOverflow
  simp only [UInt64.toNat_toBitVec, decide_eq_true_eq]
  exact checked_eq_some_iff (UInt64.toNat_add a b)

/-! ## Reading with checks and without -/

theorem digit?_lt {d : Nat} (h : digit? c = some d) : d < 10 := by
  unfold digit? at h
  split at h
  · next hdigit =>
    have hbounds : 48 ≤ c.toNat ∧ c.toNat ≤ 57 := Char.isDigit_iff_toNat.1 hdigit
    have hzero : '0'.toNat = 48 := rfl
    cases h
    omega
  · cases h

theorem le_of_extend? (h : extend? k cs = some v) : k ≤ v := by
  obtain ⟨-, rfl⟩ := extend?_eq_some_iff.1 h
  have hpow : k ≤ 10 ^ cs.length * k := Nat.le_mul_of_pos_left k (Nat.pow_pos (by decide))
  calc
    k ≤ 10 ^ cs.length * k + Nat.ofDigitChars 10 cs 0 := Nat.le_add_right_of_le hpow
    _ = Nat.ofDigitChars 10 cs k := Nat.ofDigitChars_eq_ofDigitChars_zero.symm

/-- One step: the product and the sum fit exactly if the sum does. -/
theorem extended_eq_some_iff {d : Nat} (hd : d < 10) :
    ((times? n 10).bind fun shifted => plus? shifted (UInt64.ofNat d)) = some m ↔
      10 * n.toNat + d = m.toNat := by
  have hm : m.toNat < 2 ^ 64 := m.toNat_lt
  have hdigit : (UInt64.ofNat d).toNat = d :=
    UInt64.toNat_ofNat_of_lt' (Nat.lt_trans hd (by decide))
  have hten : (10 : UInt64).toNat = 10 := rfl
  simp only [Option.bind_eq_some_iff, times?_eq_some_iff, plus?_eq_some_iff, hdigit, hten]
  constructor
  · rintro ⟨shifted, hshifted, hsum⟩
    omega
  · intro hsum
    have hfits : n.toNat * 10 < 2 ^ 64 := by omega
    have hshifted := UInt64.toNat_ofNat_of_lt' hfits
    exact ⟨UInt64.ofNat (n.toNat * 10), hshifted.symm, by omega⟩

theorem extendWord?_cons (n : UInt64) (c : Char) (cs : List Char) :
    extendWord? n (c :: cs) = (digit? c).bind fun d =>
      ((times? n 10).bind fun shifted => plus? shifted (UInt64.ofNat d)).bind fun extended =>
        extendWord? extended cs := by
  show (times? n 10).bind _ = _
  cases times? n 10 with
  | none => cases digit? c <;> rfl
  | some shifted => cases digit? c <;> rfl

/-- The checks refuse the numbers that do not fit and no others: if the last number fits, so do all
before it. -/
theorem extendWord?_eq_some_iff :
    extendWord? n cs = some m ↔ extend? n.toNat cs = some m.toNat := by
  induction cs generalizing n with
  | nil => rw [extendWord?, extend?, Option.some.injEq, Option.some.injEq, UInt64.toNat_inj]
  | cons c cs ih =>
    rw [extendWord?_cons, extend?, Option.bind_eq_some_iff, Option.bind_eq_some_iff]
    refine exists_congr fun d => and_congr_right fun hd => ?_
    have hstep := fun extended => extended_eq_some_iff (n := n) (m := extended) (digit?_lt hd)
    simp only [Option.bind_eq_some_iff, hstep, ih]
    constructor
    · rintro ⟨extended, hextended, hrest⟩
      rwa [hextended]
    · intro hrest
      have hfits : 10 * n.toNat + d < 2 ^ 64 :=
        Nat.lt_of_le_of_lt (le_of_extend? hrest) m.toNat_lt
      have hword := UInt64.toNat_ofNat_of_lt' hfits
      exact ⟨UInt64.ofNat (10 * n.toNat + d), hword.symm, by rwa [hword]⟩

theorem word?_eq_some_iff : word? cs = some m ↔ number? cs = some m.toNat := by
  cases cs with
  | nil => simp [word?, number?]
  | cons c cs => exact extendWord?_eq_some_iff (n := 0)

theorem signedWord?_eq_some_iff : signedWord? cs = some m ↔ signedNumber? cs = some m.toNat := by
  by_cases hplus : ∃ rest, cs = '+' :: rest
  · obtain ⟨rest, rfl⟩ := hplus
    exact word?_eq_some_iff
  · have hnone : ∀ rest, cs = '+' :: rest → False := fun rest h => hplus ⟨rest, h⟩
    rw [signedWord?.eq_2 _ hnone, signedNumber?.eq_2 _ hnone]
    exact word?_eq_some_iff

/-! ## Spellings -/

/-- The spellings of a natural number: digits after an optional plus sign. -/
inductive Natural : List Char → Nat → Prop
  | unsigned {ds : List Char} (some : ds ≠ []) (digits : AllDigits ds) :
      Natural ds (Nat.ofDigitChars 10 ds 0)
  | plus {ds : List Char} (some : ds ≠ []) (digits : AllDigits ds) :
      Natural ('+' :: ds) (Nat.ofDigitChars 10 ds 0)

theorem signedNumber?_eq_some_iff : signedNumber? cs = some v ↔ Natural cs v := by
  constructor
  · intro h
    unfold signedNumber? at h
    split at h
    · obtain ⟨hsome, hdigits, rfl⟩ := number?_eq_some_iff.1 h
      exact .plus hsome hdigits
    · obtain ⟨hsome, hdigits, rfl⟩ := number?_eq_some_iff.1 h
      exact .unsigned hsome hdigits
  · rintro (⟨hsome, hdigits⟩ | ⟨hsome, hdigits⟩)
    · rw [signedNumber?, number?_eq_some_iff]
      · exact ⟨hsome, hdigits, rfl⟩
      · rintro rest rfl
        exact hdigits.head_ne (d := '+') rfl rfl
    · exact number?_eq_some_iff.2 ⟨hsome, hdigits, rfl⟩

theorem Natural.no_blank (h : Natural cs v) : ∀ c ∈ cs, Text.isBlank c = false := by
  have hdigit : ∀ {ds : List Char}, AllDigits ds → ∀ c ∈ ds, Text.isBlank c = false := by
    intro ds hdigits c hc
    have hbounds : 48 ≤ c.toNat ∧ c.toNat ≤ 57 := Char.isDigit_iff_toNat.1 (hdigits c hc)
    exact Text.isBlank_of_visible (by omega) (by omega)
  cases h with
  | unsigned _ digits => exact hdigit digits
  | plus _ digits => exact List.forall_mem_cons.2 ⟨by decide, hdigit digits⟩

theorem natural_padded {sign : List Char} (hsign : sign = [] ∨ sign = ['+']) (zeros n : Nat) :
    Natural (sign ++ (List.replicate zeros '0' ++ Nat.toDigits 10 n)) n := by
  have hzeros : AllDigits (List.replicate zeros '0') := fun c hc => by
    rw [List.eq_of_mem_replicate hc]
    rfl
  have hdigits := List.forall_mem_append.2 ⟨hzeros, allDigits_toDigits n⟩
  have hvalue : Nat.ofDigitChars 10 (List.replicate zeros '0' ++ Nat.toDigits 10 n) 0 = n := by
    rw [Nat.ofDigitChars_append, Nat.ofDigitChars_replicate_zero, Nat.mul_zero,
      Nat.ofDigitChars_ten_toDigits]
  have hsome := List.append_ne_nil_of_right_ne_nil (List.replicate zeros '0')
    (Nat.toDigits_ne_nil (n := n) (b := 10))
  rcases hsign with rfl | rfl
  · have hspelled := Natural.unsigned hsome hdigits
    rwa [hvalue] at hspelled
  · have hspelled := Natural.plus hsome hdigits
    rwa [hvalue] at hspelled

end MapStandin.Decimal

namespace MapStandin.Parameter

open Decimal (Natural)
open Text (AllBlank)

variable {s : String} {n m : Nat} {w : UInt64}

/-- A text spells a natural number: blanks may stand around it. -/
def Spells (s : String) (n : Nat) : Prop :=
  ∃ before core after : List Char, s.toList = before ++ core ++ after ∧ AllBlank before ∧
    AllBlank after ∧ Natural core n

theorem spells_iff : Spells s n ↔ Natural (Text.trimList s.toList) n := by
  constructor
  · rintro ⟨before, core, after, hs, hbefore, hafter, hcore⟩
    rwa [hs, Text.trimList_framed hbefore hafter hcore.no_blank]
  · intro h
    obtain ⟨before, after, hbefore, hafter, hs⟩ := Text.exists_frame s.toList
    exact ⟨before, _, after, hs, hbefore, hafter, h⟩

theorem Spells.unique (hn : Spells s n) (hm : Spells s m) : n = m := by
  rw [spells_iff, ← Decimal.signedNumber?_eq_some_iff] at hn hm
  exact Option.some.inj (hn.symm.trans hm)

theorem positiveInteger?_eq_some_iff :
    positiveInteger? s = some w ↔ Spells s w.toNat ∧ 1 ≤ w.toNat := by
  rw [positiveInteger?, Option.filter_eq_some_iff, Decimal.signedWord?_eq_some_iff,
    Decimal.signedNumber?_eq_some_iff, spells_iff, decide_eq_true_eq, UInt64.lt_iff_toNat_lt]
  rfl

def ReadAs (s : String) (n : Nat) : Prop :=
  ∃ w : UInt64, Kind.positiveInteger.read? s = some (.positiveInteger w) ∧ w.toNat = n

theorem readAs_iff : ReadAs s n ↔ Spells s n ∧ 1 ≤ n ∧ n ≤ 2 ^ 64 - 1 := by
  have hread : ∀ w, Kind.positiveInteger.read? s = some (.positiveInteger w) ↔
      Spells s w.toNat ∧ 1 ≤ w.toNat := by
    intro w
    rw [Kind.read?, Option.map_eq_some_iff]
    simp only [Value.positiveInteger.injEq, exists_eq_right]
    exact positiveInteger?_eq_some_iff
  unfold ReadAs
  simp only [hread]
  constructor
  · rintro ⟨w, ⟨hspells, hleast⟩, rfl⟩
    exact ⟨hspells, hleast, Nat.le_pred_of_lt w.toNat_lt⟩
  · rintro ⟨hspells, hleast, hgreatest⟩
    have hword : (UInt64.ofNat n).toNat = n :=
      UInt64.toNat_ofNat_of_lt' (Nat.lt_of_le_pred (by decide) hgreatest)
    exact ⟨UInt64.ofNat n, by rw [hword]; exact ⟨hspells, hleast⟩, hword⟩

theorem accepts_positiveInteger_iff :
    Kind.positiveInteger.accepts s = true ↔ ∃ n, ReadAs s n := by
  rw [Kind.accepts, Kind.read?, Option.isSome_map, Option.isSome_iff_exists]
  constructor
  · rintro ⟨w, hw⟩
    exact ⟨w.toNat, w, by rw [Kind.read?, hw, Option.map_some], rfl⟩
  · rintro ⟨n, w, hw, -⟩
    obtain ⟨w', hw', -⟩ := Option.map_eq_some_iff.1 hw
    exact ⟨w', hw'⟩

theorem spells_padded {before sign after : String} {zeros : Nat} (hbefore : AllBlank before.toList)
    (hsign : sign = "" ∨ sign = "+") (hafter : AllBlank after.toList) :
    Spells (before ++ sign ++ String.ofList (List.replicate zeros '0') ++ toString n ++ after) n := by
  have hcore : Natural (sign.toList ++ (List.replicate zeros '0' ++ Nat.toDigits 10 n)) n := by
    refine Decimal.natural_padded ?_ zeros n
    rcases hsign with rfl | rfl
    · exact .inl rfl
    · exact .inr rfl
  refine ⟨before.toList, _, after.toList, ?_, hbefore, hafter, hcore⟩
  simp only [String.toList_append, String.toList_ofList, Nat.toString_eq_ofList_toDigits,
    List.append_assoc]

structure PositiveIntegerPost (s : String) : Prop where
  accepted : Kind.positiveInteger.accepts s = true ↔ ∃ n, Spells s n ∧ 1 ≤ n ∧ n ≤ 2 ^ 64 - 1
  value : ∀ n, ReadAs s n ↔ Spells s n ∧ 1 ≤ n ∧ n ≤ 2 ^ 64 - 1
  one : ∀ n m, Spells s n → Spells s m → n = m
  padded : ∀ (before sign after : String) (zeros n : Nat), AllBlank before.toList →
    sign = "" ∨ sign = "+" → AllBlank after.toList → 1 ≤ n → n ≤ 2 ^ 64 - 1 →
    s = before ++ sign ++ String.ofList (List.replicate zeros '0') ++ toString n ++ after →
    ReadAs s n
  tooGreat : ∀ n, Spells s n → 2 ^ 64 ≤ n → Kind.positiveInteger.read? s = none

theorem readPositiveInteger_spec (s : String) : PositiveIntegerPost s := by
  constructor
  case accepted =>
    rw [accepts_positiveInteger_iff]
    exact exists_congr fun _ => readAs_iff
  case value => exact fun _ => readAs_iff
  case one => exact fun _ _ => Spells.unique
  case padded =>
    rintro before sign after zeros n hbefore hsign hafter hleast hgreatest rfl
    exact readAs_iff.2 ⟨spells_padded hbefore hsign hafter, hleast, hgreatest⟩
  case tooGreat =>
    intro n hspells hgreat
    have hrefused : ¬ Kind.positiveInteger.accepts s = true := by
      rw [accepts_positiveInteger_iff]
      rintro ⟨m, hm⟩
      obtain ⟨hm, -, hgreatest⟩ := readAs_iff.1 hm
      have := hspells.unique hm
      omega
    rwa [Kind.accepts, Bool.not_eq_true, Option.isSome_eq_false_iff, Option.isNone_iff_eq_none]
      at hrefused

example :
    positiveInteger? "\u2003+0018446744073709551615\n" = some 18446744073709551615 ∧
      positiveInteger? "18446744073709551616" = none := by decide +kernel

end MapStandin.Parameter
