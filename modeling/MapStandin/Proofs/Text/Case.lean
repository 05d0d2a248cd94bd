import Mathlib.Data.List.Forall2
import MapStandin.Text.Class

/-! # Texts that differ by case

Two texts are the same but for the case of letters of ASCII exactly if they are equal in capitals,
and exactly if they are equal in small letters. -/

namespace MapStandin.Text

variable {c d e : Char} {s t u : String}

/-! ## Letters -/

/-- Two characters are the same, or a letter of ASCII in both cases. -/
inductive SameLetter : Char → Char → Prop
  | same (c : Char) : SameLetter c c
  | raised {c d : Char} (letter : 'a' ≤ c ∧ c ≤ 'z') (capital : d.toNat + 32 = c.toNat) :
      SameLetter c d
  | lowered {c d : Char} (letter : 'a' ≤ d ∧ d ≤ 'z') (capital : c.toNat + 32 = d.toNat) :
      SameLetter c d

theorem isSmallLetter_iff : 'a' ≤ c ∧ c ≤ 'z' ↔ 97 ≤ c.toNat ∧ c.toNat ≤ 122 := Iff.rfl

theorem eq_of_toNat_eq (h : c.toNat = d.toNat) : c = d := Char.ext (UInt32.toNat_inj.1 h)

theorem sameLetter_iff :
    SameLetter c d ↔ c.toNat = d.toNat ∨
      (97 ≤ c.toNat ∧ c.toNat ≤ 122 ∧ d.toNat + 32 = c.toNat) ∨
      (97 ≤ d.toNat ∧ d.toNat ≤ 122 ∧ c.toNat + 32 = d.toNat) := by
  constructor
  · rintro (_ | ⟨letter, capital⟩ | ⟨letter, capital⟩)
    · exact .inl rfl
    · exact .inr (.inl ⟨letter.1, letter.2, capital⟩)
    · exact .inr (.inr ⟨letter.1, letter.2, capital⟩)
  · rintro (h | ⟨low, high, capital⟩ | ⟨low, high, capital⟩)
    · exact eq_of_toNat_eq h ▸ .same c
    · exact .raised (isSmallLetter_iff.2 ⟨low, high⟩) capital
    · exact .lowered (isSmallLetter_iff.2 ⟨low, high⟩) capital

theorem toNat_toUpper (c : Char) :
    c.toUpper.toNat = if 97 ≤ c.toNat ∧ c.toNat ≤ 122 then c.toNat - 32 else c.toNat := by
  by_cases h : 'a'.val ≤ c.val ∧ c.val ≤ 'z'.val
  · have hval : c.toUpper.val = c.val + ('A'.val - 'a'.val) := by
      delta Char.toUpper
      rw [dif_pos h]
    have hshift : ('A'.val - 'a'.val).toNat = 4294967264 := rfl
    have hsmall : 97 ≤ c.toNat ∧ c.toNat ≤ 122 := h
    rw [if_pos hsmall]
    change c.toUpper.val.toNat = c.toNat - 32
    rw [hval, UInt32.toNat_add, hshift]
    change (c.toNat + 4294967264) % 2 ^ 32 = c.toNat - 32
    omega
  · have hother : ¬ (97 ≤ c.toNat ∧ c.toNat ≤ 122) := h
    rw [if_neg hother]
    exact congrArg Char.toNat (dif_neg h)

theorem toNat_toLower (c : Char) :
    c.toLower.toNat = if 65 ≤ c.toNat ∧ c.toNat ≤ 90 then c.toNat + 32 else c.toNat := by
  by_cases h : 'A'.val ≤ c.val ∧ c.val ≤ 'Z'.val
  · have hval : c.toLower.val = c.val + ('a'.val - 'A'.val) := by
      delta Char.toLower
      rw [dif_pos h]
    have hshift : ('a'.val - 'A'.val).toNat = 32 := rfl
    have hcapital : 65 ≤ c.toNat ∧ c.toNat ≤ 90 := h
    rw [if_pos hcapital]
    change c.toLower.val.toNat = c.toNat + 32
    rw [hval, UInt32.toNat_add, hshift]
    change (c.toNat + 32) % 2 ^ 32 = c.toNat + 32
    omega
  · have hother : ¬ (65 ≤ c.toNat ∧ c.toNat ≤ 90) := h
    rw [if_neg hother]
    exact congrArg Char.toNat (dif_neg h)

theorem toUpper_eq_iff : c.toUpper = d.toUpper ↔ SameLetter c d := by
  rw [sameLetter_iff, ← Char.toNat_inj, toNat_toUpper, toNat_toUpper]
  split_ifs <;> omega

theorem toLower_eq_iff : c.toLower = d.toLower ↔ SameLetter c d := by
  rw [sameLetter_iff, ← Char.toNat_inj, toNat_toLower, toNat_toLower]
  split_ifs <;> omega

theorem toLower_of_isDigit (h : c.isDigit = true) : c.toLower = c := by
  have hdigit : 48 ≤ c.toNat ∧ c.toNat ≤ 57 := Char.isDigit_iff_toNat.1 h
  apply eq_of_toNat_eq
  rw [toNat_toLower, if_neg (by omega)]

/-! ## Texts -/

/-- Two texts are the same, letters of ASCII in any case. -/
def SameText (s t : String) : Prop := List.Forall₂ SameLetter s.toList t.toList

theorem sameText_iff_map_eq {f : Char → Char} (hf : ∀ c d, f c = f d ↔ SameLetter c d) :
    String.ofList (s.toList.map f) = String.ofList (t.toList.map f) ↔ SameText s t := by
  rw [String.ofList_inj, ← List.forall₂_eq_eq_eq, List.forall₂_map_left_iff,
    List.forall₂_map_right_iff, SameText]
  simp only [hf]

theorem capitals_eq_iff : capitals s = capitals t ↔ SameText s t :=
  sameText_iff_map_eq fun _ _ => toUpper_eq_iff

theorem small_eq_iff : small s = small t ↔ SameText s t :=
  sameText_iff_map_eq fun _ _ => toLower_eq_iff

theorem SameText.head {cs : List Char} (h : SameText (String.ofList cs) t) (c : Char)
    (hc : t.toList.head? = some c) : ∃ d rest, cs = d :: rest ∧ d.toLower = c.toLower := by
  obtain ⟨letters, hletters⟩ := List.head?_eq_some_iff.1 hc
  rw [SameText, String.toList_ofList, hletters] at h
  obtain ⟨d, rest, hd, -, hcs⟩ := List.forall₂_cons_right_iff.1 h
  exact ⟨d, rest, hcs, toLower_eq_iff.2 hd⟩

instance (s t : String) : Decidable (SameText s t) := decidable_of_iff _ capitals_eq_iff

theorem SameText.refl (s : String) : SameText s s := capitals_eq_iff.1 rfl

theorem SameText.symm (h : SameText s t) : SameText t s :=
  capitals_eq_iff.1 (capitals_eq_iff.2 h).symm

theorem SameText.trans (h : SameText s t) (h' : SameText t u) : SameText s u :=
  capitals_eq_iff.1 ((capitals_eq_iff.2 h).trans (capitals_eq_iff.2 h'))

example : SameText "GetPrint" "GETPRINT" ∧ ¬ SameText "Get_Print" "GETPRINT" := by decide

end MapStandin.Text
