import MapStandin.Decimal.Shortest
import MapStandin.Text.Class

/-! # Characters of written numbers

However a number is laid out, its text is made of letters, digits, points and signs. -/

namespace MapStandin.Decimal

/-- Whether a character may stand in the text of a number. -/
def isNumeral (c : Char) : Bool := c.isAlphanum || c ∈ ['.', '-', '+']

theorem toNat_of_isNumeral {c : Char} (h : isNumeral c) : 0x2B ≤ c.toNat ∧ c.toNat ≤ 0x7A := by
  have hupper : c.isUpper → 0x41 ≤ c.toNat ∧ c.toNat ≤ 0x5A := of_decide_eq_true
  have hlower : c.isLower → 0x61 ≤ c.toNat ∧ c.toNat ≤ 0x7A := fun h =>
    (Bool.and_eq_true_iff.1 h).imp of_decide_eq_true of_decide_eq_true
  have hdigit : c.isDigit → 0x30 ≤ c.toNat ∧ c.toNat ≤ 0x39 := fun h =>
    (Bool.and_eq_true_iff.1 h).imp of_decide_eq_true of_decide_eq_true
  have hsigns : ∀ d ∈ ['.', '-', '+'], 0x2B ≤ d.toNat ∧ d.toNat ≤ 0x7A := by decide
  obtain hword | hsign := Bool.or_eq_true_iff.1 h
  · obtain hletter | h := Bool.or_eq_true_iff.1 hword
    · obtain h | h := Bool.or_eq_true_iff.1 hletter
      · have := hupper h
        omega
      · have := hlower h
        omega
    · have := hdigit h
      omega
  · exact hsigns c (of_decide_eq_true hsign)

def Numerals (s : List Char) : Prop := ∀ c ∈ s, isNumeral c

variable {s t : List Char} {c : Char}

theorem Numerals.nil : Numerals [] := nofun

theorem Numerals.cons (hc : isNumeral c) (h : Numerals s) : Numerals (c :: s) :=
  List.forall_mem_cons.2 ⟨hc, h⟩

theorem Numerals.append (h : Numerals s) (ht : Numerals t) : Numerals (s ++ t) :=
  List.forall_mem_append.2 ⟨h, ht⟩

theorem Numerals.of_subset (h : Numerals t) (hs : s ⊆ t) : Numerals s := fun c hc => h c (hs hc)

theorem numerals_toDigits (n : Nat) : Numerals (Nat.toDigits 10 n) := by
  intro c hc
  have hdigit : c.isDigit = true := Nat.isDigit_of_mem_toDigits (by decide) (by decide) hc
  simp [isNumeral, Char.isAlphanum, hdigit]

theorem numerals_toString (n : Nat) : Numerals (toString n).toList := by
  rw [Nat.toString_eq_ofList_toDigits, String.toList_ofList]
  exact numerals_toDigits n

theorem numerals_replicate (n : Nat) : Numerals (List.replicate n '0') := by
  intro c hc
  rw [List.eq_of_mem_replicate hc]
  decide

theorem numerals_positional (showsFraction : Bool) (d : Scientific) :
    Numerals (positional showsFraction d) := by
  have hdigits := numerals_toDigits d.digits
  unfold positional
  cases d.power with
  | ofNat k =>
    refine (hdigits.append (numerals_replicate _)).append ?_
    cases showsFraction
    · exact .nil
    · exact .cons (by decide) (.cons (by decide) .nil)
  | negSucc k =>
    have hpadded := (numerals_replicate (k + 1 + 1 - (Nat.toDigits 10 d.digits).length)).append
      hdigits
    exact (hpadded.of_subset (List.take_subset _ _)).append
      (.cons (by decide) (hpadded.of_subset (List.drop_subset _ _)))

theorem numerals_withExponent (d : Scientific) : Numerals (withExponent d) := by
  have hexponent := numerals_toDigits d.exponent.natAbs
  have hdigits := numerals_toDigits d.digits
  unfold withExponent
  refine Numerals.append ?_ (.cons (by decide) (.cons ?_ hexponent))
  · generalize Nat.toDigits 10 d.digits = digits at hdigits
    match digits with
    | [] => exact .nil
    | [first] => exact hdigits
    | first :: second :: later =>
      exact .cons (hdigits first List.mem_cons_self)
        (.cons (by decide) (hdigits.of_subset (List.subset_cons_self _ _)))
  · split <;> decide

theorem numerals_write (l : Layout) (d : Scientific) : Numerals (l.write d) := by
  unfold Layout.write
  split
  · exact numerals_positional _ _
  · exact numerals_withExponent _

theorem numerals_writeDouble (l : Layout) (x : Double) : Numerals (l.writeDouble x).toList := by
  cases x with
  | nan =>
    have hname : ∀ c ∈ "NaN".toList, isNumeral c := by decide
    exact hname
  | infinite s =>
    have hnames : ∀ s : Bool, ∀ c ∈ (if s then "-inf" else "inf").toList, isNumeral c := by decide
    exact hnames s
  | finite s m e =>
    unfold Layout.writeDouble
    rw [String.toList_ofList]
    refine Numerals.append ?_ (numerals_write _ _)
    cases s
    · exact .nil
    · exact .cons (by decide) .nil

end MapStandin.Decimal
