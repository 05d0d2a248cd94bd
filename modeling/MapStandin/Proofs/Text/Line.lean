import MapStandin.Proofs.Decimal.Written

/-! # Single lines

Whoever reads one line gets a text as a whole if there is no line break in it. -/

namespace MapStandin.Text

def lineBreaks : List Char := ['\n', '\r']

def OneLine (s : String) : Prop := ∀ c ∈ s.toList, c ∉ lineBreaks

instance (s : String) : Decidable (OneLine s) :=
  inferInstanceAs (Decidable (∀ c ∈ s.toList, c ∉ lineBreaks))

variable {s t : String}

@[simp] theorem oneLine_append : OneLine (s ++ t) ↔ OneLine s ∧ OneLine t := by
  unfold OneLine
  rw [String.toList_append, List.forall_mem_append]

theorem oneLine_ofList {cs : List Char} :
    OneLine (String.ofList cs) ↔ ∀ c ∈ cs, c ∉ lineBreaks := by
  rw [OneLine, String.toList_ofList]

theorem not_mem_lineBreaks {c : Char} (h : 0x20 ≤ c.toNat) : c ∉ lineBreaks := by
  intro hbreak
  have hsmall : ∀ b ∈ lineBreaks, b.toNat < 0x20 := by decide
  exact absurd h (Nat.not_le.2 (hsmall c hbreak))

theorem oneLine_of_numerals (h : Decimal.Numerals s.toList) : OneLine s := fun c hc =>
  not_mem_lineBreaks (Nat.le_trans (by decide) (Decimal.toNat_of_isNumeral (h c hc)).1)

theorem oneLine_toString (n : Nat) : OneLine (toString n) :=
  oneLine_of_numerals (Decimal.numerals_toString n)

theorem oneLine_intercalate {separator : String} (hseparator : OneLine separator)
    {lines : List String} (h : ∀ line ∈ lines, OneLine line) :
    OneLine (separator.intercalate lines) := by
  match lines with
  | [] => exact nofun
  | [line] => exact h line List.mem_cons_self
  | line :: next :: lines =>
    rw [String.intercalate_cons_cons, oneLine_append, oneLine_append]
    exact ⟨⟨h line List.mem_cons_self, hseparator⟩,
      oneLine_intercalate hseparator fun l hl => h l (List.mem_cons_of_mem line hl)⟩

end MapStandin.Text
