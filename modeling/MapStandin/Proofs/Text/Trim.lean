import Mathlib.Data.List.TakeWhile
import MapStandin.Text.Class

/-! # Blanks around a text

What is left of a text without the blanks around it has none at its ends. A text without any blank
is what is left of exactly those texts that put blanks around it. -/

namespace MapStandin.Text

def AllBlank (cs : List Char) : Prop := ∀ c ∈ cs, isBlank c = true

instance (cs : List Char) : Decidable (AllBlank cs) :=
  inferInstanceAs (Decidable (∀ c ∈ cs, _))

variable {cs before after : List Char} {s t : String}

theorem dropWhile_eq_self {p : Char → Bool} (h : ∀ c ∈ cs, p c = false) :
    cs.dropWhile p = cs := by
  cases cs with
  | nil => rfl
  | cons c cs => rw [List.dropWhile_cons_of_neg (by simp [h c List.mem_cons_self])]

theorem isBlank_of_visible {c : Char} (least : 0x21 ≤ c.toNat) (most : c.toNat < 0x80) :
    isBlank c = false := by
  unfold isBlank
  simp only [Bool.or_eq_false_iff, Bool.and_eq_false_iff, decide_eq_false_iff_not,
    beq_eq_false_iff_ne]
  omega

/-- The blanks in front go first, then those at the end. -/
theorem trimList_framed (hbefore : AllBlank before) (hafter : AllBlank after)
    (hcs : ∀ c ∈ cs, isBlank c = false) : trimList (before ++ cs ++ after) = cs := by
  have hback : ∀ c ∈ after.reverse, isBlank c = true := fun c hc =>
    hafter c (List.mem_reverse.1 hc)
  have hreverse : ∀ c ∈ cs.reverse, isBlank c = false := fun c hc =>
    hcs c (List.mem_reverse.1 hc)
  unfold trimList
  rw [List.append_assoc, List.dropWhile_append_of_pos hbefore]
  cases cs with
  | nil => rw [List.nil_append, List.dropWhile_eq_nil_iff.2 hafter]; rfl
  | cons c rest =>
    rw [List.cons_append, List.dropWhile_cons_of_neg (by simp [hcs c List.mem_cons_self]),
      ← List.cons_append, List.reverse_append, List.dropWhile_append_of_pos hback,
      dropWhile_eq_self hreverse, List.reverse_reverse]

theorem exists_frame (cs : List Char) :
    ∃ before after, AllBlank before ∧ AllBlank after ∧ cs = before ++ trimList cs ++ after := by
  have hall : ∀ ds : List Char, AllBlank (ds.takeWhile isBlank) := fun _ _ =>
    List.mem_takeWhile_imp
  refine ⟨cs.takeWhile isBlank, ((cs.dropWhile isBlank).reverse.takeWhile isBlank).reverse,
    hall cs, ?_, ?_⟩
  · intro c hc
    exact hall _ c (List.mem_reverse.1 hc)
  · unfold trimList
    rw [List.append_assoc, ← List.reverse_append, List.takeWhile_append_dropWhile,
      List.reverse_reverse, List.takeWhile_append_dropWhile]

theorem trim_eq_iff (ht : ∀ c ∈ t.toList, isBlank c = false) :
    trim s = t ↔
      ∃ before after : String, AllBlank before.toList ∧ AllBlank after.toList ∧
        s = before ++ t ++ after := by
  unfold trim
  constructor
  · rintro rfl
    obtain ⟨before, after, hbefore, hafter, hs⟩ := exists_frame s.toList
    refine ⟨String.ofList before, String.ofList after, by simpa using hbefore,
      by simpa using hafter, String.toList_injective ?_⟩
    simpa using hs
  · rintro ⟨before, after, hbefore, hafter, rfl⟩
    rw [String.toList_append, String.toList_append, trimList_framed hbefore hafter ht,
      String.ofList_toList]

theorem trim_eq_self (h : ∀ c ∈ s.toList, isBlank c = false) : trim s = s :=
  (trim_eq_iff h).2 ⟨"", "", by decide, by decide, by simp⟩

end MapStandin.Text
