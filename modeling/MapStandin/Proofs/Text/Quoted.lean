import Mathlib.Data.List.Basic
import MapStandin.Text.Quoted

/-! # What quoted texts tell

A list of quoted texts tells the texts: every character is shown in a form that ends where it is
known to end, and only a quote without an escape ends a text. -/

namespace MapStandin.Text

variable {c d : Char} {m n : Nat} {s t : String} {x y : List Char}

/-! ## Numbers of characters -/

theorem toDigits_sixteen (n : Nat) :
    Nat.toDigits 16 n =
      if n < 16 then [n.digitChar] else Nat.toDigits 16 (n / 16) ++ [(n % 16).digitChar] :=
  Nat.toDigits_eq_if (by decide)

theorem digitChar_inj (hm : m < 16) (hn : n < 16) (h : m.digitChar = n.digitChar) : m = n := by
  have all : ∀ m < 16, ∀ n < 16, m.digitChar = n.digitChar → m = n := by decide
  exact all m hm n hn h

theorem toDigits_inj (h : Nat.toDigits 16 m = Nat.toDigits 16 n) : m = n := by
  induction m using Nat.strongRecOn generalizing n with
  | ind m ih =>
    have hlast : ∀ k, k % 16 < 16 := fun k => Nat.mod_lt k (by decide)
    rw [toDigits_sixteen m, toDigits_sixteen n] at h
    split_ifs at h with hm hn hn
    · exact digitChar_inj hm hn (List.head_eq_of_cons_eq h)
    · exact absurd (List.append_eq_singleton_iff.1 h.symm) (by simp)
    · exact absurd (List.append_eq_singleton_iff.1 h) (by simp)
    · obtain ⟨hfront, hdigit⟩ := List.append_inj' h rfl
      have hrest := ih (m / 16) (by omega) hfront
      have hmod := digitChar_inj (hlast m) (hlast n) (List.head_eq_of_cons_eq hdigit)
      omega

theorem not_mem_toDigits (n : Nat) : '\x7d' ∉ Nat.toDigits 16 n := by
  induction n using Nat.strongRecOn with
  | ind n ih =>
    have hdigit : ∀ k : Nat, '\x7d' ≠ k.digitChar := fun k => (Nat.digitChar_ne '\x7d' (by decide)).symm
    rw [toDigits_sixteen]
    split_ifs with hn
    · simp [hdigit]
    · simp [hdigit, ih (n / 16) (by omega)]

theorem append_cons_inj {ending : Char} {front front' : List Char} (h : ending ∉ front)
    (h' : ending ∉ front') (heq : front ++ ending :: x = front' ++ ending :: y) :
    front = front' ∧ x = y := by
  induction front generalizing front' with
  | nil =>
    cases front' with
    | nil => exact ⟨rfl, (List.cons_eq_cons.1 heq).2⟩
    | cons d front' => exact absurd (List.cons_eq_cons.1 heq).1 (List.ne_of_not_mem_cons h')
  | cons c front ih =>
    cases front' with
    | nil => exact absurd (List.cons_eq_cons.1 heq).1.symm (List.ne_of_not_mem_cons h)
    | cons d front' =>
      obtain ⟨rfl, hrest⟩ := List.cons_eq_cons.1 heq
      obtain ⟨rfl, rfl⟩ := ih (List.not_mem_of_not_mem_cons h) (List.not_mem_of_not_mem_cons h') hrest
      exact ⟨rfl, rfl⟩

/-! ## Characters -/

/-- The characters that have a letter for their escape, with that letter. -/
def shortEscapes : List (Char × Char) :=
  [('\x00', '0'), ('\t', 't'), ('\r', 'r'), ('\n', 'n'), ('\\', '\\'), ('"', '"')]

/-- The forms in which a character is shown. -/
inductive Shown : Char → List Char → Prop
  | plain {c : Char} (backslash : c ≠ '\\') (quote : c ≠ '"') : Shown c [c]
  | short {c e : Char} (h : (c, e) ∈ shortEscapes) : Shown c ['\\', e]
  | number (c : Char) :
      Shown c ('\\' :: 'u' :: '\x7b' :: (Nat.toDigits 16 c.toNat ++ ['\x7d']))

theorem shown_shownQuoted (c : Char) : Shown c (shownQuoted c) := by
  unfold shownQuoted
  split_ifs with h h h h hbackslash hquote
  · exact .short (by subst h; decide)
  · exact .short (by subst h; decide)
  · exact .short (by subst h; decide)
  · exact .short (by subst h; decide)
  · exact .short (by subst hbackslash; decide)
  · exact .short (by subst hquote; decide)
  · exact .number c
  · exact .plain hbackslash hquote

theorem Shown.append_inj {shape shape' : List Char} (h : Shown c shape) (h' : Shown d shape')
    (heq : shape ++ x = shape' ++ y) : c = d ∧ x = y := by
  have hletter : ∀ p ∈ shortEscapes, ∀ q ∈ shortEscapes, p.2 = q.2 → p.1 = q.1 := by decide
  have hnumber : ∀ p ∈ shortEscapes, p.2 ≠ 'u' := by decide
  cases h with
  | plain backslash =>
    cases h' with
    | plain => exact List.cons_eq_cons.1 heq
    | short | number => exact absurd (List.cons_eq_cons.1 heq).1 backslash
  | short escape =>
    cases h' with
    | plain backslash => exact absurd (List.cons_eq_cons.1 heq).1.symm backslash
    | short escape' =>
      obtain ⟨hsame, hrest⟩ := List.cons_eq_cons.1 (List.cons_eq_cons.1 heq).2
      exact ⟨hletter _ escape _ escape' hsame, hrest⟩
    | number => exact absurd (List.cons_eq_cons.1 (List.cons_eq_cons.1 heq).2).1 (hnumber _ escape)
  | number =>
    cases h' with
    | plain backslash => exact absurd (List.cons_eq_cons.1 heq).1.symm backslash
    | short escape =>
      exact absurd (List.cons_eq_cons.1 (List.cons_eq_cons.1 heq).2).1.symm (hnumber _ escape)
    | number =>
      simp only [List.cons_append, List.append_assoc, List.nil_append, List.cons.injEq,
        true_and] at heq
      obtain ⟨hdigits, rfl⟩ := append_cons_inj (not_mem_toDigits _) (not_mem_toDigits _) heq
      exact ⟨Char.toNat_inj.1 (toDigits_inj hdigits), rfl⟩

theorem Shown.ne_quote {shape : List Char} (h : Shown c shape) : shape ++ x ≠ '"' :: y := by
  intro heq
  cases h with
  | plain backslash quote => exact quote (List.cons_eq_cons.1 heq).1
  | short | number => exact absurd (List.cons_eq_cons.1 heq).1 (by decide)

/-! ## Texts -/

theorem flatMap_shownQuoted_inj {cs ds : List Char}
    (h : cs.flatMap shownQuoted ++ '"' :: x = ds.flatMap shownQuoted ++ '"' :: y) :
    cs = ds ∧ x = y := by
  -- The quote that ends one text cannot begin a shown character of the other.
  induction cs generalizing ds with
  | nil =>
    cases ds with
    | nil => exact ⟨rfl, (List.cons_eq_cons.1 h).2⟩
    | cons d ds =>
      rw [List.flatMap_cons, List.append_assoc] at h
      exact absurd h.symm (shown_shownQuoted d).ne_quote
  | cons c cs ih =>
    rw [List.flatMap_cons, List.append_assoc] at h
    cases ds with
    | nil => exact absurd h (shown_shownQuoted c).ne_quote
    | cons d ds =>
      rw [List.flatMap_cons, List.append_assoc] at h
      obtain ⟨rfl, hrest⟩ := (shown_shownQuoted c).append_inj (shown_shownQuoted d) h
      obtain ⟨rfl, rfl⟩ := ih hrest
      exact ⟨rfl, rfl⟩

theorem quoted_append_inj (h : (quoted s).toList ++ x = (quoted t).toList ++ y) :
    s = t ∧ x = y := by
  simp only [quoted, String.toList_ofList, List.cons_append, List.append_assoc, List.nil_append,
    List.cons.injEq, true_and] at h
  obtain ⟨hchars, rfl⟩ := flatMap_shownQuoted_inj h
  exact ⟨String.toList_inj.1 hchars, rfl⟩

/-- What follows a text in a list. -/
def laterTexts : List String → List Char
  | [] => [']']
  | s :: rest => ',' :: ' ' :: ((quoted s).toList ++ laterTexts rest)

theorem toList_quotedList_cons (s : String) (rest : List String) :
    (quotedList (s :: rest)).toList = '[' :: ((quoted s).toList ++ laterTexts rest) := by
  have hlater : ∀ s : String, ", ".toList.intercalate ((s :: rest).map fun s => (quoted s).toList) ++
      [']'] = (quoted s).toList ++ laterTexts rest := by
    induction rest with
    | nil => intro s; simp [laterTexts]
    | cons next rest ih =>
      intro s
      rw [laterTexts, ← ih next]
      simp
  rw [← hlater]
  simp [quotedList, String.toList_intercalate, Function.comp_def]

theorem laterTexts_inj {texts texts' : List String} (h : laterTexts texts = laterTexts texts') :
    texts = texts' := by
  induction texts generalizing texts' with
  | nil =>
    cases texts' with
    | nil => rfl
    | cons => exact absurd (List.cons_eq_cons.1 h).1 (by decide)
  | cons s texts ih =>
    cases texts' with
    | nil => exact absurd (List.cons_eq_cons.1 h).1 (by decide)
    | cons t texts' =>
      obtain ⟨rfl, hrest⟩ := quoted_append_inj (List.cons_eq_cons.1 (List.cons_eq_cons.1 h).2).2
      rw [ih hrest]

theorem quotedList_nil_ne (s : String) (rest : List String) :
    quotedList [] ≠ quotedList (s :: rest) := by
  intro h
  have hchars := congrArg String.toList h
  rw [toList_quotedList_cons] at hchars
  simp [quotedList, quoted] at hchars

theorem quotedList_injective : Function.Injective quotedList := by
  intro texts texts' h
  cases texts with
  | nil =>
    cases texts' with
    | nil => rfl
    | cons t rest' => exact absurd h (quotedList_nil_ne t rest')
  | cons s rest =>
    cases texts' with
    | nil => exact absurd h.symm (quotedList_nil_ne s rest)
    | cons t rest' =>
      have hchars := congrArg String.toList h
      rw [toList_quotedList_cons, toList_quotedList_cons] at hchars
      obtain ⟨rfl, hrest⟩ := quoted_append_inj (List.cons_eq_cons.1 hchars).2
      rw [laterTexts_inj hrest]

end MapStandin.Text
