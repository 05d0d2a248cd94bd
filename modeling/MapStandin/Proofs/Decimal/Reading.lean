import Mathlib.Data.List.TakeWhile
import MapStandin.Decimal.Reading
import MapStandin.Proofs.Text.Case

/-! # Spellings of numbers

Which texts are read as whole numbers, with which value, and which are read as doubles. -/

namespace MapStandin.Decimal

open Text (SameText)

/-! ## Signs -/

def Signless (cs : List Char) : Prop := ∀ c ∈ cs.head?, c ≠ '+' ∧ c ≠ '-'

theorem sign_cases (cs : List Char) :
    (∃ ds, cs = '+' :: ds) ∨ (∃ ds, cs = '-' :: ds) ∨ Signless cs := by
  match cs with
  | [] => exact .inr (.inr nofun)
  | c :: ds =>
    by_cases hplus : c = '+'
    · exact .inl ⟨ds, by rw [hplus]⟩
    by_cases hminus : c = '-'
    · exact .inr (.inl ⟨ds, by rw [hminus]⟩)
    · exact .inr (.inr fun d hd => Option.some.inj hd ▸ ⟨hplus, hminus⟩)

theorem double?_signless {cs : List Char} (hsign : Signless cs) :
    double? cs = unsigned? false cs := by
  match cs with
  | [] => rfl
  | c :: cs =>
    obtain ⟨hplus, hminus⟩ := hsign c rfl
    simp [double?, hplus, hminus]

/-- Where digits end: no digit follows. -/
def NoDigit (cs : List Char) : Prop := ∀ c ∈ cs.head?, c.isDigit = false

/-! ## Whole numbers -/

def AllDigits (cs : List Char) : Prop := ∀ c ∈ cs, c.isDigit = true

/-- The spellings of a whole number: digits after an optional sign. -/
inductive Whole : List Char → Int → Prop
  | unsigned {ds : List Char} (some : ds ≠ []) (digits : AllDigits ds) :
      Whole ds (Nat.ofDigitChars 10 ds 0)
  | plus {ds : List Char} (some : ds ≠ []) (digits : AllDigits ds) :
      Whole ('+' :: ds) (Nat.ofDigitChars 10 ds 0)
  | minus {ds : List Char} (some : ds ≠ []) (digits : AllDigits ds) :
      Whole ('-' :: ds) (-(Nat.ofDigitChars 10 ds 0))

theorem extend?_eq_some_iff {cs : List Char} {n m : Nat} :
    extend? n cs = some m ↔ AllDigits cs ∧ Nat.ofDigitChars 10 cs n = m := by
  induction cs generalizing n with
  | nil => simp [extend?, AllDigits]
  | cons c cs ih =>
    by_cases hc : c.isDigit = true
    · simp [extend?, digit?, hc, ih, AllDigits, Nat.ofDigitChars_cons]
    · simp [extend?, digit?, hc, AllDigits]

theorem number?_eq_some_iff {cs : List Char} {n : Nat} :
    number? cs = some n ↔ cs ≠ [] ∧ AllDigits cs ∧ Nat.ofDigitChars 10 cs 0 = n := by
  cases cs with
  | nil => simp [number?]
  | cons c cs => simp [number?, extend?_eq_some_iff]

theorem isSome_number?_iff {cs : List Char} :
    (number? cs).isSome = true ↔ cs ≠ [] ∧ AllDigits cs := by
  simp [Option.isSome_iff_exists, number?_eq_some_iff]

theorem AllDigits.head_ne {c d : Char} {cs : List Char} (h : AllDigits (c :: cs))
    (hd : d.isDigit = false) : c ≠ d := by
  rintro rfl
  rw [h c List.mem_cons_self] at hd
  cases hd

theorem whole_plus_iff {ds : List Char} {n : Int} :
    Whole ('+' :: ds) n ↔ ∃ m : Nat, number? ds = some m ∧ (m : Int) = n := by
  constructor
  · rintro (⟨-, hdigits⟩ | ⟨hsome, hdigits⟩)
    · exact absurd rfl (hdigits.head_ne (d := '+') rfl)
    · exact ⟨_, number?_eq_some_iff.2 ⟨hsome, hdigits, rfl⟩, rfl⟩
  · rintro ⟨m, hm, rfl⟩
    obtain ⟨hsome, hdigits, rfl⟩ := number?_eq_some_iff.1 hm
    exact .plus hsome hdigits

theorem whole_minus_iff {ds : List Char} {n : Int} :
    Whole ('-' :: ds) n ↔ ∃ m : Nat, number? ds = some m ∧ -(m : Int) = n := by
  constructor
  · rintro (⟨-, hdigits⟩ | - | ⟨hsome, hdigits⟩)
    · exact absurd rfl (hdigits.head_ne (d := '-') rfl)
    · exact ⟨_, number?_eq_some_iff.2 ⟨hsome, hdigits, rfl⟩, rfl⟩
  · rintro ⟨m, hm, rfl⟩
    obtain ⟨hsome, hdigits, rfl⟩ := number?_eq_some_iff.1 hm
    exact .minus hsome hdigits

theorem whole_signless_iff {ds : List Char} {n : Int} (hsign : Signless ds) :
    Whole ds n ↔ ∃ m : Nat, number? ds = some m ∧ (m : Int) = n := by
  constructor
  · rintro (⟨hsome, hdigits⟩ | - | -)
    · exact ⟨_, number?_eq_some_iff.2 ⟨hsome, hdigits, rfl⟩, rfl⟩
    · exact absurd rfl (hsign '+' rfl).1
    · exact absurd rfl (hsign '-' rfl).2
  · rintro ⟨m, hm, rfl⟩
    obtain ⟨hsome, hdigits, rfl⟩ := number?_eq_some_iff.1 hm
    exact .unsigned hsome hdigits

theorem allDigits_toDigits (n : Nat) : AllDigits (Nat.toDigits 10 n) := fun _ hc =>
  Nat.isDigit_of_mem_toDigits (by decide) (by decide) hc

theorem whole_toString (n : Int) : Whole (toString n).toList n := by
  cases n with
  | ofNat m =>
    have hspelling := Whole.unsigned Nat.toDigits_ne_nil (allDigits_toDigits m)
    rw [Nat.ofDigitChars_ten_toDigits] at hspelling
    have htext : toString (Int.ofNat m) = String.ofList (Nat.toDigits 10 m) :=
      Nat.toString_eq_ofList_toDigits
    rwa [htext, String.toList_ofList]
  | negSucc m =>
    have hspelling := Whole.minus Nat.toDigits_ne_nil (allDigits_toDigits (m + 1))
    rw [Nat.ofDigitChars_ten_toDigits] at hspelling
    have htext : (toString (Int.negSucc m)).toList = '-' :: Nat.toDigits 10 (m + 1) := by
      change ("-" ++ toString (m + 1)).toList = _
      rw [String.toList_append, Nat.toString_eq_ofList_toDigits]
      exact congrArg ('-' :: ·) String.toList_ofList
    rw [htext]
    exact hspelling

/-! ## Doubles -/

/-- A sign, or none. -/
def OptionalSign (cs : List Char) : Prop := cs = [] ∨ cs = ['+'] ∨ cs = ['-']

/-- A point with places after it, or nothing. -/
inductive Fraction : (text places : List Char) → Prop
  | absent : Fraction [] []
  | present {places : List Char} (digits : AllDigits places) : Fraction ('.' :: places) places

/-- An exponent after its mark, or nothing. -/
inductive Exponent : List Char → Prop
  | absent : Exponent []
  | present {mark : Char} {sign ds : List Char} (isMark : mark = 'e' ∨ mark = 'E')
      (isSign : OptionalSign sign) (some : ds ≠ []) (digits : AllDigits ds) :
      Exponent (mark :: (sign ++ ds))

/-- The spellings of a number without sign: a name in any case, or digits, at least one before or
after the point. -/
inductive Unsigned : List Char → Prop
  | name {cs : List Char} (named : SameText (String.ofList cs) "inf" ∨
      SameText (String.ofList cs) "infinity" ∨ SameText (String.ofList cs) "nan") : Unsigned cs
  | digits {whole fraction places exponent : List Char} (digits : AllDigits whole)
      (isFraction : Fraction fraction places) (some : whole ++ places ≠ [])
      (isExponent : Exponent exponent) : Unsigned (whole ++ (fraction ++ exponent))

inductive Number : List Char → Prop
  | intro {sign cs : List Char} (isSign : OptionalSign sign) (unsigned : Unsigned cs) :
      Number (sign ++ cs)

theorem AllDigits.signless {ds : List Char} (h : AllDigits ds) : Signless ds := by
  match ds with
  | [] => exact nofun
  | c :: ds => exact fun d hd => Option.some.inj hd ▸ ⟨h.head_ne rfl, h.head_ne rfl⟩

theorem spanDigits_append {ds rest : List Char} (hds : AllDigits ds) (hrest : NoDigit rest) :
    spanDigits (ds ++ rest) = (ds, rest) := by
  have htake : rest.takeWhile Char.isDigit = [] := by
    cases rest with
    | nil => rfl
    | cons c cs => rw [List.takeWhile_cons_of_neg (by simp [hrest c rfl])]
  have hdrop : rest.dropWhile Char.isDigit = rest := by
    cases rest with
    | nil => rfl
    | cons c cs => rw [List.dropWhile_cons_of_neg (by simp [hrest c rfl])]
  rw [spanDigits, List.takeWhile_append_of_pos hds, List.dropWhile_append_of_pos hds, htake, hdrop,
    List.append_nil]

theorem exists_digits (cs : List Char) :
    ∃ ds rest, cs = ds ++ rest ∧ AllDigits ds ∧ NoDigit rest := by
  refine ⟨_, _, List.takeWhile_append_dropWhile.symm, fun c hc => List.mem_takeWhile_imp hc,
    fun c hc => ?_⟩
  have hstop := List.head?_dropWhile_not Char.isDigit cs
  rw [hc] at hstop
  exact hstop

theorem isSome_exponent?_plus {ds : List Char} :
    (exponent? ('+' :: ds)).isSome = (number? ds).isSome := by
  cases h : number? ds <;> simp [exponent?, h]

theorem isSome_exponent?_minus {ds : List Char} :
    (exponent? ('-' :: ds)).isSome = (number? ds).isSome := by
  cases h : number? ds <;> simp [exponent?, h]

theorem isSome_exponent?_signless {ds : List Char} (hsign : Signless ds) :
    (exponent? ds).isSome = (number? ds).isSome := by
  match ds with
  | [] => rfl
  | c :: ds =>
    obtain ⟨hplus, hminus⟩ := hsign c rfl
    cases h : number? (c :: ds) <;> simp [exponent?, h, hplus, hminus]

theorem exponent_cons_iff {c : Char} {cs : List Char} :
    Exponent (c :: cs) ↔ (c = 'e' ∨ c = 'E') ∧ (exponent? cs).isSome = true := by
  constructor
  · intro h
    cases h with
    | @present mark sign ds hmark hsign hsome hds =>
      have hnumber := isSome_number?_iff.2 ⟨hsome, hds⟩
      refine ⟨hmark, ?_⟩
      obtain rfl | rfl | rfl := hsign
      · rwa [List.nil_append, isSome_exponent?_signless (hds.signless)]
      · rwa [List.singleton_append, isSome_exponent?_plus]
      · rwa [List.singleton_append, isSome_exponent?_minus]
  · rintro ⟨hmark, hexponent⟩
    obtain ⟨ds, rfl⟩ | ⟨ds, rfl⟩ | hsign := sign_cases cs
    · rw [isSome_exponent?_plus, isSome_number?_iff] at hexponent
      exact .present hmark (.inr (.inl rfl)) hexponent.1 hexponent.2
    · rw [isSome_exponent?_minus, isSome_number?_iff] at hexponent
      exact .present hmark (.inr (.inr rfl)) hexponent.1 hexponent.2
    · rw [isSome_exponent?_signless hsign, isSome_number?_iff] at hexponent
      exact Exponent.present hmark (.inl rfl : OptionalSign []) hexponent.1 hexponent.2

theorem spanPlaces_present {places rest : List Char} (hplaces : AllDigits places)
    (hrest : NoDigit rest) : spanPlaces ('.' :: (places ++ rest)) = (places, rest) :=
  spanDigits_append hplaces hrest

theorem spanPlaces_absent {rest : List Char} (hpoint : ∀ c ∈ rest.head?, c ≠ '.') :
    spanPlaces rest = ([], rest) := by
  match rest with
  | [] => rfl
  | c :: rest => simp [spanPlaces, hpoint c rfl]

theorem exists_parts (cs : List Char) :
    ∃ whole fraction places rest, cs = whole ++ (fraction ++ rest) ∧ AllDigits whole ∧
      Fraction fraction places ∧ spanDigits cs = (whole, fraction ++ rest) ∧
      spanPlaces (fraction ++ rest) = (places, rest) := by
  obtain ⟨whole, next, rfl, hwhole, hnext⟩ := exists_digits cs
  have hspan := spanDigits_append hwhole hnext
  -- a point is taken for one only right behind the first digits
  by_cases hpoint : ∀ c ∈ next.head?, c ≠ '.'
  · exact ⟨whole, [], [], next, rfl, hwhole, .absent, hspan, spanPlaces_absent hpoint⟩
  · match next with
    | [] => exact absurd nofun hpoint
    | c :: next =>
      have hc : c = '.' := Classical.byContradiction fun hne =>
        hpoint fun d hd => Option.some.inj hd ▸ hne
      subst hc
      obtain ⟨places, rest, rfl, hplaces, hrest⟩ := exists_digits next
      exact ⟨whole, '.' :: places, places, rest, rfl, hwhole, .present hplaces, hspan,
        spanPlaces_present hplaces hrest⟩

theorem Exponent.head {cs : List Char} (h : Exponent cs) :
    ∀ c ∈ cs.head?, c = 'e' ∨ c = 'E' := by
  cases h with
  | absent => exact nofun
  | present hmark => exact fun c hc => Option.some.inj hc ▸ hmark

theorem isSome_raised?_iff {negative : Bool} {digits : Nat} {power : Int} {cs : List Char} :
    (raised? negative digits power cs).isSome = true ↔ Exponent cs := by
  match cs with
  | [] => exact iff_of_true rfl .absent
  | c :: cs =>
    rw [exponent_cons_iff]
    by_cases hmark : c = 'e' ∨ c = 'E'
    · simp [raised?, hmark]
    · simp [raised?, hmark]

theorem isSome_unsignedDigits?_of_span {negative : Bool} {cs whole next places rest : List Char}
    (hwhole : spanDigits cs = (whole, next)) (hplaces : spanPlaces next = (places, rest)) :
    (unsignedDigits? negative cs).isSome = true ↔ whole ++ places ≠ [] ∧ Exponent rest := by
  have hempty : (whole.isEmpty && places.isEmpty) = true ↔ whole ++ places = [] := by simp
  simp only [unsignedDigits?, hwhole, hplaces]
  by_cases hnone : whole ++ places = []
  · rw [if_pos (hempty.2 hnone)]
    exact iff_of_false nofun fun h => h.1 hnone
  · rw [if_neg (mt hempty.1 hnone), isSome_raised?_iff, and_iff_right hnone]

theorem isSome_unsignedDigits?_iff {negative : Bool} {cs : List Char} :
    (unsignedDigits? negative cs).isSome = true ↔
      ∃ whole fraction places exponent, AllDigits whole ∧ Fraction fraction places ∧
        whole ++ places ≠ [] ∧ Exponent exponent ∧ cs = whole ++ (fraction ++ exponent) := by
  constructor
  · intro h
    obtain ⟨whole, fraction, places, rest, hcs, hwhole, hfraction, hspan, hplaces⟩ :=
      exists_parts cs
    obtain ⟨hsome, hexponent⟩ := (isSome_unsignedDigits?_of_span hspan hplaces).1 h
    exact ⟨whole, fraction, places, rest, hwhole, hfraction, hsome, hexponent, hcs⟩
  · rintro ⟨whole, fraction, places, exponent, hwhole, hfraction, hsome, hexponent, rfl⟩
    have hdigit : NoDigit exponent := fun c hc => by
      obtain rfl | rfl := hexponent.head c hc <;> rfl
    have hpoint : ∀ c ∈ exponent.head?, c ≠ '.' := fun c hc => by
      obtain rfl | rfl := hexponent.head c hc <;> decide
    cases hfraction with
    | absent =>
      exact (isSome_unsignedDigits?_of_span (spanDigits_append hwhole hdigit)
        (spanPlaces_absent hpoint)).2 ⟨hsome, hexponent⟩
    | present hplaces =>
      have hnext : NoDigit ('.' :: (places ++ exponent)) := fun c hc => Option.some.inj hc ▸ rfl
      exact (isSome_unsignedDigits?_of_span (spanDigits_append hwhole hnext)
        (spanPlaces_present hplaces hdigit)).2 ⟨hsome, hexponent⟩

theorem isSome_unsigned?_iff {negative : Bool} {cs : List Char} :
    (unsigned? negative cs).isSome = true ↔ Unsigned cs := by
  have hname : ∀ name : String, Text.small name = name →
      (String.ofList (cs.map Char.toLower) = name ↔ SameText (String.ofList cs) name) := by
    intro name hsmall
    rw [← Text.small_eq_iff, hsmall, Text.small, String.toList_ofList]
  have hdigits : Unsigned cs ↔ (SameText (String.ofList cs) "inf" ∨
      SameText (String.ofList cs) "infinity" ∨ SameText (String.ofList cs) "nan") ∨
        (unsignedDigits? negative cs).isSome = true := by
    rw [isSome_unsignedDigits?_iff]
    constructor
    · rintro (hnamed | ⟨hwhole, hfraction, hsome, hexponent⟩)
      · exact .inl hnamed
      · exact .inr ⟨_, _, _, _, hwhole, hfraction, hsome, hexponent, rfl⟩
    · rintro (hnamed | ⟨_, _, _, _, hwhole, hfraction, hsome, hexponent, rfl⟩)
      · exact .name hnamed
      · exact .digits hwhole hfraction hsome hexponent
  rw [hdigits, ← hname "inf" (by decide), ← hname "infinity" (by decide),
    ← hname "nan" (by decide)]
  simp only [unsigned?, Bool.or_eq_true, decide_eq_true_eq]
  split_ifs with hinfinite hnan
  · exact iff_of_true rfl (.inl (hinfinite.imp_right .inl))
  · exact iff_of_true rfl (.inl (.inr (.inr hnan)))
  · exact (or_iff_right fun hnamed => hnamed.elim (hinfinite ∘ .inl) fun hnamed =>
      hnamed.elim (hinfinite ∘ .inr) hnan).symm

theorem Unsigned.head {cs : List Char} (h : Unsigned cs) :
    ∃ c rest, cs = c :: rest ∧
      (c.toLower = 'i' ∨ c.toLower = 'n' ∨ c = '.' ∨ c.isDigit = true) := by
  cases h with
  | name named =>
    obtain hsame | hsame | hsame := named
    · obtain ⟨c, rest, hcs, hc⟩ := hsame.head 'i' (by decide)
      exact ⟨c, rest, hcs, .inl hc⟩
    · obtain ⟨c, rest, hcs, hc⟩ := hsame.head 'i' (by decide)
      exact ⟨c, rest, hcs, .inl hc⟩
    · obtain ⟨c, rest, hcs, hc⟩ := hsame.head 'n' (by decide)
      exact ⟨c, rest, hcs, .inr (.inl hc)⟩
  | @digits whole fraction places exponent hwhole hfraction hsome =>
    match whole, hwhole with
    | c :: whole, hwhole =>
      exact ⟨c, _, rfl, .inr (.inr (.inr (hwhole c List.mem_cons_self)))⟩
    | [], _ =>
      cases hfraction with
      | absent => exact absurd rfl hsome
      | present => exact ⟨'.', _, rfl, .inr (.inr (.inl rfl))⟩

theorem Unsigned.signless {cs : List Char} (h : Unsigned cs) : Signless cs := by
  obtain ⟨c, rest, rfl, hc⟩ := h.head
  intro d hd
  cases Option.some.inj hd
  constructor
  · rintro rfl
    revert hc
    decide
  · rintro rfl
    revert hc
    decide

theorem isSome_double?_iff {cs : List Char} : (double? cs).isSome = true ↔ Number cs := by
  constructor
  · intro h
    obtain ⟨ds, rfl⟩ | ⟨ds, rfl⟩ | hsign := sign_cases cs
    · exact .intro (.inr (.inl rfl)) (isSome_unsigned?_iff.1 h)
    · exact .intro (.inr (.inr rfl)) (isSome_unsigned?_iff.1 h)
    · rw [double?_signless hsign] at h
      exact .intro (.inl rfl) (isSome_unsigned?_iff.1 h)
  · rintro ⟨hsign, hunsigned⟩
    have hsome : ∀ negative, (unsigned? negative _).isSome = true := fun _ =>
      isSome_unsigned?_iff.2 hunsigned
    obtain rfl | rfl | rfl := hsign
    · rw [List.nil_append, double?_signless hunsigned.signless]
      exact hsome false
    · exact hsome false
    · exact hsome true

example : Number ".5e1".toList ∧ ¬ Number ".".toList ∧ ¬ Number "1e".toList := by
  simp only [← isSome_double?_iff]
  decide +kernel

theorem Whole.number {cs : List Char} {n : Int} (h : Whole cs n) : Number cs := by
  have hunsigned : ∀ {ds : List Char}, ds ≠ [] → AllDigits ds → Unsigned ds := by
    intro ds hsome hdigits
    have hspelling := Unsigned.digits hdigits .absent (by rwa [List.append_nil]) .absent
    rwa [List.append_nil, List.append_nil] at hspelling
  cases h with
  | unsigned hsome hdigits => exact .intro (.inl rfl) (hunsigned hsome hdigits)
  | plus hsome hdigits => exact .intro (.inr (.inl rfl)) (hunsigned hsome hdigits)
  | minus hsome hdigits => exact .intro (.inr (.inr rfl)) (hunsigned hsome hdigits)

theorem Number.head {cs : List Char} (h : Number cs) :
    ∃ c rest, cs = c :: rest ∧ c.toLower ∉ ['t', 'f'] := by
  obtain ⟨hsign, hunsigned⟩ := h
  obtain rfl | rfl | rfl := hsign
  · obtain ⟨c, rest, rfl, hc⟩ := hunsigned.head
    refine ⟨c, rest, rfl, ?_⟩
    obtain hc | hc | rfl | hdigit := hc
    · rw [hc]
      decide
    · rw [hc]
      decide
    · decide
    · rw [Text.toLower_of_isDigit hdigit]
      intro hmem
      obtain rfl | rfl : c = 't' ∨ c = 'f' := by simpa using hmem
      · cases hdigit
      · cases hdigit
  · exact ⟨'+', _, rfl, by decide⟩
  · exact ⟨'-', _, rfl, by decide⟩

end MapStandin.Decimal
