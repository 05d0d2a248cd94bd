import MapStandin.Proofs.Decimal.Reading
import MapStandin.Settings.Loading

/-! # Texts of variables

A variable of the environment is read as a truth value or a number if its text spells one, and as a
setting it is a text again. Which text that is, and for which texts it is the same. -/

namespace MapStandin.Settings

open Decimal (Whole Number)
open Text (SameText)

variable {t v : String} {n : Int}

/-! ## Whole numbers -/

def Fits (n : Int) : Prop := -(twoTo 63 : Int) ≤ n ∧ n < (twoTo 63 : Int)

theorem fits_iff : Fits n ↔ (-(twoTo 63 : Int) ≤ n && n ≤ greatestWhole) = true := by
  rw [Bool.and_eq_true, decide_eq_true_eq, decide_eq_true_eq, greatestWhole, Fits]
  omega

theorem whole?_eq_some_iff : whole? t = some n ↔ Whole t.toList n ∧ Fits n := by
  rw [whole?, fits_iff, Option.filter_eq_some_iff]
  refine and_congr_left fun _ => ?_
  generalize t.toList = cs
  obtain ⟨ds, rfl⟩ | ⟨ds, rfl⟩ | hsign := Decimal.sign_cases cs
  · rw [Decimal.whole_plus_iff]
    simp [Decimal.signedNumber?, Option.bind_eq_some_iff]
  · rw [Decimal.whole_minus_iff]
    simp [Option.bind_eq_some_iff]
  · rw [Decimal.whole_signless_iff hsign]
    match cs with
    | [] => simp [Decimal.signedNumber?, Decimal.number?]
    | c :: cs =>
      obtain ⟨hplus, hminus⟩ := hsign c rfl
      simp [Decimal.signedNumber?, hplus, hminus, Option.bind_eq_some_iff]

/-! ## Texts -/

/-- What the text of a variable becomes as the text of a setting. -/
inductive Respelled (t : String) : String → Prop
  | yes (named : SameText t "true") : Respelled t "true"
  | no (named : SameText t "false") : Respelled t "false"
  | whole {n : Int} (spelled : Whole t.toList n) (fits : Fits n) : Respelled t (toString n)
  | double {d : Decimal.Double} (spelled : Decimal.double? t.toList = some d)
      (large : ∀ n, Whole t.toList n → ¬ Fits n) : Respelled t (Decimal.plain.writeDouble d)
  | text (noFlag : ¬ SameText t "true" ∧ ¬ SameText t "false") (noNumber : ¬ Number t.toList) :
      Respelled t t

/-- The texts that stay as they are: a truth value in small letters, a number that is spelled as it
is written, and everything that spells neither. -/
inductive Kept : String → Prop
  | yes : Kept "true"
  | no : Kept "false"
  | whole {n : Int} (fits : Fits n) : Kept (toString n)
  | double {t : String} {d : Decimal.Double} (spelled : Decimal.double? t.toList = some d)
      (large : ∀ n, Whole t.toList n → ¬ Fits n) (written : Decimal.plain.writeDouble d = t) :
      Kept t
  | text {t : String} (noFlag : ¬ SameText t "true" ∧ ¬ SameText t "false")
      (noNumber : ¬ Number t.toList) : Kept t

theorem noFlag_of_number (h : Number t.toList) :
    ¬ SameText t "true" ∧ ¬ SameText t "false" := by
  obtain ⟨c, rest, hcs, hc⟩ := h.head
  have hfirst : ∀ {name : String} (d : Char), name.toList.head? = some d →
      SameText t name → c.toLower = d.toLower := by
    intro name d hd hsame
    rw [← String.ofList_toList (s := t)] at hsame
    obtain ⟨e, after, hcs', he⟩ := hsame.head d hd
    rwa [(List.cons.inj (hcs.symm.trans hcs')).1]
  constructor
  · intro hsame
    exact hc (hfirst 't' (by decide) hsame ▸ by decide)
  · intro hsame
    exact hc (hfirst 'f' (by decide) hsame ▸ by decide)

theorem exists_respelled (t : String) : ∃ v, Respelled t v := by
  by_cases hyes : SameText t "true"
  · exact ⟨_, .yes hyes⟩
  by_cases hno : SameText t "false"
  · exact ⟨_, .no hno⟩
  by_cases hwhole : ∃ n, Whole t.toList n ∧ Fits n
  · obtain ⟨n, hspelled, hfits⟩ := hwhole
    exact ⟨_, .whole hspelled hfits⟩
  by_cases hnumber : Number t.toList
  · obtain ⟨d, hd⟩ := Option.isSome_iff_exists.1 (Decimal.isSome_double?_iff.2 hnumber)
    exact ⟨_, .double hd fun n hspelled hfits => hwhole ⟨n, hspelled, hfits⟩⟩
  · exact ⟨_, .text ⟨hyes, hno⟩ hnumber⟩

theorem small_eq_iff {name : String} (hname : Text.small name = name) :
    Text.small t = name ↔ SameText t name := by
  rw [← Text.small_eq_iff, hname]

theorem ofText_noFlag (h : ¬ SameText t "true" ∧ ¬ SameText t "false") :
    ofText t = match whole? t with
      | some n => .whole n
      | none =>
        match Decimal.double? t.toList with
        | some d => .double d
        | none => .text t :=
  (if_neg (mt (small_eq_iff (by decide)).1 h.1)).trans
    (if_neg (mt (small_eq_iff (by decide)).1 h.2))

theorem whole?_eq_none (h : ∀ n, Whole t.toList n → ¬ Fits n) : whole? t = none :=
  Option.eq_none_iff_forall_not_mem.2 fun n hn =>
    h n (whole?_eq_some_iff.1 hn).1 (whole?_eq_some_iff.1 hn).2

theorem textOf_ofText (h : Respelled t v) (key : String) (origin : Option Origin) :
    textOf key (.scalar (ofText t) origin) = .ok v := by
  cases h with
  | yes named =>
    rw [ofText, if_pos ((small_eq_iff (by decide)).2 named)]
    rfl
  | no named =>
    have hsmall : Text.small t = "false" := (small_eq_iff (by decide)).2 named
    rw [ofText, if_neg (by rw [hsmall]; decide), if_pos hsmall]
    rfl
  | whole spelled fits =>
    rw [ofText_noFlag (noFlag_of_number spelled.number), whole?_eq_some_iff.2 ⟨spelled, fits⟩]
    rfl
  | double spelled large =>
    have hnumber : Number t.toList := Decimal.isSome_double?_iff.1 (by rw [spelled]; rfl)
    rw [ofText_noFlag (noFlag_of_number hnumber), whole?_eq_none large, spelled]
    rfl
  | text noFlag noNumber =>
    have hdouble : Decimal.double? t.toList = none :=
      Option.not_isSome_iff_eq_none.1 (mt Decimal.isSome_double?_iff.1 noNumber)
    rw [ofText_noFlag noFlag, whole?_eq_none fun n spelled _ => noNumber spelled.number, hdouble]
    rfl

theorem Respelled.unique {w : String} (h : Respelled t v) (h' : Respelled t w) : v = w :=
  Except.ok.inj ((textOf_ofText h "" none).symm.trans (textOf_ofText h' "" none))

theorem respelled_self_iff : Respelled t t ↔ Kept t := by
  -- the text is not an index of a case, so the two texts are kept apart until it is known
  have hkept : ∀ {v : String}, Respelled t v → v = t → Kept t := by
    rintro v (named | named | ⟨spelled, fits⟩ | ⟨spelled, large⟩ | ⟨noFlag, noNumber⟩) hv
    · exact hv ▸ .yes
    · exact hv ▸ .no
    · exact hv ▸ .whole fits
    · exact .double spelled large hv
    · exact .text noFlag noNumber
  constructor
  · exact fun h => hkept h rfl
  · rintro (_ | _ | fits | ⟨spelled, large, written⟩ | ⟨noFlag, noNumber⟩)
    · exact .yes (.refl _)
    · exact .no (.refl _)
    · exact .whole (Decimal.whole_toString _) fits
    · have hspelling := Respelled.double spelled large
      rwa [written] at hspelling
    · exact .text noFlag noNumber

instance (t : String) : Decidable (Kept t) :=
  decidable_of_iff (textOf "" (.scalar (ofText t) none) = .ok t) <| by
    rw [← respelled_self_iff]
    obtain ⟨v, hv⟩ := exists_respelled t
    rw [textOf_ofText hv, Except.ok.injEq]
    exact ⟨fun h => h ▸ hv, hv.unique⟩

example : Kept "secret" ∧ Kept "true" ∧ Kept "-0.5" ∧ Kept "1e" := by decide +kernel

example : ¬ Kept "007" ∧ ¬ Kept "+41" ∧ ¬ Kept "1e3" ∧ ¬ Kept "True" ∧ ¬ Kept "Infinity" := by
  decide +kernel

end MapStandin.Settings
