import MapStandin.Proofs.Decimal.Written
import MapStandin.Proofs.Text.Percent
import MapStandin.Url.Host

/-! # Hosts as they are written

A host is written as a name or as the four bytes of its number. It is read as what it says, and the
text of what is read is read as the same host again. -/

namespace MapStandin.Url

/-! ## Characters -/

def isHostChar (c : Char) : Bool := c.isAlphanum || c ∈ ['-', '_', '.']

section Characters

variable {c d : Char} {cs : List Char}

theorem toNat_of_isHostChar (h : isHostChar c = true) : 0x2B ≤ c.toNat ∧ c.toNat ≤ 0x7A := by
  simp only [isHostChar, Bool.or_eq_true, decide_eq_true_eq, List.mem_cons, List.not_mem_nil,
    or_false] at h
  obtain h | rfl | rfl | rfl := h
  · exact Decimal.toNat_of_isNumeral (by simp [Decimal.isNumeral, h])
  · decide
  · decide
  · decide

/-- What holds of a few characters can be tried for each of them. -/
theorem of_toNat_le {p : Char → Prop} (all : ∀ n, n < 0x7B → p (Char.ofNat n))
    (h : c.toNat ≤ 0x7A) : p c := by
  have hself := all c.toNat (Nat.lt_succ_of_le h)
  rwa [Char.ofNat_toNat] at hself

theorem of_isHostChar {p : Char → Prop}
    (all : ∀ n, n < 0x7B → isHostChar (Char.ofNat n) = true → p (Char.ofNat n))
    (h : isHostChar c = true) : p c :=
  of_toNat_le (p := fun c => isHostChar c = true → p c) all (toNat_of_isHostChar h).2 h

theorem ne_of_isHostChar (h : isHostChar c = true) (hd : isHostChar d = false) : c ≠ d := by
  rintro rfl
  simp [h] at hd

theorem not_mem_of_isHostChar (h : ∀ c ∈ cs, isHostChar c = true) (hd : isHostChar d = false) :
    d ∉ cs := fun hmem => ne_of_isHostChar (h d hmem) hd rfl

theorem isAscii_of_isHostChar (h : isHostChar c = true) : Domain.isAscii c = true := by
  have hnat := toNat_of_isHostChar h
  simp only [Domain.isAscii, decide_eq_true_eq]
  omega

theorem isHostChar_toLower (h : isHostChar c = true) : isHostChar c.toLower = true :=
  of_isHostChar (p := fun c => isHostChar c.toLower = true) (by decide +kernel) h

theorem toLower_toLower (h : isHostChar c = true) : c.toLower.toLower = c.toLower :=
  of_isHostChar (p := fun c => c.toLower.toLower = c.toLower) (by decide +kernel) h

theorem isDomainChar_of_isHostChar (h : isHostChar c = true) : Domain.isDomainChar c = true :=
  of_isHostChar (p := fun c => Domain.isDomainChar c = true) (by decide +kernel) h

theorem isHostChar_of_mem_small {s : String} (h : ∀ c ∈ s.toList, isHostChar c = true) :
    ∀ c ∈ (Text.small s).toList, isHostChar c = true := by
  intro c hc
  rw [Text.small, String.toList_ofList] at hc
  obtain ⟨d, hd, rfl⟩ := List.mem_map.1 hc
  exact isHostChar_toLower (h d hd)

theorem small_small {s : String} (h : ∀ c ∈ s.toList, isHostChar c = true) :
    Text.small (Text.small s) = Text.small s := by
  unfold Text.small
  rw [String.toList_ofList, List.map_map]
  exact congrArg String.ofList (List.map_congr_left fun c hc => toLower_toLower (h c hc))

end Characters

/-! ## Domain names -/

namespace Domain

variable {plain : List Char} {labels : List Label}

theorem written_of_ofPlain? {cs : List Char} {label : Label} (h : Label.ofPlain? cs = some label)
    (ascii : ∀ c ∈ cs, isAscii c = true) : label.written = cs := by
  unfold Label.ofPlain? at h
  split at h
  · obtain ⟨meant, -, rfl⟩ := Option.map_eq_some_iff.1 h
    rfl
  · rw [if_pos (List.all_eq_true.2 ascii)] at h
    obtain rfl := Option.some.inj h
    rfl

theorem written_of_mapM {parts : List (List Char)} (h : parts.mapM Label.ofPlain? = some labels)
    (ascii : ∀ cs ∈ parts, ∀ c ∈ cs, isAscii c = true) : labels.map Label.written = parts := by
  induction parts generalizing labels with
  | nil =>
    obtain rfl : [] = labels := by simpa using h
    rfl
  | cons cs parts ih =>
    rw [List.mapM_cons] at h
    obtain ⟨label, hlabel, h⟩ := Option.bind_eq_some_iff.1 h
    obtain ⟨others, hothers, h⟩ := Option.bind_eq_some_iff.1 h
    obtain rfl := Option.some.inj h
    obtain ⟨hcs, hparts⟩ := List.forall_mem_cons.1 ascii
    rw [List.map_cons, written_of_ofPlain? hlabel hcs, ih hothers hparts]

theorem written_labels (h : labels? plain = some labels) (ascii : ∀ c ∈ plain, isAscii c = true) :
    ['.'].intercalate (labels.map Label.written) = plain := by
  have hparts : ∀ cs ∈ Text.fields '.' plain, ∀ c ∈ cs, isAscii c = true := fun cs hcs c hc =>
    ascii c (Text.mem_of_mem_fields hcs hc)
  unfold labels? at h
  obtain ⟨labels', hlabels, h⟩ := Option.bind_eq_some_iff.1 h
  have hsame : labels' = labels := by
    split at h
    · simp at h
    · exact Option.some.inj h
  rw [← hsame, written_of_mapM hlabels hparts, Text.intercalate_fields]

theorem ascii?_eq_some {domain : List Char} (chars : ∀ c ∈ domain, isHostChar c = true)
    (labels : (labels? (domain.map Char.toLower)).isSome = true) :
    ascii? domain = some (domain.map Char.toLower) := by
  obtain ⟨all, hall⟩ := Option.isSome_iff_exists.1 labels
  have hascii : domain.all isAscii = true :=
    List.all_eq_true.2 fun c hc => isAscii_of_isHostChar (chars c hc)
  have hsmall : ∀ c ∈ domain.map Char.toLower, isHostChar c = true := by
    intro c hc
    obtain ⟨d, hd, rfl⟩ := List.mem_map.1 hc
    exact isHostChar_toLower (chars d hd)
  unfold ascii?
  simp only [if_pos hascii, hall, Option.bind_eq_bind, Option.bind_some]
  rw [written_labels hall fun c hc => isAscii_of_isHostChar (hsmall c hc), if_pos]
  exact List.all_eq_true.2 fun c hc => isDomainChar_of_isHostChar (hsmall c hc)

theorem mapM_of_unmarked {parts : List (List Char)}
    (h : ∀ cs ∈ parts, ¬ encodedMark <+: cs ∧ ∀ c ∈ cs, isAscii c = true) :
    parts.mapM Label.ofPlain? = some (parts.map fun cs => ⟨cs, cs⟩) := by
  induction parts with
  | nil => rfl
  | cons cs parts ih =>
    obtain ⟨⟨hmark, hascii⟩, hparts⟩ := List.forall_mem_cons.1 h
    have hnone : Text.afterList encodedMark cs = none :=
      Option.not_isSome_iff_eq_none.1 (mt Text.afterList_isSome_iff.1 hmark)
    have hself : Label.ofPlain? cs = some ⟨cs, cs⟩ := by
      unfold Label.ofPlain?
      rw [hnone]
      exact if_pos (List.all_eq_true.2 hascii)
    rw [List.mapM_cons, hself, ih hparts]
    rfl

theorem turnsRight_eq_false {cs : List Char} (h : ∀ c ∈ cs, isHostChar c = true) :
    Label.turnsRight ⟨cs, cs⟩ = false := by
  refine List.any_eq_false.2 fun c hc => ?_
  exact of_isHostChar (p := fun c => ¬ (Unicode.direction c = .right ||
    Unicode.direction c = .arabicNumber) = true) (by decide +kernel) (h c hc)

theorem labels?_isSome (chars : ∀ c ∈ plain, isHostChar c = true)
    (unmarked : ∀ cs ∈ Text.fields '.' plain, ¬ encodedMark <+: cs) :
    (labels? plain).isSome = true := by
  have hchars : ∀ cs ∈ Text.fields '.' plain, ∀ c ∈ cs, isHostChar c = true := fun cs hcs c hc =>
    chars c (Text.mem_of_mem_fields hcs hc)
  have hlabels := mapM_of_unmarked fun cs hcs =>
    ⟨unmarked cs hcs, fun c hc => isAscii_of_isHostChar (hchars cs hcs c hc)⟩
  have hturns : ((Text.fields '.' plain).map fun cs => (⟨cs, cs⟩ : Label)).any
      Label.turnsRight = false := by
    simp only [List.any_eq_false, List.mem_map, forall_exists_index, and_imp,
      forall_apply_eq_imp_iff₂]
    exact fun cs hcs => by simp [turnsRight_eq_false (hchars cs hcs)]
  unfold labels?
  simp only [hlabels, Option.bind_eq_bind, Option.bind_some, hturns, Bool.false_and,
    Bool.false_eq_true, if_false]
  rfl

end Domain

/-! ## Names -/

/-- A name that stands for a host: its labels are sound, and its last part is no number. -/
structure HostName (name : String) : Prop where
  chars : ∀ c ∈ name.toList, isHostChar c = true
  notEmpty : name ≠ ""
  labels : (Domain.labels? (Text.small name).toList).isSome = true
  noNumber : Host.endsInNumber (Text.small name).toList = false

theorem HostName.small {name : String} (h : HostName name) : HostName (Text.small name) where
  chars := isHostChar_of_mem_small h.chars
  notEmpty := by
    intro hempty
    have htext := congrArg String.toList hempty
    rw [Text.small, String.toList_ofList] at htext
    exact h.notEmpty (String.toList_injective (List.map_eq_nil_iff.1 htext))
  labels := by rw [small_small h.chars]; exact h.labels
  noNumber := by rw [small_small h.chars]; exact h.noNumber

namespace Host

theorem v4Part?_of_letter {c : Char} {cs : List Char} (letter : c.isAlpha = true) :
    v4Part? (c :: cs) = none := by
  have hchar : isHostChar c = true := by simp [isHostChar, Char.isAlphanum, letter]
  have hzero : c ≠ '0' := by
    rintro rfl
    simp at letter
  have hvalue : ∀ d, Hex.value? c = some d → ¬ d < 10 := by
    have all := of_isHostChar (p := fun c => c.isAlpha = true →
      (Hex.value? c).all (10 ≤ ·) = true) (by decide +kernel) hchar letter
    intro d hd
    simpa [hd] using all
  have hdecimal : inBase? 10 (c :: cs) = none := by
    unfold inBase?
    rw [List.foldlM_cons]
    cases hd : Hex.value? c with
    | none => rfl
    | some d => simp [hvalue d hd]
  unfold v4Part?
  split
  · rfl
  · exact absurd (List.cons_eq_cons.1 ‹_›).1 hzero
  · exact absurd (List.cons_eq_cons.1 ‹_›).1 hzero
  · exact hdecimal

theorem endsInNumber_of_letter {domain cs : List Char} {c : Char}
    (last : (parts domain).getLast? = some (c :: cs)) (letter : c.isAlpha = true) :
    endsInNumber domain = false := by
  have hdigit : c.isDigit = false :=
    of_isHostChar (p := fun c => c.isAlpha = true → c.isDigit = false) (by decide +kernel)
      (by simp [isHostChar, Char.isAlphanum, letter]) letter
  unfold endsInNumber
  rw [last]
  simp [v4Part?_of_letter letter, hdigit]

end Host

theorem HostName.of_letter {name : String} {c : Char} {cs : List Char}
    (chars : ∀ c ∈ name.toList, isHostChar c = true)
    (unmarked : ∀ cs ∈ Text.fields '.' (Text.small name).toList, ¬ Domain.encodedMark <+: cs)
    (last : (Host.parts (Text.small name).toList).getLast? = some (c :: cs))
    (letter : c.isAlpha = true) : HostName name where
  chars := chars
  notEmpty := by
    rintro rfl
    have hempty : (Host.parts (Text.small "").toList).getLast? = some [] := by decide
    simp [hempty] at last
  labels := Domain.labels?_isSome (isHostChar_of_mem_small chars) unmarked
  noNumber := Host.endsInNumber_of_letter last letter

namespace Host

variable {s : String} {host : Host}

theorem read_eq (chars : ∀ c ∈ s.toList, isHostChar c = true) (notEmpty : s ≠ "")
    (labels : (Domain.labels? (Text.small s).toList).isSome = true) :
    read true s.toList =
      if endsInNumber (Text.small s).toList then readV4 (Text.small s).toList
      else .ok (.name (Text.small s)) := by
  have hsmall : (Text.small s).toList = s.toList.map Char.toLower := String.toList_ofList
  have hdecode : Utf8.decode? (Percent.decode (Utf8.encodeList s.toList)) = some s := by
    rw [Percent.decode_encodeList (not_mem_of_isHostChar chars (by decide))]
    exact Utf8.decode?_eq_some_iff.2 rfl
  have hempty : s.toList.map Char.toLower ≠ [] := fun h =>
    notEmpty (String.toList_injective (List.map_eq_nil_iff.1 h))
  rw [hsmall] at labels ⊢
  have hdomain : read true s.toList = readDomain s.toList := by
    have hbracket : '[' ∉ s.toList := not_mem_of_isHostChar chars (by decide)
    unfold read
    split
    · rename_i hs
      simp [hs] at hbracket
    · rfl
  rw [hdomain]
  unfold readDomain
  simp only [hdecode, Domain.ascii?_eq_some chars labels, if_neg hempty]
  rfl

/-! ## Numbers -/

theorem v4Part?_toDigits {n : Nat} (h : n < 256) : v4Part? (Nat.toDigits 10 n) = some n := by
  have all : ∀ k, k < 256 → v4Part? (Nat.toDigits 10 k) = some k := by decide +kernel
  exact all n h

/-- The characters of the four bytes of a number. -/
def dotted (a b c d : Nat) : List Char :=
  Nat.toDigits 10 a ++ '.' :: (Nat.toDigits 10 b ++ '.' ::
    (Nat.toDigits 10 c ++ '.' :: Nat.toDigits 10 d))

variable {a b c d : Nat}

theorem fields_dotted : Text.fields '.' (dotted a b c d) =
    [Nat.toDigits 10 a, Nat.toDigits 10 b, Nat.toDigits 10 c, Nat.toDigits 10 d] := by
  have hpoint : ∀ n, '.' ∉ Nat.toDigits 10 n := fun n hn =>
    absurd (Nat.isDigit_of_mem_toDigits (by decide) (by decide) hn) (by decide)
  unfold dotted
  rw [Text.fields_append_sep, Text.fields_append_sep, Text.fields_append_sep,
    Text.fields_of_not_mem (hpoint a), Text.fields_of_not_mem (hpoint b),
    Text.fields_of_not_mem (hpoint c), Text.fields_of_not_mem (hpoint d)]
  rfl

theorem parts_dotted : parts (dotted a b c d) =
    [Nat.toDigits 10 a, Nat.toDigits 10 b, Nat.toDigits 10 c, Nat.toDigits 10 d] := by
  unfold parts
  rw [fields_dotted]
  split
  · rename_i h
    exact absurd (List.cons_eq_cons.1 h).1 Nat.toDigits_ne_nil
  · rfl

theorem endsInNumber_dotted : endsInNumber (dotted a b c d) = true := by
  have hdigits : (Nat.toDigits 10 d).all Char.isDigit = true :=
    List.all_eq_true.2 fun c hc => Nat.isDigit_of_mem_toDigits (by decide) (by decide) hc
  unfold endsInNumber
  rw [parts_dotted]
  simp [hdigits, Nat.toDigits_ne_nil]

theorem v4OfParts_reverse {ps before : List Nat} {last : Nat} (h : ps.reverse = last :: before) :
    v4OfParts ps =
      if 3 < before.length || before.any (255 < ·) || twoTo (32 - 8 * before.length) ≤ last then
        none
      else some (before.reverse.foldr (fun p n => p * twoTo 24 + n / 256) 0 + last) := by
  unfold v4OfParts
  rw [h]

/-! The powers of two are variables here, since they are too large to be computed with. -/

theorem sum_bytes {k : Nat} (h : k = 16777216) (a b c : Nat) :
    [c, b, a].reverse.foldr (fun p n => p * k + n / 256) 0 = ((a * 256 + b) * 256 + c) * 256 := by
  have hsum : a * k + (b * k + (c * k + 0 / 256) / 256) / 256 =
      ((a * 256 + b) * 256 + c) * 256 := by
    subst h
    omega
  exact hsum

theorem bytes_of_lt {n p q r t : Nat} (h : n < p) (hp : p = 4294967296) (hq : q = 16777216)
    (hr : r = 65536) (ht : t = 256) :
    n / q < 256 ∧ ((n / q * 256 + n / r % 256) * 256 + n / t % 256) * 256 + n % 256 = n := by
  subst hp hq hr ht
  omega

theorem v4OfParts_bytes (ha : a < 256) (hb : b < 256) (hc : c < 256) (hd : d < 256) :
    v4OfParts [a, b, c, d] = some (((a * 256 + b) * 256 + c) * 256 + d) := by
  have hlimit : ¬ twoTo (32 - 8 * [c, b, a].length) ≤ d := by
    have hpower : twoTo (32 - 8 * [c, b, a].length) = 256 := by simp [twoTo]
    omega
  have hbytes : [c, b, a].any (255 < ·) = false := by
    simp only [List.any_cons, List.any_nil, Bool.or_false, Bool.or_eq_false_iff,
      decide_eq_false_iff_not]
    omega
  have hreverse : [a, b, c, d].reverse = d :: [c, b, a] := rfl
  rw [v4OfParts_reverse hreverse, hbytes, decide_eq_false hlimit, sum_bytes (by simp [twoTo])]
  rfl

theorem readV4_dotted (ha : a < 256) (hb : b < 256) (hc : c < 256) (hd : d < 256) :
    readV4 (dotted a b c d) = .ok (.v4 (((a * 256 + b) * 256 + c) * 256 + d)) := by
  have hparts : (parts (dotted a b c d)).mapM v4Part? = some [a, b, c, d] := by
    rw [parts_dotted]
    simp [v4Part?_toDigits ha, v4Part?_toDigits hb, v4Part?_toDigits hc, v4Part?_toDigits hd]
  unfold readV4
  rw [hparts, Option.bind_some, v4OfParts_bytes ha hb hc hd]

theorem toList_text_v4 (n : Nat) : (Host.v4 n).text.toList =
    dotted (n / twoTo 24) (n / twoTo 16 % 256) (n / twoTo 8 % 256) (n % 256) := by
  have hdigits : ∀ k : Nat, (toString k).toList = Nat.toDigits 10 k := fun k => by
    rw [Nat.toString_eq_ofList_toDigits, String.toList_ofList]
  have hpoint : ".".toList = ['.'] := rfl
  unfold text dotted
  simp only [List.map_cons, List.map_nil, String.intercalate_cons_cons, String.toList_append,
    hpoint, hdigits, List.append_assoc, List.singleton_append]
  simp

theorem of_mem_dotted {x : Char} (h : x ∈ dotted a b c d) : x.isDigit = true ∨ x = '.' := by
  simp only [dotted, List.mem_append, List.mem_cons] at h
  rcases h with h | rfl | h | rfl | h | rfl | h
  all_goals first
    | exact .inr rfl
    | exact .inl (Nat.isDigit_of_mem_toDigits (by decide) (by decide) h)

theorem isHostChar_of_mem_dotted {x : Char} (h : x ∈ dotted a b c d) : isHostChar x = true := by
  obtain hdigit | rfl := of_mem_dotted h
  · simp [isHostChar, Char.isAlphanum, hdigit]
  · decide

theorem toLower_dotted : (dotted a b c d).map Char.toLower = dotted a b c d := by
  have hsame : ∀ x ∈ dotted a b c d, x.toLower = x := fun x hx =>
    of_isHostChar (p := fun x => x.isDigit = true ∨ x = '.' → x.toLower = x) (by decide +kernel)
      (isHostChar_of_mem_dotted hx) (of_mem_dotted hx)
  rw [List.map_congr_left hsame, List.map_id']

theorem labels?_dotted : (Domain.labels? (dotted a b c d)).isSome = true := by
  refine Domain.labels?_isSome (fun x hx => isHostChar_of_mem_dotted hx) fun cs hcs hmark => ?_
  have hdigits : ∀ x ∈ cs, x.isDigit = true := by
    intro x hx
    rw [fields_dotted] at hcs
    simp only [List.mem_cons, List.not_mem_nil, or_false] at hcs
    rcases hcs with rfl | rfl | rfl | rfl
    all_goals exact Nat.isDigit_of_mem_toDigits (by decide) (by decide) hx
  have hx : 'x' ∈ cs := hmark.subset (by decide)
  exact absurd (hdigits 'x' hx) (by decide)

/-! ## What is written and what is read -/

/-- What a written host is read as. -/
inductive Written : String → Host → Prop
  | name {name : String} (h : HostName name) : Written name (.name (Text.small name))
  | number {n : Nat} (h : n < twoTo 32) : Written (Host.v4 n).text (.v4 n)

theorem Written.chars (h : Written s host) : ∀ c ∈ s.toList, isHostChar c = true := by
  cases h with
  | name h => exact h.chars
  | number h =>
    rw [toList_text_v4]
    exact fun c hc => isHostChar_of_mem_dotted hc

theorem Written.notEmpty (h : Written s host) : s ≠ "" := by
  cases h with
  | name h => exact h.notEmpty
  | @number n h =>
    intro hempty
    have htext := toList_text_v4 n
    simp [hempty, dotted] at htext

theorem Written.read_eq (h : Written s host) : read true s.toList = .ok host := by
  have hchars := h.chars
  have hempty := h.notEmpty
  cases h with
  | name h => rw [Host.read_eq hchars hempty h.labels, if_neg (by simp [h.noNumber])]
  | @number n h =>
    have hsmall : (Text.small (Host.v4 n).text).toList = dotted (n / twoTo 24)
        (n / twoTo 16 % 256) (n / twoTo 8 % 256) (n % 256) := by
      rw [Text.small, String.toList_ofList, toList_text_v4, toLower_dotted]
    obtain ⟨hfirst, hsum⟩ := bytes_of_lt (q := twoTo 24) (r := twoTo 16) (t := twoTo 8) h
      (by simp [twoTo]) (by simp [twoTo]) (by simp [twoTo]) (by simp [twoTo])
    rw [Host.read_eq hchars hempty (hsmall ▸ labels?_dotted), hsmall, if_pos endsInNumber_dotted,
      readV4_dotted hfirst (Nat.mod_lt _ (by decide)) (Nat.mod_lt _ (by decide))
        (Nat.mod_lt _ (by decide)), hsum]

theorem Written.text (h : Written s host) : Written host.text host := by
  cases h with
  | @name name h =>
    have hagain := Written.name h.small
    rw [small_small h.chars] at hagain
    exact hagain
  | number h => exact .number h

end Host

end MapStandin.Url
