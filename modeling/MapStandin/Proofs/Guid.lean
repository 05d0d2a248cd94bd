import Mathlib.Data.List.Forall2
import Mathlib.Data.Nat.Digits.Lemmas
import MapStandin.Parameter.Kind

/-! # The one spelling of a GUID

An identifier can be spelled without hyphens, with them, in braces and as a resource name, with
digits of either case. A parameter accepts the canonical spelling of a random identifier only. -/

namespace MapStandin

/-! ## Digits -/

namespace Hex

def IsSmall (c : Char) : Prop := ('0' ≤ c ∧ c ≤ '9') ∨ ('a' ≤ c ∧ c ≤ 'f')

instance (c : Char) : Decidable (IsSmall c) :=
  inferInstanceAs (Decidable (('0' ≤ c ∧ c ≤ '9') ∨ ('a' ≤ c ∧ c ≤ 'f')))

theorem value?_lt {c : Char} {v : Nat} (h : value? c = some v) : v < 16 := by
  have hle : ∀ {d : Char}, c ≤ d → c.toNat ≤ d.toNat := fun h => h
  unfold value? small? at h
  split at h
  · next hc =>
    have hmost : c.toNat ≤ 70 := hle hc.2
    have hletter : 'A'.toNat = 65 := rfl
    cases h
    omega
  · split at h
    · next hc =>
      have hmost : c.toNat ≤ 57 := hle hc.2
      have hdigit : '0'.toNat = 48 := rfl
      cases h
      omega
    · split at h
      · next hc =>
        have hmost : c.toNat ≤ 102 := hle hc.2
        have hletter : 'a'.toNat = 97 := rfl
        cases h
        omega
      · cases h

theorem value?_digit {v : Nat} (h : v < 16) : value? (digit v) = some v := by
  have all : ∀ k ∈ List.range 16, value? (digit k) = some k := by decide
  exact all v (List.mem_range.2 h)

theorem isSmall_digit {v : Nat} (h : v < 16) : IsSmall (digit v) := by
  have all : ∀ k ∈ List.range 16, IsSmall (digit k) := by decide
  exact all v (List.mem_range.2 h)

theorem exists_digit_of_isSmall {c : Char} (h : IsSmall c) : ∃ v < 16, c = digit v := by
  have hle : ∀ {d e : Char}, d ≤ e → d.toNat ≤ e.toNat := fun h => h
  rcases h with ⟨low, high⟩ | ⟨low, high⟩
  · have hleast : 48 ≤ c.toNat := hle low
    have hmost : c.toNat ≤ 57 := hle high
    refine ⟨c.toNat - 48, by omega, ?_⟩
    rw [digit, if_pos (by omega), show '0'.toNat = 48 from rfl, Nat.add_sub_cancel' hleast,
      Char.ofNat_toNat]
  · have hleast : 97 ≤ c.toNat := hle low
    have hmost : c.toNat ≤ 102 := hle high
    refine ⟨c.toNat - 87, by omega, ?_⟩
    rw [digit, if_neg (by omega), show 'a'.toNat = 97 from rfl,
      show 97 + (c.toNat - 87 - 10) = c.toNat by omega, Char.ofNat_toNat]

end Hex

namespace Guid

variable {s : String} {g : Guid} {cs ds rest : List Char} {vs : List Nat} {n m count : Nat}

/-- Characters are digits of either case with these values. -/
def Digits (ds : List Char) (vs : List Nat) : Prop :=
  List.Forall₂ (fun c v => Hex.value? c = some v) ds vs

/-- The number that digits make, the first digit counting most. -/
def numberOf (vs : List Nat) : Nat := Nat.ofDigits 16 vs.reverse

theorem numberOf_cons (v : Nat) (vs : List Nat) :
    numberOf (v :: vs) = numberOf vs + 16 ^ vs.length * v := by
  rw [numberOf, Nat.ofDigits_reverse_cons]
  rfl

theorem numberOf_append (vs ws : List Nat) :
    numberOf (vs ++ ws) = numberOf vs * 16 ^ ws.length + numberOf ws := by
  rw [numberOf, List.reverse_append, Nat.ofDigits_append, List.length_reverse, Nat.add_comm,
    Nat.mul_comm]
  rfl

theorem Digits.lt (h : Digits ds vs) : ∀ v ∈ vs, v < 16 := by
  induction h with
  | nil => exact nofun
  | cons hc _ ih =>
    rintro v (_ | ⟨_, hv⟩)
    · exact Hex.value?_lt hc
    · exact ih v hv

theorem digits_map_digit (h : ∀ v ∈ vs, v < 16) : Digits (vs.map Hex.digit) vs := by
  rw [Digits, List.forall₂_map_left_iff, List.forall₂_same]
  exact fun v hv => Hex.value?_digit (h v hv)

/-! ## Reading groups of digits -/

theorem readGroup_eq_some_iff :
    readGroup count n cs = some (m, rest) ↔
      ∃ ds vs, cs = ds ++ rest ∧ Digits ds vs ∧ vs.length = count ∧
        m = n * 16 ^ count + numberOf vs := by
  -- The induction is on the digits that are still to be read into `n`.
  induction count generalizing n cs with
  | zero =>
    rw [readGroup, Option.some.injEq, Prod.mk.injEq]
    constructor
    · rintro ⟨rfl, rfl⟩
      exact ⟨[], [], rfl, .nil, rfl, by simp [numberOf]⟩
    · rintro ⟨ds, vs, rfl, hds, hlen, rfl⟩
      obtain rfl := List.eq_nil_of_length_eq_zero hlen
      cases hds
      simp [numberOf]
  | succ count ih =>
    cases cs with
    | nil =>
      simp only [readGroup, reduceCtorEq, false_iff]
      rintro ⟨ds, vs, hnil, hds, hlen, -⟩
      obtain ⟨rfl, -⟩ := List.append_eq_nil_iff.1 hnil.symm
      cases hds
      cases hlen
    | cons c cs =>
      rw [readGroup, Option.bind_eq_some_iff]
      simp only [ih]
      constructor
      · rintro ⟨v, hv, ds, vs, rfl, hds, rfl, rfl⟩
        refine ⟨c :: ds, v :: vs, rfl, .cons hv hds, rfl, ?_⟩
        rw [numberOf_cons]
        ring
      · rintro ⟨ds, vs, hcs, hds, hlen, rfl⟩
        cases hds with
        | nil => cases hlen
        | @cons c' v ds vs hv hds =>
          obtain ⟨rfl, rfl⟩ := List.cons.inj hcs
          obtain rfl := Nat.succ.inj hlen
          refine ⟨v, hv, ds, vs, rfl, hds, rfl, ?_⟩
          rw [numberOf_cons]
          ring

theorem hyphenate_append {sizes : List Nat} (hsizes : sizes ≠ []) (hds : ds.length = count)
    (ds' : List Char) :
    hyphenate (count :: sizes) (ds ++ ds') = ds ++ '-' :: hyphenate sizes ds' := by
  cases sizes with
  | nil => exact absurd rfl hsizes
  | cons size sizes => rw [hyphenate, List.take_left' hds, List.drop_left' hds]; exact nofun

theorem readGroups_eq_some_iff {sizes : List Nat} (hsizes : sizes ≠ []) :
    readGroups sizes n cs = some m ↔
      ∃ ds vs, cs = hyphenate sizes ds ∧ Digits ds vs ∧ vs.length = sizes.sum ∧
        m = n * 16 ^ sizes.sum + numberOf vs := by
  induction sizes generalizing n cs with
  | nil => exact absurd rfl hsizes
  | cons count sizes ih =>
    cases sizes with
    | nil =>
      have hread : readGroups [count] n cs = some m ↔ readGroup count n cs = some (m, []) := by
        rw [readGroups]
        split
        · next h => simp [h]
        · next h => simp only [reduceCtorEq, false_iff]; exact h m
      rw [hread, readGroup_eq_some_iff]
      simp only [List.append_nil, hyphenate, List.sum_cons, List.sum_nil, Nat.add_zero]
    | cons size sizes =>
      have hne : size :: sizes ≠ [] := List.cons_ne_nil _ _
      have hsum : (count :: size :: sizes).sum = count + (size :: sizes).sum := List.sum_cons
      have hread : readGroups (count :: size :: sizes) n cs = some m ↔
          ∃ k cs', readGroup count n cs = some (k, '-' :: cs') ∧
            readGroups (size :: sizes) k cs' = some m := by
        rw [readGroups]
        · split
          · next k cs' h => simp [h]
          · next h =>
            simp only [reduceCtorEq, false_iff]
            rintro ⟨k, cs', hk, -⟩
            exact h k cs' hk
        · exact nofun
      rw [hread]
      simp only [readGroup_eq_some_iff, ih hne]
      constructor
      · rintro ⟨k, cs', ⟨ds, vs, rfl, hds, hlen, rfl⟩, ds', vs', rfl, hds', hlen', rfl⟩
        have hcount : ds.length = count := hds.length_eq.trans hlen
        refine ⟨ds ++ ds', vs ++ vs', (hyphenate_append hne hcount ds').symm,
          List.rel_append hds hds', by simp [hlen, hlen'], ?_⟩
        rw [numberOf_append, hsum, hlen', pow_add]
        ring
      · rintro ⟨ds, vs, rfl, hds, hlen, rfl⟩
        -- all digits are given at once: the first group takes `count` of them
        rw [hsum] at hlen
        have hcount : (ds.take count).length = count := by
          rw [List.length_take, hds.length_eq, hlen]
          exact Nat.min_eq_left (Nat.le_add_right _ _)
        have hvs : vs = vs.take count ++ vs.drop count := (List.take_append_drop count vs).symm
        have hrest : (vs.drop count).length = (size :: sizes).sum := by
          rw [List.length_drop, hlen, Nat.add_sub_cancel_left]
        refine ⟨_, hyphenate (size :: sizes) (ds.drop count),
          ⟨ds.take count, vs.take count, ?_, List.forall₂_take count hds, ?_, rfl⟩,
          ds.drop count, vs.drop count, rfl, List.forall₂_drop count hds, hrest, ?_⟩
        · rw [← hyphenate_append hne hcount, List.take_append_drop]
        · rw [List.length_take, hlen]
          exact Nat.min_eq_left (Nat.le_add_right _ _)
        · conv_lhs => rw [hvs, numberOf_append, hrest]
          rw [hsum, pow_add]
          ring

/-! ## The ways to spell an identifier -/

/-- The identifier with these digits. -/
def ofDigits (vs : List Nat) : Guid := ⟨BitVec.ofNat 128 (numberOf vs)⟩

/-- The ways to spell an identifier with 32 digits. -/
inductive Spelling (ds : List Char) : List Char → Prop
  | simple : Spelling ds ds
  | hyphenated : Spelling ds (hyphenate groups ds)
  | braced : Spelling ds ('\x7b' :: (hyphenate groups ds ++ ['\x7d']))
  | resourceName : Spelling ds (resourceMark.toList ++ hyphenate groups ds)

theorem length_hyphenate (h : ds.length = size) : (hyphenate groups ds).length = 36 := by
  simp [hyphenate, groups, h, size]

theorem simple?_eq_some_iff :
    simple? cs = some n ↔ ∃ vs, Digits cs vs ∧ vs.length = size ∧ n = numberOf vs := by
  rw [simple?, readGroups_eq_some_iff (List.cons_ne_nil _ _)]
  constructor
  · rintro ⟨ds, vs, rfl, hds, hlen, rfl⟩
    exact ⟨vs, hds, hlen, by simp⟩
  · rintro ⟨vs, hcs, hlen, rfl⟩
    exact ⟨cs, vs, rfl, hcs, hlen, by simp⟩

theorem hyphenated?_eq_some_iff :
    hyphenated? cs = some n ↔
      ∃ ds vs, cs = hyphenate groups ds ∧ Digits ds vs ∧ vs.length = size ∧ n = numberOf vs := by
  have hgroups : groups ≠ [] := List.cons_ne_nil _ _
  rw [hyphenated?, readGroups_eq_some_iff hgroups]
  simp only [Nat.zero_mul, Nat.zero_add]
  rfl

theorem braced?_eq_some_iff :
    braced? cs = some n ↔
      ∃ inner, cs = '\x7b' :: (inner ++ ['\x7d']) ∧ hyphenated? inner = some n := by
  constructor
  · intro h
    unfold braced? at h
    split at h
    · next rest =>
      split at h
      · next hlast =>
        exact ⟨rest.dropLast, congrArg _ (List.dropLast_append_getLast? _ hlast).symm, h⟩
      · cases h
    · cases h
  · rintro ⟨inner, rfl, h⟩
    rw [braced?, List.getLast?_concat, if_pos rfl, List.dropLast_concat, h]

theorem resourceName?_eq_some_iff :
    resourceName? cs = some n ↔
      ∃ inner, cs = resourceMark.toList ++ inner ∧ hyphenated? inner = some n := by
  simp only [resourceName?, Option.bind_eq_some_iff, Text.afterList_eq_some_iff]

theorem length_of_simple? (h : simple? cs = some n) : cs.length = 32 := by
  obtain ⟨vs, hds, hlen, -⟩ := simple?_eq_some_iff.1 h
  exact hds.length_eq.trans hlen

theorem length_of_hyphenated? (h : hyphenated? cs = some n) : cs.length = 36 := by
  obtain ⟨ds, vs, rfl, hds, hlen, -⟩ := hyphenated?_eq_some_iff.1 h
  exact length_hyphenate (hds.length_eq.trans hlen)

theorem length_of_braced? (h : braced? cs = some n) : cs.length = 38 := by
  obtain ⟨inner, rfl, hinner⟩ := braced?_eq_some_iff.1 h
  simp [length_of_hyphenated? hinner]

/-- The ways to spell an identifier differ in length, so that a text is read in one way only. -/
theorem ofText?_eq_some_iff :
    ofText? s = some g ↔
      ∃ ds vs, Spelling ds s.toList ∧ Digits ds vs ∧ vs.length = size ∧ g = ofDigits vs := by
  generalize hcs : s.toList = cs
  have hother : ∀ {f : List Char → Option Nat} {k : Nat}, (∀ n, f cs = some n → cs.length = k) →
      cs.length ≠ k → f cs = none := fun hf hk =>
    Option.eq_none_iff_forall_ne_some.2 fun n h => hk (hf n h)
  simp only [ofText?, hcs, Option.map_eq_some_iff, Option.or_eq_some_iff]
  constructor
  · rintro ⟨n, h | ⟨-, h | ⟨-, h | ⟨-, h⟩⟩⟩, rfl⟩
    · obtain ⟨vs, hds, hlen, rfl⟩ := simple?_eq_some_iff.1 h
      exact ⟨cs, vs, .simple, hds, hlen, rfl⟩
    · obtain ⟨ds, vs, rfl, hds, hlen, rfl⟩ := hyphenated?_eq_some_iff.1 h
      exact ⟨ds, vs, .hyphenated, hds, hlen, rfl⟩
    · obtain ⟨inner, rfl, hinner⟩ := braced?_eq_some_iff.1 h
      obtain ⟨ds, vs, rfl, hds, hlen, rfl⟩ := hyphenated?_eq_some_iff.1 hinner
      exact ⟨ds, vs, .braced, hds, hlen, rfl⟩
    · obtain ⟨inner, rfl, hinner⟩ := resourceName?_eq_some_iff.1 h
      obtain ⟨ds, vs, rfl, hds, hlen, rfl⟩ := hyphenated?_eq_some_iff.1 hinner
      exact ⟨ds, vs, .resourceName, hds, hlen, rfl⟩
  · rintro ⟨ds, vs, hspelling, hds, hlen, rfl⟩
    have hinner : hyphenated? (hyphenate groups ds) = some (numberOf vs) :=
      hyphenated?_eq_some_iff.2 ⟨ds, vs, rfl, hds, hlen, rfl⟩
    have h36 := length_of_hyphenated? hinner
    refine ⟨numberOf vs, ?_, rfl⟩
    -- the readers before the right one fail, as their texts have another length
    cases hspelling with
    | simple => exact .inl (simple?_eq_some_iff.2 ⟨vs, hds, hlen, rfl⟩)
    | hyphenated =>
      exact .inr ⟨hother (fun _ => length_of_simple?) (by omega), .inl hinner⟩
    | braced =>
      refine .inr ⟨hother (fun _ => length_of_simple?) (by simp [h36]), .inr
        ⟨hother (fun _ => length_of_hyphenated?) (by simp [h36]), .inl ?_⟩⟩
      exact braced?_eq_some_iff.2 ⟨_, rfl, hinner⟩
    | resourceName =>
      have hmark : resourceMark.toList.length = 9 := rfl
      refine .inr ⟨hother (fun _ => length_of_simple?) (by simp [h36, hmark]), .inr
        ⟨hother (fun _ => length_of_hyphenated?) (by simp [h36, hmark]), .inr
          ⟨hother (fun _ => length_of_braced?) (by simp [h36, hmark]), ?_⟩⟩⟩
      exact resourceName?_eq_some_iff.2 ⟨_, rfl, hinner⟩

/-! ## Digits of an identifier -/

theorem length_digitsDown (bits : BitVec 128) (count place : Nat) :
    (digitsDown bits count place).length = count := by
  induction count with
  | zero => rfl
  | succ count ih => rw [digitsDown, List.length_cons, ih]

theorem getElem_digitsDown (bits : BitVec 128) (count place i : Nat)
    (h : i < (digitsDown bits count place).length) :
    (digitsDown bits count place)[i] = Hex.digit (nibble bits (place + (count - 1 - i))) := by
  induction count generalizing i with
  | zero => cases h
  | succ count ih =>
    simp only [digitsDown]
    cases i with
    | zero => rfl
    | succ i =>
      rw [List.getElem_cons_succ, ih]
      congr 3
      omega

theorem toNat_ofDigits (h : ∀ v ∈ vs, v < 16) (hlen : vs.length = size) :
    (ofDigits vs).bits.toNat = numberOf vs := by
  have hlt : numberOf vs < 16 ^ vs.reverse.length :=
    Nat.ofDigits_lt_base_pow_length (by decide) fun v hv => h v (List.mem_reverse.1 hv)
  rw [List.length_reverse, hlen] at hlt
  rw [ofDigits, BitVec.toNat_ofNat, Nat.mod_eq_of_lt]
  exact hlt

theorem nibble_ofDigits (h : ∀ v ∈ vs, v < 16) (hlen : vs.length = size) {i : Nat}
    (hi : i < vs.length) : nibble (ofDigits vs).bits (size - 1 - i) = vs[i] := by
  have hrev : ∀ v ∈ vs.reverse, v < 16 := fun v hv => h v (List.mem_reverse.1 hv)
  have hplace : size - 1 - i < vs.reverse.length := by
    rw [List.length_reverse, hlen]
    have : 0 < size := by decide
    omega
  have hget : vs.reverse[size - 1 - i] = vs[i] := by
    rw [List.getElem_reverse]
    congr 1
    omega
  rw [nibble, toNat_ofDigits h hlen, numberOf]
  show Nat.ofDigits 16 vs.reverse / 16 ^ (size - 1 - i) % 16 = _
  rw [Nat.ofDigits_div_pow_eq_ofDigits_drop _ (by decide) _ hrev, List.drop_eq_getElem_cons hplace,
    Nat.ofDigits_cons, Nat.add_mul_mod_self_left, hget]
  exact Nat.mod_eq_of_lt (h _ (List.getElem_mem _))

theorem digitsDown_ofDigits (h : ∀ v ∈ vs, v < 16) (hlen : vs.length = size) :
    digitsDown (ofDigits vs).bits size 0 = vs.map Hex.digit := by
  refine List.ext_getElem (by rw [length_digitsDown, List.length_map, hlen]) fun i hi hi' => ?_
  rw [List.length_map] at hi'
  rw [getElem_digitsDown, Nat.zero_add, nibble_ofDigits h hlen hi', List.getElem_map]

theorem text_ofDigits (h : ∀ v ∈ vs, v < 16) (hlen : vs.length = size) :
    (ofDigits vs).text = String.ofList (hyphenate groups (vs.map Hex.digit)) := by
  rw [text, digitsDown_ofDigits h hlen]

theorem nibble_eq_extract (bits : BitVec 128) (place : Nat) :
    nibble bits place = (bits.extractLsb' (4 * place) 4).toNat := by
  rw [BitVec.extractLsb'_toNat, Nat.shiftRight_eq_div_pow, pow_mul]
  rfl

/-! ## Canonical spellings of random identifiers -/

/-- A text is made of 36 characters: 32 lowercase digits, of which the thirteenth is `4` and the
seventeenth one of `8`, `9`, `a` and `b`, in groups of 8, 4, 4, 4 and 12 with hyphens between them.
-/
structure Canonical (ds : List Char) (s : String) : Prop where
  size : ds.length = 32
  small : ∀ c ∈ ds, Hex.IsSmall c
  version : ds[12]? = some '4'
  variant : ∃ c ∈ ['8', '9', 'a', 'b'], ds[16]? = some c
  text : s.toList = ds.take 8 ++ '-' :: ((ds.drop 8).take 4 ++ '-' :: ((ds.drop 12).take 4 ++
    '-' :: ((ds.drop 16).take 4 ++ '-' :: ds.drop 20)))

theorem hyphenate_groups (ds : List Char) :
    hyphenate groups ds = ds.take 8 ++ '-' :: ((ds.drop 8).take 4 ++ '-' :: ((ds.drop 12).take 4 ++
      '-' :: ((ds.drop 16).take 4 ++ '-' :: ds.drop 20))) := by
  simp [hyphenate, groups]

theorem isRandom_ofDigits (h : ∀ v ∈ vs, v < 16) (hlen : vs.length = size) :
    (ofDigits vs).isRandom = true ↔ vs[12]? = some 4 ∧ ∃ v, vs[16]? = some v ∧ v / 4 = 2 := by
  have h12 : 12 < vs.length := by rw [hlen]; decide
  have h16 : 16 < vs.length := by rw [hlen]; decide
  have hversion : (ofDigits vs).version = vs[12] := nibble_ofDigits h hlen h12
  have hvariant : nibble (ofDigits vs).bits 15 = vs[16] := nibble_ofDigits h hlen h16
  rw [isRandom, isStandardVariant, Bool.and_eq_true, beq_iff_eq, beq_iff_eq, hversion, hvariant,
    List.getElem?_eq_getElem h12, List.getElem?_eq_getElem h16]
  simp only [Option.some.injEq, exists_eq_left']

theorem canonical_map_digit_iff (h : ∀ v ∈ vs, v < 16) (hlen : vs.length = size) :
    Canonical (vs.map Hex.digit) s ↔ s.toList = hyphenate groups (vs.map Hex.digit) ∧
      vs[12]? = some 4 ∧ ∃ v, vs[16]? = some v ∧ v / 4 = 2 := by
  have h12 : 12 < vs.length := by rw [hlen]; decide
  have h16 : 16 < vs.length := by rw [hlen]; decide
  have hdigits : ∀ v ∈ List.range 16, (Hex.digit v = '4' ↔ v = 4) ∧
      (Hex.digit v ∈ ['8', '9', 'a', 'b'] ↔ v / 4 = 2) := by decide
  have hversion := (hdigits vs[12] (List.mem_range.2 (h _ (List.getElem_mem _)))).1
  have hvariant := (hdigits vs[16] (List.mem_range.2 (h _ (List.getElem_mem _)))).2
  have hget : ∀ {i : Nat} (hi : i < vs.length), (vs.map Hex.digit)[i]? = some (Hex.digit vs[i]) :=
    fun hi => by rw [List.getElem?_map, List.getElem?_eq_getElem hi, Option.map_some]
  rw [List.getElem?_eq_getElem h12, List.getElem?_eq_getElem h16]
  simp only [Option.some.injEq, exists_eq_left', ← hversion, ← hvariant]
  constructor
  · rintro ⟨-, -, version, ⟨c, hc, variant⟩, text⟩
    rw [hget h12, Option.some.injEq] at version
    rw [hget h16, Option.some.injEq] at variant
    exact ⟨text.trans (hyphenate_groups _).symm, version, variant ▸ hc⟩
  · rintro ⟨text, version, variant⟩
    refine ⟨(List.length_map _).trans hlen, ?_, (hget h12).trans (congrArg some version),
      ⟨_, variant, hget h16⟩, text.trans (hyphenate_groups _)⟩
    intro c hc
    obtain ⟨v, hv, rfl⟩ := List.mem_map.1 hc
    exact Hex.isSmall_digit (h v hv)

theorem exists_map_digit (h : ∀ c ∈ ds, Hex.IsSmall c) :
    ∃ vs : List Nat, (∀ v ∈ vs, v < 16) ∧ ds = vs.map Hex.digit := by
  induction ds with
  | nil => exact ⟨[], nofun, rfl⟩
  | cons c ds ih =>
    obtain ⟨v, hv, rfl⟩ := Hex.exists_digit_of_isSmall (h c (List.mem_cons_self ..))
    obtain ⟨vs, hvs, rfl⟩ := ih fun d hd => h d (List.mem_cons_of_mem _ hd)
    exact ⟨v :: vs, List.forall_mem_cons.2 ⟨hv, hvs⟩, rfl⟩

theorem read?_eq_some_iff :
    read? s = some g ↔ ∃ vs, (∀ v ∈ vs, v < 16) ∧ vs.length = size ∧
      Canonical (vs.map Hex.digit) s ∧ g = ofDigits vs := by
  rw [read?, Option.filter_eq_some_iff, ofText?_eq_some_iff, Bool.and_eq_true, beq_iff_eq]
  constructor
  · rintro ⟨⟨ds, vs, -, hds, hlen, rfl⟩, random, htext⟩
    refine ⟨vs, hds.lt, hlen, (canonical_map_digit_iff hds.lt hlen).2 ⟨?_, ?_⟩, rfl⟩
    · rw [← htext, text_ofDigits hds.lt hlen, String.toList_ofList]
    · exact (isRandom_ofDigits hds.lt hlen).1 random
  · rintro ⟨vs, hlt, hlen, hcanonical, rfl⟩
    obtain ⟨htext, random⟩ := (canonical_map_digit_iff hlt hlen).1 hcanonical
    refine ⟨⟨vs.map Hex.digit, vs, htext ▸ .hyphenated, digits_map_digit hlt, hlen, rfl⟩,
      (isRandom_ofDigits hlt hlen).2 random, ?_⟩
    rw [text_ofDigits hlt hlen, ← htext, String.ofList_toList]

theorem text_of_read? (h : read? s = some g) : g.text = s := by
  rw [read?, Option.filter_eq_some_iff, Bool.and_eq_true, beq_iff_eq] at h
  exact h.2.2

theorem ofText?_of_read? (h : read? s = some g) : ofText? s = some g := by
  rw [read?, Option.filter_eq_some_iff] at h
  exact h.1

theorem Canonical.shape (h : Canonical ds s) :
    s.length = 36 ∧ ∀ c ∈ s.toList, c = '-' ∨ Hex.IsSmall c := by
  have htext := h.text.trans (hyphenate_groups ds).symm
  refine ⟨by rw [← String.length_toList, htext, length_hyphenate h.size], fun c hc => ?_⟩
  have hsmall : ∀ {i j : Nat}, c ∈ (ds.drop i).take j → Hex.IsSmall c := fun hmem =>
    h.small c (List.mem_of_mem_drop (List.mem_of_mem_take hmem))
  rw [h.text] at hc
  simp only [List.mem_append, List.mem_cons] at hc
  rcases hc with hc | rfl | hc | rfl | hc | rfl | hc | rfl | hc
  · exact .inr (h.small c (List.mem_of_mem_take hc))
  · exact .inl rfl
  · exact .inr (hsmall hc)
  · exact .inl rfl
  · exact .inr (hsmall hc)
  · exact .inl rfl
  · exact .inr (hsmall hc)
  · exact .inl rfl
  · exact .inr (h.small c (List.mem_of_mem_drop hc))

end Guid

namespace Parameter

open Guid (Canonical Spelling Digits)

structure GuidPost (s : String) : Prop where
  accepted : Kind.guid.accepts s = true ↔ ∃ ds, Canonical ds s
  value : ∀ ds, Canonical ds s → ∃ g, Kind.guid.read? s = some (.guid g) ∧ g.text = s ∧
    ∀ i (h : i < ds.length), Hex.small? ds[i] = some (g.bits.extractLsb' (4 * (31 - i)) 4).toNat
  shape : Kind.guid.accepts s = true → s.length = 36 ∧ ∀ c ∈ s.toList, c = '-' ∨ Hex.IsSmall c
  spelled : ∀ g, Guid.ofText? s = some g ↔
    ∃ ds vs, Spelling ds s.toList ∧ Digits ds vs ∧ vs.length = 32 ∧ g = Guid.ofDigits vs
  onlyCanonical : ∀ g, Guid.ofText? s = some g → s ≠ g.text → Kind.guid.accepts s = false

theorem accepts_guid_iff {s : String} :
    Kind.guid.accepts s = true ↔ ∃ g, Guid.read? s = some g := by
  rw [Kind.accepts, Kind.read?, Option.isSome_map, Option.isSome_iff_exists]

theorem readGuid_spec (s : String) : GuidPost s := by
  have accepted : Kind.guid.accepts s = true ↔ ∃ ds, Canonical ds s := by
    rw [accepts_guid_iff]
    simp only [Guid.read?_eq_some_iff]
    constructor
    · rintro ⟨_, vs, -, -, hcanonical, -⟩
      exact ⟨_, hcanonical⟩
    · rintro ⟨ds, hcanonical⟩
      obtain ⟨vs, hlt, rfl⟩ := Guid.exists_map_digit hcanonical.small
      exact ⟨_, vs, hlt, (List.length_map _).symm.trans hcanonical.size, hcanonical, rfl⟩
  refine ⟨accepted, fun ds hcanonical => ?_, fun haccepts => ?_,
    fun _ => Guid.ofText?_eq_some_iff, fun g hg hne => ?_⟩
  · obtain ⟨vs, hlt, rfl⟩ := Guid.exists_map_digit hcanonical.small
    have hlen : vs.length = Guid.size := (List.length_map _).symm.trans hcanonical.size
    have hread : Guid.read? s = some (Guid.ofDigits vs) :=
      Guid.read?_eq_some_iff.2 ⟨vs, hlt, hlen, hcanonical, rfl⟩
    refine ⟨Guid.ofDigits vs, by rw [Kind.read?, hread, Option.map_some],
      Guid.text_of_read? hread, fun i hi => ?_⟩
    rw [List.length_map] at hi
    rw [List.getElem_map, Hex.small?_digit (hlt _ (List.getElem_mem _)), ← Guid.nibble_eq_extract]
    exact congrArg some (Guid.nibble_ofDigits hlt hlen hi).symm
  · obtain ⟨ds, hcanonical⟩ := accepted.1 haccepts
    exact hcanonical.shape
  · rw [← Bool.not_eq_true, accepts_guid_iff]
    rintro ⟨g', hg'⟩
    obtain rfl := Option.some.inj (hg.symm.trans (Guid.ofText?_of_read? hg'))
    exact hne (Guid.text_of_read? hg').symm

example :
    let s := "urn:uuid:3fa85f64-5717-4562-b3fc-2c963f66afa6"
    (Guid.ofText? s).isSome = true ∧ Kind.guid.accepts s = false := by decide +kernel

end Parameter

end MapStandin
