import Mathlib.Tactic.IntervalCases
import Mathlib.Tactic.SplitIfs
import MapStandin.Text.Base64
import MapStandin.Proofs.Text.Utf8

/-! # Reading and writing base64

A base64 text is read as a byte string if and only if the byte string is written so. Both sides go
group by group, and the last group may stand for fewer than three bytes. -/

namespace MapStandin.Base64

variable {b : UInt8} {n offset : Nat} {ns : List Nat} {group input bytes : List UInt8}

/-! ## Symbols -/

theorem number?_symbol (h : n < 64) : number? (symbol n) = some n := by
  interval_cases n <;> rfl

theorem symbol_of_number? (h : number? b = some n) : n < 64 ∧ b = symbol n := by
  have hself : ∀ {m : Nat}, m = b.toNat → b = UInt8.ofNat m := by
    rintro m rfl
    exact UInt8.ofNat_toNat.symm
  unfold number? at h
  simp only [Bool.and_eq_true, decide_eq_true_eq] at h
  unfold symbol
  split_ifs at h with h1 h2 h3 h4 h5 <;> obtain rfl := Option.some.inj h
  · rw [if_pos (by omega)]
    exact ⟨by omega, hself (by omega)⟩
  · rw [if_neg (by omega), if_pos (by omega)]
    exact ⟨by omega, hself (by omega)⟩
  · rw [if_neg (by omega), if_neg (by omega), if_pos (by omega)]
    exact ⟨by omega, hself (by omega)⟩
  · exact ⟨by omega, hself h4.symm⟩
  · exact ⟨by omega, hself h5.symm⟩

theorem number?_eq_some_iff : number? b = some n ↔ n < 64 ∧ b = symbol n := by
  constructor
  · exact symbol_of_number?
  · rintro ⟨h, rfl⟩
    exact number?_symbol h

theorem symbol_ne_pad (h : n < 64) : symbol n ≠ pad := by
  intro hpad
  have hnumber := number?_symbol h
  rw [hpad] at hnumber
  cases hnumber

theorem numbers_symbols (offset : Nat) (h : ∀ n ∈ ns, n < 64) :
    numbers offset (ns.map symbol) = .ok ns := by
  induction ns generalizing offset with
  | nil => rfl
  | cons n ns ih =>
    rw [List.map_cons, numbers, number?_symbol (h n List.mem_cons_self),
      ih _ fun m hm => h m (List.mem_cons_of_mem n hm)]
    rfl

theorem symbols_of_numbers (h : numbers offset bytes = .ok ns) :
    (∀ n ∈ ns, n < 64) ∧ bytes = ns.map symbol := by
  induction bytes generalizing offset ns with
  | nil =>
    obtain rfl := Except.ok.inj h
    exact ⟨nofun, rfl⟩
  | cons b rest ih =>
    rw [numbers] at h
    cases hb : number? b with
    | none => simp [hb, throw, throwThe, MonadExceptOf.throw] at h
    | some n =>
      obtain ⟨hn, rfl⟩ := number?_eq_some_iff.1 hb
      cases hrest : numbers (offset + 1) rest with
      | error f => simp [hb, hrest, bind, Except.bind] at h
      | ok ms =>
        obtain ⟨hms, rfl⟩ := ih hrest
        simp only [hb, hrest] at h
        obtain rfl := Except.ok.inj h
        exact ⟨List.forall_mem_cons.2 ⟨hn, hms⟩, rfl⟩

/-! ## Groups -/

/-- The numbers that one, two or three bytes are written as. -/
inductive Group : List UInt8 → List Nat → Prop
  | one (a : UInt8) : Group [a] [a.toNat / 4, a.toNat % 4 * 16]
  | two (a b : UInt8) :
      Group [a, b] [a.toNat / 4, a.toNat % 4 * 16 + b.toNat / 16, b.toNat % 16 * 4]
  | three (a b c : UInt8) :
      Group [a, b, c] [a.toNat / 4, a.toNat % 4 * 16 + b.toNat / 16,
        b.toNat % 16 * 4 + c.toNat / 64, c.toNat % 64]

/-- The symbols of a last group. -/
def padded (ns : List Nat) : List UInt8 :=
  ns.map symbol ++ List.replicate (4 - ns.length) pad

theorem Group.encode_eq (h : Group bytes ns) : encode bytes = padded ns := by
  cases h <;> rfl

theorem Group.lt (h : Group bytes ns) : ∀ n ∈ ns, n < 64 := by
  cases h with
  | one a =>
    have ha := a.toNat_lt
    simp
    omega
  | two a b =>
    have ha := a.toNat_lt
    have hb := b.toNat_lt
    simp
    omega
  | three a b c =>
    have ha := a.toNat_lt
    have hb := b.toNat_lt
    have hc := c.toNat_lt
    simp
    omega

theorem Group.length (h : Group bytes ns) : 2 ≤ ns.length ∧ ns.length ≤ 4 := by
  cases h <;> simp

theorem Group.join_eq (h : Group bytes ns) : join ns = (bytes, 0) := by
  have hself : ∀ {n : Nat} {b : UInt8}, n = b.toNat → UInt8.ofNat n = b := by
    rintro n b rfl
    exact UInt8.ofNat_toNat
  cases h with
  | one a =>
    have ha := a.toNat_lt
    rw [join, hself (b := a) (by omega), Nat.mul_mod_left]
  | two a b =>
    have ha := a.toNat_lt
    have hb := b.toNat_lt
    rw [join, hself (b := a) (by omega), hself (b := b) (by omega), Nat.mul_mod_left]
  | three a b c =>
    have ha := a.toNat_lt
    have hb := b.toNat_lt
    have hc := c.toNat_lt
    rw [join, hself (b := a) (by omega), hself (b := b) (by omega), hself (b := c) (by omega)]

theorem group_of_join (hlt : ∀ n ∈ ns, n < 64) (least : 2 ≤ ns.length) (most : ns.length ≤ 4)
    (h : join ns = (bytes, 0)) : Group bytes ns := by
  have hnat : ∀ {n : Nat}, n < 256 → (UInt8.ofNat n).toNat = n := UInt8.toNat_ofNat_of_lt'
  match ns, hlt, least, most with
  | [n, m], hlt, _, _ =>
    simp only [List.forall_mem_cons] at hlt
    obtain ⟨rfl, hleft⟩ := Prod.mk.inj h
    have hgroup := Group.one (UInt8.ofNat (n * 4 + m / 16))
    rwa [hnat (by omega), show (n * 4 + m / 16) / 4 = n by omega,
      show (n * 4 + m / 16) % 4 * 16 = m by omega] at hgroup
  | [n, m, k], hlt, _, _ =>
    simp only [List.forall_mem_cons] at hlt
    obtain ⟨rfl, hleft⟩ := Prod.mk.inj h
    have hgroup := Group.two (UInt8.ofNat (n * 4 + m / 16)) (UInt8.ofNat (m % 16 * 16 + k / 4))
    rwa [hnat (by omega), hnat (by omega), show (n * 4 + m / 16) / 4 = n by omega,
      show (n * 4 + m / 16) % 4 * 16 + (m % 16 * 16 + k / 4) / 16 = m by omega,
      show (m % 16 * 16 + k / 4) % 16 * 4 = k by omega] at hgroup
  | [n, m, k, j], hlt, _, _ =>
    simp only [List.forall_mem_cons] at hlt
    obtain ⟨rfl, -⟩ := Prod.mk.inj h
    have hgroup := Group.three (UInt8.ofNat (n * 4 + m / 16)) (UInt8.ofNat (m % 16 * 16 + k / 4))
      (UInt8.ofNat (k % 4 * 64 + j))
    rwa [hnat (by omega), hnat (by omega), hnat (by omega),
      show (n * 4 + m / 16) / 4 = n by omega,
      show (n * 4 + m / 16) % 4 * 16 + (m % 16 * 16 + k / 4) / 16 = m by omega,
      show (m % 16 * 16 + k / 4) % 16 * 4 + (k % 4 * 64 + j) / 64 = k by omega,
      show (k % 4 * 64 + j) % 64 = j by omega] at hgroup

/-! ## The last group -/

theorem lastGroup_eq_ok_iff (hnumbers : numbers offset (group.takeWhile (· ≠ pad)) = .ok ns) :
    lastGroup offset group = .ok bytes ↔
      (group.dropWhile (· ≠ pad)).any (· ≠ pad) = false ∧
        2 ≤ (group.takeWhile (· ≠ pad)).length ∧ group.length = 4 ∧ join ns = (bytes, 0) := by
  unfold lastGroup
  simp only [hnumbers, bind, Except.bind, pure, Except.pure, throw, throwThe,
    MonadExceptOf.throw]
  generalize group.takeWhile (· ≠ pad) = symbols
  generalize group.dropWhile (· ≠ pad) = tail
  generalize join ns = joined
  split_ifs with htail hshort hlength
  · refine ⟨nofun, fun ⟨hpads, hlong, _⟩ => ?_⟩
    rcases htail.2 with hshort | hany
    · exact absurd hshort (Nat.not_lt.2 hlong)
    · exact absurd hany (Bool.eq_false_iff.1 hpads)
  · exact ⟨nofun, fun ⟨_, hlong, _⟩ => absurd hshort (Nat.not_lt.2 hlong)⟩
  · exact ⟨nofun, fun ⟨_, _, hfour, _⟩ => absurd hfour hlength⟩
  · have hpads : tail.any (· ≠ pad) = false := by
      cases tail with
      | nil => rfl
      | cons t ts => exact Bool.eq_false_iff.2 fun hany => htail ⟨nofun, .inr hany⟩
    obtain ⟨joined, left⟩ := joined
    cases left with
    | zero => simp only [hpads, Nat.not_lt.1 hshort, not_not.1 hlength, Except.ok.injEq,
        Prod.mk.injEq, and_true, true_and]
    | succ left => simp

theorem takeWhile_padded (h : ∀ n ∈ ns, n < 64) :
    (padded ns).takeWhile (· ≠ pad) = ns.map symbol ∧
      (padded ns).dropWhile (· ≠ pad) = List.replicate (4 - ns.length) pad := by
  have hsymbols : ∀ b ∈ ns.map symbol, decide (b ≠ pad) = true := by
    intro b hb
    obtain ⟨n, hn, rfl⟩ := List.mem_map.1 hb
    exact decide_eq_true (symbol_ne_pad (h n hn))
  constructor
  · rw [padded, List.takeWhile_append_of_pos hsymbols]
    simp
  · rw [padded, List.dropWhile_append_of_pos hsymbols]
    simp

theorem lastGroup_padded (h : Group bytes ns) : lastGroup offset (padded ns) = .ok bytes := by
  obtain ⟨hsymbols, htail⟩ := takeWhile_padded h.lt
  obtain ⟨least, most⟩ := h.length
  have hnumbers := hsymbols ▸ numbers_symbols offset h.lt
  rw [lastGroup_eq_ok_iff hnumbers, hsymbols, htail, List.length_map]
  refine ⟨by simp, least, ?_, h.join_eq⟩
  rw [padded, List.length_append, List.length_map, List.length_replicate]
  omega

theorem group_of_lastGroup (h : lastGroup offset group = .ok bytes) :
    ∃ ns, Group bytes ns ∧ group = padded ns := by
  cases hnumbers : numbers offset (group.takeWhile (· ≠ pad)) with
  | error f =>
    simp only [lastGroup, hnumbers, bind, Except.bind] at h
    cases h
  | ok ns =>
    obtain ⟨hpads, least, hfour, hjoin⟩ := (lastGroup_eq_ok_iff hnumbers).1 h
    obtain ⟨hlt, hsymbols⟩ := symbols_of_numbers hnumbers
    have hsplit := List.takeWhile_append_dropWhile (p := (· ≠ pad)) (l := group)
    have htail : group.dropWhile (· ≠ pad) =
        List.replicate (group.dropWhile (· ≠ pad)).length pad :=
      List.eq_replicate_iff.2 ⟨rfl, by simpa using hpads⟩
    rw [hsymbols, List.length_map] at least
    rw [hsymbols, htail] at hsplit
    have hlength := congrArg List.length hsplit
    rw [List.length_append, List.length_map, List.length_replicate, hfour] at hlength
    refine ⟨ns, group_of_join hlt least (by omega) hjoin, ?_⟩
    rw [padded, ← hsplit]
    congr
    omega

theorem exists_group (hne : bytes ≠ []) (hlength : bytes.length ≤ 3) : ∃ ns, Group bytes ns := by
  match bytes, hne, hlength with
  | [a], _, _ => exact ⟨_, .one a⟩
  | [a, b], _, _ => exact ⟨_, .two a b⟩
  | [a, b, c], _, _ => exact ⟨_, .three a b c⟩

theorem lastGroup_encode (hne : bytes ≠ []) (hlength : bytes.length ≤ 3) :
    lastGroup offset (encode bytes) = .ok bytes := by
  obtain ⟨ns, hgroup⟩ := exists_group hne hlength
  rw [hgroup.encode_eq]
  exact lastGroup_padded hgroup

/-! ## All groups -/

theorem length_encode (bytes : List UInt8) :
    (encode bytes).length = (bytes.length + 2) / 3 * 4 := by
  fun_induction encode bytes with
  | case1 => rfl
  | case2 => simp
  | case3 => simp
  | case4 a b c rest ih =>
    simp only [List.length_cons, ih]
    omega

theorem exists_bytes_of_numbers {a b c d : UInt8} (h : numbers offset [a, b, c, d] = .ok ns) :
    ∃ x y z, (join ns).1 = [x, y, z] ∧
      ∀ rest, encode (x :: y :: z :: rest) = a :: b :: c :: d :: encode rest := by
  obtain ⟨hlt, hsymbols⟩ := symbols_of_numbers h
  match ns, hsymbols with
  | [n, m, k, j], hsymbols =>
    have hgroup : Group (join [n, m, k, j]).1 [n, m, k, j] :=
      group_of_join hlt (by simp) (by simp) rfl
    simp only [List.map_cons, List.map_nil, List.cons.injEq, and_true] at hsymbols
    obtain ⟨rfl, rfl, rfl, rfl⟩ := hsymbols
    generalize (join [n, m, k, j]).1 = front at hgroup ⊢
    cases hgroup with
    | three x y z => exact ⟨x, y, z, rfl, fun rest => rfl⟩

theorem groups_eq_ok_iff :
    groups offset input = .ok bytes ↔ bytes ≠ [] ∧ input = encode bytes := by
  -- The induction is on the groups of the text; each full one stands for the next three bytes.
  fun_induction groups offset input generalizing bytes with
  | case1 offset a b c d e rest ih =>
    constructor
    · intro h
      cases hnumbers : numbers offset [a, b, c, d] with
      | error f => simp [hnumbers, bind, Except.bind] at h
      | ok ns =>
        obtain ⟨x, y, z, hjoin, hencode⟩ := exists_bytes_of_numbers hnumbers
        cases hmore : groups (offset + 4) (e :: rest) with
        | error f => simp [hnumbers, hmore, bind, Except.bind] at h
        | ok more =>
          simp only [hnumbers, hmore] at h
          obtain rfl := Except.ok.inj h
          rw [hjoin, (ih.1 hmore).2]
          exact ⟨nofun, (hencode more).symm⟩
    -- As more symbols follow, the bytes are more than one group.
    · rintro ⟨hne, h⟩
      match bytes, h with
      | x :: y :: z :: more, h =>
        simp only [encode, List.cons.injEq] at h
        obtain ⟨rfl, rfl, rfl, rfl, hrest⟩ := h
        have hmore : more ≠ [] := by
          rintro rfl
          cases hrest
        have hgroup := Group.three x y z
        have hnumbers := numbers_symbols offset hgroup.lt
        simp only [List.map_cons, List.map_nil] at hnumbers
        rw [hnumbers, ih.2 ⟨hmore, hrest⟩]
        simp only [bind, Except.bind, hgroup.join_eq]
        rfl
  | case2 offset input hshort =>
    -- What is no full group with more behind it is the last group.
    have hlength : input.length ≤ 4 := by
      match input, hshort with
      | [], _ => simp
      | [a], _ => simp
      | [a, b], _ => simp
      | [a, b, c], _ => simp
      | [a, b, c, d], _ => simp
      | a :: b :: c :: d :: e :: rest, hshort => exact (hshort a b c d e rest rfl).elim
    constructor
    · intro h
      obtain ⟨ns, hgroup, rfl⟩ := group_of_lastGroup h
      exact ⟨by cases hgroup <;> nofun, hgroup.encode_eq.symm⟩
    · rintro ⟨hne, rfl⟩
      rw [length_encode] at hlength
      exact lastGroup_encode hne (by omega)

/-! ## Whole texts -/

theorem strayLast?_encode (bytes : List UInt8) : strayLast? (encode bytes) = none := by
  have hlength : (encode bytes).length % 4 ≠ 1 := by
    rw [length_encode]
    omega
  unfold strayLast?
  split
  · exact if_neg fun h => hlength h.1
  · rfl

theorem decode_eq_ok_iff : decode input = .ok bytes ↔ input = encode bytes := by
  unfold decode
  constructor
  · intro h
    split_ifs at h with hnil
    · obtain rfl := Except.ok.inj h
      exact hnil
    · cases hstray : strayLast? input with
      | some f => simp [hstray] at h
      | none =>
        rw [hstray] at h
        exact (groups_eq_ok_iff.1 h).2
  · rintro rfl
    rw [strayLast?_encode]
    cases bytes with
    | nil => rfl
    | cons b rest =>
      have hne : encode (b :: rest) ≠ [] := by
        intro hnil
        have hlength := congrArg List.length hnil
        rw [length_encode, List.length_cons, List.length_nil] at hlength
        omega
      rw [if_neg hne]
      exact groups_eq_ok_iff.2 ⟨nofun, rfl⟩

theorem symbol_bounds (n : Nat) : 0x21 ≤ (symbol n).toNat ∧ (symbol n).toNat < 0x80 := by
  unfold symbol
  split_ifs with h1 h2 h3 h4
  · rw [UInt8.toNat_ofNat']
    omega
  · rw [UInt8.toNat_ofNat']
    omega
  · rw [UInt8.toNat_ofNat']
    omega
  · decide
  · decide

theorem encode_bounds (bytes : List UInt8) :
    ∀ b ∈ encode bytes, 0x21 ≤ b.toNat ∧ b.toNat < 0x80 := by
  have hpad : 0x21 ≤ pad.toNat ∧ pad.toNat < 0x80 := by decide
  fun_induction encode bytes with
  | case1 => exact nofun
  | case2 a => simp [symbol_bounds, hpad]
  | case3 a b => simp [symbol_bounds, hpad]
  | case4 a b c rest ih => simpa [symbol_bounds] using ih

theorem encode_lt (bytes : List UInt8) : ∀ b ∈ encode bytes, b < 0x80 := by
  intro b hb
  rw [UInt8.lt_iff_toNat_lt]
  exact (encode_bounds bytes b hb).2

theorem encode_encodeText (bytes : List UInt8) : Utf8.encode (encodeText bytes) = encode bytes := by
  rw [Utf8.encode, encodeText, String.toList_ofList, Utf8.encodeList_ascii (encode_lt bytes)]

theorem encode_injective {bytes' : List UInt8} (h : encode bytes = encode bytes') :
    bytes = bytes' := by
  have hdecode := decode_eq_ok_iff.2 (Eq.refl (encode bytes))
  rw [h, decode_eq_ok_iff.2 rfl] at hdecode
  exact (Except.ok.inj hdecode).symm

theorem encodeText_injective {bytes' : List UInt8} (h : encodeText bytes = encodeText bytes') :
    bytes = bytes' := by
  apply encode_injective
  rw [← encode_encodeText, h, encode_encodeText]

theorem toNat_of_mem_encodeText {c : Char} (h : c ∈ (encodeText bytes).toList) :
    0x21 ≤ c.toNat ∧ c.toNat < 0x80 := by
  rw [encodeText, String.toList_ofList] at h
  obtain ⟨b, hb, rfl⟩ := List.mem_map.1 h
  obtain ⟨least, most⟩ := encode_bounds bytes b hb
  rw [Utf8.toNat_ofNat_of_valid (.inl (by omega))]
  exact ⟨least, most⟩

end MapStandin.Base64
