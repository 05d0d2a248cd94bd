import Mathlib.Tactic.IntervalCases
import Mathlib.Tactic.SplitIfs
import MapStandin.Text.Utf8

/-! # Reading and writing UTF-8

A byte string is read as a text if and only if that text is written so. Between the two stands the
grammar of sequences: which bytes make up one character. -/

namespace MapStandin.Utf8

/-! ## Sequences -/

/-- A character and the bytes it is written as. The numbers are the groups of its bits, the group of
the lead byte first. -/
inductive Sequence : List UInt8 → Char → Prop
  | one {n : Nat} (h : n < 128) : Sequence [UInt8.ofNat n] (Char.ofNat n)
  | two {n m : Nat} (hn : n < 32) (hm : m < 64) (least : 2 ≤ n) :
      Sequence [UInt8.ofNat (n + 0xC0), UInt8.ofNat (m + 0x80)] (Char.ofNat (n * 64 + m))
  | three {n m k : Nat} (hn : n < 16) (hm : m < 64) (hk : k < 64) (least : n = 0 → 32 ≤ m)
      (noSurrogate : n = 13 → m < 32) :
      Sequence [UInt8.ofNat (n + 0xE0), UInt8.ofNat (m + 0x80), UInt8.ofNat (k + 0x80)]
        (Char.ofNat ((n * 64 + m) * 64 + k))
  | four {n m k j : Nat} (hn : n < 5) (hm : m < 64) (hk : k < 64) (hj : j < 64)
      (least : n = 0 → 16 ≤ m) (greatest : n = 4 → m < 16) :
      Sequence [UInt8.ofNat (n + 0xF0), UInt8.ofNat (m + 0x80), UInt8.ofNat (k + 0x80),
          UInt8.ofNat (j + 0x80)]
        (Char.ofNat (((n * 64 + m) * 64 + k) * 64 + j))

variable {c : Char} {b : UInt8} {bytes rest : List UInt8}

theorem toNat_ofNat_of_valid {n : Nat} (h : n.isValidChar) : (Char.ofNat n).toNat = n := by
  rw [Char.ofNat, dif_pos h]
  rfl

theorem Sequence.eq_encode (h : Sequence bytes c) : bytes = String.utf8EncodeChar c := by
  cases h with
  | @one n h =>
    have hval : (Char.ofNat n).val.toNat = n :=
      toNat_ofNat_of_valid (by simp only [Nat.isValidChar]; omega)
    simp only [String.utf8EncodeChar, hval]
    rw [if_pos (by omega)]
  | @two n m hn hm least =>
    have hval : (Char.ofNat (n * 64 + m)).val.toNat = n * 64 + m :=
      toNat_ofNat_of_valid (by simp only [Nat.isValidChar]; omega)
    simp only [String.utf8EncodeChar, hval]
    rw [if_neg (by omega), if_pos (by omega)]
    congr <;> omega
  | @three n m k hn hm hk least noSurrogate =>
    have hval : (Char.ofNat ((n * 64 + m) * 64 + k)).val.toNat = (n * 64 + m) * 64 + k :=
      toNat_ofNat_of_valid (by simp only [Nat.isValidChar]; omega)
    simp only [String.utf8EncodeChar, hval]
    rw [if_neg (by omega), if_neg (by omega), if_pos (by omega)]
    congr <;> omega
  | @four n m k j hn hm hk hj least greatest =>
    have hval : (Char.ofNat (((n * 64 + m) * 64 + k) * 64 + j)).val.toNat =
        ((n * 64 + m) * 64 + k) * 64 + j :=
      toNat_ofNat_of_valid (by simp only [Nat.isValidChar]; omega)
    simp only [String.utf8EncodeChar, hval]
    rw [if_neg (by omega), if_neg (by omega), if_neg (by omega)]
    congr <;> omega

theorem sequence_encode (c : Char) : Sequence (String.utf8EncodeChar c) c := by
  have hvalid : c.toNat.isValidChar := c.valid
  simp only [Nat.isValidChar] at hvalid
  -- The groups of the bits of `c` make up `c` again.
  have hself : ∀ {bytes : List UInt8} {v : Nat}, Sequence bytes (Char.ofNat v) → v = c.toNat →
      Sequence (String.utf8EncodeChar c) c := by
    rintro bytes v h rfl
    rw [Char.ofNat_toNat] at h
    rwa [← h.eq_encode]
  by_cases h1 : c.toNat < 0x80
  · exact hself (.one h1) rfl
  by_cases h2 : c.toNat < 0x800
  · refine hself (.two (n := c.toNat / 64) (m := c.toNat % 64) ?_ ?_ ?_) ?_ <;> omega
  by_cases h3 : c.toNat < 0x10000
  · refine hself (.three (n := c.toNat / 4096) (m := c.toNat / 64 % 64) (k := c.toNat % 64)
      ?_ ?_ ?_ ?_ ?_) ?_ <;> omega
  · refine hself (.four (n := c.toNat / 262144) (m := c.toNat / 4096 % 64)
      (k := c.toNat / 64 % 64) (j := c.toNat % 64) ?_ ?_ ?_ ?_ ?_ ?_) ?_ <;> omega

/-- A byte of a character is the character itself if it is one of ASCII, and lies above ASCII
otherwise. -/
theorem toNat_of_mem_encode (h : b ∈ String.utf8EncodeChar c) :
    c.toNat < 0x80 ∧ b.toNat = c.toNat ∨ 0x80 ≤ c.toNat ∧ 0x80 ≤ b.toNat := by
  have hvalid : ∀ {v : Nat}, v < 0xD800 ∨ 0xDFFF < v ∧ v < 0x110000 → (Char.ofNat v).toNat = v :=
    fun hv => toNat_ofNat_of_valid hv
  have hsequence := sequence_encode c
  generalize String.utf8EncodeChar c = bytes at h hsequence
  cases hsequence with
  | @one n hn =>
    obtain rfl := List.mem_singleton.1 h
    left
    rw [hvalid (by omega), UInt8.toNat_ofNat']
    omega
  | two hn hm least =>
    right
    simp only [List.mem_cons, List.not_mem_nil, or_false] at h
    rw [hvalid (by omega)]
    rcases h with rfl | rfl <;> rw [UInt8.toNat_ofNat'] <;> omega
  | three hn hm hk least noSurrogate =>
    right
    simp only [List.mem_cons, List.not_mem_nil, or_false] at h
    rw [hvalid (by omega)]
    rcases h with rfl | rfl | rfl <;> rw [UInt8.toNat_ofNat'] <;> omega
  | four hn hm hk hj least greatest =>
    right
    simp only [List.mem_cons, List.not_mem_nil, or_false] at h
    rw [hvalid (by omega)]
    rcases h with rfl | rfl | rfl | rfl <;> rw [UInt8.toNat_ofNat'] <;> omega

/-! ## The front of a byte string -/

/-- What a byte promises that leads a sequence of two, three or four. -/
inductive Leads : UInt8 → Lead → Prop
  | two {n : Nat} (hn : n < 32) (least : 2 ≤ n) :
      Leads (UInt8.ofNat (n + 0xC0)) ⟨0x80, 0xBF, 0, n⟩
  | three {n : Nat} (hn : n < 16) :
      Leads (UInt8.ofNat (n + 0xE0))
        ⟨if n = 0 then 0xA0 else 0x80, if n = 13 then 0x9F else 0xBF, 1, n⟩
  | four {n : Nat} (hn : n < 5) :
      Leads (UInt8.ofNat (n + 0xF0))
        ⟨if n = 0 then 0x90 else 0x80, if n = 4 then 0x8F else 0xBF, 2, n⟩

theorem Leads.lead?_eq {lead : Lead} (h : Leads b lead) : ¬ b < 0x80 ∧ lead? b = some lead := by
  cases h with
  | @two n hn least => interval_cases n <;> exact ⟨by decide, rfl⟩
  | @three n hn => interval_cases n <;> exact ⟨by decide, rfl⟩
  | @four n hn => interval_cases n <;> exact ⟨by decide, rfl⟩

theorem leads_of_lead? {lead : Lead} (h : lead? b = some lead) : Leads b lead := by
  have hb : b.toNat < 256 := b.toNat_lt
  have hself : ∀ {n : Nat}, n = b.toNat → UInt8.ofNat n = b := by
    rintro n rfl
    exact UInt8.ofNat_toNat
  unfold lead? at h
  simp only [UInt8.lt_iff_toNat_lt, UInt8.le_iff_toNat_le, ← UInt8.toNat_inj,
    UInt8.reduceToNat] at h
  -- One case for each range of lead bytes; the number of its group is read off the byte.
  split_ifs at h with h1 h2 h3 h4 h5 h6 h7 h8
  · obtain rfl := Option.some.inj h
    have hlead := Leads.two (n := b.toNat % 32) (by omega) (by omega)
    rwa [hself (by omega)] at hlead
  · obtain rfl := Option.some.inj h
    have hlead := Leads.three (n := 0) (by omega)
    rwa [hself (by omega)] at hlead
  · obtain rfl := Option.some.inj h
    have hlead := Leads.three (n := 13) (by omega)
    rwa [hself (by omega)] at hlead
  · obtain rfl := Option.some.inj h
    have hlead := Leads.three (n := b.toNat % 16) (by omega)
    rwa [hself (by omega), if_neg (by omega), if_neg (by omega)] at hlead
  · obtain rfl := Option.some.inj h
    have hlead := Leads.four (n := 0) (by omega)
    rwa [hself (by omega)] at hlead
  · obtain rfl := Option.some.inj h
    have hlead := Leads.four (n := b.toNat % 8) (by omega)
    rwa [hself (by omega), if_neg (by omega), if_neg (by omega)] at hlead
  · obtain rfl := Option.some.inj h
    have hlead := Leads.four (n := 4) (by omega)
    rwa [hself (by omega)] at hlead

/-! ## The bytes after a lead -/

theorem toNat_tail {m : Nat} (h : m < 64) : (UInt8.ofNat (m + 0x80)).toNat = m + 0x80 := by
  rw [UInt8.toNat_ofNat']
  omega

theorem isTail_iff : isTail b = true ↔ ∃ m < 64, b = UInt8.ofNat (m + 0x80) := by
  have hb : b.toNat < 256 := b.toNat_lt
  unfold isTail
  simp only [Bool.and_eq_true, decide_eq_true_eq, UInt8.le_iff_toNat_le, UInt8.reduceToNat]
  constructor
  · intro h
    refine ⟨b.toNat % 64, by omega, ?_⟩
    rw [show b.toNat % 64 + 0x80 = b.toNat by omega, UInt8.ofNat_toNat]
  · rintro ⟨m, hm, rfl⟩
    rw [toNat_tail hm]
    omega

theorem tailPiece_eq_char {more size value : Nat} :
    tailPiece (more + 1) size value rest = .char c ↔
      ∃ m < 64, ∃ after, rest = UInt8.ofNat (m + 0x80) :: after ∧
        tailPiece more (size + 1) (value * 64 + m) after = .char c := by
  have hgroup : ∀ m < 64, (UInt8.ofNat (m + 0x80)).toNat % 64 = m := by
    intro m hm
    rw [toNat_tail hm]
    omega
  constructor
  · intro h
    cases rest with
    | nil => simp [tailPiece] at h
    | cons b after =>
      rw [tailPiece] at h
      split_ifs at h with htail
      obtain ⟨m, hm, rfl⟩ := isTail_iff.1 htail
      rw [hgroup m hm] at h
      exact ⟨m, hm, after, rfl, h⟩
  · rintro ⟨m, hm, after, rfl, h⟩
    rw [tailPiece, if_pos (isTail_iff.2 ⟨m, hm, rfl⟩), hgroup m hm]
    exact h

/-- The lead can be followed by the tail byte of this group. -/
def Lead.Admits (lead : Lead) (m : Nat) : Prop :=
  lead.low.toNat ≤ m + 0x80 ∧ m + 0x80 ≤ lead.high.toNat

theorem admits_iff {n m top more : Nat} {low high : UInt8} (hm : m < 64) :
    Lead.Admits ⟨if n = 0 then low else 0x80, if n = top then high else 0xBF, more, n⟩ m ↔
      (n = 0 → low.toNat ≤ m + 0x80) ∧ (n = top → m + 0x80 ≤ high.toNat) := by
  have hlow : (0x80 : UInt8).toNat ≤ m + 0x80 := Nat.le_add_left _ m
  have hhigh : m + 0x80 ≤ (0xBF : UInt8).toNat := Nat.add_le_add_right (Nat.le_of_lt_succ hm) _
  apply and_congr
  · by_cases h0 : n = 0
    · rw [if_pos h0]
      exact ⟨fun h _ => h, fun h => h h0⟩
    · rw [if_neg h0]
      exact ⟨fun _ h => absurd h h0, fun _ => hlow⟩
  · by_cases ht : n = top
    · rw [if_pos ht]
      exact ⟨fun h _ => h, fun h => h ht⟩
    · rw [if_neg ht]
      exact ⟨fun _ h => absurd h ht, fun _ => hhigh⟩

theorem Leads.isTail {lead : Lead} (h : Leads b lead) {second : UInt8}
    (low : lead.low ≤ second) (high : second ≤ lead.high) : isTail second = true := by
  have htail : lead.low.toNat ≥ 0x80 ∧ lead.high.toNat ≤ 0xBF := by
    cases h with
    | two => exact ⟨le_refl _, le_refl _⟩
    | three => constructor <;> simp only <;> split_ifs <;> decide
    | four => constructor <;> simp only <;> split_ifs <;> decide
  unfold Utf8.isTail
  simp only [Bool.and_eq_true, decide_eq_true_eq, UInt8.le_iff_toNat_le] at low high ⊢
  exact ⟨htail.1.trans low, high.trans htail.2⟩

theorem Leads.frontPiece_eq_char {lead : Lead} (h : Leads b lead) :
    frontPiece b rest = .char c ↔
      ∃ m < 64, lead.Admits m ∧ ∃ after, rest = UInt8.ofNat (m + 0x80) :: after ∧
        tailPiece lead.more 2 (lead.bits * 64 + m) after = .char c := by
  obtain ⟨hb, hlead⟩ := h.lead?_eq
  unfold frontPiece
  simp only [if_neg hb, hlead]
  constructor
  · intro hpiece
    cases rest with
    | nil => simp at hpiece
    | cons second after =>
      simp only [Bool.and_eq_true, decide_eq_true_eq] at hpiece
      split_ifs at hpiece with hin
      obtain ⟨m, hm, rfl⟩ := isTail_iff.1 (h.isTail hin.1 hin.2)
      rw [UInt8.le_iff_toNat_le, UInt8.le_iff_toNat_le, toNat_tail hm] at hin
      refine ⟨m, hm, hin, after, rfl, ?_⟩
      rw [toNat_tail hm] at hpiece
      rwa [show (m + 0x80) % 64 = m by omega] at hpiece
  · rintro ⟨m, hm, ⟨low, high⟩, after, rfl, hpiece⟩
    simp only [Bool.and_eq_true, decide_eq_true_eq, UInt8.le_iff_toNat_le, toNat_tail hm]
    rw [if_pos ⟨low, high⟩, show (m + 0x80) % 64 = m by omega]
    exact hpiece

/-- Three bytes or four: the bounds of the second rule out what is written shorter, and what is no
character. -/
theorem admits_three {n m : Nat} (hm : m < 64) :
    Lead.Admits ⟨if n = 0 then 0xA0 else 0x80, if n = 13 then 0x9F else 0xBF, 1, n⟩ m ↔
      (n = 0 → 32 ≤ m) ∧ (n = 13 → m < 32) := by
  rw [admits_iff hm]
  simp only [UInt8.reduceToNat]
  omega

theorem admits_four {n m : Nat} (hm : m < 64) :
    Lead.Admits ⟨if n = 0 then 0x90 else 0x80, if n = 4 then 0x8F else 0xBF, 2, n⟩ m ↔
      (n = 0 → 16 ≤ m) ∧ (n = 4 → m < 16) := by
  rw [admits_iff hm]
  simp only [UInt8.reduceToNat]
  omega

theorem exists_sequence_of_frontPiece (h : frontPiece b rest = .char c) :
    ∃ tail after, rest = tail ++ after ∧ Sequence (b :: tail) c := by
  by_cases hb : b < 0x80
  · have hc : Char.ofNat b.toNat = c := by simpa [frontPiece, hb] using h
    have hone := Sequence.one (UInt8.lt_iff_toNat_lt.1 hb)
    rw [UInt8.ofNat_toNat, hc] at hone
    exact ⟨[], rest, rfl, hone⟩
  · cases hlead : lead? b with
    | none => simp [frontPiece, hb, hlead] at h
    | some lead =>
      have hleads := leads_of_lead? hlead
      obtain ⟨m, hm, hadmits, after, rfl, htail⟩ := hleads.frontPiece_eq_char.1 h
      cases hleads with
      | two hn least =>
        obtain rfl := Piece.char.inj htail
        exact ⟨_, after, rfl, .two hn hm least⟩
      | three hn =>
        obtain ⟨k, hk, after, rfl, hlast⟩ := tailPiece_eq_char.1 htail
        obtain rfl := Piece.char.inj hlast
        obtain ⟨least, noSurrogate⟩ := (admits_three hm).1 hadmits
        exact ⟨[_, _], after, rfl, .three hn hm hk least noSurrogate⟩
      | four hn =>
        obtain ⟨k, hk, after, rfl, hthird⟩ := tailPiece_eq_char.1 htail
        obtain ⟨j, hj, after, rfl, hlast⟩ := tailPiece_eq_char.1 hthird
        obtain rfl := Piece.char.inj hlast
        obtain ⟨least, greatest⟩ := (admits_four hm).1 hadmits
        exact ⟨[_, _, _], after, rfl, .four hn hm hk hj least greatest⟩

theorem Sequence.frontPiece_eq {tail : List UInt8} (h : Sequence (b :: tail) c) :
    frontPiece b (tail ++ rest) = .char c := by
  cases h with
  | @one n hn =>
    have hnat : (UInt8.ofNat n).toNat = n := UInt8.toNat_ofNat_of_lt' (Nat.lt_trans hn (by decide))
    have hb : UInt8.ofNat n < 0x80 := by
      rw [UInt8.lt_iff_toNat_lt, hnat]
      exact hn
    unfold frontPiece
    rw [if_pos hb, hnat]
  | @two n m hn hm least =>
    have hadmits : Lead.Admits ⟨0x80, 0xBF, 0, n⟩ m :=
      ⟨Nat.le_add_left _ m, Nat.add_le_add_right (Nat.le_of_lt_succ hm) _⟩
    exact (Leads.two hn least).frontPiece_eq_char.2 ⟨_, hm, hadmits, rest, rfl, rfl⟩
  | three hn hm hk least noSurrogate =>
    exact (Leads.three hn).frontPiece_eq_char.2
      ⟨_, hm, (admits_three hm).2 ⟨least, noSurrogate⟩, _, rfl,
        tailPiece_eq_char.2 ⟨_, hk, rest, rfl, rfl⟩⟩
  | four hn hm hk hj least greatest =>
    exact (Leads.four hn).frontPiece_eq_char.2
      ⟨_, hm, (admits_four hm).2 ⟨least, greatest⟩, _, rfl,
        tailPiece_eq_char.2 ⟨_, hk, _, rfl, tailPiece_eq_char.2 ⟨_, hj, rest, rfl, rfl⟩⟩⟩

/-! ## Whole byte strings -/

theorem piecesAfter_eq (skip : Nat) (bytes : List UInt8) :
    piecesAfter skip bytes = pieces (bytes.drop skip) := by
  induction bytes generalizing skip with
  | nil => simp [piecesAfter, pieces]
  | cons b rest ih =>
    cases skip with
    | zero => rfl
    | succ skip => rw [piecesAfter, ih, List.drop_succ_cons]

theorem pieces_append (c : Char) (rest : List UInt8) :
    pieces (String.utf8EncodeChar c ++ rest) = .char c :: pieces rest := by
  have hsequence := sequence_encode c
  have hlength := String.length_utf8EncodeChar c
  cases hbytes : String.utf8EncodeChar c with
  | nil =>
    rw [hbytes] at hsequence
    cases hsequence
  | cons b tail =>
    rw [hbytes] at hsequence hlength
    have hsize : c.utf8Size - 1 = tail.length := by
      rw [← hlength, List.length_cons, Nat.add_sub_cancel]
    rw [pieces, List.cons_append, piecesAfter, hsequence.frontPiece_eq, piecesAfter_eq, Piece.size,
      hsize, List.drop_left]

theorem exists_front_of_ofPieces {index : Nat} {cs : List Char}
    (h : ofPieces index (pieces (b :: rest)) = .ok cs) :
    ∃ c after cs', b :: rest = String.utf8EncodeChar c ++ after ∧ cs = c :: cs' ∧
      ofPieces (index + c.utf8Size) (pieces after) = .ok cs' := by
  cases hfront : frontPiece b rest with
  | illFormed size cutShort => simp [pieces, piecesAfter, hfront, ofPieces] at h
  | char c =>
    obtain ⟨tail, after, rfl, hsequence⟩ := exists_sequence_of_frontPiece hfront
    have hbytes := hsequence.eq_encode
    rw [← List.cons_append, hbytes, pieces_append, ofPieces] at h
    cases hafter : ofPieces (index + c.utf8Size) (pieces after) with
    | error f => simp [hafter, Except.map] at h
    | ok cs' =>
      rw [hafter] at h
      obtain rfl := Except.ok.inj h
      exact ⟨c, after, cs', by rw [← hbytes, List.cons_append], rfl, hafter⟩

theorem eq_encodeList_of_ofPieces {index : Nat} {cs : List Char}
    (h : ofPieces index (pieces bytes) = .ok cs) : bytes = encodeList cs := by
  induction cs generalizing index bytes with
  | nil =>
    cases bytes with
    | nil => rfl
    | cons b rest =>
      obtain ⟨c, after, cs', -, hnil, -⟩ := exists_front_of_ofPieces h
      cases hnil
  | cons c cs ih =>
    cases bytes with
    | nil => cases h
    | cons b rest =>
      obtain ⟨c', after, cs', hbytes, hcs, hafter⟩ := exists_front_of_ofPieces h
      cases hcs
      rw [hbytes, ih hafter, encodeList_cons]

theorem ofPieces_encode (index : Nat) (cs : List Char) :
    ofPieces index (pieces (encodeList cs)) = .ok cs := by
  induction cs generalizing index with
  | nil => rfl
  | cons c cs ih =>
    rw [encodeList_cons, pieces_append, ofPieces, ih]
    rfl

theorem decode_eq_ok_iff {s : String} : decode bytes = .ok s ↔ bytes = encode s := by
  unfold decode decodeList encode
  constructor
  · intro h
    cases hread : ofPieces 0 (pieces bytes) with
    | error f => simp [hread, Except.map] at h
    | ok cs =>
      rw [hread] at h
      obtain rfl := Except.ok.inj h
      rw [String.toList_ofList]
      exact eq_encodeList_of_ofPieces hread
  · rintro rfl
    rw [ofPieces_encode, Except.map, String.ofList_toList]

theorem decode?_eq_some_iff {s : String} : decode? bytes = some s ↔ bytes = encode s := by
  rw [← decode_eq_ok_iff, decode?]
  cases decode bytes <;> simp [Except.toOption]

theorem pieces_encodeList (cs : List Char) : pieces (encodeList cs) = cs.map .char := by
  induction cs with
  | nil => rfl
  | cons c cs ih => rw [encodeList_cons, pieces_append, ih, List.map_cons]

theorem decodeLossy_encode (s : String) : decodeLossy (encode s) = s := by
  have hshown : Piece.shown ∘ Piece.char = id := rfl
  rw [decodeLossy, encode, pieces_encodeList, List.map_map, hshown, List.map_id,
    String.ofList_toList]

theorem encode_injective {s t : String} (h : encode s = encode t) : s = t :=
  Except.ok.inj ((decode_eq_ok_iff.2 rfl).symm.trans (decode_eq_ok_iff.2 h))

theorem encodeList_ascii (h : ∀ b ∈ bytes, b < 0x80) :
    encodeList (bytes.map fun b => Char.ofNat b.toNat) = bytes := by
  induction bytes with
  | nil => rfl
  | cons b rest ih =>
    have hone := (Sequence.one (UInt8.lt_iff_toNat_lt.1 (h b List.mem_cons_self))).eq_encode
    rw [UInt8.ofNat_toNat] at hone
    rw [List.map_cons, encodeList_cons, ← hone, ih fun t ht => h t (List.mem_cons_of_mem b ht),
      List.singleton_append]

end MapStandin.Utf8
