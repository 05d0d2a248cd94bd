import MapStandin.Text.Percent
import MapStandin.Proofs.Text.Utf8

/-! # Texts that need no percent encoding

A text without a percent sign is decoded to itself, and one of plain characters only is encoded as
itself. -/

namespace MapStandin.Percent

variable {bytes : List UInt8} {cs : List Char}

theorem decode_of_not_mem (h : sign ∉ bytes) : decode bytes = bytes := by
  induction bytes with
  | nil => rfl
  | cons b rest ih =>
    simp only [List.mem_cons, not_or] at h
    have hrest := ih h.2
    match rest with
    | [] | [_] => rfl
    | _ :: _ :: _ => rw [decode, if_neg (Ne.symm h.1), hrest]

theorem sign_not_mem_encodeList (h : '%' ∉ cs) : sign ∉ Utf8.encodeList cs := by
  intro hsign
  obtain ⟨c, hc, hbyte⟩ := List.mem_flatMap.1 hsign
  have hnat : sign.toNat = 0x25 := rfl
  obtain ⟨-, hself⟩ | ⟨-, habove⟩ := Utf8.toNat_of_mem_encode hbyte
  · have hpercent : c = '%' := Char.toNat_inj.1 (hself.symm.trans hnat)
    exact h (hpercent ▸ hc)
  · omega

theorem decode_encodeList (h : '%' ∉ cs) :
    decode (Utf8.encodeList cs) = Utf8.encodeList cs :=
  decode_of_not_mem (sign_not_mem_encodeList h)

theorem encode_of_plain {isPlain : Char → Bool} (h : ∀ c ∈ cs, isPlain c = true) :
    encode isPlain cs = cs := by
  induction cs with
  | nil => rfl
  | cons c cs ih =>
    obtain ⟨hc, hcs⟩ := List.forall_mem_cons.1 h
    rw [encode, List.flatMap_cons, encodeChar, if_pos hc, List.singleton_append]
    exact congrArg (c :: ·) (ih hcs)

end MapStandin.Percent
