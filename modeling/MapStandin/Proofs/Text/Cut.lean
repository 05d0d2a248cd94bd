import MapStandin.DataDownload.Service
import MapStandin.Desktop.Run
import MapStandin.Proofs.Text.Utf8

/-! # The laws of the cut

A cut takes whole characters, however many bytes they have. After a longer cut a shorter one leaves
what it leaves of the whole text, since it comes before the dots of the longer one. -/

namespace MapStandin

namespace Utf8

theorem utf8ByteSize_ofList (cs : List Char) :
    (String.ofList cs).utf8ByteSize = (encodeList cs).length := by
  rw [← String.size_toByteArray, String.toByteArray_ofList, List.utf8Encode,
    List.size_toByteArray, encodeList]

theorem length_encodeList (cs : List Char) :
    (encodeList cs).length = (cs.map Char.utf8Size).sum := by
  rw [encodeList, List.length_flatMap]
  simp only [String.length_utf8EncodeChar]

end Utf8

namespace Text

open Parameter (Accepted Request Value filedLength loggedLength)

variable {n m : Nat} {s : String}

/-! ## The place of a cut -/

theorem offset_cutPlace (n : Nat) (s : String) :
    (cutPlace n s).offset.byteIdx = (Utf8.encodeList (s.toList.take n)).length := by
  rw [(splits_cutPlace n s).offset_eq_rawEndPos, String.byteIdx_rawEndPos,
    Utf8.utf8ByteSize_ofList]

theorem take_encode (n : Nat) (s : String) :
    (Utf8.encode s).take (cutPlace n s).offset.byteIdx =
      Utf8.encode (String.ofList (s.toList.take n)) := by
  have hbytes : Utf8.encode s =
      Utf8.encodeList (s.toList.take n) ++ Utf8.encodeList (s.toList.drop n) := by
    rw [← Utf8.encodeList_append, List.take_append_drop, Utf8.encode]
  rw [hbytes, offset_cutPlace, List.take_left, Utf8.encode, String.toList_ofList]

/-! ## Cutting twice -/

theorem toList_cut_of_lt_length (h : n < s.toList.length) :
    (cut n s).toList = s.toList.take n ++ "...".toList := by
  rw [cut_of_lt_length h, String.toList_append, String.toList_ofList]

theorem cut_cut (h : n ≤ m) (s : String) : cut n (cut m s) = cut n s := by
  by_cases hm : s.toList.length ≤ m
  · rw [cut_of_length_le hm]
  · have hlong : m < s.toList.length := Nat.lt_of_not_le hm
    have hlength : (s.toList.take m).length = m := List.length_take_of_le (Nat.le_of_lt hlong)
    have hcut : n < (cut m s).toList.length := by
      rw [toList_cut_of_lt_length hlong, List.length_append, hlength]
      exact Nat.lt_of_le_of_lt h (Nat.lt_add_of_pos_right (by decide))
    -- the dots stand behind `m` characters, where the cut after `n` does not come
    rw [cut_of_lt_length hcut, cut_of_lt_length (Nat.lt_of_le_of_lt h hlong),
      toList_cut_of_lt_length hlong, List.take_append_of_le_length (by rw [hlength]; exact h),
      List.take_take, Nat.min_eq_left h]

theorem cut_self (n : Nat) (s : String) : cut n (cut n s) = cut n s :=
  cut_cut (Nat.le_refl n) s

theorem length_cut_le (n : Nat) (s : String) : (cut n s).toList.length ≤ n + 3 := by
  by_cases h : s.toList.length ≤ n
  · rw [cut_of_length_le h]
    exact Nat.le_add_right_of_le h
  · have hdots : "...".toList.length = 3 := rfl
    rw [toList_cut_of_lt_length (Nat.lt_of_not_le h), List.length_append, hdots, List.length_take]
    omega

theorem cut_cut_of_room (h : n + 3 ≤ m) (s : String) : cut m (cut n s) = cut n s :=
  cut_of_length_le (Nat.le_trans (length_cut_le n s) h)

/-! ## Values that are shown -/

/-- A request in which a parameter with this text stands between others. -/
def requestWith (before after : List (String × Accepted)) (name : String) (value : Value)
    (raw : String) : Request :=
  ⟨before ++ (name, ⟨raw, value⟩) :: after⟩

theorem texts_requestWith (before after : List (String × Accepted)) (name raw : String)
    (value : Value) : (requestWith before after name value raw).texts =
      Request.texts ⟨before⟩ ++ (name, raw) :: Request.texts ⟨after⟩ := by
  simp only [requestWith, Request.texts, List.map_append, List.map_cons]

structure CutPost (s : String) : Prop where
  whole : ∀ n, s.length ≤ n → cut n s = s
  front : ∀ n, n < s.length → cut n s = String.ofList (s.toList.take n) ++ "..."
  /-- The place of the cut lies behind the first characters, of however many bytes each. -/
  place : ∀ n, (cutPlace n s).offset.byteIdx = ((s.toList.take n).map Char.utf8Size).sum
  /-- No character lies on both sides of the place. -/
  bytes : ∀ n, Utf8.decode ((Utf8.encode s).take (cutPlace n s).offset.byteIdx) =
    .ok (String.ofList (s.toList.take n))
  twice : ∀ n m, n ≤ m → cut n (cut m s) = cut n s
  again : ∀ n, cut n (cut n s) = cut n s
  /-- A longer cut that has room for the dots leaves a shorter one alone. -/
  room : ∀ n m, n + 3 ≤ m → cut m (cut n s) = cut n s
  /-- The log of a run tells a cut text as it tells the text. -/
  told : ∀ m, loggedLength ≤ m → ∀ before after name value,
    (Desktop.tellParameters (requestWith before after name value (cut m s)) :
      Narrated Rejection Unit) = Desktop.tellParameters (requestWith before after name value s)
  /-- So does the log of a data download. -/
  toldLine : ∀ m, loggedLength ≤ m → ∀ name,
    DataDownload.toldLine name (some (cut m s)) = DataDownload.toldLine name (some s)
  /-- A result file shows a cut text as it shows the text. -/
  filed : ∀ m, filedLength ≤ m → ∀ (standin : Standin) w context before after name value,
    standin.report w context (requestWith before after name value (cut m s)) =
      standin.report w context (requestWith before after name value s)
  filedContext : ∀ m, filedLength ≤ m → ∀ (standin : Standin) w before after label r,
    standin.report w (before ++ (label, cut m s) :: after) r =
      standin.report w (before ++ (label, s) :: after) r

theorem cut_spec (s : String) : CutPost s := by
  constructor
  case whole =>
    intro n h
    exact cut_of_length_le (String.length_toList ▸ h)
  case front =>
    intro n h
    exact cut_of_lt_length (String.length_toList ▸ h)
  case place =>
    intro n
    rw [offset_cutPlace, Utf8.length_encodeList]
  case bytes =>
    intro n
    rw [take_encode, Utf8.decode_eq_ok_iff]
  case twice => exact fun n m h => cut_cut h s
  case again => exact fun n => cut_self n s
  case room => exact fun n m h => cut_cut_of_room h s
  case told =>
    intro m h before after name value
    unfold Desktop.tellParameters
    simp only [texts_requestWith, List.map_append, List.map_cons, cut_cut h]
  case toldLine =>
    intro m h name
    simp only [DataDownload.toldLine, Option.getD_some, cut_cut h]
  case filed =>
    intro m h standin w context before after name value
    simp only [Standin.report, Standin.lines, texts_requestWith, List.map_append, List.map_cons,
      Standin.labelled, cut_cut h]
  case filedContext =>
    intro m h standin w before after label r
    simp only [Standin.report, Standin.lines, List.map_append, List.map_cons, Standin.labelled,
      cut_cut h]

example : cut 3 "aé€😀z" = "aé€..." ∧ (cutPlace 3 "aé€😀z").offset.byteIdx = 6 := by decide

end Text

end MapStandin
