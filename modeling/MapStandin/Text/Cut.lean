/-! # Cutting long texts

A value shown in a log line or in a result file is cut to a number of characters; three dots mark
the cut. The characters take one to four bytes each, so the place of the cut is found by going
through them. -/

namespace MapStandin.Text

/-- The place behind the first `limit` characters; the end if there are no more than these. -/
def cutPlace (limit : Nat) (s : String) : s.Pos :=
  s.startPos.nextn limit

/-- The text itself if it has at most `limit` characters, else its first `limit` and three dots. -/
def cut (limit : Nat) (s : String) : String :=
  if cutPlace limit s = s.endPos then s else (s.sliceTo (cutPlace limit s)).copy ++ "..."

theorem splits_cutPlace (limit : Nat) (s : String) :
    (cutPlace limit s).Splits (String.ofList (s.toList.take limit))
      (String.ofList (s.toList.drop limit)) :=
  s.splits_nextn_startPos limit

theorem cutPlace_eq_endPos_iff {limit : Nat} {s : String} :
    cutPlace limit s = s.endPos ↔ s.toList.length ≤ limit := by
  rw [(splits_cutPlace limit s).eq_endPos_iff, String.ofList_eq_empty_iff, List.drop_eq_nil_iff]

theorem cut_of_length_le {limit : Nat} {s : String} (h : s.toList.length ≤ limit) :
    cut limit s = s :=
  if_pos (cutPlace_eq_endPos_iff.2 h)

theorem cut_of_lt_length {limit : Nat} {s : String} (h : limit < s.toList.length) :
    cut limit s = String.ofList (s.toList.take limit) ++ "..." := by
  rw [cut, if_neg (mt cutPlace_eq_endPos_iff.1 (Nat.not_le.2 h)),
    (splits_cutPlace limit s).copy_sliceTo_eq]

end MapStandin.Text
