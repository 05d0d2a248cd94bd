/-! # Character classes

The sets of characters that the readers of this library skip, refuse or compare without case. -/

namespace MapStandin.Text

/-- What holds of all characters of a list is decided by going through the list. -/
instance decidableForallMem (cs : List Char) (p : Char → Prop) [DecidablePred p] :
    Decidable (∀ c ∈ cs, p c) :=
  List.decidableBAll p cs

/-- White space in the sense of Unicode's `White_Space` property. -/
def isBlank (c : Char) : Bool :=
  let n := c.toNat
  (0x09 ≤ n && n ≤ 0x0D) || n == 0x20 || n == 0x85 || n == 0xA0 || n == 0x1680 ||
    (0x2000 ≤ n && n ≤ 0x200A) || n == 0x2028 || n == 0x2029 || n == 0x202F || n == 0x205F ||
    n == 0x3000

/-- The control characters of Unicode's general category `Cc`. -/
def isControl (c : Char) : Bool :=
  let n := c.toNat
  n < 0x20 || (0x7F ≤ n && n < 0xA0)

def trimList (cs : List Char) : List Char :=
  ((cs.dropWhile isBlank).reverse.dropWhile isBlank).reverse

def trim (s : String) : String :=
  String.ofList (trimList s.toList)

/-- The text with the letters `a` to `z` raised to capitals, and nothing else changed. -/
def capitals (s : String) : String :=
  String.ofList (s.toList.map Char.toUpper)

/-- The text with the letters `A` to `Z` lowered, and nothing else changed. -/
def small (s : String) : String :=
  String.ofList (s.toList.map Char.toLower)

/-- The rest of a list that starts with the given items. -/
def afterList [DecidableEq α] : List α → List α → Option (List α)
  | [], cs => some cs
  | _ :: _, [] => none
  | h :: hs, c :: cs => if h = c then afterList hs cs else none

def after? (head s : String) : Option String :=
  (afterList head.toList s.toList).map String.ofList

def startsWith (head s : String) : Bool :=
  (afterList head.toList s.toList).isSome

def endsWith (tail s : String) : Bool :=
  (afterList tail.toList.reverse s.toList.reverse).isSome

theorem afterList_eq_some_iff [DecidableEq α] {hs cs r : List α} :
    afterList hs cs = some r ↔ cs = hs ++ r := by
  induction hs generalizing cs with
  | nil => simp [afterList]
  | cons h hs ih =>
    cases cs with
    | nil => simp [afterList]
    | cons c cs =>
      by_cases hc : h = c
      · simp [afterList, hc, ih]
      · simp [afterList, hc, Ne.symm hc]

@[simp]
theorem afterList_append [DecidableEq α] (hs r : List α) : afterList hs (hs ++ r) = some r :=
  afterList_eq_some_iff.2 rfl

theorem afterList_isSome_iff [DecidableEq α] {hs cs : List α} :
    (afterList hs cs).isSome = true ↔ hs <+: cs := by
  rw [Option.isSome_iff_exists]
  constructor
  · rintro ⟨r, hr⟩
    exact ⟨r, (afterList_eq_some_iff.1 hr).symm⟩
  · rintro ⟨r, hr⟩
    exact ⟨r, afterList_eq_some_iff.2 hr.symm⟩

theorem after?_eq_some_iff {head s rest : String} :
    after? head s = some rest ↔ s = head ++ rest := by
  unfold after?
  rw [Option.map_eq_some_iff]
  constructor
  · rintro ⟨cs, hcs, rfl⟩
    apply String.toList_injective
    rw [afterList_eq_some_iff.1 hcs, String.toList_append, String.toList_ofList]
  · rintro rfl
    exact ⟨rest.toList, by simp, String.ofList_toList⟩

theorem startsWith_iff {head s : String} :
    startsWith head s = true ↔ head.toList <+: s.toList :=
  afterList_isSome_iff

theorem endsWith_iff {tail s : String} :
    endsWith tail s = true ↔ tail.toList <:+ s.toList :=
  afterList_isSome_iff.trans List.reverse_prefix

end MapStandin.Text
