import MapStandin.Text.Fields
import MapStandin.Xml.Escape

/-! # Escaped texts

An escaped text holds no character that opens or closes markup. Each ampersand in it starts an
entity, and the characters of these entities give the text back. -/

namespace MapStandin.Xml

variable {c : Char} {v : List Char}

theorem escapeChar_of_not_mem (h : c ∉ entities.map Prod.fst) : escapeChar c = [c] := by
  have hlookup : entities.lookup c = none := by
    refine List.lookup_eq_none_iff.2 fun entry hentry => ?_
    rw [bne_iff_ne]
    rintro rfl
    exact h (List.mem_map_of_mem hentry)
  unfold escapeChar
  rw [hlookup]

theorem escapeChar_of_mem : ∀ entry ∈ entities, escapeChar entry.1 = entity entry.2 := by
  decide

theorem mem_escaped (h : c ∈ v.flatMap escapeChar) :
    (c ∈ v ∧ c ∉ entities.map Prod.fst) ∨ ∃ entry ∈ entities, c ∈ entity entry.2 := by
  obtain ⟨d, hd, hc⟩ := List.mem_flatMap.1 h
  by_cases hmem : d ∈ entities.map Prod.fst
  · obtain ⟨entry, hentry, rfl⟩ := List.mem_map.1 hmem
    rw [escapeChar_of_mem entry hentry] at hc
    exact .inr ⟨entry, hentry, hc⟩
  · rw [escapeChar_of_not_mem hmem, List.mem_singleton] at hc
    exact .inl (hc ▸ ⟨hd, hmem⟩)

/-! ## Markup and entities -/

/-- The characters that open or close a tag or a value. -/
def delimiters : List Char := ['<', '>', '"', '\'']

theorem not_mem_delimiters (h : c ∈ v.flatMap escapeChar) : c ∉ delimiters := by
  obtain ⟨-, hplain⟩ | ⟨entry, hentry, hc⟩ := mem_escaped h
  · have hsub : ∀ d ∈ delimiters, d ∈ entities.map Prod.fst := by decide
    exact fun hd => hplain (hsub c hd)
  · have hno : ∀ entry ∈ entities, ∀ d ∈ entity entry.2, d ∉ delimiters := by decide
    exact hno entry hentry c hc

def StartsEntity (s : List Char) : Prop := ∃ entry ∈ entities, entity entry.2 <+: s

/-- An ampersand among the characters written for one character opens its entity. -/
theorem escapeChar_eq_append {before after : List Char}
    (h : escapeChar c = before ++ '&' :: after) :
    ∃ entry ∈ entities, entity entry.2 = '&' :: after := by
  by_cases hmem : c ∈ entities.map Prod.fst
  · obtain ⟨entry, hentry, rfl⟩ := List.mem_map.1 hmem
    rw [escapeChar_of_mem entry hentry] at h
    cases before with
    | nil => exact ⟨entry, hentry, h⟩
    | cons b before =>
      have hname : ∀ entry ∈ entities, '&' ∉ (entity entry.2).tail := by decide
      have htail : '&' ∈ (entity entry.2).tail := by simp [h]
      exact absurd htail (hname entry hentry)
  · rw [escapeChar_of_not_mem hmem] at h
    obtain rfl : '&' = c := List.mem_singleton.1 (h ▸ List.mem_append_right _ List.mem_cons_self)
    exact absurd (by decide) hmem

theorem startsEntity_of_escaped {before after : List Char}
    (h : v.flatMap escapeChar = before ++ '&' :: after) : StartsEntity ('&' :: after) := by
  induction v generalizing before with
  | nil => simp at h
  | cons c v ih =>
    rw [List.flatMap_cons] at h
    -- What is written for `c` ends before the ampersand, or the ampersand is in it.
    obtain ⟨later, -, hv⟩ | ⟨inside, hc, hafter⟩ := List.append_eq_append_iff.1 h
    · exact ih hv
    · cases inside with
      | nil =>
        have hv : v.flatMap escapeChar = [] ++ '&' :: after := hafter.symm
        exact ih hv
      | cons d inside =>
        obtain ⟨rfl, rfl⟩ := List.cons.inj hafter
        obtain ⟨entry, hentry, hentity⟩ := escapeChar_eq_append hc
        exact ⟨entry, hentry, v.flatMap escapeChar, by rw [hentity]; rfl⟩

/-! ## Reading back -/

/-- The character of a known entity. -/
def character? (name : List Char) : Option Char :=
  (entities.find? fun entry => entry.2.toList = name).map Prod.fst

/-- A stretch behind an ampersand, with the entity at its start replaced if it is known. -/
def resolve (s : List Char) : List Char :=
  match Text.splitFirst ';' s with
  | some (name, rest) =>
    match character? name with
    | some c => c :: rest
    | none => '&' :: s
  | none => '&' :: s

def unescape (s : List Char) : List Char :=
  match Text.fields '&' s with
  | [] => []
  | first :: later => first ++ later.flatMap resolve

theorem character?_of_mem :
    ∀ entry ∈ entities, character? entry.2.toList = some entry.1 ∧ ';' ∉ entry.2.toList ∧
      '&' ∉ entry.2.toList := by
  decide

theorem unescape_of_not_mem {s : List Char} (h : '&' ∉ s) : unescape s = s := by
  unfold unescape
  rw [Text.fields_of_not_mem h]
  exact List.append_nil s

theorem unescape_append {a s : List Char} (h : '&' ∉ a) : unescape (a ++ s) = a ++ unescape s := by
  unfold unescape
  cases hs : Text.fields '&' s with
  | nil => exact absurd hs (Text.fields_ne_nil '&' s)
  | cons first later =>
    rw [Text.fields_append_of_not_mem h hs]
    exact List.append_assoc a first _

theorem unescape_entity {entry : Char × String} (h : entry ∈ entities) (s : List Char) :
    unescape (entity entry.2 ++ s) = entry.1 :: unescape s := by
  obtain ⟨hknown, hend, hmark⟩ := character?_of_mem entry h
  unfold unescape
  cases hs : Text.fields '&' s with
  | nil => exact absurd hs (Text.fields_ne_nil '&' s)
  | cons first later =>
    have hmark' : '&' ∉ entry.2.toList ++ [';'] := by simp [hmark]
    have hsplit : Text.splitFirst ';' (entry.2.toList ++ [';'] ++ first) =
        some (entry.2.toList, first) := by
      rw [List.append_assoc]
      exact Text.splitFirst_append hend
    have hfields : Text.fields '&' (entity entry.2 ++ s) =
        [] :: (entry.2.toList ++ [';'] ++ first) :: later := by
      rw [entity, List.cons_append, Text.fields, if_pos rfl,
        Text.fields_append_of_not_mem hmark' hs]
    have hresolve : resolve (entry.2.toList ++ [';'] ++ first) = entry.1 :: first := by
      unfold resolve
      rw [hsplit]
      simp only [hknown]
    rw [hfields]
    simp only [List.flatMap_cons, hresolve]
    rfl

theorem unescape_escaped (v : List Char) : unescape (v.flatMap escapeChar) = v := by
  induction v with
  | nil => rfl
  | cons c v ih =>
    rw [List.flatMap_cons]
    by_cases hmem : c ∈ entities.map Prod.fst
    · obtain ⟨entry, hentry, rfl⟩ := List.mem_map.1 hmem
      rw [escapeChar_of_mem entry hentry, unescape_entity hentry, ih]
    · have hc : '&' ∉ [c] := by
        rw [List.mem_singleton]
        rintro rfl
        exact hmem (by decide)
      rw [escapeChar_of_not_mem hmem, unescape_append hc, ih]
      rfl

structure EscapePost (s escaped : String) : Prop where
  noMarkup : ∀ c ∈ escaped.toList, c ∉ delimiters
  ampersands : ∀ before after, escaped.toList = before ++ '&' :: after →
    StartsEntity ('&' :: after)
  back : String.ofList (unescape escaped.toList) = s

theorem escape_spec (s : String) : EscapePost s (escape s) := by
  have hlist : (escape s).toList = s.toList.flatMap escapeChar := String.toList_ofList
  constructor
  case noMarkup =>
    rw [hlist]
    exact fun _ => not_mem_delimiters
  case ampersands =>
    rw [hlist]
    exact fun _ _ => startsEntity_of_escaped
  case back => rw [hlist, unescape_escaped, String.ofList_toList]

example : unescape "a&lt;b&gt;&amp;lt; &copy;".toList = "a<b>&lt; &copy;".toList := by decide

end MapStandin.Xml
