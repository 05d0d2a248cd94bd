import Mathlib.Data.List.Basic
import MapStandin.Proofs.Xml.Escaped
import MapStandin.Proofs.Xml.Grammar
import MapStandin.Xml.Element

/-! # Documents as written

A written document is well formed if the names in it are names and the texts hold legal characters
only. It shows each element with its attributes, in order. -/

namespace MapStandin.Xml

variable {c : Char} {s rest gap : List Char} {inside : Bool} {nodes : List Node}
  {attributes more : List (Name × String)}

/-! ## Characters of names -/

theorem isLegal_of_isNameChar (h : isNameChar c) : isLegal c := by
  simp only [isNameChar, isLegal, Unicode.Ranges.has, nameStartRanges, nameLaterRanges,
    legalRanges, List.any_cons, List.any_nil, Bool.or_eq_true, Bool.and_eq_true,
    decide_eq_true_eq, Bool.false_eq_true, or_false] at h ⊢
  omega

theorem not_isBlank_of_isNameChar (h : isNameChar c) : ¬ isBlank c := by
  intro hblank
  have hmem : c ∈ [' ', '\t', '\n', '\r'] := of_decide_eq_true hblank
  have hno : ∀ b ∈ [' ', '\t', '\n', '\r'], ¬ isNameChar b := by decide
  exact hno c hmem h

theorem not_mem_entities_of_isNameChar (h : isNameChar c) : c ∉ entities.map Prod.fst := by
  intro hmem
  have hno : ∀ b ∈ entities.map Prod.fst, ¬ isNameChar b := by decide
  exact hno c hmem h

/-! ## Legal texts -/

def Legal (s : String) : Prop := ∀ c ∈ s.toList, isLegal c

instance {s : String} : Decidable (Legal s) :=
  inferInstanceAs (Decidable (∀ c ∈ s.toList, isLegal c))

theorem Legal.append {s t : String} (hs : Legal s) (ht : Legal t) : Legal (s ++ t) := by
  unfold Legal
  rw [String.toList_append, List.forall_mem_append]
  exact ⟨hs, ht⟩

/-! ## Escaped texts -/

@[simp] theorem Name.escaped (n : Name) : n.val.toList.flatMap escapeChar = n.chars := by
  have hchar : ∀ c ∈ n.chars, escapeChar c = [c] := fun c hc =>
    escapeChar_of_not_mem (not_mem_entities_of_isNameChar (n.isNameChar_of_mem hc))
  exact (List.flatMap_congr hchar).trans (List.flatMap_singleton' _)

theorem not_mem_escaped (v : List Char) : '>' ∉ v.flatMap escapeChar := fun h =>
  not_mem_delimiters h (by decide)

theorem Content.escaped {v : List Char} (legal : ∀ c ∈ v, isLegal c) :
    Content true (v.flatMap escapeChar) [] := by
  induction v with
  | nil => exact .nil
  | cons c v ih =>
    have hrest := ih fun d hd => legal d (List.mem_cons_of_mem c hd)
    -- The mark that ends an unparsed section would need a bracket that is never written.
    have hopen : ¬ "]]>".toList <+: (c :: v).flatMap escapeChar := fun h =>
      not_mem_escaped (c :: v) (h.subset (by decide))
    rw [List.flatMap_cons] at hopen ⊢
    by_cases hmem : c ∈ entities.map Prod.fst
    · obtain ⟨entry, hentry, rfl⟩ := List.mem_map.1 hmem
      rw [escapeChar_of_mem entry hentry]
      exact .reference (.entity hentry) hrest
    · rw [escapeChar_of_not_mem hmem] at hopen ⊢
      refine .char (legal c List.mem_cons_self) ⟨?_, ?_⟩ hopen hrest <;>
        · rintro rfl
          exact hmem (by decide)

/-- A character of a value that is read as itself. -/
def isValueChar (c : Char) : Bool := isLegal c && (c == ' ' || !isBlank c)

theorem Value.escaped {v : List Char} (h : ∀ c ∈ v, isValueChar c) :
    Value '"' (v.flatMap escapeChar) v := by
  induction v with
  | nil => exact .nil
  | cons c v ih =>
    have hrest := ih fun d hd => h d (List.mem_cons_of_mem c hd)
    have hc := h c List.mem_cons_self
    simp only [isValueChar, Bool.and_eq_true, Bool.or_eq_true, beq_iff_eq,
      Bool.not_eq_true'] at hc
    rw [List.flatMap_cons]
    -- A character is written as its entity or, if it has none, as itself.
    by_cases hmem : c ∈ entities.map Prod.fst
    · obtain ⟨entry, hentry, rfl⟩ := List.mem_map.1 hmem
      rw [escapeChar_of_mem entry hentry]
      exact .reference (.entity hentry) hrest
    · have hsame : (if isBlank c then ' ' else c) = c := by
        obtain rfl | hno := hc.2
        · rfl
        · rw [hno]
          rfl
      have hchar : Value '"' (c :: v.flatMap escapeChar) ((if isBlank c then ' ' else c) :: v) := by
        refine .char hc.1 ⟨?_, ?_, ?_⟩ hrest <;>
          · rintro rfl
            exact hmem (by decide)
      rw [hsame] at hchar
      rw [escapeChar_of_not_mem hmem]
      exact hchar

/-! ## Pieces -/

def chars (pieces : List Piece) : List Char := pieces.flatMap fun p => p.written.toList

@[simp] theorem chars_nil : chars [] = [] := rfl

@[simp] theorem chars_append (ps qs : List Piece) : chars (ps ++ qs) = chars ps ++ chars qs :=
  List.flatMap_append

@[simp] theorem chars_markup (text : String) (ps : List Piece) :
    chars (.markup text :: ps) = text.toList ++ chars ps := rfl

@[simp] theorem chars_data (text : String) (ps : List Piece) :
    chars (.data text :: ps) = text.toList.flatMap escapeChar ++ chars ps := by
  simp [chars, Piece.written, escape]

theorem toList_document (root : Element) :
    (document root).toList = declaration.toList ++ chars (root.pieces 0) := by
  unfold document documentPieces
  rw [String.toList_join, List.flatMap_map]
  rfl

theorem chars_parent (depth : Nat) (name : String) (lines : List (List Attribute))
    (e : Element) (es : List Element) :
    ∃ rest, chars ((Element.parent name lines (e :: es)).pieces depth) =
      (margin depth).toList ++ '<' :: (name.toList.flatMap escapeChar ++
        (chars (linesPieces depth name lines) ++
          '>' :: '\n' :: (chars (e.pieces (depth + 1)) ++ rest))) := by
  obtain ⟨close, hclose⟩ : ∃ close, close = '\n' :: ((margin depth).toList ++
    chars (endTag name)) := ⟨_, rfl⟩
  cases es with
  | nil => exact ⟨close, by simp [Element.pieces, childPieces, hclose]⟩
  | cons e' es =>
    exact ⟨'\n' :: (chars (childPieces (depth + 1) (e' :: es)) ++ close),
      by simp [Element.pieces, childPieces, hclose]⟩

/-! ## Blanks -/

theorem blanks_replicate (n : Nat) : Blanks (List.replicate n ' ') := by
  intro c hc
  rw [List.eq_of_mem_replicate hc]
  rfl

theorem blanks_margin (depth : Nat) : Blanks (margin depth).toList := by
  rw [margin, String.toList_ofList]
  exact blanks_replicate _

theorem Content.blanks (h : Content inside s nodes) (hgap : Blanks gap) :
    Content inside (gap ++ s) nodes := by
  induction gap with
  | nil => exact h
  | cons c gap ih =>
    exact .blank (hgap c List.mem_cons_self) (ih fun d hd => hgap d (List.mem_cons_of_mem c hd))

theorem Blanks.append {other : List Char} (h : Blanks gap) (hother : Blanks other) :
    Blanks (gap ++ other) :=
  List.forall_mem_append.2 ⟨h, hother⟩

theorem Attributes.blanks (h : Attributes s attributes) (hgap : Blanks gap) :
    Attributes (gap ++ s) attributes := by
  cases h with
  | nil blanks => exact .nil (hgap.append blanks)
  | cons apart blanks around quoted fresh rest =>
    rw [← List.append_assoc]
    exact .cons (List.append_ne_nil_of_right_ne_nil gap apart) (hgap.append blanks) around quoted
      fresh rest

/-! ## Attributes -/

/-- Attributes that are to be written. -/
def attributesOf (attributes : List (Name × String)) : List Attribute :=
  attributes.map fun a => ⟨a.1.val, a.2⟩

/-- Values that are read as they were written. -/
def Plain (attributes : List (Name × String)) : Prop :=
  ∀ a ∈ attributes, ∀ c ∈ a.2.toList, isValueChar c

instance : Decidable (Plain attributes) :=
  inferInstanceAs (Decidable (∀ a ∈ attributes, ∀ c ∈ a.2.toList, isValueChar c))

theorem Attributes.line (plain : Plain attributes)
    (nodup : ((attributes ++ more).map Prod.fst).Nodup) (h : Attributes s more) :
    Attributes (chars (linePieces (attributesOf attributes)) ++ s) (attributes ++ more) := by
  induction attributes with
  | nil => exact h
  | cons a attributes ih =>
    obtain ⟨name, value⟩ := a
    rw [List.cons_append, List.map_cons, List.nodup_cons] at nodup
    have hrest := ih (fun b hb => plain b (List.mem_cons_of_mem _ hb)) nodup.2
    have hquoted : Quoted ('"' :: (value.toList.flatMap escapeChar ++ ['"'])) value := by
      have hof := Quoted.of (.inl rfl) (Value.escaped (plain (name, value) List.mem_cons_self))
      rwa [String.ofList_toList] at hof
    have hchars : chars (linePieces (attributesOf ((name, value) :: attributes))) ++ s =
        [' '] ++ (name.chars ++ ([] ++ '=' :: ([] ++ ('"' :: (value.toList.flatMap escapeChar ++
          ['"']) ++ (chars (linePieces (attributesOf attributes)) ++ s))))) := by
      simp [attributesOf, linePieces, Attribute.pieces, Name.chars]
    rw [hchars]
    exact .cons (List.cons_ne_nil _ _) (by decide) ⟨nofun, nofun⟩ hquoted nodup.1 hrest

/-- The start of a line of attributes that is not the first one. -/
def lineStart (depth : Nat) (name : String) : String :=
  "\n" ++ margin depth ++ String.ofList (List.replicate (name.length + 1) ' ')

theorem blanks_lineStart (depth : Nat) (name : String) : Blanks (lineStart depth name).toList := by
  rw [lineStart, String.toList_append, String.toList_append]
  refine (Blanks.append (by decide) (blanks_margin depth)).append ?_
  rw [String.toList_ofList]
  exact blanks_replicate _

theorem Attributes.lines {lines : List (List (Name × String))} (plain : Plain lines.flatten)
    (nodup : (lines.flatten.map Prod.fst).Nodup) (depth : Nat) (name : String) :
    Attributes (chars (linesPieces depth name (lines.map attributesOf))) lines.flatten := by
  -- The lines after the first one, each behind blanks.
  have hlater : ∀ {later : List (List (Name × String))}, Plain later.flatten →
      (later.flatten.map Prod.fst).Nodup → Attributes (chars ((later.map attributesOf).flatMap
        fun line => .markup (lineStart depth name) :: linePieces line)) later.flatten := by
    intro later plain nodup
    induction later with
    | nil => exact .nil nofun
    | cons line later ih =>
      rw [List.flatten_cons] at plain nodup
      have hrest := ih (fun a ha => plain a (List.mem_append_right _ ha))
        (nodup.sublist ((List.sublist_append_right _ _).map _))
      have hline := Attributes.line (fun a ha => plain a (List.mem_append_left _ ha)) nodup hrest
      rw [List.map_cons, List.flatMap_cons, List.flatten_cons, List.cons_append, chars_markup,
        chars_append]
      exact hline.blanks (blanks_lineStart depth name)
  cases lines with
  | nil => exact .nil nofun
  | cons first later =>
    rw [List.flatten_cons] at plain nodup
    have hrest := hlater (fun a ha => plain a (List.mem_append_right _ ha))
      (nodup.sublist ((List.sublist_append_right _ _).map _))
    rw [List.map_cons, linesPieces, List.flatten_cons, chars_append]
    exact Attributes.line (fun a ha => plain a (List.mem_append_left _ ha)) nodup hrest

/-! ## Elements -/

/-- Attributes of different names whose values are read as they were written. -/
structure Sound (attributes : List (Name × String)) : Prop where
  nodup : (attributes.map Prod.fst).Nodup
  plain : Plain attributes

/-- What written elements show: their names and attributes, and those of the elements in them. -/
inductive Shows : List Element → List Node → Prop
  | nil : Shows [] []
  | empty (name : Name) {attributes : List (Name × String)} {es : List Element}
      {nodes : List Node} (sound : Sound attributes) (later : Shows es nodes) :
      Shows (.empty name.val (attributesOf attributes) :: es) (⟨name, attributes, []⟩ :: nodes)
  | text (name : Name) {attributes : List (Name × String)} {content : String} {es : List Element}
      {nodes : List Node} (sound : Sound attributes) (legal : Legal content)
      (later : Shows es nodes) :
      Shows (.text name.val (attributesOf attributes) content :: es)
        (⟨name, attributes, []⟩ :: nodes)
  | parent (name : Name) (lines : List (List (Name × String))) {children es : List Element}
      {inner nodes : List Node} (sound : Sound lines.flatten) (below : Shows children inner)
      (later : Shows es nodes) :
      Shows (.parent name.val (lines.map attributesOf) children :: es)
        (⟨name, lines.flatten, inner⟩ :: nodes)

theorem Sound.line (h : Sound attributes) :
    Attributes (chars (linePieces (attributesOf attributes))) attributes := by
  have hnil : Attributes [] [] := .nil nofun
  have hline := Attributes.line h.plain (by simpa using h.nodup) hnil
  rwa [List.append_nil, List.append_nil] at hline

theorem Content.enclosed {a t : List Char} {children : List Node} (name : Name)
    (tag : Attributes a attributes) (inner : Content true t children)
    (h : Content inside s nodes) :
    Content inside ('<' :: (name.chars ++ (a ++ '>' :: (t ++ (chars (endTag name.val) ++ s)))))
      (⟨name, attributes, children⟩ :: nodes) := by
  have hgap : Blanks [] := nofun
  have hnode := Content.element name tag inner hgap h
  simpa [endTag] using hnode

theorem Content.empty_written {name : Name} (sound : Sound attributes) (depth : Nat)
    (h : Content inside s nodes) :
    Content inside
      (chars ((Element.empty name.val (attributesOf attributes)).pieces depth) ++ s)
      (⟨name, attributes, []⟩ :: nodes) := by
  have hnode := (Content.empty name sound.line h).blanks (blanks_margin depth)
  simpa [Element.pieces] using hnode

theorem Content.text_written {name : Name} {content : String} (sound : Sound attributes)
    (legal : Legal content) (depth : Nat) (h : Content inside s nodes) :
    Content inside
      (chars ((Element.text name.val (attributesOf attributes) content).pieces depth) ++ s)
      (⟨name, attributes, []⟩ :: nodes) := by
  have hnode := (Content.enclosed name sound.line (.escaped legal) h).blanks (blanks_margin depth)
  simpa [Element.pieces] using hnode

theorem Content.parent_written {name : Name} {lines : List (List (Name × String))}
    {children : List Element} {inner : List Node} (sound : Sound lines.flatten) (depth : Nat)
    (below : ∀ {rest}, Content true rest [] →
      Content true (chars (childPieces (depth + 1) children) ++ rest) inner)
    (h : Content inside s nodes) :
    Content inside
      (chars ((Element.parent name.val (lines.map attributesOf) children).pieces depth) ++ s)
      (⟨name, lines.flatten, inner⟩ :: nodes) := by
  have htag := Attributes.lines sound.plain sound.nodup depth name.val
  have hnil : Content true [] [] := .nil
  have hmargin := hnil.blanks (blanks_margin depth)
  rw [List.append_nil] at hmargin
  have hchildren := below (.blank (c := '\n') (by decide) hmargin)
  have hinner := Content.blank (c := '\n') (by decide) hchildren
  have hnode := (Content.enclosed name htag hinner h).blanks (blanks_margin depth)
  simpa [Element.pieces] using hnode

theorem Content.child {e : Element} {es : List Element} {n : Node} {depth : Nat}
    (first : ∀ {t}, Content inside t nodes →
      Content inside (chars (e.pieces depth) ++ t) (n :: nodes))
    (later : Content inside (chars (childPieces depth es) ++ rest) nodes) :
    Content inside (chars (childPieces depth (e :: es)) ++ rest) (n :: nodes) := by
  cases es with
  | nil => exact first later
  | cons e' es =>
    have hline := first (.blank (c := '\n') (by decide) later)
    rw [childPieces, chars_append, chars_markup, List.append_assoc]
    · exact hline
    · exact List.cons_ne_nil _ _

theorem Shows.content {es : List Element} {shown : List Node} (h : Shows es shown) :
    ∀ {inside : Bool} {rest : List Char} {nodes : List Node} (depth : Nat),
      Content inside rest nodes →
        Content inside (chars (childPieces depth es) ++ rest) (shown ++ nodes) := by
  induction h with
  | nil => exact fun _ hrest => hrest
  | empty name sound later ih =>
    exact fun depth hrest => .child (fun ht => ht.empty_written sound depth) (ih depth hrest)
  | text name sound legal later ih =>
    exact fun depth hrest => .child (fun ht => ht.text_written sound legal depth) (ih depth hrest)
  | parent name lines sound below later ihBelow ih =>
    refine fun depth hrest => .child (fun ht => ht.parent_written sound depth ?_) (ih depth hrest)
    intro rest hrest
    have hbelow := ihBelow (depth + 1) hrest
    rwa [List.append_nil] at hbelow

theorem Shows.document {root : Element} {n : Node} (h : Shows [root] [n]) :
    Document (document root).toList n := by
  have hnil : Content false [] [] := .nil
  have hcontent := h.content 0 hnil
  rw [List.append_nil, List.append_nil] at hcontent
  have hopening : declaration.toList =
      "<?xml version=\"1.0\" encoding=\"UTF-8\"?>".toList ++ ['\n'] := by decide
  rw [toList_document, hopening, List.append_assoc]
  exact ⟨_, rfl, .blank (by decide) hcontent⟩

end MapStandin.Xml
