import MapStandin.Proofs.Xml.Escaped
import MapStandin.Proofs.Xml.Written

/-! # Reading documents back

A reader that cuts a text at the signs of tags and quotes, and resolves entities in what is left,
finds in a written document the names, values and texts of its elements. -/

namespace MapStandin.Xml

/-! ## The reader -/

/-- What a reader finds: a name or a slash in a tag, the value of an attribute or the text between
two tags. -/
inductive Mark
  | name (s : String)
  | slash
  | value (s : String)
  | text (s : String)
  deriving DecidableEq, Repr

/-- Where a reader stands: between tags, in a tag or behind a quote. -/
inductive Zone
  | text
  | tag
  | quotes
  | apostrophes
  deriving DecidableEq, Repr

/-- Where a sign leads; no other character leads anywhere. -/
def Zone.next? : Zone → Char → Option Zone
  | .text, '<' => some .tag
  | .tag, '>' => some .text
  | .tag, '"' => some .quotes
  | .tag, '\'' => some .apostrophes
  | .quotes, '"' => some .tag
  | .apostrophes, '\'' => some .tag
  | _, _ => none

/-- What stands between two names of a tag. -/
def isGap (c : Char) : Bool := isBlank c || c == '='

/-- A character of a tag, with gaps as single spaces and room around a slash. -/
def spread (c : Char) : List Char :=
  if isGap c then [' '] else if c = '/' then [' ', '/', ' '] else [c]

/-- The names and slashes in a stretch of a tag. -/
def words (tag : List Char) : List (List Char) :=
  (Text.fields ' ' (tag.flatMap spread)).filter (· ≠ [])

/-- What a stretch between two signs shows. -/
def Zone.marks : Zone → List Char → List Mark
  | .text, stretch => [.text (String.ofList (unescape stretch))]
  | .tag, stretch =>
    (words stretch).map fun word => if word = ['/'] then .slash else .name (String.ofList word)
  | .quotes, stretch | .apostrophes, stretch => [.value (String.ofList (unescape stretch))]

/-- Reads on from a zone of which a stretch has been read. -/
def readFrom (zone : Zone) (stretch : List Char) : List Char → List Mark
  | [] => zone.marks stretch
  | c :: rest =>
    match zone.next? c with
    | some next => zone.marks stretch ++ readFrom next [] rest
    | none => readFrom zone (stretch ++ [c]) rest

def read (s : String) : List Mark := readFrom .text [] s.toList

def Mark.name? : Mark → Option String
  | .name s => some s
  | .slash | .value _ | .text _ => none

/-- A mark without what it says of the data. -/
def Mark.emptied : Mark → Mark
  | .value _ => .value ""
  | .text _ => .text ""
  | .name s => .name s
  | .slash => .slash

/-- The tags with their names, the values and the texts left empty. -/
def frame (marks : List Mark) : List Mark := marks.map Mark.emptied

variable {zone next : Zone} {c : Char} {a p s : List Char}

theorem Zone.next?_eq_none (h : c ∉ delimiters) : zone.next? c = none := by
  unfold Zone.next?
  split <;> first | rfl | exact absurd (by decide) h

theorem readFrom_next (h : zone.next? c = some next) :
    readFrom zone p (c :: s) = zone.marks p ++ readFrom next [] s := by
  rw [readFrom, h]

theorem readFrom_append (h : ∀ c ∈ a, c ∉ delimiters) :
    readFrom zone p (a ++ s) = readFrom zone (p ++ a) s := by
  induction a generalizing p with
  | nil => rw [List.nil_append, List.append_nil]
  | cons c a ih =>
    rw [List.cons_append, readFrom, Zone.next?_eq_none (h c List.mem_cons_self)]
    rw [ih fun d hd => h d (List.mem_cons_of_mem c hd), List.append_assoc]
    rfl

theorem readFrom_escaped (v : List Char) :
    readFrom zone p (v.flatMap escapeChar ++ s) = readFrom zone (p ++ v.flatMap escapeChar) s :=
  readFrom_append fun _ => not_mem_delimiters

/-! ## Names of a tag -/

/-- A character of a name. -/
def isWordChar (c : Char) : Bool := !isGap c && c != '/' && c ∉ entities.map Prod.fst

/-- A name that is read as one. -/
def IsWord (s : String) : Prop := s.toList ≠ [] ∧ ∀ c ∈ s.toList, isWordChar c

instance (s : String) : Decidable (IsWord s) := inferInstanceAs (Decidable (_ ∧ _))

@[simp] theorem marks_tag_nil : Zone.marks .tag [] = [] := rfl

theorem words_append_gap (a s : List Char) (h : isGap c) :
    words (a ++ c :: s) = words a ++ words s := by
  have hspread : spread c = [' '] := if_pos h
  unfold words
  rw [List.flatMap_append, List.flatMap_cons, hspread, List.singleton_append,
    Text.fields_append_sep, List.filter_append]

theorem words_append_slash (a s : List Char) :
    words (a ++ '/' :: s) = words a ++ ['/'] :: words s := by
  have hspread : spread '/' = [' ', '/', ' '] := by decide
  unfold words
  rw [List.flatMap_append, List.flatMap_cons, hspread, List.cons_append, Text.fields_append_sep]
  show List.filter _ (_ ++ Text.fields ' ' (['/'] ++ ' ' :: _)) = _
  rw [Text.fields_append_sep, List.filter_append, List.filter_append]
  rfl

theorem IsWord.words {name : String} (h : IsWord name) : words name.toList = [name.toList] := by
  have hspread : name.toList.flatMap spread = name.toList := by
    have hchar : ∀ c ∈ name.toList, spread c = [c] := by
      intro c hc
      have hword := h.2 c hc
      simp only [isWordChar, Bool.and_eq_true, Bool.not_eq_true', bne_iff_ne] at hword
      rw [spread, hword.1.1, if_neg Bool.false_ne_true, if_neg hword.1.2]
    exact (List.flatMap_congr hchar).trans (List.flatMap_singleton' _)
  have hspace : ' ' ∉ name.toList := fun hmem => absurd (h.2 ' ' hmem) (by decide)
  rw [Xml.words, hspread, Text.fields_of_not_mem hspace, List.filter_singleton]
  simp [h.1]

theorem IsWord.not_mem_entities {name : String} (h : IsWord name) (hc : c ∈ name.toList) :
    c ∉ entities.map Prod.fst := by
  have hword := h.2 c hc
  simp only [isWordChar, Bool.and_eq_true, decide_eq_true_eq] at hword
  exact hword.2

/-- The names read so far can be told if what follows them cannot belong to the last one. -/
def Apart (s : List Char) : Prop :=
  ∀ p, readFrom .tag p s = Zone.marks .tag p ++ readFrom .tag [] s

theorem apart_of {marks : List Mark}
    (h : ∀ p, readFrom .tag p s = Zone.marks .tag p ++ marks) : Apart s := by
  intro p
  have hnil : readFrom .tag [] s = marks := h []
  rw [hnil, h p]

theorem readFrom_words (h : ∀ s, words (p ++ s) = words p ++ words s) (q s : List Char) :
    readFrom .tag (p ++ q) s = Zone.marks .tag p ++ readFrom .tag q s := by
  have hmarks : ∀ q, Zone.marks .tag (p ++ q) = Zone.marks .tag p ++ Zone.marks .tag q := by
    intro q
    rw [Zone.marks, h, List.map_append]
    rfl
  induction s generalizing q with
  | nil => exact hmarks q
  | cons c s ih =>
    rw [readFrom, readFrom]
    split
    · rw [hmarks, List.append_assoc]
    · rw [List.append_assoc, ih]

theorem readFrom_gap (h : isGap c) (s : List Char) :
    readFrom .tag p (c :: s) = Zone.marks .tag p ++ readFrom .tag [] s := by
  have hsign : Zone.next? .tag c = none := by
    apply Zone.next?_eq_none
    have hno : ∀ d ∈ delimiters, ¬ isGap d := by decide
    exact fun hc => hno c hc h
  have hwords : ∀ s, words (p ++ [c] ++ s) = words (p ++ [c]) ++ words s := by
    intro s
    rw [List.append_assoc, List.singleton_append, words_append_gap p s h, words_append_gap p [] h]
    exact congrArg (· ++ words s) (List.append_nil _).symm
  have hlast : Zone.marks .tag (p ++ [c]) = Zone.marks .tag p := by
    rw [Zone.marks, words_append_gap p [] h]
    exact congrArg (List.map _) (List.append_nil _)
  have hread := readFrom_words hwords [] s
  rw [List.append_nil, hlast] at hread
  rw [readFrom, hsign]
  exact hread

theorem readFrom_slash (s : List Char) :
    readFrom .tag p ('/' :: s) = Zone.marks .tag p ++ .slash :: readFrom .tag [] s := by
  have hwords : ∀ s, words (p ++ ['/'] ++ s) = words (p ++ ['/']) ++ words s := by
    intro s
    rw [List.append_assoc, List.singleton_append, words_append_slash, words_append_slash,
      List.append_assoc]
    rfl
  have hlast : Zone.marks .tag (p ++ ['/']) = Zone.marks .tag p ++ [.slash] := by
    rw [Zone.marks, words_append_slash, List.map_append]
    rfl
  have hread := readFrom_words hwords [] s
  rw [List.append_nil, hlast, List.append_assoc] at hread
  exact hread

theorem apart_slash (s : List Char) : Apart ('/' :: s) :=
  apart_of fun _ => readFrom_slash s

theorem apart_close (s : List Char) : Apart ('>' :: s) :=
  apart_of fun _ => readFrom_next rfl

theorem readFrom_blanks {gap : List Char} (blanks : Blanks gap) (apart : Apart s) :
    readFrom .tag p (gap ++ s) = Zone.marks .tag p ++ readFrom .tag [] s := by
  induction gap generalizing p with
  | nil => exact apart p
  | cons c gap ih =>
    have hgap : isGap c := by
      rw [isGap, blanks c List.mem_cons_self]
      rfl
    rw [List.cons_append, readFrom_gap hgap, ih fun d hd => blanks d (List.mem_cons_of_mem c hd)]
    rfl

/-! ## Written tags -/

variable {name : String} {attributes : List Attribute}

theorem IsWord.escaped (h : IsWord name) : name.toList.flatMap escapeChar = name.toList := by
  have hchar : ∀ c ∈ name.toList, escapeChar c = [c] := fun c hc =>
    escapeChar_of_not_mem (h.not_mem_entities hc)
  exact (List.flatMap_congr hchar).trans (List.flatMap_singleton' _)

theorem IsWord.not_mem_delimiters (h : IsWord name) (hc : c ∈ name.toList) : c ∉ delimiters := by
  rw [← h.escaped] at hc
  exact Xml.not_mem_delimiters hc

theorem IsWord.marks (h : IsWord name) : Zone.marks .tag name.toList = [.name name] := by
  have hslash : name.toList ≠ ['/'] := by
    intro hname
    exact absurd (h.2 '/' (by simp [hname])) (by decide)
  rw [Zone.marks, h.words, List.map_singleton, if_neg hslash, String.ofList_toList]

theorem readFrom_name (h : IsWord name) (apart : Apart s) :
    readFrom .tag [] (name.toList.flatMap escapeChar ++ s) = .name name :: readFrom .tag [] s := by
  rw [readFrom_escaped, List.nil_append, apart, h.escaped, h.marks]
  rfl

/-- What attributes show. -/
def attributeMarks (attributes : List Attribute) : List Mark :=
  attributes.flatMap fun a => [.name a.name, .value a.value]

theorem attributeMarks_append (attributes more : List Attribute) :
    attributeMarks (attributes ++ more) = attributeMarks attributes ++ attributeMarks more :=
  List.flatMap_append

theorem readFrom_attribute {a : Attribute} (h : IsWord a.name) (s : List Char) :
    readFrom .tag p (chars a.pieces ++ s) =
      Zone.marks .tag p ++ .name a.name :: .value a.value :: readFrom .tag [] s := by
  have hchars : chars a.pieces ++ s = ' ' :: (a.name.toList ++
      '=' :: '"' :: (a.value.toList.flatMap escapeChar ++ '"' :: s)) := by
    simp [Attribute.pieces]
  have hvalue : readFrom .quotes [] (a.value.toList.flatMap escapeChar ++ '"' :: s) =
      .value a.value :: readFrom .tag [] s := by
    rw [readFrom_escaped, List.nil_append, readFrom_next rfl, Zone.marks, unescape_escaped,
      String.ofList_toList]
    rfl
  rw [hchars, readFrom_gap rfl, readFrom_append fun _ => h.not_mem_delimiters, List.nil_append,
    readFrom_gap rfl, h.marks, readFrom_next rfl, hvalue]
  rfl

theorem readFrom_line (words : ∀ a ∈ attributes, IsWord a.name) (apart : Apart s) :
    readFrom .tag p (chars (linePieces attributes) ++ s) =
      Zone.marks .tag p ++ (attributeMarks attributes ++ readFrom .tag [] s) := by
  induction attributes generalizing p with
  | nil => exact apart p
  | cons a attributes ih =>
    have hrest := ih (p := []) fun b hb => words b (List.mem_cons_of_mem a hb)
    rw [linePieces, List.flatMap_cons, chars_append, List.append_assoc,
      readFrom_attribute (words a List.mem_cons_self)]
    exact congrArg (fun rest => _ ++ .name a.name :: .value a.value :: rest) hrest

theorem readFrom_lines {lines : List (List Attribute)}
    (words : ∀ a ∈ lines.flatten, IsWord a.name) (depth : Nat) (name : String) (apart : Apart s) :
    readFrom .tag p (chars (linesPieces depth name lines) ++ s) =
      Zone.marks .tag p ++ (attributeMarks lines.flatten ++ readFrom .tag [] s) := by
  -- The lines after the first one, each behind blanks.
  have hlater : ∀ {later : List (List Attribute)}, (∀ a ∈ later.flatten, IsWord a.name) → ∀ p,
      readFrom .tag p (chars (later.flatMap fun line =>
        .markup (lineStart depth name) :: linePieces line) ++ s) =
      Zone.marks .tag p ++ (attributeMarks later.flatten ++ readFrom .tag [] s) := by
    intro later words
    induction later with
    | nil => exact apart
    | cons line later ih =>
      rw [List.flatten_cons, List.forall_mem_append] at words
      have hrest := ih words.2
      have hline := fun p => readFrom_line (p := p) words.1 (apart_of hrest)
      intro p
      rw [List.flatMap_cons, List.cons_append, chars_markup, chars_append, List.append_assoc,
        List.append_assoc, readFrom_blanks (blanks_lineStart depth name) (apart_of hline),
        hline [], hrest [], List.flatten_cons, attributeMarks_append, List.append_assoc]
      rfl
  cases lines with
  | nil => exact apart p
  | cons first later =>
    rw [List.flatten_cons, List.forall_mem_append] at words
    have hrest := hlater words.2
    rw [linesPieces, chars_append, List.append_assoc]
    show readFrom .tag p (chars (linePieces first) ++ (chars (later.flatMap fun line =>
      .markup (lineStart depth name) :: linePieces line) ++ s)) = _
    rw [readFrom_line words.1 (apart_of hrest), hrest [], List.flatten_cons,
      attributeMarks_append, List.append_assoc]
    rfl

/-! ## Elements -/

/-- What attributes show, whatever their values. -/
def attributeFrame (attributes : List Attribute) : List Mark :=
  attributes.flatMap fun a => [.name a.name, .value ""]

mutual

/-- What an element shows, whatever data it holds, with the end of the line before it. -/
def Element.frame : Element → List Mark
  | .empty name attributes => .text "" :: .name name :: (attributeFrame attributes ++ [.slash])
  | .text name attributes _ =>
    .text "" :: .name name :: (attributeFrame attributes ++ [.text "", .slash, .name name])
  | .parent name lines children =>
    .text "" :: .name name ::
      (attributeFrame lines.flatten ++ (childFrame children ++ [.text "", .slash, .name name]))

/-- What elements on lines of their own show, whatever data they hold. -/
def childFrame : List Element → List Mark
  | [] => []
  | e :: rest => e.frame ++ childFrame rest

end

/-- The ends of lines between the last element inside a parent and its end tag. -/
def behind : List Element → String
  | [] => "\n\n"
  | _ :: _ => "\n"

mutual

/-- What an element inside `depth` others shows, with the end of the line before it. -/
def Element.marks (depth : Nat) : Element → List Mark
  | .empty name attributes =>
    .text ("\n" ++ margin depth) :: .name name :: (attributeMarks attributes ++ [.slash])
  | .text name attributes content =>
    .text ("\n" ++ margin depth) :: .name name ::
      (attributeMarks attributes ++ [.text content, .slash, .name name])
  | .parent name lines children =>
    .text ("\n" ++ margin depth) :: .name name ::
      (attributeMarks lines.flatten ++ (childMarks (depth + 1) children ++
        [.text (behind children ++ margin depth), .slash, .name name]))

/-- What elements on lines of their own show. -/
def childMarks (depth : Nat) : List Element → List Mark
  | [] => []
  | e :: rest => e.marks depth ++ childMarks depth rest

end

theorem behind_cons (e : Element) (es : List Element) : (behind (e :: es)).toList = ['\n'] :=
  show "\n".toList = ['\n'] from rfl

theorem blanks_behind : ∀ es : List Element, Blanks (behind es).toList
  | [] => by decide
  | _ :: _ => show Blanks "\n".toList by decide

/-- All names among marks are read as one. -/
def Worded (marks : List Mark) : Prop := ∀ name, .name name ∈ marks → IsWord name

instance (marks : List Mark) : Decidable (Worded marks) :=
  decidable_of_iff (∀ m ∈ marks, ∀ name ∈ m.name?, IsWord name) (by
    constructor
    · exact fun h name hmem => h _ hmem name rfl
    · rintro h (name | _ | _ | _) hmem name' hname
      · exact h name' (Option.some.inj hname ▸ hmem)
      all_goals cases hname)

theorem Worded.start {rest : List Mark}
    (h : Worded (.text "" :: .name name :: (attributeFrame attributes ++ rest))) :
    IsWord name ∧ (∀ a ∈ attributes, IsWord a.name) ∧ Worded rest := by
  have hlater : ∀ n, .name n ∈ attributeFrame attributes ++ rest → IsWord n := fun n hn =>
    h n (List.mem_cons_of_mem _ (List.mem_cons_of_mem _ hn))
  refine ⟨h name (List.mem_cons_of_mem _ List.mem_cons_self), ?_, ?_⟩
  · intro a ha
    have hmem : Mark.name a.name ∈ attributeFrame attributes :=
      List.mem_flatMap.2 ⟨a, ha, List.mem_cons_self⟩
    exact hlater a.name (List.mem_append_left _ hmem)
  · exact fun n hn => hlater n (List.mem_append_right _ hn)

theorem Worded.left {marks rest : List Mark} (h : Worded (marks ++ rest)) : Worded marks :=
  fun n hn => h n (List.mem_append_left _ hn)

theorem Worded.right {marks rest : List Mark} (h : Worded (marks ++ rest)) : Worded rest :=
  fun n hn => h n (List.mem_append_right _ hn)

theorem readFrom_layout {ends : String} (blanks : Blanks ends.toList) (depth : Nat)
    (s : List Char) :
    readFrom .text ends.toList ((margin depth).toList ++ '<' :: s) =
      .text (ends ++ margin depth) :: readFrom .tag [] s := by
  have hblanks := blanks.append (blanks_margin depth)
  have hno : ∀ d ∈ '&' :: delimiters, isBlank d = false := by decide
  have hmargin : ∀ c ∈ (margin depth).toList, c ∉ delimiters := by
    intro c hc hmem
    have hblank := blanks_margin depth c hc
    rw [hno c (List.mem_cons_of_mem _ hmem)] at hblank
    cases hblank
  have hmark : '&' ∉ ends.toList ++ (margin depth).toList := by
    intro hmem
    have hblank := hblanks '&' hmem
    rw [hno '&' List.mem_cons_self] at hblank
    cases hblank
  rw [readFrom_append hmargin, readFrom_next rfl, Zone.marks, unescape_of_not_mem hmark,
    ← String.toList_append, String.ofList_toList]
  rfl

theorem readFrom_start (h : IsWord name) (depth : Nat) (apart : Apart s) :
    readFrom .text ['\n'] ((margin depth).toList ++ '<' :: (name.toList.flatMap escapeChar ++ s)) =
      .text ("\n" ++ margin depth) :: .name name :: readFrom .tag [] s := by
  have hend : Blanks "\n".toList := by decide
  have hread := readFrom_layout hend depth (name.toList.flatMap escapeChar ++ s)
  rw [readFrom_name h apart] at hread
  exact hread

theorem readFrom_content (content : String) (s : List Char) :
    readFrom .text [] (content.toList.flatMap escapeChar ++ '<' :: s) =
      .text content :: readFrom .tag [] s := by
  rw [readFrom_escaped, List.nil_append, readFrom_next rfl, Zone.marks, unescape_escaped,
    String.ofList_toList]
  rfl

theorem readFrom_end (h : IsWord name) (s : List Char) :
    readFrom .tag [] ('/' :: (name.toList.flatMap escapeChar ++ '>' :: s)) =
      .slash :: .name name :: readFrom .text [] s := by
  rw [readFrom_slash, readFrom_name h (apart_close s), readFrom_next rfl]
  rfl

theorem readFrom_newline (s : List Char) :
    readFrom .text [] ('\n' :: s) = readFrom .text ['\n'] s :=
  rfl

mutual

theorem readFrom_element (e : Element) (worded : Worded e.frame) (depth : Nat) (s : List Char) :
    readFrom .text ['\n'] (chars (e.pieces depth) ++ s) = e.marks depth ++ readFrom .text [] s := by
  -- An element is laid out as characters and read piece by piece.
  match e with
  | .empty name attributes =>
    obtain ⟨hname, hattributes, -⟩ := worded.start
    have hline := fun p => readFrom_line (p := p) hattributes (apart_slash ('>' :: s))
    have hchars : chars ((Element.empty name attributes).pieces depth) ++ s =
        (margin depth).toList ++ '<' :: (name.toList.flatMap escapeChar ++
          (chars (linePieces attributes) ++ '/' :: '>' :: s)) := by
      simp [Element.pieces]
    rw [hchars, readFrom_start hname depth (apart_of hline), hline, readFrom_slash,
      readFrom_next rfl]
    simp [Element.marks]
  | .text name attributes content =>
    obtain ⟨hname, hattributes, -⟩ := worded.start
    have hchars : chars ((Element.text name attributes content).pieces depth) ++ s =
        (margin depth).toList ++ '<' :: (name.toList.flatMap escapeChar ++
          (chars (linePieces attributes) ++ '>' :: (content.toList.flatMap escapeChar ++
            '<' :: '/' :: (name.toList.flatMap escapeChar ++ '>' :: s)))) := by
      simp [Element.pieces, endTag]
    have hline := fun p => readFrom_line (p := p) hattributes
      (apart_close (content.toList.flatMap escapeChar ++
        '<' :: '/' :: (name.toList.flatMap escapeChar ++ '>' :: s)))
    rw [hchars, readFrom_start hname depth (apart_of hline), hline, readFrom_next rfl,
      readFrom_content, readFrom_end hname]
    simp [Element.marks]
  | .parent name lines children =>
    obtain ⟨hname, hattributes, hrest⟩ := worded.start
    have hchildren := readFrom_children children hrest.left (depth + 1)
      ((margin depth).toList ++ '<' :: '/' :: (name.toList.flatMap escapeChar ++ '>' :: s))
    have hchars : chars ((Element.parent name lines children).pieces depth) ++ s =
        (margin depth).toList ++ '<' :: (name.toList.flatMap escapeChar ++
          (chars (linesPieces depth name lines) ++ '>' :: ('\n' ::
            (chars (childPieces (depth + 1) children) ++ '\n' :: ((margin depth).toList ++
              '<' :: '/' :: (name.toList.flatMap escapeChar ++ '>' :: s)))))) := by
      simp [Element.pieces, endTag]
    have hlines := fun p => readFrom_lines (p := p) hattributes depth name
      (apart_close ('\n' :: (chars (childPieces (depth + 1) children) ++ '\n' ::
        ((margin depth).toList ++ '<' :: '/' :: (name.toList.flatMap escapeChar ++ '>' :: s)))))
    rw [hchars, readFrom_start hname depth (apart_of hlines), hlines, readFrom_next rfl,
      readFrom_newline, hchildren, readFrom_layout (blanks_behind children), readFrom_end hname]
    simp [Element.marks]

theorem readFrom_children (es : List Element) (worded : Worded (childFrame es)) (depth : Nat)
    (s : List Char) :
    readFrom .text ['\n'] (chars (childPieces depth es) ++ '\n' :: s) =
      childMarks depth es ++ readFrom .text (behind es).toList s := by
  match es with
  | [] => rfl
  | e :: [] =>
    have hfirst := readFrom_element e worded.left depth ('\n' :: s)
    rw [childPieces, hfirst, readFrom_newline, childMarks, childMarks, List.append_nil, behind_cons]
  | e :: e' :: rest =>
    have hlater := readFrom_children (e' :: rest) worded.right depth s
    have hfirst := readFrom_element e worded.left depth
      ('\n' :: (chars (childPieces depth (e' :: rest)) ++ '\n' :: s))
    have hchars : chars (childPieces depth (e :: e' :: rest)) ++ '\n' :: s =
        chars (e.pieces depth) ++
          '\n' :: (chars (childPieces depth (e' :: rest)) ++ '\n' :: s) := by
      simp [childPieces]
    have hmarks : childMarks depth (e :: e' :: rest) =
        e.marks depth ++ childMarks depth (e' :: rest) := by
      rw [childMarks]
    rw [hchars, hfirst, readFrom_newline, hlater, hmarks, List.append_assoc, behind_cons,
      behind_cons]

end

/-! ## Documents -/

/-- What the opening line shows, up to the end of the line. -/
def opening : List Mark :=
  [.text "", .name "?xml", .name "version", .value "1.0", .name "encoding", .value "UTF-8",
    .name "?"]

theorem readFrom_declaration (s : List Char) :
    readFrom .text [] (declaration.toList ++ s) = opening ++ readFrom .text ['\n'] s :=
  rfl

theorem read_document {root : Element} (worded : Worded root.frame) :
    read (document root) = opening ++ root.marks 0 ++ [.text ""] := by
  have hroot := readFrom_element root worded 0 []
  rw [List.append_nil] at hroot
  rw [read, toList_document, readFrom_declaration, hroot, List.append_assoc]
  rfl

example : read (document (.text "a" [⟨"b", "\">"⟩] "&lt;")) =
    opening ++ [.text "\n", .name "a", .name "b", .value "\">", .text "&lt;", .slash, .name "a"] ++
      [.text ""] := by decide +kernel

/-! ## Frames -/

theorem frame_append (marks rest : List Mark) : frame (marks ++ rest) = frame marks ++ frame rest :=
  List.map_append

theorem frame_attributeMarks (attributes : List Attribute) :
    frame (attributeMarks attributes) = attributeFrame attributes := by
  induction attributes with
  | nil => rfl
  | cons a attributes ih => exact congrArg (.name a.name :: .value "" :: ·) ih

mutual

theorem frame_marks (e : Element) (depth : Nat) : frame (e.marks depth) = e.frame := by
  match e with
  | .empty name attributes =>
    have hrest : frame (attributeMarks attributes ++ [.slash]) =
        attributeFrame attributes ++ [.slash] := by
      rw [frame_append, frame_attributeMarks]
      rfl
    rw [Element.marks, Element.frame]
    exact congrArg (.text "" :: .name name :: ·) hrest
  | .text name attributes content =>
    have hrest : frame (attributeMarks attributes ++ [.text content, .slash, .name name]) =
        attributeFrame attributes ++ [.text "", .slash, .name name] := by
      rw [frame_append, frame_attributeMarks]
      rfl
    rw [Element.marks, Element.frame]
    exact congrArg (.text "" :: .name name :: ·) hrest
  | .parent name lines children =>
    have hrest : frame (attributeMarks lines.flatten ++ (childMarks (depth + 1) children ++
          [.text (behind children ++ margin depth), .slash, .name name])) =
        attributeFrame lines.flatten ++ (childFrame children ++
          [.text "", .slash, .name name]) := by
      rw [frame_append, frame_append, frame_attributeMarks, frame_childMarks children (depth + 1)]
      rfl
    rw [Element.marks, Element.frame]
    exact congrArg (.text "" :: .name name :: ·) hrest

theorem frame_childMarks (es : List Element) (depth : Nat) :
    frame (childMarks depth es) = childFrame es := by
  match es with
  | [] =>
    rw [childMarks, childFrame]
    rfl
  | e :: rest =>
    rw [childMarks, childFrame, frame_append, frame_marks e depth, frame_childMarks rest depth]

end

/-- No data shows in the tags of a written document. -/
theorem frame_document {root : Element} (worded : Worded root.frame) :
    frame (read (document root)) = frame opening ++ root.frame ++ [.text ""] := by
  rw [read_document worded, frame_append, frame_append, frame_marks]
  rfl

/-! ## Looking up -/

/-- The marks behind the first occurrences of names, one after the other. -/
def seek : (path : List String) → List Mark → List Mark
  | [], marks => marks
  | name :: path, marks => seek path (marks.dropWhile (· ≠ .name name)).tail

def valueAt? (path : List String) (marks : List Mark) : Option String :=
  match seek path marks with
  | .value s :: _ => some s
  | _ => none

/-- The first text behind the last name of a path. -/
def textAt? (path : List String) (marks : List Mark) : Option String :=
  (seek path marks).findSome? fun
    | .text s => some s
    | .name _ | .slash | .value _ => none

end MapStandin.Xml
