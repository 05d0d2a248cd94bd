import MapStandin.Decimal.Digits
import MapStandin.Text.Class
import MapStandin.Text.Hex
import MapStandin.Unicode.Ranges
import MapStandin.Xml.Escape

/-! # Well-formed documents

Which texts are documents of XML 1.0 without types of their own, and which elements they hold. The
characters between the elements must be legal, but the tree of elements does not show them. -/

namespace MapStandin.Xml

/-! ## Characters and names -/

def legalRanges : Unicode.Ranges :=
  [(0x9, 0xA), (0xD, 0xD), (0x20, 0xD7FF), (0xE000, 0xFFFD), (0x10000, 0x10FFFF)]

def isLegal (c : Char) : Bool := legalRanges.has c

def isBlank (c : Char) : Bool := c ∈ [' ', '\t', '\n', '\r']

def nameStartRanges : Unicode.Ranges :=
  [(0x3A, 0x3A), (0x41, 0x5A), (0x5F, 0x5F), (0x61, 0x7A), (0xC0, 0xD6), (0xD8, 0xF6),
    (0xF8, 0x2FF), (0x370, 0x37D), (0x37F, 0x1FFF), (0x200C, 0x200D), (0x2070, 0x218F),
    (0x2C00, 0x2FEF), (0x3001, 0xD7FF), (0xF900, 0xFDCF), (0xFDF0, 0xFFFD), (0x10000, 0xEFFFF)]

def nameLaterRanges : Unicode.Ranges :=
  [(0x2D, 0x2E), (0x30, 0x39), (0xB7, 0xB7), (0x300, 0x36F), (0x203F, 0x2040)]

def isNameStart (c : Char) : Bool := nameStartRanges.has c

def isNameChar (c : Char) : Bool := nameStartRanges.has c || nameLaterRanges.has c

def isName (s : String) : Bool :=
  match s.toList with
  | [] => false
  | c :: cs => isNameStart c && cs.all isNameChar

abbrev Name := {s : String // isName s}

def Name.chars (n : Name) : List Char := n.val.toList

/-- A stretch of blanks, which may be empty. -/
def Blanks (s : List Char) : Prop := ∀ c ∈ s, isBlank c

instance {s : List Char} : Decidable (Blanks s) :=
  inferInstanceAs (Decidable (∀ c ∈ s, isBlank c))

/-! ## Attributes -/

/-- The number that the digits of a base spell. -/
def spelled? (digit? : Char → Option Nat) (base : Nat) (digits : List Char) : Option Nat :=
  digits.foldlM (fun n d => (digit? d).map (base * n + ·)) 0

/-- A reference to a character, by the name of its entity or by its number. -/
inductive Reference : List Char → Char → Prop
  | entity {c : Char} {name : String} (known : (c, name) ∈ entities) : Reference (entity name) c
  | number {c : Char} {digits : List Char} (some : digits ≠ [])
      (value : spelled? Decimal.digit? 10 digits = .some c.toNat) (legal : isLegal c) :
      Reference ('&' :: '#' :: (digits ++ [';'])) c
  | hex {c : Char} {digits : List Char} (some : digits ≠ [])
      (value : spelled? Hex.value? 16 digits = .some c.toNat) (legal : isLegal c) :
      Reference ('&' :: '#' :: 'x' :: (digits ++ [';'])) c

/-- What stands between two quotes, and its value. Every blank counts as a space. -/
inductive Value (quote : Char) : List Char → List Char → Prop
  | nil : Value quote [] []
  | char {c : Char} {s v : List Char} (legal : isLegal c)
      (plain : c ≠ '<' ∧ c ≠ '&' ∧ c ≠ quote) (more : Value quote s v) :
      Value quote (c :: s) ((if isBlank c then ' ' else c) :: v)
  | reference {c : Char} {r s v : List Char} (refers : Reference r c) (more : Value quote s v) :
      Value quote (r ++ s) (c :: v)

/-- A value in quotes of either kind. -/
inductive Quoted : List Char → String → Prop
  | of {quote : Char} {s v : List Char} (kind : quote = '"' ∨ quote = '\'')
      (value : Value quote s v) : Quoted (quote :: (s ++ [quote])) (String.ofList v)

/-- The part of a tag after its name: attributes of different names, with blanks before each and
after the last. -/
inductive Attributes : List Char → List (Name × String) → Prop
  | nil {gap : List Char} (blanks : Blanks gap) : Attributes gap []
  | cons {gap before after q s : List Char} {name : Name} {value : String}
      {more : List (Name × String)} (apart : gap ≠ []) (blanks : Blanks gap)
      (around : Blanks before ∧ Blanks after) (quoted : Quoted q value)
      (fresh : name ∉ more.map Prod.fst) (rest : Attributes s more) :
      Attributes (gap ++ (name.chars ++ (before ++ '=' :: (after ++ (q ++ s)))))
        ((name, value) :: more)

/-! ## Elements -/

/-- An element that was read. -/
structure Node where
  name : Name
  attributes : List (Name × String)
  children : List Node

/-- Legal characters without a given mark among them. -/
def Without (mark : String) (s : List Char) : Prop :=
  s.all isLegal ∧ ¬ mark.toList <:+: s

/-- The content of an element, or with `inside = false` what stands at the top of a document: there
only blanks, comments and instructions stand beside elements. -/
inductive Content : (inside : Bool) → List Char → List Node → Prop
  | nil {inside : Bool} : Content inside [] []
  | blank {inside : Bool} {c : Char} {s : List Char} {nodes : List Node} (blank : isBlank c)
      (more : Content inside s nodes) : Content inside (c :: s) nodes
  | char {c : Char} {s : List Char} {nodes : List Node} (legal : isLegal c)
      (plain : c ≠ '<' ∧ c ≠ '&') (open_ : ¬ "]]>".toList <+: c :: s)
      (more : Content true s nodes) : Content true (c :: s) nodes
  | reference {c : Char} {r s : List Char} {nodes : List Node} (refers : Reference r c)
      (more : Content true s nodes) : Content true (r ++ s) nodes
  | unparsed {t s : List Char} {nodes : List Node} (text : Without "]]>" t)
      (more : Content true s nodes) :
      Content true ("<![CDATA[".toList ++ (t ++ ("]]>".toList ++ s))) nodes
  | comment {inside : Bool} {t s : List Char} {nodes : List Node} (text : Without "--" (t ++ ['-']))
      (more : Content inside s nodes) :
      Content inside ("<!--".toList ++ (t ++ ("-->".toList ++ s))) nodes
  | instruction {inside : Bool} {target : Name} {t s : List Char} {nodes : List Node}
      (free : target.val.toLower ≠ "xml") (text : Without "?>" t) (apart : ∀ c ∈ t.head?, isBlank c)
      (more : Content inside s nodes) :
      Content inside ("<?".toList ++ (target.chars ++ (t ++ ("?>".toList ++ s)))) nodes
  | empty {inside : Bool} (name : Name) {a s : List Char} {attributes : List (Name × String)}
      {nodes : List Node} (tag : Attributes a attributes) (more : Content inside s nodes) :
      Content inside ('<' :: (name.chars ++ (a ++ '/' :: '>' :: s)))
        (⟨name, attributes, []⟩ :: nodes)
  | element {inside : Bool} (name : Name) {a t gap s : List Char}
      {attributes : List (Name × String)} {children nodes : List Node}
      (tag : Attributes a attributes) (inner : Content true t children) (blanks : Blanks gap)
      (more : Content inside s nodes) :
      Content inside
        ('<' :: (name.chars ++ (a ++ '>' :: (t ++
          '<' :: '/' :: (name.chars ++ (gap ++ '>' :: s))))))
        (⟨name, attributes, children⟩ :: nodes)

/-- A document with one root, opened by the usual declaration. -/
def Document (s : List Char) (root : Node) : Prop :=
  ∃ body, s = "<?xml version=\"1.0\" encoding=\"UTF-8\"?>".toList ++ body ∧
    Content false body [root]

/-! ## Reading -/

/-- The elements at the end of a path of names, in the order of the document. -/
def elementsAt : List String → List Node → List Node
  | [], _ => []
  | [last], nodes => nodes.filter (·.name.val = last)
  | name :: path, nodes =>
    elementsAt path ((nodes.filter (·.name.val = name)).flatMap (·.children))

def Node.attribute? (name : String) (n : Node) : Option String :=
  (n.attributes.find? (·.1.val = name)).map Prod.snd

/-- The texts of an attribute of the elements at the end of a path. -/
def attributesAt (path : List String) (name : String) (root : Node) : List String :=
  (elementsAt path [root]).filterMap (Node.attribute? name)

theorem isName_of_mem_elementsAt {n : Node} {last : String} :
    ∀ (path : List String) (nodes : List Node), n ∈ elementsAt (path ++ [last]) nodes → isName last
  | [], nodes, h => by
    have hname : n.name.val = last := by simpa using (List.mem_filter.1 h).2
    exact hname ▸ n.name.property
  | [_], nodes, h => isName_of_mem_elementsAt [] _ h
  | _ :: second :: path, nodes, h => isName_of_mem_elementsAt (second :: path) _ h

/-! ## Openings of tags -/

/-- A text in which every sign that opens a tag has a name or a slash behind it. What follows a mark
of exclamation or question there is left open. -/
inductive Tagged : List Char → Prop
  | nil : Tagged []
  | char {c : Char} {s : List Char} (plain : c ≠ '<') (more : Tagged s) : Tagged (c :: s)
  | tag {c : Char} {s : List Char} (follows : isNameStart c ∨ c = '/') (more : Tagged (c :: s)) :
      Tagged ('<' :: c :: s)
  | mark {c : Char} {s : List Char} (marked : c = '!' ∨ c = '?') : Tagged ('<' :: c :: s)

section Tagged

variable {c : Char} {s t : List Char} {inside : Bool} {nodes : List Node}

theorem Tagged.append (hs : Tagged s) (ht : Tagged t) : Tagged (s ++ t) := by
  induction hs with
  | nil => exact ht
  | char plain _ ih => exact .char plain ih
  | tag follows _ ih => exact .tag follows ih
  | mark marked => exact .mark marked

theorem Tagged.before (h : Tagged t) (plain : '<' ∉ s) : Tagged (s ++ t) := by
  induction s with
  | nil => exact h
  | cons c s ih =>
    rw [List.mem_cons, not_or] at plain
    exact .char (Ne.symm plain.1) (ih plain.2)

/-- A text without the marks that open what is no element. -/
def Unmarked (s : List Char) : Prop := ∀ c ∈ s, c ∉ ['!', '?']

instance : Decidable (Unmarked s) := inferInstanceAs (Decidable (∀ c ∈ s, c ∉ ['!', '?']))

theorem Unmarked.append (hs : Unmarked s) (ht : Unmarked t) : Unmarked (s ++ t) :=
  List.forall_mem_append.2 ⟨hs, ht⟩

theorem Tagged.after (h : Tagged (s ++ '<' :: t)) (unmarked : Unmarked s) : Tagged ('<' :: t) := by
  -- Without marks in `s`, each step stays behind a name or a slash.
  induction s with
  | nil => exact h
  | cons c s ih =>
    have hs : Unmarked s := fun d hd => unmarked d (List.mem_cons_of_mem c hd)
    generalize hrest : s ++ '<' :: t = rest at ih
    rw [List.cons_append, hrest] at h
    cases h with
    | char _ more => exact ih more hs
    | tag _ more => exact ih more hs
    | mark marked =>
      cases s with
      | nil =>
        obtain ⟨rfl, -⟩ := List.cons.inj hrest
        exact absurd marked (by decide)
      | cons d s =>
        obtain ⟨rfl, -⟩ := List.cons.inj hrest
        exact absurd (by simpa using marked) (hs d List.mem_cons_self)

theorem Tagged.follows (h : Tagged ('<' :: c :: s)) : isNameStart c ∨ c ∈ ['/', '!', '?'] := by
  cases h with
  | char plain _ => exact absurd rfl plain
  | tag follows _ => exact follows.imp_right fun hc => by simp [hc]
  | mark marked => exact .inr (by simp [marked])

theorem Blanks.not_mem (h : Blanks s) : '<' ∉ s := fun hmem =>
  absurd (h _ hmem) (by decide)

theorem Name.exists_cons (n : Name) :
    ∃ c cs, n.chars = c :: cs ∧ isNameStart c ∧ ∀ d ∈ cs, isNameChar d := by
  have hname := n.property
  unfold isName at hname
  unfold Name.chars
  cases hchars : n.val.toList with
  | nil => simp [hchars] at hname
  | cons c cs =>
    simp only [hchars, Bool.and_eq_true, List.all_eq_true] at hname
    exact ⟨c, cs, rfl, hname⟩

theorem Name.isNameChar_of_mem (n : Name) (h : c ∈ n.chars) : isNameChar c := by
  obtain ⟨first, later, hchars, hfirst, hlater⟩ := n.exists_cons
  rw [hchars, List.mem_cons] at h
  obtain rfl | h := h
  · exact Bool.or_eq_true_iff.2 (.inl hfirst)
  · exact hlater c h

theorem Name.not_mem (n : Name) : '<' ∉ n.chars := fun h =>
  absurd (n.isNameChar_of_mem h) (by decide)

theorem Tagged.name (n : Name) (h : Tagged t) : Tagged ('<' :: (n.chars ++ t)) := by
  have hname := h.before n.not_mem
  obtain ⟨c, cs, hchars, hc, -⟩ := n.exists_cons
  rw [hchars] at hname ⊢
  exact .tag (.inl hc) hname

theorem not_mem_of_spelled? {digit? : Char → Option Nat} {base : Nat} (hc : digit? c = none) :
    ∀ {digits : List Char} {start n : Nat},
      digits.foldlM (fun n d => (digit? d).map (base * n + ·)) start = some n → c ∉ digits
  | [], _, _, _ => List.not_mem_nil
  | d :: ds, start, n, h => by
    rw [List.foldlM_cons] at h
    obtain ⟨next, hnext, hrest⟩ := Option.bind_eq_some_iff.1 h
    rw [List.mem_cons, not_or]
    refine ⟨?_, not_mem_of_spelled? hc hrest⟩
    rintro rfl
    simp [hc] at hnext

theorem Reference.not_mem {r : List Char} (h : Reference r c) : '<' ∉ r := by
  cases h with
  | @entity _ name known =>
    have hno : ∀ e ∈ entities, '<' ∉ Xml.entity e.2 := by decide
    exact hno (c, name) known
  | number some value legal =>
    have hdigits := not_mem_of_spelled? (c := '<') (by decide) value
    simp [hdigits]
  | hex some value legal =>
    have hdigits := not_mem_of_spelled? (c := '<') (by decide) value
    simp [hdigits]

theorem Value.not_mem {quote : Char} {v : List Char} (h : Value quote s v) : '<' ∉ s := by
  induction h with
  | nil => exact List.not_mem_nil
  | char legal plain _ ih =>
    rw [List.mem_cons, not_or]
    exact ⟨Ne.symm plain.1, ih⟩
  | reference refers _ ih => exact fun h => (List.mem_append.1 h).elim refers.not_mem ih

theorem Quoted.not_mem {value : String} (h : Quoted s value) : '<' ∉ s := by
  obtain ⟨rfl | rfl, value⟩ := h <;> simp [value.not_mem]

theorem Attributes.not_mem {attributes : List (Name × String)} (h : Attributes s attributes) :
    '<' ∉ s := by
  induction h with
  | nil blanks => exact blanks.not_mem
  | @cons _ _ _ _ _ name _ _ _ blanks around quoted _ _ ih =>
    simp [blanks.not_mem, name.not_mem, around.1.not_mem, around.2.not_mem, quoted.not_mem, ih]

theorem Content.tagged (h : Content inside s nodes) : Tagged s := by
  induction h with
  | nil => exact .nil
  | blank blank more ih =>
    refine .char ?_ ih
    rintro rfl
    exact absurd blank (by decide)
  | char legal plain open_ more ih => exact .char plain.1 ih
  | reference refers more ih => exact ih.before refers.not_mem
  | unparsed | comment => exact .mark (.inl rfl)
  | instruction => exact .mark (.inr rfl)
  | empty name tag more ih =>
    have hend := (ih.char (by decide : '>' ≠ '<')).char (by decide : '/' ≠ '<')
    exact (hend.before tag.not_mem).name name
  | element name tag inner blanks more ihInner ih =>
    have hclose := ((ih.char (by decide : '>' ≠ '<')).before blanks.not_mem).before name.not_mem
    have hinner := ihInner.append (.tag (.inr rfl) (hclose.char (by decide : '/' ≠ '<')))
    exact ((hinner.char (by decide : '>' ≠ '<')).before tag.not_mem).name name

end Tagged

end MapStandin.Xml
