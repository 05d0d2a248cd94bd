import MapStandin.Server.Answer

/-! # The name of an attachment

A client reads the name of a file from a quoted string, in which a backslash escapes the character
after it. Names are put between the quotes as they are, so that quotes and backslashes in them are
taken for signs of the quoted string. -/

namespace MapStandin.Http

variable {cs front rest read left : List Char} {c : Char} {filename : String}

/-! ## Quoted strings -/

/-- Reads a quoted string after its opening quote: what it says, and what follows the closing quote.
-/
def readQuoted? : List Char → Option (List Char × List Char)
  | [] => none
  | '"' :: rest => some ([], rest)
  | '\\' :: c :: rest => (readQuoted? rest).map fun (read, left) => (c :: read, left)
  | c :: rest => (readQuoted? rest).map fun (read, left) => (c :: read, left)

/-- A character that stands for itself in a quoted string. -/
def IsPlain (c : Char) : Prop := c ≠ '"' ∧ c ≠ '\\'

theorem readQuoted?_cons (h : IsPlain c) :
    readQuoted? (c :: rest) = (readQuoted? rest).map fun (read, left) => (c :: read, left) := by
  rw [readQuoted?]
  · exact h.1
  · exact fun _ _ hc => absurd hc h.2

theorem readQuoted?_append (h : ∀ c ∈ front, IsPlain c) :
    readQuoted? (front ++ rest) =
      (readQuoted? rest).map fun (read, left) => (front ++ read, left) := by
  induction front with
  | nil => simp
  | cons c front ih =>
    rw [List.cons_append, readQuoted?_cons (h c (List.mem_cons_self ..)),
      ih fun d hd => h d (List.mem_cons_of_mem _ hd), Option.map_map]
    rfl

theorem length_readQuoted? (h : readQuoted? cs = some (read, left)) :
    read.length + left.length < cs.length := by
  -- Each step reads a sign and shows one character at most; the closing quote shows none.
  fun_induction readQuoted? cs generalizing read with
  | case1 => cases h
  | case2 rest =>
    cases h
    simp
  | case3 c rest ih =>
    obtain ⟨⟨read', left'⟩, hrest, hread⟩ := Option.map_eq_some_iff.1 h
    cases hread
    have := ih hrest
    simp only [List.length_cons]
    omega
  | case4 c rest _ _ ih =>
    obtain ⟨⟨read', left'⟩, hrest, hread⟩ := Option.map_eq_some_iff.1 h
    cases hread
    have := ih hrest
    simp only [List.length_cons]
    omega

/-- Between quotes a text is read as it is written if it holds neither sign, and only then: a
backslash that is taken for a sign makes what is read too short. -/
theorem readQuoted?_eq_self_iff :
    readQuoted? (cs ++ ['"']) = some (cs, []) ↔ ∀ c ∈ cs, IsPlain c := by
  constructor
  · intro h
    induction cs with
    | nil => exact nofun
    | cons c cs ih =>
      have hplain : IsPlain c := by
        constructor
        · rintro rfl
          simp [readQuoted?] at h
        · rintro rfl
          cases cs with
          | nil => simp [readQuoted?] at h
          | cons d cs =>
            obtain ⟨⟨read, left⟩, hrest, hread⟩ := Option.map_eq_some_iff.1 h
            -- the backslash takes `d` with it, so that less is read than was written
            have hlength := length_readQuoted? hrest
            cases hread
            simp at hlength
      rw [List.cons_append, readQuoted?_cons hplain] at h
      obtain ⟨⟨read, left⟩, hrest, hread⟩ := Option.map_eq_some_iff.1 h
      cases hread
      exact List.forall_mem_cons.2 ⟨hplain, ih hrest⟩
  · intro h
    simp only [readQuoted?_append h, readQuoted?, Option.map_some, List.append_nil]

/-! ## Dispositions -/

/-- The name that a disposition gives a file, and what stands after it. -/
def namedFile? (disposition : String) : Option (List Char × List Char) :=
  (Text.after? "attachment; filename=\"" disposition).bind fun written =>
    readQuoted? written.toList

def IsAsciiControl (c : Char) : Prop := c.toNat < 0x20 ∨ c.toNat = 0x7F

theorem isHeaderChar_iff : isHeaderChar c = true ↔ (IsAsciiControl c → c = '\t') := by
  rw [isHeaderChar, Bool.or_eq_true, Bool.and_eq_true, decide_eq_true_eq, decide_eq_true_eq,
    beq_iff_eq, Classical.or_iff_not_imp_left]
  refine imp_congr_left ?_
  rw [IsAsciiControl]
  omega

theorem all_isHeaderChar_dispositionOf :
    (dispositionOf filename).toList.all isHeaderChar = true ↔
      ∀ c ∈ filename.toList, IsAsciiControl c → c = '\t' := by
  have hmark : "attachment; filename=\"".toList.all isHeaderChar = true := by decide
  have hquote : "\"".toList.all isHeaderChar = true := by decide
  unfold dispositionOf
  rw [String.toList_append, String.toList_append, List.all_append, List.all_append, hmark, hquote,
    Bool.true_and, Bool.and_true, List.all_eq_true]
  exact forall₂_congr fun _ _ => isHeaderChar_iff

theorem namedFile?_dispositionOf (filename : String) :
    namedFile? (dispositionOf filename) = readQuoted? (filename.toList ++ ['"']) := by
  have hwritten : Text.after? "attachment; filename=\"" (dispositionOf filename) =
      some (filename ++ "\"") :=
    Text.after?_eq_some_iff.2 String.append_assoc
  unfold namedFile?
  rw [hwritten, Option.bind_some, String.toList_append]
  rfl

theorem disposition_cases (filename : String) :
    (disposition filename = "attachment" ∧
        ∃ c ∈ filename.toList, IsAsciiControl c ∧ c ≠ '\t') ∨
      (disposition filename = dispositionOf filename ∧
        ∀ c ∈ filename.toList, IsAsciiControl c → c = '\t') := by
  by_cases h : ∀ c ∈ filename.toList, IsAsciiControl c → c = '\t'
  · exact .inr ⟨if_pos (all_isHeaderChar_dispositionOf.2 h), h⟩
  · refine .inl ⟨if_neg fun hall => h (all_isHeaderChar_dispositionOf.1 hall), ?_⟩
    refine Classical.byContradiction fun hnone => h fun c hc control => ?_
    exact Classical.not_not.1 fun tab => hnone ⟨c, hc, control, tab⟩

theorem dispositionOf_ne_bare (filename : String) : dispositionOf filename ≠ "attachment" := by
  intro heq
  have hlength := congrArg String.length heq
  unfold dispositionOf at hlength
  rw [String.length_append, String.length_append] at hlength
  have hmark : "attachment; filename=\"".length = 22 := rfl
  have hbare : "attachment".length = 10 := rfl
  omega

/-- What a value tells a client about a file to be saved: its name, unless the name holds a control
character, but no longer the name if a sign of quoted strings stands in it. A quote ends the name
too early, and a backslash is left out. -/
structure DispositionPost (filename value : String) : Prop where
  bare : value = "attachment" ↔ ∃ c ∈ filename.toList, IsAsciiControl c ∧ c ≠ '\t'
  named : namedFile? value = some (filename.toList, []) ↔
    value ≠ "attachment" ∧ ∀ c ∈ filename.toList, IsPlain c
  cut : ∀ front rest, filename.toList = front ++ '"' :: rest → (∀ c ∈ front, IsPlain c) →
    value ≠ "attachment" → namedFile? value = some (front, rest ++ ['"'])
  unescaped : ∀ front c rest, filename.toList = front ++ '\\' :: c :: rest →
    (∀ d ∈ front ++ rest, IsPlain d) →
    value ≠ "attachment" → namedFile? value = some (front ++ c :: rest, [])

theorem disposition_post (filename : String) :
    DispositionPost filename (disposition filename) := by
  rcases disposition_cases filename with ⟨hvalue, control⟩ | ⟨hvalue, hheader⟩
  · have hnone : namedFile? "attachment" = none := by decide
    rw [hvalue]
    exact ⟨iff_of_true rfl control, by simp [hnone], fun _ _ _ _ h => absurd rfl h,
      fun _ _ _ _ _ h => absurd rfl h⟩
  · have hne := dispositionOf_ne_bare filename
    rw [hvalue]
    refine ⟨?_, ?_, fun front rest hname hfront _ => ?_, fun front c rest hname hplain _ => ?_⟩
    · refine iff_of_false hne ?_
      rintro ⟨c, hc, control, tab⟩
      exact tab (hheader c hc control)
    · rw [namedFile?_dispositionOf, readQuoted?_eq_self_iff]
      exact (and_iff_right hne).symm
    · rw [namedFile?_dispositionOf, hname, List.append_assoc, readQuoted?_append hfront,
        List.cons_append, readQuoted?]
      simp only [Option.map_some, List.append_nil]
    · rw [List.forall_mem_append] at hplain
      have hrest := readQuoted?_eq_self_iff.2 hplain.2
      rw [namedFile?_dispositionOf, hname, List.append_assoc, readQuoted?_append hplain.1,
        List.cons_append, List.cons_append, readQuoted?, hrest]
      rfl

theorem attachment_named (filename mediaType : String) (body : Body) :
    ∃ value, (attachment filename mediaType body).header? "content-disposition" = some value ∧
      DispositionPost filename value :=
  ⟨_, rfl, disposition_post filename⟩

/-- A client that asks for `a"b` is told to save `a`. -/
theorem attachment_cut_at_quote :
    let value := "attachment; filename=\"a\"b\""
    let c : Server.Context := ⟨{}, .dataDownload, ⟨"", ""⟩⟩
    let r : Request := ⟨.get, ⟨"/download/v1/a%22b", ""⟩, [], []⟩
    (attachment "a\"b" zipType .empty).header? "content-disposition" = some value ∧
      (c.answer r).response.header? "content-disposition" = some value ∧
      value ≠ "attachment" ∧ namedFile? value = some (['a'], ['b', '"']) := by
  decide +kernel

end MapStandin.Http
