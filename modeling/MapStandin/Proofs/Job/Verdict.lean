import Mathlib.Data.List.TakeWhile
import MapStandin.Proofs.Job.Result

/-! # What a path asks for

The verdict of a workspace is taken from the last name of its path, up to the last dot. What stands
before the name, behind the dot or behind the name plays no part. -/

namespace MapStandin

namespace Path

/-! ## Around the last name -/

/-- What may stand before the last name of a path. -/
def IsFolder (path : String) : Prop := path = "" ∨ ∃ way, path = way ++ "/"

/-- What may stand behind the last name of a path: slashes and single dots. -/
inductive Trail : List Char → Prop
  | nil : Trail []
  | slash {s : List Char} (more : Trail s) : Trail ('/' :: s)
  | dot {s : List Char} (more : Trail s) : Trail ('/' :: '.' :: s)

variable {folder name trail : String} {s : List Char}

theorem fields_trail (h : Trail s) {cs : List Char} (plain : '/' ∉ cs) :
    ∃ idles, Text.fields '/' (cs ++ s) = cs :: idles ∧
      ∀ idle ∈ idles, isIdle (String.ofList idle) := by
  induction h generalizing cs with
  | nil => exact ⟨[], by simp [Text.fields_of_not_mem plain], by simp⟩
  | slash more ih =>
    have hplain : '/' ∉ ([] : List Char) := List.not_mem_nil
    obtain ⟨idles, hfields, hidles⟩ := ih hplain
    refine ⟨[] :: idles, ?_, List.forall_mem_cons.2 ⟨by decide, hidles⟩⟩
    rw [List.nil_append] at hfields
    rw [Text.fields_append_sep, Text.fields_of_not_mem plain, hfields, List.singleton_append]
  | dot more ih =>
    have hplain : '/' ∉ ['.'] := by decide
    obtain ⟨idles, hfields, hidles⟩ := ih hplain
    refine ⟨['.'] :: idles, ?_, List.forall_mem_cons.2 ⟨by decide, hidles⟩⟩
    rw [List.singleton_append] at hfields
    rw [Text.fields_append_sep, Text.fields_of_not_mem plain, hfields, List.singleton_append]

theorem names_framed (before : IsFolder folder) (plain : '/' ∉ name.toList)
    (behind : Trail trail.toList) :
    ∃ front idles, names (folder ++ name ++ trail) = front ++ name :: idles ∧
      ∀ idle ∈ idles, isIdle idle := by
  obtain ⟨idles, hfields, hidles⟩ := fields_trail behind plain
  have hnames : (Text.fields '/' (name ++ trail).toList).map String.ofList =
      name :: idles.map String.ofList := by
    rw [String.toList_append, hfields, List.map_cons, String.ofList_toList]
  have hall : ∀ idle ∈ idles.map String.ofList, isIdle idle := by simpa using hidles
  obtain rfl | ⟨way, rfl⟩ := before
  · refine ⟨[], _, ?_, hall⟩
    rw [String.empty_append, names, hnames, List.nil_append]
  · refine ⟨(Text.fields '/' way.toList).map String.ofList, _, ?_, hall⟩
    have hchars : (way ++ "/" ++ name ++ trail).toList =
        way.toList ++ '/' :: (name ++ trail).toList := by simp
    rw [names, hchars, Text.fields_append_sep, List.map_append, hnames]

theorem fileName?_framed (before : IsFolder folder) (plain : '/' ∉ name.toList)
    (notIdle : ¬ isIdle name) (behind : Trail trail.toList) :
    fileName? (folder ++ name ++ trail) = if name = ".." then none else some name := by
  obtain ⟨front, idles, hnames, hidles⟩ := names_framed before plain behind
  have hlast : (front ++ name :: idles).reverse.dropWhile isIdle = name :: front.reverse := by
    rw [List.reverse_append, List.reverse_cons, List.append_assoc,
      List.dropWhile_append_of_pos (by simpa using hidles), List.singleton_append,
      List.dropWhile_cons_of_neg notIdle]
  unfold fileName?
  rw [hnames, hlast]

theorem fileName?_idle {start : String} (idle : isIdle start) (plain : '/' ∉ start.toList)
    (behind : Trail trail.toList) : fileName? (start ++ trail) = none := by
  obtain ⟨idles, hfields, hidles⟩ := fields_trail behind plain
  have hnames : names (start ++ trail) = start :: idles.map String.ofList := by
    rw [names, String.toList_append, hfields, List.map_cons, String.ofList_toList]
  have hall : ∀ n ∈ (names (start ++ trail)).reverse, isIdle n := by
    intro n hn
    rw [hnames, List.mem_reverse, List.mem_cons, List.mem_map] at hn
    obtain rfl | ⟨idle, hmem, rfl⟩ := hn
    · exact idle
    · exact hidles idle hmem
  unfold fileName?
  rw [List.dropWhile_eq_nil_iff.2 hall]

/-! ## Before the extension -/

theorem beforeExtension_of_dot {base extension : String} (some : base ≠ "")
    (last : '.' ∉ extension.toList) : beforeExtension (base ++ "." ++ extension) = base := by
  have hdot : (base ++ "." ++ extension).toList.reverse.dropWhile (· ≠ '.') =
      '.' :: base.toList.reverse := by
    rw [String.toList_append, String.toList_append, List.reverse_append, List.reverse_append,
      List.dropWhile_append_of_pos]
    · rfl
    · intro c hc
      have hne : c ≠ '.' := by rintro rfl; exact last (List.mem_reverse.1 hc)
      simpa using hne
  unfold beforeExtension
  rw [hdot]
  cases hbase : base.toList.reverse with
  | nil => exact absurd (String.toList_eq_nil_iff.1 (List.reverse_eq_nil_iff.1 hbase)) some
  | cons c cs =>
    show String.ofList (c :: cs).reverse = base
    rw [← hbase, List.reverse_reverse, String.ofList_toList]

theorem beforeExtension_of_no_dot (h : '.' ∉ name.toList.tail) : beforeExtension name = name := by
  unfold beforeExtension
  cases hname : name.toList with
  | nil => rfl
  | cons c cs =>
    have hrest : ∀ d ∈ cs.reverse, d ≠ '.' := by
      rintro d hd rfl
      rw [hname] at h
      exact h (List.mem_reverse.1 hd)
    rw [List.reverse_cons, List.dropWhile_append_of_pos (by simpa using hrest)]
    by_cases hc : c = '.'
    · rw [List.dropWhile_cons_of_neg (by simpa using hc)]
    · rw [List.dropWhile_cons_of_pos (by simpa using hc)]
      rfl

/-! ## The name that counts -/

/-- The name from which the verdict of a path is taken, if there is one. -/
inductive Decides : String → Option String → Prop
  | base {folder base extension trail : String} (before : IsFolder folder) (some : base ≠ "")
      (plain : '/' ∉ base.toList ∧ '/' ∉ extension.toList) (last : '.' ∉ extension.toList)
      (notUp : base ++ "." ++ extension ≠ "..") (behind : Trail trail.toList) :
      Decides (folder ++ (base ++ "." ++ extension) ++ trail) (.some base)
  | whole {folder name trail : String} (before : IsFolder folder) (plain : '/' ∉ name.toList)
      (dotless : '.' ∉ name.toList.tail) (notIdle : name ≠ "" ∧ name ≠ ".")
      (behind : Trail trail.toList) : Decides (folder ++ name ++ trail) (.some name)
  | up {folder trail : String} (before : IsFolder folder) (behind : Trail trail.toList) :
      Decides (folder ++ ".." ++ trail) none
  | idle {start trail : String} (nowhere : start = "" ∨ start = ".") (behind : Trail trail.toList) :
      Decides (start ++ trail) none

theorem Decides.stem_eq {path : String} {name? : Option String} (h : Decides path name?) :
    stem path = name?.getD "" := by
  unfold stem
  cases h with
  | @base folder base extension trail before some plain last notUp behind =>
    have hplain : '/' ∉ (base ++ "." ++ extension).toList := by simp [plain]
    -- The point is there besides the base, so the name is longer than an idle one.
    have hidle : ¬ isIdle (base ++ "." ++ extension) := by
      intro hidle
      have hlength : (base ++ "." ++ extension).length ≤ 1 := by
        simp only [isIdle, Bool.or_eq_true, decide_eq_true_eq] at hidle
        rcases hidle with h | h <;> rw [h] <;> decide
      have hbase : base.length ≠ 0 := by simpa using some
      simp only [String.length_append] at hlength
      have hdot : ".".length = 1 := by decide
      omega
    rw [fileName?_framed before hplain hidle behind, if_neg notUp, Option.map_some,
      beforeExtension_of_dot some last]
  | @whole folder name trail before plain dotless notIdle behind =>
    have hidle : ¬ isIdle name := by simpa [isIdle] using notIdle
    have hup : name ≠ ".." := by
      rintro rfl
      exact absurd dotless (by decide)
    rw [fileName?_framed before plain hidle behind, if_neg hup, Option.map_some,
      beforeExtension_of_no_dot dotless]
  | up before behind =>
    rw [fileName?_framed before (by decide) (by decide) behind, if_pos rfl]
    rfl
  | idle nowhere behind =>
    obtain rfl | rfl := nowhere <;> rw [fileName?_idle (by decide) (by decide) behind] <;> rfl

/-! ## Every path has its shape -/

/-- Some item of a list is the last one without a property, unless all items have it. -/
theorem exists_last {α : Type} (p : α → Prop) [DecidablePred p] (l : List α) :
    (∀ x ∈ l, p x) ∨ ∃ front x later, l = front ++ x :: later ∧ ¬ p x ∧ ∀ y ∈ later, p y := by
  induction l with
  | nil => exact .inl (by simp)
  | cons a l ih =>
    obtain hall | ⟨front, x, later, rfl, hx, hlater⟩ := ih
    · by_cases ha : p a
      · exact .inl (List.forall_mem_cons.2 ⟨ha, hall⟩)
      · exact .inr ⟨[], a, l, rfl, ha, hall⟩
    · exact .inr ⟨a :: front, x, later, rfl, hx, hlater⟩

theorem trail_of_idle {idles : List (List Char)} (h : ∀ f ∈ idles, f = [] ∨ f = ['.']) :
    Trail (idles.flatMap ('/' :: ·)) := by
  induction idles with
  | nil => exact .nil
  | cons f idles ih =>
    have hrest := ih fun g hg => h g (List.mem_cons_of_mem f hg)
    rw [List.flatMap_cons]
    obtain rfl | rfl := h f List.mem_cons_self
    · exact .slash hrest
    · exact .dot hrest

theorem exists_folder (front later : List (List Char)) (x : List Char) :
    ∃ folder, IsFolder (String.ofList folder) ∧
      ['/'].intercalate (front ++ x :: later) = folder ++ x ++ later.flatMap ('/' :: ·) := by
  cases front with
  | nil => exact ⟨[], .inl rfl, Text.intercalate_cons_eq '/' x later⟩
  | cons f fs =>
    refine ⟨f ++ fs.flatMap ('/' :: ·) ++ ['/'], .inr ⟨_, String.ofList_append⟩, ?_⟩
    rw [List.cons_append, Text.intercalate_cons_eq]
    simp

theorem exists_frame (path : String) :
    (∃ start trail, path = start ++ trail ∧ (start = "" ∨ start = ".") ∧ Trail trail.toList) ∨
      ∃ folder name trail, path = folder ++ name ++ trail ∧ IsFolder folder ∧
        Trail trail.toList ∧ '/' ∉ name.toList ∧ name ≠ "" ∧ name ≠ "." := by
  have hpath := Text.intercalate_fields '/' path.toList
  -- Either all names of the path are idle, or the last one that is not is the name to look at.
  obtain hidle | ⟨front, x, later, hfields, hx, hlater⟩ :=
    exists_last (fun f => f = [] ∨ f = ['.']) (Text.fields '/' path.toList)
  · obtain ⟨f, fs, hfields⟩ := List.exists_cons_of_ne_nil (Text.fields_ne_nil '/' path.toList)
    rw [hfields] at hpath hidle
    rw [Text.intercalate_cons_eq] at hpath
    obtain ⟨hf, hfs⟩ := List.forall_mem_cons.1 hidle
    refine .inl ⟨String.ofList f, String.ofList (fs.flatMap ('/' :: ·)), ?_, ?_, ?_⟩
    · rw [← String.ofList_append, hpath, String.ofList_toList]
    · exact hf.imp (congrArg String.ofList) (congrArg String.ofList)
    · rw [String.toList_ofList]
      exact trail_of_idle hfs
  · have hfield : x ∈ Text.fields '/' path.toList := by simp [hfields]
    have hplain : '/' ∉ x := Text.not_mem_of_mem_fields hfield
    obtain ⟨folder, hfolder, hframe⟩ := exists_folder front later x
    rw [hfields, hframe] at hpath
    refine .inr ⟨String.ofList folder, String.ofList x, String.ofList (later.flatMap ('/' :: ·)),
      ?_, hfolder, ?_, ?_, ?_, ?_⟩
    · rw [← String.ofList_append, ← String.ofList_append, hpath, String.ofList_toList]
    · rw [String.toList_ofList]
      exact trail_of_idle hlater
    · rwa [String.toList_ofList]
    · exact fun h => hx (.inl (String.ofList_injective h))
    · exact fun h => hx (.inr (String.ofList_injective h))

theorem exists_lastDot (h : '.' ∈ name.toList.tail) :
    ∃ base extension, name = base ++ "." ++ extension ∧ base ≠ "" ∧ '.' ∉ extension.toList := by
  cases hname : name.toList with
  | nil => simp [hname] at h
  | cons c cs =>
    rw [hname, List.tail_cons, ← List.mem_reverse] at h
    obtain ⟨later, earlier, hcs, hlater⟩ := List.eq_append_cons_of_mem h
    refine ⟨String.ofList (c :: earlier.reverse), String.ofList later.reverse, ?_, ?_, ?_⟩
    · apply String.toList_injective
      rw [hname, ← List.reverse_reverse cs, hcs]
      simp
    · simp
    · simpa using hlater

theorem exists_decides (path : String) : ∃ name?, Decides path name? := by
  obtain ⟨start, trail, rfl, nowhere, behind⟩ |
    ⟨folder, name, trail, rfl, before, behind, plain, notIdle⟩ := exists_frame path
  · exact ⟨none, .idle nowhere behind⟩
  · by_cases hdot : '.' ∈ name.toList.tail
    · obtain ⟨base, extension, rfl, some, last⟩ := exists_lastDot hdot
      by_cases hup : base ++ "." ++ extension = ".."
      · rw [hup]
        exact ⟨none, .up before behind⟩
      · have hplain : '/' ∉ base.toList ∧ '/' ∉ extension.toList := by simpa using plain
        exact ⟨_, .base before some hplain last hup behind⟩
    · exact ⟨_, .whole before plain hdot notIdle behind⟩

end Path

/-! ## The verdict -/

namespace Workspace

/-- The verdict that a name asks for by its end. -/
structure Judged (name : String) (v : Verdict) : Prop where
  fail : v = .fail ↔ "_fails".toList <:+ name.toList
  noArtifact : v = .noArtifact ↔ "_nofiles".toList <:+ name.toList
  produce : v = .produce ↔
    ¬ "_fails".toList <:+ name.toList ∧ ¬ "_nofiles".toList <:+ name.toList

theorem not_both_endings (name : List Char) :
    ¬ ("_fails".toList <:+ name ∧ "_nofiles".toList <:+ name) := by
  rintro ⟨hfails, hnofiles⟩
  have h := List.suffix_of_suffix_length_le hfails hnofiles (by decide)
  exact absurd h (by decide)

theorem judged_verdict (w : Workspace) : Judged w.stem w.verdict := by
  have hboth := not_both_endings w.stem.toList
  rw [w.verdict_eq]
  by_cases hfails : w.EndsIn "_fails"
  · rw [if_pos hfails]
    exact ⟨iff_of_true rfl hfails, iff_of_false nofun fun h => hboth ⟨hfails, h⟩,
      iff_of_false nofun fun h => h.1 hfails⟩
  · rw [if_neg hfails]
    by_cases hnofiles : w.EndsIn "_nofiles"
    · rw [if_pos hnofiles]
      exact ⟨iff_of_false nofun hfails, iff_of_true rfl hnofiles,
        iff_of_false nofun fun h => h.2 hnofiles⟩
    · rw [if_neg hnofiles]
      exact ⟨iff_of_false nofun hfails, iff_of_false nofun hnofiles,
        iff_of_true rfl ⟨hfails, hnofiles⟩⟩

/-- The verdict is asked for by the name that decides, and every path has one or has none that
asks for anything. -/
theorem verdict_spec (w : Workspace) :
    (∃ name?, Path.Decides w.identifier name?) ∧
      (∀ name, Path.Decides w.identifier (some name) → Judged name w.verdict) ∧
      (Path.Decides w.identifier none → w.verdict = .produce) := by
  have hjudged := judged_verdict w
  refine ⟨Path.exists_decides w.identifier, fun name h => ?_, fun h => ?_⟩
  · rwa [stem, h.stem_eq] at hjudged
  · rw [stem, h.stem_eq] at hjudged
    exact hjudged.produce.2 (by decide)

theorem verdict_spec_dotted :
    Path.Decides "a_fails/.b_nofiles.fmw//." (some ".b_nofiles") ∧
      Judged ".b_nofiles" (Workspace.mk "a_fails/.b_nofiles.fmw//.").verdict ∧
      (Workspace.mk "a_fails/.b_nofiles.fmw//.").verdict = .noArtifact := by
  have hdecides : Path.Decides ("a_fails/" ++ (".b_nofiles" ++ "." ++ "fmw") ++ "//.")
      (some ".b_nofiles") :=
    .base (.inr ⟨"a_fails", by decide⟩) (by decide) (by decide) (by decide) (by decide)
      (.slash (.dot .nil))
  have hpath : "a_fails/" ++ (".b_nofiles" ++ "." ++ "fmw") ++ "//." =
      "a_fails/.b_nofiles.fmw//." := by decide
  rw [hpath] at hdecides
  have hjudged := (verdict_spec ⟨"a_fails/.b_nofiles.fmw//."⟩).2.1 _ hdecides
  exact ⟨hdecides, hjudged, hjudged.noArtifact.2 (by decide)⟩

end Workspace

end MapStandin
