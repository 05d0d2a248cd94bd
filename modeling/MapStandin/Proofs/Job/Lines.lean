import MapStandin.Proofs.Files.Folders
import MapStandin.Proofs.Guid
import MapStandin.Proofs.Job.Result
import MapStandin.Proofs.Parameter.Mapping
import MapStandin.Text.Fields

/-! # Lines of a result file

A result file gives the heading, the workspace, each entry of the context and each parameter a line
of its own. An entry that holds a line feed takes more lines than one, and most kinds of parameters
let line feeds pass. -/

namespace MapStandin

/-! ## Lines of a text -/

namespace Text

/-- What stands between the line feeds of a text. -/
def stretches (s : String) : List String :=
  (fields '\n' s.toList).map String.ofList

/-- The lines of a text. Behind the last line feed there is one more if anything is there. -/
def linesOf (s : String) : List String :=
  if (stretches s).getLast? = some "" then (stretches s).dropLast else stretches s

def lineFeeds (s : String) : Nat := s.toList.count '\n'

theorem stretches_append_lineFeed (s t : String) :
    stretches (s ++ "\n" ++ t) = stretches s ++ stretches t := by
  have hlist : (s ++ "\n" ++ t).toList = s.toList ++ '\n' :: t.toList := by simp
  unfold stretches
  rw [hlist, fields_append_sep, List.map_append]

theorem stretches_of_lineFeeds_eq_zero {s : String} (h : lineFeeds s = 0) : stretches s = [s] := by
  unfold stretches
  rw [fields_of_not_mem (List.count_eq_zero.1 h), List.map_singleton, String.ofList_toList]

theorem length_stretches (s : String) : (stretches s).length = lineFeeds s + 1 := by
  unfold stretches lineFeeds
  rw [List.length_map]
  induction s.toList with
  | nil => rfl
  | cons c cs ih =>
    rw [fields]
    by_cases hc : c = '\n'
    · rw [if_pos hc, List.length_cons, ih, hc, List.count_cons_self]
    · rw [if_neg hc, List.count_cons_of_ne hc, ← ih]
      cases hf : fields '\n' cs with
      | nil => exact absurd hf (fields_ne_nil '\n' cs)
      | cons f fs => rfl

/-- Ended texts one after the other are read as the lines of each. -/
theorem linesOf_join (texts : List String) :
    linesOf (String.join (texts.map (· ++ "\n"))) = texts.flatMap stretches := by
  have hall : stretches (String.join (texts.map (· ++ "\n"))) =
      texts.flatMap stretches ++ [""] := by
    induction texts with
    | nil => rfl
    | cons text rest ih =>
      rw [List.map_cons, String.join_cons, stretches_append_lineFeed, ih, List.flatMap_cons,
        List.append_assoc]
  unfold linesOf
  rw [hall, if_pos List.getLast?_concat, List.dropLast_concat]

theorem lineFeeds_append (s t : String) : lineFeeds (s ++ t) = lineFeeds s + lineFeeds t := by
  unfold lineFeeds
  rw [String.toList_append, List.count_append]

theorem lineFeeds_join_eq_zero {texts : List String} (h : lineFeeds (String.join texts) = 0) :
    ∀ text ∈ texts, lineFeeds text = 0 := by
  unfold lineFeeds at h ⊢
  rw [String.toList_join, List.count_eq_zero] at h
  intro text htext
  rw [List.count_eq_zero]
  exact fun hmem => h (List.mem_flatMap.2 ⟨text, htext, hmem⟩)

theorem length_flatMap_stretches (texts : List String) :
    (texts.flatMap stretches).length = texts.length + lineFeeds (String.join texts) := by
  induction texts with
  | nil => rfl
  | cons text rest ih =>
    rw [List.flatMap_cons, List.length_append, ih, length_stretches, List.length_cons,
      String.join_cons, lineFeeds_append]
    omega

theorem flatMap_stretches_eq_self_iff {texts : List String} :
    texts.flatMap stretches = texts ↔ ∀ text ∈ texts, lineFeeds text = 0 := by
  constructor
  · intro h
    have hlength := length_flatMap_stretches texts
    rw [h] at hlength
    exact lineFeeds_join_eq_zero (by omega)
  · intro h
    induction texts with
    | nil => rfl
    | cons text rest ih =>
      rw [List.flatMap_cons, stretches_of_lineFeeds_eq_zero (h text List.mem_cons_self),
        ih fun t ht => h t (List.mem_cons_of_mem text ht)]
      rfl

theorem lineFeeds_cut {limit : Nat} {s : String} (h : lineFeeds s = 0) :
    lineFeeds (cut limit s) = 0 := by
  by_cases hle : s.toList.length ≤ limit
  · rwa [cut_of_length_le hle]
  · rw [cut_of_lt_length (Nat.lt_of_not_le hle), lineFeeds_append, lineFeeds,
      String.toList_ofList, Nat.add_eq_zero_iff]
    have htake := (List.take_sublist limit s.toList).count_le '\n'
    exact ⟨Nat.le_zero.1 (h ▸ htake), rfl⟩

end Text

/-! ## Line feeds in accepted texts -/

namespace Guid

theorem lineFeeds_of_read? {s : String} {g : Guid} (h : read? s = some g) :
    Text.lineFeeds s = 0 := by
  obtain ⟨vs, -, -, hcanonical, -⟩ := read?_eq_some_iff.1 h
  rw [Text.lineFeeds, List.count_eq_zero]
  intro hmem
  rcases hcanonical.shape.2 '\n' hmem with h | h
  · exact absurd h (by decide)
  · exact absurd h (by decide)

end Guid

namespace Parameter

open Text

/-- The kinds of which no text holds a line feed. -/
def Kind.isTight : Kind → Bool
  | .guid | .path => true
  | .positiveInteger | .json | .polygon | .nonEmpty | .anyText => false

theorem lineFeeds_of_isTight {k : Kind} {raw : String} (tight : k.isTight = true)
    (accepts : k.accepts raw = true) : lineFeeds raw = 0 := by
  obtain ⟨value, hread⟩ := Option.isSome_iff_exists.1 accepts
  cases k with
  | guid =>
    obtain ⟨g, hg, -⟩ := Option.map_eq_some_iff.1 hread
    exact Guid.lineFeeds_of_read? hg
  | path =>
    have hpath : isPath raw = true := by
      by_contra h
      simp [Kind.read?, h] at hread
    rw [isPath, Bool.and_eq_true, Bool.not_eq_true', List.any_eq_false] at hpath
    rw [lineFeeds, List.count_eq_zero]
    exact fun hmem => hpath.2 '\n' hmem (by decide)
  | positiveInteger | json | polygon | nonEmpty | anyText => cases tight

/-- What a schema checked to accept a request: declarations and their texts, in order. -/
inductive Checked (schema : Schema) (r : Request) : List (Spec × String) → Prop
  | flags {tokens : List String} (accepted : schema.readFlags tokens = .ok r) :
      Checked schema r (declaredFlags schema tokens)
  | mapping {entries : List (String × String)} (accepted : schema.readMapping entries = .ok r) :
      Checked schema r (schema.declaredEntries entries)

variable {schema : Schema} {r : Request} {checked : List (Spec × String)}

theorem Checked.fits (h : Checked schema r checked) : List.Forall₂ Fits checked r.values := by
  cases h with
  | @flags tokens accepted =>
    have hreading := readFlags_reading schema tokens
    rw [accepted] at hreading
    cases hreading with
    | complete placed absent values once => exact values
  | @mapping entries accepted =>
    have hreading := readMapping_reading schema entries
    rw [accepted] at hreading
    cases hreading with
    | complete absent values => exact values

theorem texts_of_fits {values : List (String × Accepted)}
    (h : List.Forall₂ Fits checked values) :
    values.map (fun entry => (entry.1, entry.2.raw)) =
      checked.map fun entry => (entry.1.name, entry.2) := by
  induction h with
  | nil => rfl
  | cons hfit _ ih => rw [List.map_cons, List.map_cons, ih, hfit.1, hfit.2.1]

end Parameter

/-! ## The lines of a result -/

namespace Standin

open Parameter Text

/-- What a result file shows, entry by entry: the heading, the workspace, the context and the
parameters in the order in which they were accepted. -/
def shown (s : Standin) (w : Workspace) (context : List (String × String))
    (checked : List (Spec × String)) : List String :=
  [s.title ++ " - Execution successful", "Workspace: " ++ w.identifier] ++
    context.map (fun (label, value) => label ++ ": " ++ cut 200 value) ++
    checked.map fun (spec, raw) => spec.name ++ ": " ++ cut 200 raw

/-- No entry holds a line feed. A text of a tight kind needs no look. -/
structure Unbroken (s : Standin) (w : Workspace) (context : List (String × String))
    (checked : List (Spec × String)) : Prop where
  title : lineFeeds s.title = 0
  workspace : lineFeeds w.identifier = 0
  context : ∀ entry ∈ context, lineFeeds entry.1 = 0 ∧ lineFeeds (cut 200 entry.2) = 0
  parameters : ∀ entry ∈ checked, lineFeeds entry.1.name = 0 ∧
    (entry.1.kind.isTight = true ∨ lineFeeds (cut 200 entry.2) = 0)

structure Laid (s : Standin) (w : Workspace) (context : List (String × String))
    (checked : List (Spec × String)) (text : String) : Prop where
  /-- The lines of each entry stand together, entry after entry. -/
  lines : linesOf text = (s.shown w context checked).flatMap stretches
  /-- A line feed in an entry adds a line. -/
  count : (linesOf text).length = 2 + context.length + checked.length +
    lineFeeds (String.join (s.shown w context checked))
  /-- Each line is an entry, and each entry a line, if and only if no entry holds a line feed. -/
  exact : linesOf text = s.shown w context checked ↔ Unbroken s w context checked

variable {s : Standin} {w : Workspace} {context : List (String × String)} {schema : Schema}
  {r : Request} {checked : List (Spec × String)}

theorem lines_eq_shown (accepted : Checked schema r checked) :
    s.lines w context r = s.shown w context checked := by
  have htexts : r.texts = checked.map fun entry => (entry.1.name, entry.2) :=
    texts_of_fits accepted.fits
  unfold Standin.lines shown
  rw [htexts, List.map_append, List.map_map]
  rfl

theorem unbroken_iff (accepted : Checked schema r checked) :
    (∀ line ∈ s.shown w context checked, lineFeeds line = 0) ↔ Unbroken s w context checked := by
  -- The sign between a label and its value holds no line feed, so the two are judged apart.
  have hsign : ∀ label value, lineFeeds (label ++ ": " ++ value) = 0 ↔
      lineFeeds label = 0 ∧ lineFeeds value = 0 := by
    intro label value
    rw [lineFeeds_append, lineFeeds_append, show lineFeeds ": " = 0 from rfl]
    omega
  have hcut : ∀ entry ∈ checked, entry.1.kind.isTight = true →
      lineFeeds (cut 200 entry.2) = 0 := by
    intro entry hentry tight
    have haccepts := accepts_of_fits accepted.fits entry hentry
    exact lineFeeds_cut (lineFeeds_of_isTight tight haccepts)
  unfold shown
  rw [List.forall_mem_append, List.forall_mem_append, List.forall_mem_map, List.forall_mem_map]
  constructor
  · rintro ⟨⟨hhead, hcontext⟩, hparameters⟩
    have htitle := hhead _ List.mem_cons_self
    have hworkspace := hhead _ (List.mem_cons_of_mem _ List.mem_cons_self)
    rw [lineFeeds_append, Nat.add_eq_zero_iff] at htitle hworkspace
    refine ⟨htitle.1, hworkspace.2, ?_, ?_⟩
    · exact fun entry hentry => (hsign _ _).1 (hcontext entry hentry)
    · intro entry hentry
      obtain ⟨hname, htext⟩ := (hsign _ _).1 (hparameters entry hentry)
      exact ⟨hname, Or.inr htext⟩
  · intro unbroken
    refine ⟨⟨?_, ?_⟩, ?_⟩
    · simp only [List.forall_mem_cons, lineFeeds_append, unbroken.title, unbroken.workspace]
      decide
    · exact fun entry hentry => (hsign _ _).2 (unbroken.context entry hentry)
    · intro entry hentry
      obtain ⟨hname, tight | htext⟩ := unbroken.parameters entry hentry
      · exact (hsign _ _).2 ⟨hname, hcut entry hentry tight⟩
      · exact (hsign _ _).2 ⟨hname, htext⟩

theorem report_laid (accepted : Checked schema r checked) :
    Laid s w context checked (s.report w context r) := by
  have hlines : linesOf (s.report w context r) = (s.shown w context checked).flatMap stretches := by
    rw [report_eq_join, lines_eq_shown accepted, linesOf_join]
  constructor
  case lines => exact hlines
  case count =>
    rw [hlines, length_flatMap_stretches]
    simp [shown]
    omega
  case exact => rw [hlines, flatMap_stretches_eq_self_iff, unbroken_iff accepted]

/-! ## The file -/

theorem writeResult_eq_ok {files after : Files} {folder name text path : String}
    (h : writeResult files folder name text = .ok (path, after)) :
    ∃ place, files.target (Path.join folder name) = .ok place ∧
      after = files.put place (.file (Utf8.encode text)) := by
  by_cases hfolder : files.isFolder folder = true
  · cases ht : files.target (Path.join folder name) with
    | error f =>
      rw [writeResult_of_fault hfolder ht] at h
      cases h
    | ok place =>
      rw [writeResult_of_target hfolder ht] at h
      obtain ⟨-, rfl⟩ := Prod.mk.inj (Except.ok.inj h)
      exact ⟨place, rfl, rfl⟩
  · rw [writeResult_of_no_folder hfolder] at h
    cases h

theorem run_produces {files : Files} {folder : String} {place : Location} (s : Standin)
    (r : Request) (context : List (String × String)) (produces : w.verdict = .produce)
    (found : files.isFolder folder = true)
    (target : files.target (Path.join folder s.artifactName) = .ok place) :
    (s.run files w folder r context).result =
      .ok (some ⟨s.artifactName, "text/plain", .written (Path.join folder s.artifactName)⟩,
        files.put place (.file (Utf8.encode (s.report w context r)))) := by
  unfold run
  simp only [produces, writeResult_of_target found target]
  rfl

theorem run_laid {files after : Files} {folder : String} {artifact : Artifact}
    (accepted : Checked schema r checked)
    (wrote : (s.run files w folder r context).result = .ok (some artifact, after)) :
    ∃ place text, files.target (Path.join folder s.artifactName) = .ok place ∧
      after.node? place = some (.file (Utf8.encode text)) ∧
      (∀ q, q ≠ place → after.node? q = files.node? q) ∧ Laid s w context checked text := by
  rw [run_result] at wrote
  split_ifs at wrote
  · cases wrote
  · cases hwrite : writeResult files folder s.artifactName (s.report w context r) with
    | error e =>
      rw [hwrite] at wrote
      cases wrote
    | ok written =>
      obtain ⟨path, files'⟩ := written
      rw [hwrite] at wrote
      obtain ⟨-, rfl⟩ := Prod.mk.inj (Except.ok.inj wrote)
      obtain ⟨place, htarget, rfl⟩ := writeResult_eq_ok hwrite
      have hplace := Files.target_ne_nil htarget
      refine ⟨place, s.report w context r, htarget, ?_, ?_, report_laid accepted⟩
      · rw [Files.node?_put hplace, if_pos rfl]
      · intro q hq
        rw [Files.node?_put hplace, if_neg hq]

theorem run_laid_properties :
    let context := [("Parameters file", "job.json")]
    let entries := [("Parameters", "a\nb"), ("FolderOut", ".")]
    ∃ r after, desktopProperties.readMapping entries = .ok r ∧
      (Standin.run ⟨"Stand-in", "result.txt"⟩ .empty ⟨"job.fmw"⟩ "." r context).result =
        .ok (some ⟨"result.txt", "text/plain", .written "./result.txt"⟩, after) ∧
      ∃ place text, Files.empty.target (Path.join "." "result.txt") = .ok place ∧
        after.node? place = some (.file (Utf8.encode text)) ∧
        (∀ q, q ≠ place → after.node? q = Files.empty.node? q) ∧
        Laid ⟨"Stand-in", "result.txt"⟩ ⟨"job.fmw"⟩ context
          (desktopProperties.declaredEntries entries) text := by
  intro context entries
  let r : Request := ⟨[("FolderOut", ⟨".", .text "."⟩), ("Parameters", ⟨"a\nb", .anyText "a\nb"⟩)]⟩
  have hread : desktopProperties.readMapping entries = .ok r := rfl
  have htarget : Files.empty.target (Path.join "." "result.txt") =
      .ok ["work", "result.txt"] := by decide
  have hrun := run_produces (w := ⟨"job.fmw"⟩) ⟨"Stand-in", "result.txt"⟩ r context (by decide)
    (by decide) htarget
  have hlaid := run_laid (.mapping hread) hrun
  exact ⟨_, _, hread, hrun, hlaid⟩

/-- A free text passes for another parameter. -/
theorem run_forged :
    ∃ r after text, desktopProperties.readMapping
          [("FolderOut", "."), ("Parameters", "a\nFolderOut: elsewhere")] = .ok r ∧
      (Standin.run ⟨"Stand-in", "result.txt"⟩ .empty ⟨"job.fmw"⟩ "." r []).result =
        .ok (some ⟨"result.txt", "text/plain", .written "./result.txt"⟩, after) ∧
      after.node? ["work", "result.txt"] = some (.file (Utf8.encode text)) ∧
      linesOf text = ["Stand-in - Execution successful", "Workspace: job.fmw", "FolderOut: .",
        "Parameters: a", "FolderOut: elsewhere"] ∧
      (linesOf text).length ≠ 2 + 0 + r.size := by
  let r : Request := ⟨[("FolderOut", ⟨".", .text "."⟩),
    ("Parameters", ⟨"a\nFolderOut: elsewhere", .anyText "a\nFolderOut: elsewhere"⟩)]⟩
  have hlines : linesOf (Standin.report ⟨"Stand-in", "result.txt"⟩ ⟨"job.fmw"⟩ [] r) =
      ["Stand-in - Execution successful", "Workspace: job.fmw", "FolderOut: .", "Parameters: a",
        "FolderOut: elsewhere"] := by
    rw [report_eq_join, linesOf_join]
    decide
  have htarget : Files.empty.target (Path.join "." "result.txt") =
      .ok ["work", "result.txt"] := by decide
  have hrun := run_produces (w := ⟨"job.fmw"⟩) ⟨"Stand-in", "result.txt"⟩ r [] (by decide)
    (by decide) htarget
  refine ⟨r, _, _, rfl, hrun, Files.node?_put (by decide) |>.trans (if_pos rfl), hlines, ?_⟩
  rw [hlines]
  decide

end Standin

end MapStandin
