import MapStandin.Job.Run
import MapStandin.Proofs.Files.Place
import MapStandin.Proofs.Log

/-! # What a job comes to

The verdict of the workspace decides how a job turns out; the files matter only for a job that is to
produce a result, and only its result file is written. -/

namespace MapStandin

def Workspace.EndsIn (w : Workspace) (ending : String) : Prop :=
  ending.toList <:+ w.stem.toList

instance (w : Workspace) (ending : String) : Decidable (w.EndsIn ending) :=
  inferInstanceAs (Decidable (_ <:+ _))

theorem Workspace.verdict_eq (w : Workspace) :
    w.verdict =
      if w.EndsIn "_fails" then .fail else if w.EndsIn "_nofiles" then .noArtifact
      else .produce := by
  unfold Workspace.verdict Workspace.verdictOf
  have hends : ∀ ending, Text.endsWith ending w.stem = true ↔ w.EndsIn ending :=
    fun _ => Text.endsWith_iff
  by_cases hfail : w.EndsIn "_fails"
  · rw [if_pos hfail, if_pos ((hends failureEnding).2 hfail)]
  · rw [if_neg hfail, if_neg (mt (hends failureEnding).1 hfail)]
    by_cases hnone : w.EndsIn "_nofiles"
    · rw [if_pos hnone, if_pos ((hends noArtifactEnding).2 hnone)]
    · rw [if_neg hnone, if_neg (mt (hends noArtifactEnding).1 hnone)]

namespace Standin

open Narrated (Matches SameTale)

variable {files : Files} {folder name text : String} {w : Workspace} {s : Standin}

/-! ## The text of a result -/

theorem intercalate_lines (line : String) (lines : List String) :
    "\n".intercalate (line :: lines) ++ "\n" = String.join ((line :: lines).map (· ++ "\n")) := by
  induction lines generalizing line with
  | nil => simp
  | cons next rest ih =>
    rw [String.intercalate_cons_cons, List.map_cons, String.join_cons, ← ih]
    simp only [String.append_assoc]

theorem report_eq_join (s : Standin) (w : Workspace) (context : List (String × String))
    (r : Parameter.Request) :
    s.report w context r = String.join ((s.lines w context r).map (· ++ "\n")) :=
  intercalate_lines _ _

/-! ## Jobs with a folder -/

theorem writeResult_of_target {place : Location} (hfolder : files.isFolder folder = true)
    (ht : files.target (Path.join folder name) = .ok place) :
    writeResult files folder name text =
      .ok (Path.join folder name, files.put place (.file (Utf8.encode text))) := by
  unfold writeResult Files.write
  simp only [if_pos hfolder, ht]
  rfl

theorem writeResult_of_fault {f : Files.Fault} (hfolder : files.isFolder folder = true)
    (ht : files.target (Path.join folder name) = .error f) :
    writeResult files folder name text = .error (.artifactNotWritten f.message) := by
  unfold writeResult Files.write
  simp only [if_pos hfolder, ht]
  rfl

theorem writeResult_of_no_folder (hfolder : ¬ files.isFolder folder = true) :
    writeResult files folder name text = .error (.outputFolderMissing folder) :=
  if_neg hfolder

/-- What writing a result comes to: the file in its folder and no other change, or a rejection that
tells of the folder or of the file. -/
def WriteResultPost (files : Files) (folder name text : String) :
    Except Rejection (String × Files) → Prop
  | .ok (path, written) => files.CanHold folder name ∧ path = Path.join folder name ∧
      ∃ place, files.locate folder = .ok place ∧
        written = files.put (place ++ [name]) (.file (Utf8.encode text))
  | .error r => ¬ files.CanHold folder name ∧
      (r = .outputFolderMissing folder ∨ ∃ f : Files.Fault, r = .artifactNotWritten f.message)

theorem writeResult_spec (files : Files) (folder text : String) (hn : Path.IsFileName name) :
    WriteResultPost files folder name text (writeResult files folder name text) := by
  by_cases hfolder : files.isFolder folder = true
  · obtain ⟨place, hplace, hnode⟩ := Files.isFolder_iff.1 hfolder
    cases ht : files.target (Path.join folder name) with
    | error f =>
      rw [writeResult_of_fault hfolder ht]
      have hnot : ¬ files.CanHold folder name := by
        rw [Files.canHold_iff hn, ht]
        simp
      exact ⟨hnot, Or.inr ⟨f, rfl⟩⟩
    | ok q =>
      rw [writeResult_of_target hfolder ht]
      obtain ⟨-, -, -, rfl⟩ := (Files.target_join hn hplace hnode).1 ht
      have hhold : files.CanHold folder name := (Files.canHold_iff hn).2 ⟨hfolder, _, ht⟩
      exact ⟨hhold, rfl, place, hplace, rfl⟩
  · rw [writeResult_of_no_folder hfolder]
    have hnot : ¬ files.CanHold folder name := by
      rw [Files.canHold_iff hn]
      exact fun h => hfolder h.1
    exact ⟨hnot, Or.inl rfl⟩

theorem writeResult_alike {files' : Files} {text' : String} (same : files.SameFolders files')
    (hn : Path.IsFileName name) :
    Matches Eq (fun a a' => a'.1 = a.1) (writeResult files folder name text)
      (writeResult files' folder name text') := by
  by_cases hfolder : files.isFolder folder = true
  · have hfolder' := hfolder
    rw [← same.isFolder] at hfolder'
    have htarget := same.target_join hn hfolder
    cases ht : files.target (Path.join folder name) with
    | error f =>
      rw [writeResult_of_fault hfolder ht, writeResult_of_fault hfolder' (htarget.trans ht)]
      exact .error rfl
    | ok place =>
      rw [writeResult_of_target hfolder ht, writeResult_of_target hfolder' (htarget.trans ht)]
      exact .ok rfl
  · rw [writeResult_of_no_folder hfolder, writeResult_of_no_folder (by rwa [same.isFolder])]
    exact .error rfl

/-- What running a job comes to. Each line says when it happens and what it does to the files. -/
def RunPost (s : Standin) (files : Files) (w : Workspace) (folder text : String) :
    Except Failure (Option Artifact × Files) → Prop
  | .error .simulated => w.EndsIn "_fails"
  | .error (.rejected r) =>
    ¬ w.EndsIn "_fails" ∧ ¬ w.EndsIn "_nofiles" ∧ ¬ files.CanHold folder s.artifactName ∧
      (r = .outputFolderMissing folder ∨ ∃ f : Files.Fault, r = .artifactNotWritten f.message)
  | .ok (none, after) => ¬ w.EndsIn "_fails" ∧ w.EndsIn "_nofiles" ∧ after = files
  | .ok (some _, after) =>
    ¬ w.EndsIn "_fails" ∧ ¬ w.EndsIn "_nofiles" ∧ files.CanHold folder s.artifactName ∧
      ∃ place, files.locate folder = .ok place ∧
        after = files.put (place ++ [s.artifactName]) (.file (Utf8.encode text))

theorem run_result (s : Standin) (files : Files) (w : Workspace) (folder : String)
    (r : Parameter.Request) (context : List (String × String)) :
    (s.run files w folder r context).result =
      if w.EndsIn "_fails" then .error .simulated
      else if w.EndsIn "_nofiles" then .ok (none, files)
      else match writeResult files folder s.artifactName (s.report w context r) with
        | .error r => .error (.rejected r)
        | .ok (path, after) => .ok (some ⟨s.artifactName, "text/plain", .written path⟩, after) := by
  unfold run
  rw [w.verdict_eq]
  by_cases hfail : w.EndsIn "_fails"
  · rw [if_pos hfail, if_pos hfail]
    rfl
  · rw [if_neg hfail, if_neg hfail]
    by_cases hnone : w.EndsIn "_nofiles"
    · rw [if_pos hnone, if_pos hnone]
      rfl
    · rw [if_neg hnone, if_neg hnone]
      simp only [Narrated.result_bind, Narrated.result_of]
      cases writeResult files folder s.artifactName (s.report w context r) <;> rfl

theorem run_alike {files' : Files} {r r' : Parameter.Request}
    {context context' : List (String × String)} (same : files.SameFolders files')
    (hn : Path.IsFileName s.artifactName) :
    SameTale Eq (fun a a' => a'.1 = a.1) (s.run files w folder r context)
      (s.run files' w folder r' context') := by
  unfold run
  split
  · exact ⟨rfl, .error rfl⟩
  · exact .bind (.say .info rfl) fun _ _ _ => .pure rfl
  · refine .bind (.of ((writeResult_alike same hn).mapError fun _ _ => congrArg _)) ?_
    rintro ⟨path, after⟩ ⟨_, after'⟩ rfl
    exact .bind (.say .info rfl) fun _ _ _ => .pure rfl

theorem run_congr {files' : Files} {r : Parameter.Request} {context : List (String × String)}
    (same : files.SameFolders files') (hn : Path.IsFileName s.artifactName) :
    (s.run files' w folder r context).result.map Prod.fst =
      (s.run files w folder r context).result.map Prod.fst :=
  (run_alike same hn).result.map_eq

theorem run_spec {r : Parameter.Request} {context : List (String × String)}
    {result : Except Failure (Option Artifact × Files)} (hn : Path.IsFileName s.artifactName)
    (hrun : (s.run files w folder r context).result = result) :
    RunPost s files w folder (s.report w context r) result := by
  have hwrite := writeResult_spec files folder (s.report w context r) hn
  rw [run_result] at hrun
  by_cases hfail : w.EndsIn "_fails"
  · rw [if_pos hfail] at hrun
    rw [← hrun]
    exact hfail
  · rw [if_neg hfail] at hrun
    by_cases hnone : w.EndsIn "_nofiles"
    · rw [if_pos hnone] at hrun
      rw [← hrun]
      exact ⟨hfail, hnone, rfl⟩
    · rw [if_neg hnone] at hrun
      cases hresult : writeResult files folder s.artifactName (s.report w context r) with
      | error r' =>
        rw [hresult] at hrun hwrite
        rw [← hrun]
        exact ⟨hfail, hnone, hwrite⟩
      | ok written =>
        obtain ⟨path, after⟩ := written
        rw [hresult] at hrun hwrite
        obtain ⟨hhold, -, hplace⟩ := hwrite
        rw [← hrun]
        exact ⟨hfail, hnone, hhold, hplace⟩

theorem mem_run {r : Parameter.Request} {context : List (String × String)}
    (hn : Path.IsFileName s.artifactName) (succeeds : ¬ w.EndsIn "_fails")
    (produces : ¬ w.EndsIn "_nofiles") (hold : files.CanHold folder s.artifactName) :
    (⟨.info, "Created output file: " ++ Path.join folder s.artifactName⟩ : Event) ∈
      (s.run files w folder r context).events := by
  have hspec := writeResult_spec files folder (s.report w context r) hn
  unfold run
  rw [w.verdict_eq, if_neg succeeds, if_neg produces]
  cases hwrite : writeResult files folder s.artifactName (s.report w context r) with
  | error e =>
    rw [hwrite] at hspec
    exact absurd hold hspec.1
  | ok written =>
    obtain ⟨path, after⟩ := written
    rw [hwrite] at hspec
    obtain ⟨-, rfl, -⟩ := hspec
    apply Narrated.mem_events_of_later rfl
    exact Narrated.mem_events_of_first (List.mem_singleton_self _)

/-! ## Jobs without a folder -/

theorem result_publish (s : Standin) (w : Workspace) (url : String) :
    (s.publish w url).result =
      if w.EndsIn "_fails" then .error .simulated
      else .ok (some ⟨s.artifactName, "application/zip", .download url⟩) := by
  unfold publish
  rw [Workspace.verdict_eq]
  by_cases fails : w.EndsIn "_fails"
  · rw [if_pos fails, if_pos fails]
    rfl
  · rw [if_neg fails, if_neg fails]
    by_cases nothing : w.EndsIn "_nofiles"
    · rw [if_pos nothing]
      rfl
    · rw [if_neg nothing]
      rfl

end Standin

end MapStandin
