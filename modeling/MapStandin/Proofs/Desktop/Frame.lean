import MapStandin.Proofs.Desktop.FileRun
import MapStandin.Proofs.Desktop.FlagRun

/-! # What a run does to the files

A run changes one file at most, the result in the folder that the caller names, and none when it
does not end well. -/

namespace MapStandin.Desktop

open Parameter

/-! ## The result file -/

def resultName : Convention → String
  | .flags => "result_v1.txt"
  | .parametersFile => "result_v2.txt"

/-- The first line of the result file. -/
def heading : Convention → String
  | .flags => "FME Desktop V1 Mock - Execution successful"
  | .parametersFile => "FME Desktop V2 Mock - Execution successful"

/-- The text of the result file: each line is ended, and each value is cut. -/
def resultText (c : Convention) (workspace : String) (entries : List (String × String)) : String :=
  let shown := entries.map fun (name, value) => name ++ ": " ++ Text.cut 200 value
  String.join ((heading c :: ("Workspace: " ++ workspace) :: shown).map (· ++ "\n"))

/-- What a run is asked to show, and the folder for it. -/
inductive Asks (files : Files) :
    Convention → List String → String → List (String × String) → Prop
  /-- The declared flags in the order of the arguments. -/
  | flags {first folder : String} {tokens : List String}
      (text : textsOf "FolderOut" tokens = [folder]) :
      Asks files .flags (first :: tokens) folder
        ((declaredFlags desktopFlags tokens).map fun flag => (flag.1.name, flag.2))
  /-- The path of the file and the type of the geometry, then the two properties. -/
  | properties {first path : String} {tokens : List String} {document folder parameters : Json}
      (text : textsOf "parametersFile" tokens = [path])
      (found : documentAt? files path = some document)
      (folderPresent : Feature.property? document "FolderOut" = some folder)
      (parametersPresent : Feature.property? document "Parameters" = some parameters) :
      Asks files .parametersFile (first :: tokens) (Feature.propertyText folder)
        (("Parameters file", path) ::
          (Feature.geometryType? document).toList.map (fun type => ("Geometry type", type)) ++
          [("FolderOut", Feature.propertyText folder),
            ("Parameters", Feature.propertyText parameters)])

theorem report_eq_resultText (c : Convention) (first : String) (context : List (String × String))
    (request : Request) :
    (standinOf c).report ⟨first⟩ context request =
      resultText c first (context ++ request.texts) := by
  rw [Standin.report_eq_join]
  cases c <;> rfl

/-! ## The effect of a job -/

theorem isFileName_resultName (c : Convention) : Path.IsFileName (resultName c) := by
  cases c <;> constructor <;> decide

/-- What a job does to the files: nothing, or its result is written. -/
inductive Effect (c : Convention) (files : Files) :
    List String → Except Failure (Option Artifact × Files) → Prop
  | failed {texts : List String} {e : Failure} : Effect c files texts (.error e)
  | nothing {first : String} {tokens : List String}
      (ending : (Workspace.mk first).EndsIn "_nofiles") :
      Effect c files (first :: tokens) (.ok (none, files))
  | written {first folder : String} {tokens : List String} {entries : List (String × String)}
      {artifact : Artifact} {place : Location}
      (asks : Asks files c (first :: tokens) folder entries)
      (failing : ¬ (Workspace.mk first).EndsIn "_fails")
      (ending : ¬ (Workspace.mk first).EndsIn "_nofiles")
      (found : files.locate folder = .ok place) (holds : files.CanHold folder (resultName c)) :
      Effect c files (first :: tokens) (.ok (some artifact,
        files.put (place ++ [resultName c]) (.file (Utf8.encode (resultText c first entries)))))

variable {c : Convention} {files : Files} {first folder : String} {texts tokens : List String}
  {entries : List (String × String)} {result : Except Failure (Option Artifact × Files)}

theorem effect_of_runPost (asks : Asks files c (first :: tokens) folder entries)
    (h : (standinOf c).RunPost files ⟨first⟩ folder (resultText c first entries) result) :
    Effect c files (first :: tokens) result := by
  have hname : (standinOf c).artifactName = resultName c := by cases c <;> rfl
  match result, h with
  | .error e, _ => exact .failed
  | .ok (none, _), ⟨_, hnone, rfl⟩ => exact .nothing hnone
  | .ok (some artifact, _), ⟨hfail, hnone, hhold, place, hplace, rfl⟩ =>
    rw [hname] at hhold ⊢
    exact .written asks hfail hnone hplace hhold

theorem flagJob_effect (files : Files) (arguments : List String) :
    Effect .flags files arguments (flagJob files arguments).result := by
  have hprepared := prepareFlags_spec arguments
  have hjob := flagJob_spec files arguments
  generalize (flagJob files arguments).result = result at hjob ⊢
  cases hjob with
  | refused => exact .failed
  | @run w folder request _ prepared post =>
    rw [prepared] at hprepared
    cases hprepared with
    | @accepted first tokens _ _ named reading text =>
      rw [show flagStandin.report ⟨first⟩ [] request = resultText .flags first request.texts from
        report_eq_resultText .flags first [] request, reading.texts_eq] at post
      exact effect_of_runPost (.flags text) post

theorem fileJob_effect (files : Files) (arguments : List String) :
    Effect .parametersFile files arguments (fileJob files arguments).result := by
  have hjob := fileJob_spec files arguments
  generalize (fileJob files arguments).result = result at hjob ⊢
  cases hjob with
  | refused => exact .failed
  | run prepared post =>
    cases prepared with
    | @accepted first path tokens feature folder parameters named file read hfolder hparameters =>
      cases read with
      | @feature document _ isFile found sound =>
        obtain ⟨-, hproperties, htype, -⟩ := sound
        have hproperty : ∀ name, Feature.property? document name =
            feature.properties.lookup name := by
          simp [Feature.property?, hproperties]
        have hcontext : contextOf path feature = ("Parameters file", path) ::
            (Feature.geometryType? document).toList.map (fun type => ("Geometry type", type)) := by
          rw [contextOf, ← htype]
          cases feature.geometryKind <;> rfl
        rw [show fileStandin.report ⟨first⟩ _ _ = _ from
          report_eq_resultText .parametersFile first _ _, hcontext] at post
        exact effect_of_runPost (.properties file.text found
          (by rw [hproperty, hfolder]) (by rw [hproperty, hparameters])) post

/-! ## The frame -/

/-- What a run leaves as it was, and what its result file holds. -/
structure Framed (c : Convention) (files : Files) (arguments : List (List UInt8)) (run : Result) :
    Prop where
  /-- No folder is made or removed. -/
  folders : ∀ place, run.files.node? place = some .folder ↔ files.node? place = some .folder
  /-- Only the result file in the named folder can have changed. -/
  others : run.files = files ∨ ∃ texts folder entries place,
    decodeArguments arguments = .ok texts ∧ Asks files c texts folder entries ∧
      files.locate folder = .ok place ∧
      ∀ q, q ≠ place ++ [resultName c] → run.files.node? q = files.node? q
  failed : run.status.code ≠ 0 → run.files = files
  noFiles : ∀ first tokens, decodeArguments arguments = .ok (first :: tokens) →
    (Workspace.mk first).EndsIn "_nofiles" → run.files = files
  written : ∀ first tokens, decodeArguments arguments = .ok (first :: tokens) →
    run.status.code = 0 → ¬ (Workspace.mk first).EndsIn "_fails" →
    ¬ (Workspace.mk first).EndsIn "_nofiles" →
    ∃ folder entries, Asks files c (first :: tokens) folder entries ∧
      run.files.content? (Path.join folder (resultName c)) =
        some (Utf8.encode (resultText c first entries))

theorem framed_of_unchanged {arguments : List (List UInt8)} {run : Result}
    (hfiles : run.files = files)
    (h : run.status.code = 0 → ∀ first tokens, decodeArguments arguments = .ok (first :: tokens) →
      (Workspace.mk first).EndsIn "_nofiles") :
    Framed c files arguments run := by
  constructor
  case folders => simp [hfiles]
  case others => exact Or.inl hfiles
  case failed => exact fun _ => hfiles
  case noFiles => exact fun _ _ _ _ => hfiles
  case written =>
    intro first tokens hfirst hcode _ hnot
    exact absurd (h hcode first tokens hfirst) hnot

theorem framed_of_writes {arguments : List (List UInt8)} {run : Result}
    (hargs : decodeArguments arguments = .ok (first :: tokens)) (hcode : run.status.code = 0)
    (asks : Asks files c (first :: tokens) folder entries)
    (ending : ¬ (Workspace.mk first).EndsIn "_nofiles")
    (writes : files.Writes run.files folder (resultName c)
      (Utf8.encode (resultText c first entries))) :
    Framed c files arguments run := by
  have hfirst : ∀ first' tokens', decodeArguments arguments = .ok (first' :: tokens') →
      first = first' ∧ tokens = tokens' := by
    intro first' tokens' hargs'
    rw [hargs] at hargs'
    exact List.cons_eq_cons.1 (Except.ok.inj hargs')
  constructor
  case folders => exact writes.folders
  case others =>
    obtain ⟨place, hplace, hothers⟩ := writes.others
    exact Or.inr ⟨first :: tokens, folder, entries, place, hargs, asks, hplace, hothers⟩
  case failed => exact fun hfailed => absurd hcode hfailed
  case noFiles =>
    intro first' tokens' hargs' hending
    obtain ⟨rfl, rfl⟩ := hfirst first' tokens' hargs'
    exact absurd hending ending
  case written =>
    intro first' tokens' hargs' _ _ _
    obtain ⟨rfl, rfl⟩ := hfirst first' tokens' hargs'
    exact ⟨folder, entries, asks, writes.content⟩

theorem framed_of_effect {arguments : List (List UInt8)} (title : String) (opening : List Event)
    {job : Narrated Failure (Option Artifact × Files)}
    (hargs : decodeArguments arguments = .ok texts) (h : Effect c files texts job.result) :
    Framed c files arguments (conclude c title opening files job) := by
  obtain ⟨result, events⟩ := job
  cases h with
  | failed =>
    refine framed_of_unchanged rfl ?_
    intro hcode
    exact absurd hcode (exitStatus_error_ne_zero c _)
  | nothing ending =>
    refine framed_of_unchanged rfl ?_
    intro _ first' tokens' hargs'
    rw [hargs] at hargs'
    obtain ⟨rfl, -⟩ := List.cons_eq_cons.1 (Except.ok.inj hargs')
    exact ending
  | written asks failing ending found holds =>
    exact framed_of_writes hargs rfl asks ending (holds.writes (isFileName_resultName c) found)

/-- A run changes its result file at most, and only when it ends well. -/
theorem runBytes_framed (c : Convention) (files : Files) (arguments : List (List UInt8)) :
    Framed c files arguments (runBytes c files arguments) := by
  unfold runBytes
  cases hargs : decodeArguments arguments with
  | error r =>
    refine framed_of_unchanged rfl ?_
    intro hcode
    exact absurd hcode (@exitStatus_error_ne_zero (Option Artifact × Files) c (.rejected r))
  | ok texts =>
    cases c with
    | flags => exact framed_of_effect _ _ hargs (flagJob_effect files texts)
    | parametersFile => exact framed_of_effect _ _ hargs (fileJob_effect files texts)

example : resultText .flags "w.fmw" [("FolderOut", "/out")] =
    "FME Desktop V1 Mock - Execution successful\nWorkspace: w.fmw\nFolderOut: /out\n" := by decide

end MapStandin.Desktop
