import MapStandin.Proofs.Desktop.Stage

/-! # The stages of a run with flags

A run with flags ends at the first stage that refuses: the workspace, the shape of the flags, their
texts, the names that are absent, the verdict of the workspace or the folder for the result. -/

namespace MapStandin.Desktop

open Parameter

/-- The exit code of a run with flags: each line is a stage, and the first that refuses counts. -/
def flagStageCode (files : Files) : List String → Nat
  | [] => 10
  | first :: tokens =>
    if ¬ NamesWorkspace first then 15
    else if Malformed desktopFlags tokens then 30
    else if Unfit desktopFlags tokens then 40
    else if "FolderOut" ∉ usedNames tokens then 20
    else if ∃ name ∈ desktopFlags.requiredNames, name ∉ usedNames tokens then 50
    else if (Workspace.mk first).EndsIn "_fails" then 100
    else if (Workspace.mk first).EndsIn "_nofiles" then 0
    else if ∃ folder ∈ textsOf "FolderOut" tokens, files.CanHold folder "result_v1.txt" then 0
    else 35

inductive FlagsPrepared : List String → Except Rejection (Workspace × String × Request) → Prop
  | noWorkspace : FlagsPrepared [] (.error .missingWorkspace)
  | badWorkspace {first : String} {tokens : List String} (bad : ¬ NamesWorkspace first) :
      FlagsPrepared (first :: tokens) (.error (.invalidWorkspace first))
  | refused {first : String} {tokens : List String} {r : Rejection}
      (named : NamesWorkspace first) (reading : Reading desktopFlags tokens (.error r)) :
      FlagsPrepared (first :: tokens) (.error r)
  | accepted {first : String} {tokens : List String} {folder : String} {request : Request}
      (named : NamesWorkspace first) (reading : Reading desktopFlags tokens (.ok request))
      (text : textsOf "FolderOut" tokens = [folder]) :
      FlagsPrepared (first :: tokens) (.ok (⟨first⟩, folder, request))

theorem prepareFlags_spec (arguments : List String) :
    FlagsPrepared arguments (prepareFlags arguments).result := by
  unfold prepareFlags
  simp only [Narrated.result_bind, takeWorkspace_result]
  cases arguments with
  | nil => exact .noWorkspace
  | cons first tokens =>
    rw [workspaceOf_cons]
    by_cases hw : NamesWorkspace first
    · rw [if_pos hw]
      have hreading := readFlags_reading desktopFlags tokens
      simp only [Except.bind, takeFlags_result]
      cases hread : desktopFlags.readFlags tokens with
      | error r =>
        rw [hread] at hreading
        exact .refused hw hreading
      | ok request =>
        rw [hread] at hreading
        obtain ⟨folder, htext, -, hget⟩ := path_of_reading hreading
          (by decide : desktopFlags.spec? "FolderOut" = _)
        have hfolder : (request.get? "FolderOut").bind (fun a => a.value.asPath?) =
            some folder := by
          rw [hget]
          rfl
        simp only [result_tellParameters, Narrated.result_sayAll, hfolder]
        -- Telling the custom parameters changes no result.
        split <;> exact .accepted hw hreading htext
    · rw [if_neg hw]
      exact .badWorkspace hw

/-! ## The code -/

variable {files : Files} {first folder : String} {tokens : List String} {r : Rejection}
  {request : Request}

theorem code_of_refused (named : NamesWorkspace first)
    (reading : Reading desktopFlags tokens (.error r)) :
    flagsCode r = flagStageCode files (first :: tokens) := by
  rw [flagStageCode, if_neg (not_not.2 named)]
  cases reading with
  | misplaced offence =>
    rw [if_pos offence.malformed]
    exact flagsCode_of_tellsShape offence.tellsShape
  | @unfit before after spec raw placed flags fit bad =>
    have hunfit : Unfit desktopFlags tokens :=
      ⟨(spec, raw), by rw [flags]; simp, bad⟩
    rw [if_neg (not_malformed_iff.2 placed), if_pos hunfit]
    rfl
  | incomplete placed fit absent =>
    rw [if_neg (not_malformed_iff.2 placed), if_neg (not_unfit_iff.2 fit)]
    by_cases hfolder : "FolderOut" ∈ usedNames tokens
    · have hsome : ∃ name ∈ desktopFlags.requiredNames, name ∉ usedNames tokens := by
        obtain ⟨name, hname⟩ := List.exists_mem_of_ne_nil _ absent
        exact ⟨name, mem_absentNames.1 hname⟩
      rw [if_neg (not_not.2 hfolder), if_pos hsome]
      have hout : "FolderOut" ∉ absentNames desktopFlags tokens :=
        fun h => (mem_absentNames.1 h).2 hfolder
      simp [flagsCode, hout]
    · rw [if_pos hfolder]
      have hin : "FolderOut" ∈ absentNames desktopFlags tokens :=
        mem_absentNames.2 ⟨by decide, hfolder⟩
      simp [flagsCode, hin]

theorem flagStageCode_accepted (named : NamesWorkspace first)
    (reading : Reading desktopFlags tokens (.ok request))
    (text : textsOf "FolderOut" tokens = [folder]) :
    flagStageCode files (first :: tokens) =
      if (Workspace.mk first).EndsIn "_fails" then 100
      else if (Workspace.mk first).EndsIn "_nofiles" then 0
      else if files.CanHold folder "result_v1.txt" then 0
      else 35 := by
  have hhold : (∃ f ∈ textsOf "FolderOut" tokens, files.CanHold f "result_v1.txt") ↔
      files.CanHold folder "result_v1.txt" := by
    rw [text]
    simp
  have hused : "FolderOut" ∈ usedNames tokens := reading.used (by decide)
  have hsome : ¬ ∃ name ∈ desktopFlags.requiredNames, name ∉ usedNames tokens := by
    rintro ⟨name, hname, hnot⟩
    exact hnot (reading.used hname)
  rw [flagStageCode, if_neg (not_not.2 named)]
  cases reading with
  | complete placed absent values once =>
    rw [if_neg (not_malformed_iff.2 placed), if_neg (not_unfit_iff.2 (accepts_of_fits values)),
      if_neg (not_not.2 hused), if_neg hsome]
    simp only [hhold]

/-! ## The status -/

theorem isFileName_flagResult : Path.IsFileName flagStandin.artifactName := by
  constructor <;> decide

/-- What the job of a run with flags comes to: a refusal that the files have no part in, or the run
of a prepared job. -/
inductive FlagJobPost (files : Files) (arguments : List String) :
    Except Failure (Option Artifact × Files) → Prop
  | refused {r : Rejection} (prepared : (prepareFlags arguments).result = .error r) :
      FlagJobPost files arguments (.error (.rejected r))
  | run {w : Workspace} {folder : String} {request : Request}
      {result : Except Failure (Option Artifact × Files)}
      (prepared : (prepareFlags arguments).result = .ok (w, folder, request))
      (post : flagStandin.RunPost files w folder (flagStandin.report w [] request) result) :
      FlagJobPost files arguments result

theorem flagJob_spec (files : Files) (arguments : List String) :
    FlagJobPost files arguments (flagJob files arguments).result := by
  unfold flagJob
  simp only [Narrated.result_bind, Narrated.result_mapError]
  cases hresult : (prepareFlags arguments).result with
  | error r => exact .refused hresult
  | ok prepared =>
    obtain ⟨w, folder, request⟩ := prepared
    simp only [Except.mapError, Except.bind]
    generalize hrun : (flagStandin.run files w folder request []).result = result
    exact .run hresult (Standin.run_spec isFileName_flagResult hrun)

variable {files' : Files} {arguments : List String}
  {result result' : Except Failure (Option Artifact × Files)}

theorem code_of_flagJobPost (h : FlagJobPost files arguments result) :
    (exitStatus .flags result).code = flagStageCode files arguments := by
  have hprepared := prepareFlags_spec arguments
  cases h with
  | refused prepared =>
    rw [prepared] at hprepared
    cases hprepared with
    | noWorkspace => rfl
    | @badWorkspace first tokens bad =>
      rw [flagStageCode, if_pos bad]
      rfl
    | refused named reading => exact code_of_refused named reading
  | run prepared post =>
    rw [prepared] at hprepared
    cases hprepared with
    | accepted named reading text =>
      rw [code_of_runPost .flags post, flagStageCode_accepted named reading text]
      rfl

theorem worded_of_flagJobPost (h : FlagJobPost files arguments (.error (.rejected r))) :
    r.Worded := by
  have hprepared := prepareFlags_spec arguments
  cases h with
  | refused prepared =>
    rw [prepared] at hprepared
    cases hprepared with
    | noWorkspace | badWorkspace => trivial
    | refused named reading => exact reading.worded
  | run prepared post => exact worded_of_runPost post

/-- The first argument is a workspace that is to produce a result. -/
def Producing : List String → Prop
  | [] => False
  | first :: _ => ¬ (Workspace.mk first).EndsIn "_fails" ∧ ¬ (Workspace.mk first).EndsIn "_nofiles"

/-- Other files make a difference only between a result that is written and one that is not. -/
theorem exitStatus_files (h : FlagJobPost files arguments result)
    (h' : FlagJobPost files' arguments result') :
    exitStatus .flags result' = exitStatus .flags result ∨
      Producing arguments ∧ (exitStatus .flags result).code ∈ [0, 35] ∧
        (exitStatus .flags result').code ∈ [0, 35] := by
  have hprepared := prepareFlags_spec arguments
  cases h with
  | refused prepared =>
    cases h' with
    | refused prepared' =>
      left
      rw [prepared] at prepared'
      obtain rfl := Except.error.inj prepared'
      rfl
    | run prepared' => simp [prepared] at prepared'
  | run prepared post =>
    cases h' with
    | refused prepared' => simp [prepared] at prepared'
    | run prepared' post' =>
      -- Both runs have prepared the same job, as no file is read before it.
      have hsame := prepared
      rw [prepared'] at hsame
      obtain ⟨rfl, rfl, rfl⟩ := Prod.mk.inj (Except.ok.inj hsame) |>.imp id Prod.mk.inj
      rw [prepared] at hprepared
      cases hprepared with
      | @accepted first tokens _ _ named reading text =>
        by_cases hw : (Workspace.mk first).EndsIn "_fails" ∨ (Workspace.mk first).EndsIn "_nofiles"
        · exact Or.inl (exitStatus_eq_of_runPost .flags post' post hw)
        · right
          obtain ⟨hfail, hnone⟩ := not_or.1 hw
          refine ⟨⟨hfail, hnone⟩, ?_, ?_⟩
          · rw [code_of_runPost .flags post, if_neg hfail, if_neg hnone]
            split <;> simp [unwritableCode]
          · rw [code_of_runPost .flags post', if_neg hfail, if_neg hnone]
            split <;> simp [unwritableCode]

theorem flagStageCode_ne_one (files : Files) (arguments : List String) :
    flagStageCode files arguments ≠ 1 := by
  unfold flagStageCode
  split
  · decide
  · split_ifs <;> decide

/-- A run with flags ends with the code of the first stage that refuses, and with a text unless all
goes well. The files matter only to a workspace that is to produce a result. -/
theorem runFlags_status (files : Files) (arguments : List String) :
    let status := (runFlags files arguments).status
    status.code = flagStageCode files arguments ∧ status.code ≠ 1 ∧
      (status.stderr = none ↔ status.code = 0) ∧ status.stderr ≠ some "" ∧
      ∀ files' : Files, (runFlags files' arguments).status = status ∨
        Producing arguments ∧ status.code ∈ [0, 35] ∧
          (runFlags files' arguments).status.code ∈ [0, 35] := by
  have hstatus : ∀ files, (runFlags files arguments).status =
      exitStatus .flags (flagJob files arguments).result := fun _ => rfl
  have hjob := flagJob_spec files arguments
  have hcode := code_of_flagJobPost hjob
  have hworded : ∀ r, (flagJob files arguments).result = .error (.rejected r) → r.Worded := by
    intro r hr
    rw [hr] at hjob
    exact worded_of_flagJobPost hjob
  obtain ⟨hnone, hempty⟩ := exitStatus_stderr .flags hworded
  simp only [hstatus]
  refine ⟨hcode, ?_, hnone, hempty, ?_⟩
  · rw [hcode]
    exact flagStageCode_ne_one files arguments
  · exact fun files' => exitStatus_files hjob (flagJob_spec files' arguments)

end MapStandin.Desktop
