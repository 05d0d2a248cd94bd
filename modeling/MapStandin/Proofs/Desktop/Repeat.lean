import MapStandin.Proofs.Desktop.View

/-! # A run made twice

A run with a parameters file that is made again ends as before and changes nothing more. The one
exception is a run whose result takes the place of its own parameters file: a report is no JSON, so
the second run is refused. -/

namespace MapStandin

open Parameter

variable {files : Files} {arguments : List (List UInt8)} {first path : String}
  {tokens texts : List String} {place : Location} {content rest : List UInt8}

/-! ## A report is no document -/

/-- No value starts with the letter that a report starts with. -/
theorem Json.readBytes_report (rest : List UInt8) :
    Json.readBytes (0x46 :: rest) = Json.failAt .expectedValue (0x46 :: rest) := by
  have hskip : Json.skipLayout (0x46 :: rest) = 0x46 :: rest :=
    List.dropWhile_cons_of_neg (by decide)
  have hscalar : Json.scalar 0x46 rest = Json.failAt .expectedValue (0x46 :: rest) := rfl
  have hvalue : Json.value Json.depthLimit (0x46 :: rest) =
      Json.failAt .expectedValue (0x46 :: rest) := by
    rw [Json.value, hskip, ← hscalar]
    rfl
  rw [Json.readBytes, hvalue]
  rfl

namespace Desktop

theorem encode_resultText (workspace : String) (entries : List (String × String)) :
    ∃ rest, Utf8.encode (resultText .parametersFile workspace entries) = 0x46 :: rest := by
  have hheading : heading .parametersFile =
      "F" ++ "ME Desktop V2 Mock - Execution successful" := by decide
  have hletter : "F".toList = ['F'] := by decide
  unfold resultText Utf8.encode
  simp only [List.map_cons, String.join_cons, String.toList_append, hheading, hletter,
    List.cons_append, Utf8.encodeList_cons]
  exact ⟨_, rfl⟩

theorem Leaves.report (h : Leaves .parametersFile files arguments place content) :
    ∃ rest, content = 0x46 :: rest := by
  cases h with
  | intro decoded success producing asks found => exact encode_resultText _ _

theorem documentAt?_report (h : files.content? path = some (0x46 :: rest)) :
    documentAt? files path = none := by
  obtain ⟨place, hplace, hnode⟩ := Files.content?_eq_some_iff.1 h
  unfold documentAt?
  by_cases hclosed : place ∈ files.unreadable
  · have hread : files.read path = .error .denied := by
      simp only [Files.read, hplace, bind, Except.bind, hnode, hclosed, if_true]
      rfl
    rw [hread]
  · have hread : files.read path = .ok (0x46 :: rest) := by
      simp only [Files.read, hplace, bind, Except.bind, hnode, hclosed, if_false]
      rfl
    rw [hread]
    simp only [Json.readBytes_report]
    exact ite_self _

/-! ## The parameters file -/

theorem NamesParameters.text (h : NamesParameters arguments path)
    (hargs : decodeArguments arguments = .ok (first :: tokens)) :
    textsOf "parametersFile" tokens = [path] := by
  obtain ⟨first', tokens', hargs', htext⟩ := h
  obtain ⟨rfl, rfl⟩ := List.cons_eq_cons.1 (Except.ok.inj (hargs.symm.trans hargs'))
  exact htext

theorem Leaves.document (h : Leaves .parametersFile files arguments place content)
    (hpath : NamesParameters arguments path) : documentAt? files path ≠ none := by
  cases h with
  | intro decoded success producing asks found =>
    have htext := hpath.text decoded
    cases asks with
    | properties text document folderPresent parametersPresent =>
      obtain ⟨rfl, -⟩ := List.cons_eq_cons.1 (text.symm.trans htext)
      rw [document]
      exact Option.some_ne_none _

/-- The run leaves its result where its parameters file lies. -/
def OverwritesInput (files : Files) (arguments : List (List UInt8)) : Prop :=
  ∃ path place content, NamesParameters arguments path ∧
    Leaves .parametersFile files arguments place content ∧
    files.locate path = .ok (place ++ ["result_v2.txt"])

/-- Unless a run overwrites its parameters file, it sees the same afterwards. -/
theorem alike_of_not_overwritesInput (h : ¬ OverwritesInput files arguments) :
    Alike .parametersFile arguments files (runBytes .parametersFile files arguments).files := by
  constructor
  case folders => exact runBytes_sameFolders .parametersFile files arguments
  case input =>
    intro _ path hpath
    rcases runBytes_leaves .parametersFile files arguments with
      ⟨place, content, hleaves, hfree, hfiles⟩ | ⟨-, hfiles⟩
    · rw [hfiles]
      have helsewhere : files.locate path ≠ .ok (place ++ ["result_v2.txt"]) :=
        fun hplace => h ⟨path, place, content, hpath, hleaves, hplace⟩
      exact Files.content?_put_of_ne (by simp) hfree helsewhere
    · rw [hfiles]

theorem OverwritesInput.content? (h : OverwritesInput files arguments)
    (hpath : NamesParameters arguments path) :
    ∃ rest, (runBytes .parametersFile files arguments).files.content? path =
      some (0x46 :: rest) := by
  obtain ⟨path', place, content, ⟨first, tokens, hargs, htext⟩, hleaves, hplace⟩ := h
  obtain ⟨rfl, -⟩ := List.cons_eq_cons.1 (htext.symm.trans (hpath.text hargs))
  obtain ⟨rest, hcontent⟩ := hleaves.report
  refine ⟨rest, ?_⟩
  rcases runBytes_leaves .parametersFile files arguments with
    ⟨place', content', hleaves', hfree, hfiles⟩ | ⟨hnone, -⟩
  · obtain ⟨rfl, rfl⟩ := hleaves'.unique hleaves
    rw [hfiles, ← hcontent]
    exact Files.content?_put_self (by simp) hfree hplace
  · exact absurd hleaves (hnone place content)

/-! ## The second run -/

theorem code_eq_fileStageCode (files : Files) (hargs : decodeArguments arguments = .ok texts) :
    (runBytes .parametersFile files arguments).status.code = fileStageCode files texts := by
  rw [runBytes_status]
  unfold jobResult
  rw [hargs]
  exact code_of_fileJobPost (fileJob_spec files texts)

theorem fileStageCode_of_success (h : fileStageCode files (first :: tokens) = 0)
    (htext : textsOf "parametersFile" tokens = [path]) (files' : Files) :
    fileStageCode files' (first :: tokens) = pathCode files' ⟨first⟩ path := by
  unfold fileStageCode at h ⊢
  simp only [htext] at h ⊢
  split_ifs at h ⊢
  rfl

theorem pathCode_report (w : Workspace) (h : files.content? path = some (0x46 :: rest)) :
    pathCode files w path = 30 := by
  have hfile : files.isFile path = true := by
    unfold Files.isFile
    rw [h]
    rfl
  unfold pathCode
  rw [if_neg (not_not.2 hfile), documentAt?_report h]

theorem OverwritesInput.code (h : OverwritesInput files arguments) :
    (runBytes .parametersFile (runBytes .parametersFile files arguments).files
      arguments).status.code = 30 := by
  obtain ⟨path, place, content, hpath, hleaves, -⟩ := id h
  obtain ⟨rest, hcontent⟩ := h.content? hpath
  obtain ⟨first, tokens, hargs, htext⟩ := hpath
  have hsuccess : fileStageCode files (first :: tokens) = 0 := by
    obtain ⟨-, success, -, -, -⟩ := hleaves
    rw [← code_eq_fileStageCode files hargs, success]
  rw [code_eq_fileStageCode _ hargs, fileStageCode_of_success hsuccess htext]
  exact pathCode_report ⟨first⟩ hcontent

/-- What a run comes to that is made twice. -/
structure RepeatPost (files : Files) (arguments : List (List UInt8)) (run again : Result) :
    Prop where
  unchanged : again.files = run.files
  status : ¬ OverwritesInput files arguments → again.status = run.status
  /-- The parameters file is what it was, unless the result is put in its place. -/
  input : ¬ OverwritesInput files arguments → ∀ path, NamesParameters arguments path →
    run.files.content? path = files.content? path
  overwritten : OverwritesInput files arguments →
    again.status.code = 30 ∧ ∀ path, NamesParameters arguments path →
      run.files.content? path ≠ files.content? path

theorem runBytes_again (files : Files) (arguments : List (List UInt8)) :
    RepeatPost files arguments (runBytes .parametersFile files arguments)
      (runBytes .parametersFile (runBytes .parametersFile files arguments).files arguments) := by
  constructor
  case unchanged =>
    by_cases h : OverwritesInput files arguments
    · refine files_eq_of_not_leaves (not_leaves_of_failed ?_)
      rw [h.code]
      decide
    · exact files_again (alike_of_not_overwritesInput h)
  case status => exact fun h => status_congr (alike_of_not_overwritesInput h)
  case input => exact fun h => (alike_of_not_overwritesInput h).input rfl
  case overwritten =>
    intro h
    refine ⟨h.code, fun path hpath hsame => ?_⟩
    obtain ⟨rest, hcontent⟩ := h.content? hpath
    obtain ⟨_, _, _, -, hleaves, -⟩ := h
    exact hleaves.document hpath (documentAt?_report (hsame.symm.trans hcontent))

/-- A working folder with a parameters file that lies where its own result goes. -/
def crossedFiles : Files where
  here := ["work"]
  nodes := [(["work"], .folder), (["work", "result_v2.txt"], .file (Utf8.encode document))]
where
  document : String :=
    "\x7b\"type\":\"Feature\",\"geometry\":null," ++
      "\"properties\":\x7b\"FolderOut\":\".\",\"Parameters\":\"\"\x7d\x7d"

/-- The arguments that name this file. -/
def crossedArguments : List (List UInt8) :=
  ["job.fmw", "--parametersFile", "result_v2.txt"].map Utf8.encode

theorem runBytes_again_refused :
    let run := runBytes .parametersFile crossedFiles crossedArguments
    let again := runBytes .parametersFile run.files crossedArguments
    NamesParameters crossedArguments "result_v2.txt" ∧ run.status.code = 0 ∧
      run.files.content? "result_v2.txt" ≠ crossedFiles.content? "result_v2.txt" ∧
      again.status.code = 30 := by
  constructor
  · exact ⟨"job.fmw", ["--parametersFile", "result_v2.txt"], by decide, by decide⟩
  · decide +kernel

end Desktop

end MapStandin
