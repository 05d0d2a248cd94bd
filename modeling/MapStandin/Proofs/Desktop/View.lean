import MapStandin.Proofs.Desktop.Frame

/-! # What a run sees and leaves

A run sees the folders and, if there is one, the content of its parameters file. It leaves one
result at most, and that one is no folder: another run sees what it would have seen before. -/

namespace MapStandin.Desktop

open Parameter

variable {c : Convention} {files files' : Files} {arguments : List (List UInt8)}
  {first path folder : String} {tokens texts : List String} {entries : List (String × String)}
  {place : Location} {content : List UInt8}

/-! ## The job of raw arguments -/

/-- What the job of raw arguments comes to. -/
def jobResult (c : Convention) (files : Files) (arguments : List (List UInt8)) :
    Except Failure (Option Artifact × Files) :=
  match decodeArguments arguments, c with
  | .error r, _ => .error (.rejected r)
  | .ok texts, .flags => (flagJob files texts).result
  | .ok texts, .parametersFile => (fileJob files texts).result

theorem runBytes_status (c : Convention) (files : Files) (arguments : List (List UInt8)) :
    (runBytes c files arguments).status = exitStatus c (jobResult c files arguments) := by
  unfold runBytes jobResult
  cases decodeArguments arguments <;> cases c <;> rfl

theorem runBytes_files (c : Convention) (files : Files) (arguments : List (List UInt8)) :
    (runBytes c files arguments).files =
      match jobResult c files arguments with
      | .ok (_, after) => after
      | .error _ => files := by
  unfold runBytes jobResult
  cases decodeArguments arguments <;> cases c <;> rfl

theorem jobResult_effect (h : decodeArguments arguments = .ok texts) :
    Effect c files texts (jobResult c files arguments) := by
  unfold jobResult
  rw [h]
  cases c
  · exact flagJob_effect files texts
  · exact fileJob_effect files texts

theorem exitStatus_map {α β : Type} (c : Convention) (f : α → β) (result : Except Failure α) :
    exitStatus c (result.map f) = exitStatus c result := by
  match result with
  | .ok a => rfl
  | .error .simulated => rfl
  | .error (.rejected r) => rfl

/-! ## What a run sees -/

/-- The arguments name the file at this path as the one with the parameters. -/
def NamesParameters (arguments : List (List UInt8)) (path : String) : Prop :=
  ∃ first tokens, decodeArguments arguments = .ok (first :: tokens) ∧
    textsOf "parametersFile" tokens = [path]

/-- Files in which a run sees the same. -/
structure Alike (c : Convention) (arguments : List (List UInt8)) (files files' : Files) : Prop where
  folders : files.SameFolders files'
  input : c = .parametersFile → ∀ path, NamesParameters arguments path →
    files'.content? path = files.content? path

theorem Alike.symm (h : Alike c arguments files files') : Alike c arguments files' files where
  folders := h.folders.symm
  input hc path hpath := (h.input hc path hpath).symm

theorem alike_flags (same : files.SameFolders files') : Alike .flags arguments files files' where
  folders := same
  input h := by simp at h

theorem documentAt?_congr (same : files.SameFolders files')
    (input : files'.content? path = files.content? path) :
    documentAt? files' path = documentAt? files path := by
  unfold documentAt?
  by_cases h : files.isFile path = true
  · rw [same.read input h]
  · have hfile : files.isFile path = false := Bool.eq_false_iff.2 h
    have hfile' : files'.isFile path = false := by
      unfold Files.isFile at hfile ⊢
      rw [input, hfile]
    obtain ⟨f, hf⟩ := Files.read_of_isFile_eq_false hfile
    obtain ⟨f', hf'⟩ := Files.read_of_isFile_eq_false hfile'
    rw [hf, hf']

theorem readFeature_congr (same : files.SameFolders files')
    (input : files'.content? path = files.content? path) :
    readFeature files' path = readFeature files path := by
  have hfile : files'.isFile path = files.isFile path := by
    unfold Files.isFile
    rw [input]
  unfold readFeature
  rw [hfile]
  by_cases h : files.isFile path = true
  · rw [same.read input h]
  · rw [Bool.eq_false_iff.2 h]
    rfl

theorem prepareFile_congr (same : files.SameFolders files')
    (input : ∀ path, textsOf "parametersFile" tokens = [path] →
      files'.content? path = files.content? path) :
    (prepareFile files' (first :: tokens)).result =
      (prepareFile files (first :: tokens)).result := by
  cases prepareFile_stages (first :: tokens) with
  | badWorkspace bad result => rw [result, result]
  | misnamed named reading result => rw [result, result]
  | named named file result =>
    rw [result, result, readFeature_congr same (input _ file.text)]

theorem jobResult_congr (h : Alike c arguments files files') :
    (jobResult c files' arguments).map Prod.fst = (jobResult c files arguments).map Prod.fst := by
  unfold jobResult
  cases hargs : decodeArguments arguments with
  | error r => rfl
  | ok texts =>
    cases c with
    | flags =>
      simp only [flagJob, Narrated.result_bind, Narrated.result_mapError]
      cases (prepareFlags texts).result with
      | error r => simp only [Except.mapError, Except.bind]
      | ok prepared => exact Standin.run_congr h.folders isFileName_flagResult
    | parametersFile =>
      have hprepare : (prepareFile files' texts).result = (prepareFile files texts).result := by
        cases texts with
        | nil => rfl
        | cons first tokens =>
          exact prepareFile_congr h.folders fun path hpath =>
            h.input rfl path ⟨first, tokens, hargs, hpath⟩
      simp only [fileJob, Narrated.result_bind, Narrated.result_mapError, hprepare]
      cases (prepareFile files texts).result with
      | error r => simp only [Except.mapError, Except.bind]
      | ok prepared => exact Standin.run_congr h.folders isFileName_fileResult

theorem status_congr (h : Alike c arguments files files') :
    (runBytes c files' arguments).status = (runBytes c files arguments).status := by
  rw [runBytes_status, runBytes_status, ← exitStatus_map c Prod.fst, jobResult_congr h,
    exitStatus_map]

/-! ## What a run leaves -/

/-- Run on these files, the arguments leave a result with this content in the folder at this place:
the run ends well, its workspace is to produce a result, and the folder that it names is there. -/
inductive Leaves (c : Convention) (files : Files) :
    List (List UInt8) → Location → List UInt8 → Prop
  | intro {arguments : List (List UInt8)} {first folder : String} {tokens : List String}
      {entries : List (String × String)} {place : Location}
      (decoded : decodeArguments arguments = .ok (first :: tokens))
      (success : (runBytes c files arguments).status.code = 0)
      (producing : Producing (first :: tokens))
      (asks : Asks files c (first :: tokens) folder entries)
      (found : files.locate folder = .ok place) :
      Leaves c files arguments place (Utf8.encode (resultText c first entries))

theorem Asks.unique {folder' : String} {entries' : List (String × String)}
    (h : Asks files c texts folder entries) (h' : Asks files c texts folder' entries') :
    folder = folder' ∧ entries = entries' := by
  cases h with
  | flags text =>
    cases h' with
    | flags text' =>
      rw [text] at text'
      exact ⟨(List.cons_eq_cons.1 text').1, rfl⟩
  | properties text found folderPresent parametersPresent =>
    cases h' with
    | properties text' found' folderPresent' parametersPresent' =>
      rw [text] at text'
      obtain ⟨rfl, -⟩ := List.cons_eq_cons.1 text'
      obtain rfl := Option.some.inj (found.symm.trans found')
      obtain rfl := Option.some.inj (folderPresent.symm.trans folderPresent')
      obtain rfl := Option.some.inj (parametersPresent.symm.trans parametersPresent')
      exact ⟨rfl, rfl⟩

theorem Leaves.unique {place' : Location} {content' : List UInt8}
    (h : Leaves c files arguments place content) (h' : Leaves c files arguments place' content') :
    place = place' ∧ content = content' := by
  cases h with
  | intro decoded success producing asks found =>
    cases h' with
    | intro decoded' success' producing' asks' found' =>
      obtain ⟨rfl, rfl⟩ := List.cons_eq_cons.1 (Except.ok.inj (decoded.symm.trans decoded'))
      obtain ⟨rfl, rfl⟩ := asks.unique asks'
      exact ⟨Except.ok.inj (found.symm.trans found'), rfl⟩

theorem Asks.congr (h : Alike c arguments files files')
    (hargs : decodeArguments arguments = .ok texts) (asks : Asks files c texts folder entries) :
    Asks files' c texts folder entries := by
  cases asks with
  | flags text => exact .flags text
  | @properties first path tokens document folder parameters text found hfolder hparameters =>
    refine .properties text ?_ hfolder hparameters
    rw [documentAt?_congr h.folders (h.input rfl path ⟨first, tokens, hargs, text⟩), found]

theorem leaves_congr (h : Alike c arguments files files') :
    Leaves c files' arguments place content ↔ Leaves c files arguments place content := by
  constructor
  · rintro ⟨decoded, success, producing, asks, found⟩
    exact .intro decoded (by rw [← status_congr h, success]) producing
      (asks.congr h.symm decoded) ((h.folders.locate _).1 found)
  · rintro ⟨decoded, success, producing, asks, found⟩
    exact .intro decoded (by rw [status_congr h, success]) producing
      (asks.congr h decoded) ((h.folders.locate _).2 found)

theorem not_leaves_of_failed (h : (runBytes c files arguments).status.code ≠ 0) (place : Location)
    (content : List UInt8) : ¬ Leaves c files arguments place content := by
  rintro ⟨-, success, -, -, -⟩
  exact h success

theorem runBytes_leaves (c : Convention) (files : Files) (arguments : List (List UInt8)) :
    (∃ place content, Leaves c files arguments place content ∧
      files.node? (place ++ [resultName c]) ≠ some .folder ∧
      (runBytes c files arguments).files =
        files.put (place ++ [resultName c]) (.file content)) ∨
    ((∀ place content, ¬ Leaves c files arguments place content) ∧
      (runBytes c files arguments).files = files) := by
  have hfiles := runBytes_files c files arguments
  have hstatus := runBytes_status c files arguments
  rw [hfiles]
  cases hargs : decodeArguments arguments with
  | error r =>
    have hresult : jobResult c files arguments = .error (.rejected r) := by
      simp only [jobResult, hargs]
    rw [hresult] at hstatus ⊢
    refine Or.inr ⟨not_leaves_of_failed ?_, rfl⟩
    rw [hstatus]
    exact exitStatus_error_ne_zero c _
  | ok texts =>
    have heffect : Effect c files texts (jobResult c files arguments) := jobResult_effect hargs
    generalize jobResult c files arguments = result at heffect hstatus ⊢
    -- Of what a job can come to, only a written file is a result.
    cases heffect with
    | failed =>
      refine Or.inr ⟨not_leaves_of_failed ?_, rfl⟩
      rw [hstatus]
      exact exitStatus_error_ne_zero c _
    | @nothing first tokens ending =>
      refine Or.inr ⟨?_, rfl⟩
      rintro place content ⟨decoded, -, producing, -, -⟩
      obtain ⟨rfl, rfl⟩ := List.cons_eq_cons.1 (Except.ok.inj (hargs.symm.trans decoded))
      exact producing.2 ending
    | @written first folder tokens entries artifact place asks failing ending found holds =>
      have hleaves : Leaves c files arguments place _ :=
        .intro hargs (by rw [hstatus]; rfl) ⟨failing, ending⟩ asks found
      unfold Files.CanHold at holds
      rw [found] at holds
      exact Or.inl ⟨place, _, hleaves, holds.2.2.1, rfl⟩

theorem runBytes_sameFolders (c : Convention) (files : Files) (arguments : List (List UInt8)) :
    files.SameFolders (runBytes c files arguments).files := by
  rcases runBytes_leaves c files arguments with ⟨place, content, -, hfree, hfiles⟩ | ⟨-, hfiles⟩
  · rw [hfiles]
    exact Files.sameFolders_put_file (by simp) hfree
  · rw [hfiles]
    exact .refl files

theorem Leaves.files_eq (h : Leaves c files arguments place content) :
    (runBytes c files arguments).files = files.put (place ++ [resultName c]) (.file content) := by
  rcases runBytes_leaves c files arguments with ⟨place', content', h', -, hfiles⟩ | ⟨hnone, -⟩
  · obtain ⟨rfl, rfl⟩ := h'.unique h
    exact hfiles
  · exact absurd h (hnone place content)

theorem files_eq_of_not_leaves (h : ∀ place content, ¬ Leaves c files arguments place content) :
    (runBytes c files arguments).files = files := by
  rcases runBytes_leaves c files arguments with ⟨place, content, hleaves, -, -⟩ | ⟨-, hfiles⟩
  · exact absurd hleaves (h place content)
  · exact hfiles

theorem files_again (h : Alike c arguments files (runBytes c files arguments).files) :
    (runBytes c (runBytes c files arguments).files arguments).files =
      (runBytes c files arguments).files := by
  by_cases hleaves : ∃ place content, Leaves c files arguments place content
  · obtain ⟨place, content, hleaves⟩ := hleaves
    rw [((leaves_congr h).2 hleaves).files_eq, hleaves.files_eq, Files.put_put]
  · have hfiles := files_eq_of_not_leaves fun place content hl => hleaves ⟨place, content, hl⟩
    rw [hfiles, hfiles]

end MapStandin.Desktop
