import MapStandin.Proofs.Desktop.Stage
import MapStandin.Proofs.Feature.Answer
import MapStandin.Proofs.Parameter.Mapping

/-! # The stages of a run with a parameters file

A run with a parameters file ends at the first stage that refuses: the workspace, the flag of the
file, the file, its document, the feature in it, its properties, the verdict of the workspace or the
folder for the result. -/

namespace MapStandin.Desktop

open Parameter

/-- The document in the file that a path leads to: the file is UTF-8 and one value of JSON. -/
def documentAt? (files : Files) (path : String) : Option Json :=
  match files.read path with
  | .error _ => none
  | .ok content =>
    if (Utf8.decode? content).isSome then (Json.readBytes content).toOption else none

/-- The exit code for a structured document. -/
def documentCode (files : Files) (w : Workspace) (document : Json) : Nat :=
  match Feature.property? document "FolderOut", Feature.property? document "Parameters" with
  | some folder, some _ =>
    if folder = .null ∨ folder = .string "" then 40
    else if w.EndsIn "_fails" then 100
    else if w.EndsIn "_nofiles" then 0
    else if files.CanHold (Feature.propertyText folder) "result_v2.txt" then 0
    else 50
  | _, _ => 40

/-- The exit code for a path that is to lead to a document. -/
def pathCode (files : Files) (w : Workspace) (path : String) : Nat :=
  if ¬ files.isFile path then 25
  else match documentAt? files path with
    | none => 30
    | some document =>
      if ¬ Feature.Structured document then 35 else documentCode files w document

/-- The exit code of a run with a parameters file: each line is a stage, and the first that refuses
counts. -/
def fileStageCode (files : Files) : List String → Nat
  | [] => 10
  | first :: tokens =>
    if ¬ NamesWorkspace first then 15
    else match textsOf "parametersFile" tokens with
      | [path] =>
        if Malformed desktopFileFlags tokens ∨ ¬ IsPath path then 20
        else pathCode files ⟨first⟩ path
      -- The file is named twice or not at all.
      | _ => 20

variable {files : Files} {path : String}

/-! ## Reading the file -/

inductive FeatureRead (files : Files) (path : String) : Except Rejection Feature → Prop
  | noFile (missing : files.isFile path = false) :
      FeatureRead files path (.error (.parametersFileNotFound path))
  | noDocument {reason : String} (file : files.isFile path = true)
      (none : documentAt? files path = none) :
      FeatureRead files path (.error (.invalidJson reason))
  | noFeature {document : Json} {f : Feature.Fault} (file : files.isFile path = true)
      (found : documentAt? files path = some document)
      (fault : Feature.OfJsonPost desktopProperties.requiredNames document (.error f)) :
      FeatureRead files path (.error (.invalidFeature f))
  | feature {document : Json} {feature : Feature} (file : files.isFile path = true)
      (found : documentAt? files path = some document)
      (sound : Feature.OfJsonPost desktopProperties.requiredNames document (.ok feature)) :
      FeatureRead files path (.ok feature)

/-- What keeps the file at a path from being a document, as it is worded. -/
inductive NoDocument (files : Files) (path : String) : String → Prop
  | unreadable {f : Files.Fault} (read : files.read path = .error f) :
      NoDocument files path f.message
  | notUtf8 : NoDocument files path "stream did not contain valid UTF-8"
  | notJson {content : List UInt8} {reason : String} (parse : Json.parse content = .error reason) :
      NoDocument files path reason

theorem readFeature_of_none (file : files.isFile path = true)
    (absent : documentAt? files path = none) :
    ∃ reason, readFeature files path = Narrated.fail (.invalidJson reason) ∧
      NoDocument files path reason := by
  unfold documentAt? at absent
  unfold readFeature
  rw [file]
  cases hread : files.read path with
  | error f => exact ⟨f.message, rfl, .unreadable hread⟩
  | ok content =>
    rw [hread] at absent
    cases hutf8 : Utf8.decode? content with
    | none =>
      refine ⟨_, ?_, .notUtf8⟩
      simp only [Except.mapError, Narrated.of_ok_bind, hutf8]
      rfl
    | some text =>
      cases hjson : Json.readBytes content with
      | error f =>
        have hparse : Json.parse content = .error (f.message content) := by
          rw [Json.parse, hjson]
          rfl
        refine ⟨_, ?_, .notJson hparse⟩
        simp only [Except.mapError, Narrated.of_ok_bind, hutf8, hparse]
        rfl
      | ok document => simp [hutf8, hjson, Except.toOption] at absent

theorem readFeature_of_document {document : Json} (file : files.isFile path = true)
    (found : documentAt? files path = some document) :
    readFeature files path = do
      Narrated.say .info "Successfully parsed parameters file"
      let feature ← Narrated.of
        ((Feature.ofJson desktopProperties.requiredNames document).mapError .invalidFeature)
      Narrated.say .info "GeoJSON Feature structure is valid"
      return feature := by
  unfold documentAt? at found
  unfold readFeature
  rw [file]
  cases hread : files.read path with
  | error f => simp [hread] at found
  | ok content =>
    rw [hread] at found
    cases hutf8 : Utf8.decode? content with
    | none => simp [hutf8] at found
    | some text =>
      cases hjson : Json.readBytes content with
      | error f => simp [hutf8, hjson, Except.toOption] at found
      | ok document' =>
        obtain rfl : document' = document := by simpa [hutf8, hjson, Except.toOption] using found
        simp only [Except.mapError, Narrated.of_ok_bind, hutf8, Json.parse, hjson]
        rfl

theorem readFeature_spec (files : Files) (path : String) :
    FeatureRead files path (readFeature files path).result := by
  by_cases hfile : files.isFile path = true
  · cases hfound : documentAt? files path with
    | none =>
      obtain ⟨reason, hread, -⟩ := readFeature_of_none hfile hfound
      rw [hread]
      exact .noDocument hfile hfound
    | some document =>
      have hspec := Feature.ofJson_spec desktopProperties.requiredNames document
      rw [readFeature_of_document hfile hfound]
      simp only [Narrated.result_bind, Narrated.result_of, Narrated.result_say, Except.bind]
      cases hfeature : Feature.ofJson desktopProperties.requiredNames document with
      | error f =>
        rw [hfeature] at hspec
        exact .noFeature hfile hfound hspec
      | ok feature =>
        rw [hfeature] at hspec
        exact .feature hfile hfound hspec
  · have hmissing := Bool.eq_false_iff.2 hfile
    unfold readFeature
    rw [hmissing]
    exact .noFile hmissing

/-! ## Reading the properties -/

/-- The request of two properties with these texts. -/
def propertyRequest (folder parameters : String) : Request :=
  ⟨[("FolderOut", ⟨folder, .text folder⟩), ("Parameters", ⟨parameters, .anyText parameters⟩)]⟩

theorem readMapping_entries {f : Feature} {folder parameters : Json}
    (hfolder : f.properties.lookup "FolderOut" = some folder)
    (hparameters : f.properties.lookup "Parameters" = some parameters) :
    desktopProperties.readMapping f.entries =
      if folder = .null ∨ folder = .string "" then
        .error (.invalidValue "FolderOut"
          (Kind.nonEmpty.refusal "FolderOut" (Feature.propertyText folder)))
      else
        .ok (propertyRequest (Feature.propertyText folder) (Feature.propertyText parameters)) := by
  have hf : f.entries.lookup "FolderOut" = some (Feature.propertyText folder) := by
    rw [Feature.lookup_entries, hfolder]
    rfl
  have hp : f.entries.lookup "Parameters" = some (Feature.propertyText parameters) := by
    rw [Feature.lookup_entries, hparameters]
    rfl
  have hmissing : desktopProperties.missingFrom (f.entries.map Prod.fst) = [] := by
    have hnames : desktopProperties.requiredNames = ["FolderOut", "Parameters"] := by decide
    rw [Schema.missingFrom, hnames]
    have hf' := mem_names_of_lookup hf
    have hp' := mem_names_of_lookup hp
    simp only [List.filter_cons, List.contains_iff_mem.2 hf', List.contains_iff_mem.2 hp']
    rfl
  -- Both names are there, so they are read in declared order.
  have hentries : desktopProperties.declaredEntries f.entries =
      [(⟨"FolderOut", .nonEmpty, true⟩, Feature.propertyText folder),
        (⟨"Parameters", .anyText, true⟩, Feature.propertyText parameters)] := by
    simp [Schema.declaredEntries, desktopProperties, hf, hp]
  rw [Schema.readMapping, hmissing, hentries]
  by_cases hempty : Feature.propertyText folder = ""
  · rw [if_pos (Feature.propertyText_eq_empty.1 hempty), hempty]
    rfl
  · rw [if_neg (mt Feature.propertyText_eq_empty.2 hempty)]
    have haccept : Kind.nonEmpty.read? (Feature.propertyText folder) =
        some (.text (Feature.propertyText folder)) := by
      show (if _ then none else some (Value.text _)) = _
      rw [if_neg (by simpa using hempty)]
    simp only [acceptAll, Spec.accept, haccept]
    rfl

/-! ## Preparing -/

/-- The tokens name this parameters file and nothing is wrong with them. -/
structure NamesFile (tokens : List String) (path : String) : Prop where
  placed : ¬ Malformed desktopFileFlags tokens
  text : textsOf "parametersFile" tokens = [path]
  isPath : IsPath path

inductive FilePrepared (files : Files) :
    List String → Except Rejection (Workspace × Request × List (String × String)) → Prop
  | noWorkspace : FilePrepared files [] (.error .missingWorkspace)
  | badWorkspace {first : String} {tokens : List String} (bad : ¬ NamesWorkspace first) :
      FilePrepared files (first :: tokens) (.error (.invalidWorkspace first))
  | misnamed {first : String} {tokens : List String} {r : Rejection}
      (named : NamesWorkspace first) (reading : Reading desktopFileFlags tokens (.error r)) :
      FilePrepared files (first :: tokens) (.error r)
  | unread {first path : String} {tokens : List String} {r : Rejection}
      (named : NamesWorkspace first) (file : NamesFile tokens path)
      (read : FeatureRead files path (.error r)) :
      FilePrepared files (first :: tokens) (.error r)
  | noFolder {first path : String} {tokens : List String} {feature : Feature} {folder : Json}
      (named : NamesWorkspace first) (file : NamesFile tokens path)
      (read : FeatureRead files path (.ok feature))
      (present : feature.properties.lookup "FolderOut" = some folder)
      (empty : folder = .null ∨ folder = .string "") :
      FilePrepared files (first :: tokens)
        (.error (.invalidValue "FolderOut"
          (Kind.nonEmpty.refusal "FolderOut" (Feature.propertyText folder))))
  | accepted {first path : String} {tokens : List String} {feature : Feature}
      {folder parameters : Json}
      (named : NamesWorkspace first) (file : NamesFile tokens path)
      (read : FeatureRead files path (.ok feature))
      (folderPresent : feature.properties.lookup "FolderOut" = some folder)
      (parametersPresent : feature.properties.lookup "Parameters" = some parameters)
      (notEmpty : ¬ (folder = .null ∨ folder = .string "")) :
      FilePrepared files (first :: tokens)
        (.ok (⟨first⟩,
          propertyRequest (Feature.propertyText folder) (Feature.propertyText parameters),
          contextOf path feature))

theorem namesFile_of_reading {tokens : List String} {request : Request}
    (h : Reading desktopFileFlags tokens (.ok request)) :
    ∃ path, request.raw? "parametersFile" = some path ∧ NamesFile tokens path := by
  obtain ⟨path, htext, hvalid, hget⟩ := path_of_reading h
    (by decide : desktopFileFlags.spec? "parametersFile" = _)
  have hraw : request.raw? "parametersFile" = some path := by
    rw [Request.raw?, hget]
    rfl
  cases h with
  | complete placed absent values once =>
    exact ⟨path, hraw, not_malformed_iff.2 placed, htext, hvalid⟩

theorem FeatureRead.property {feature : Feature} (h : FeatureRead files path (.ok feature))
    {name : String} (hname : name ∈ desktopProperties.requiredNames) :
    ∃ v, feature.properties.lookup name = some v := by
  cases h with
  | feature file found sound =>
    obtain ⟨-, hproperties, -, hall⟩ := sound
    have hsome := hall name hname
    rw [Feature.property?, hproperties] at hsome
    exact Option.ne_none_iff_exists'.1 hsome

@[simp]
theorem result_tellGeometry {ε : Type} (feature : Feature) :
    (tellGeometry feature : Narrated ε Unit).result = .ok () := by
  unfold tellGeometry
  split <;> rfl

theorem result_prepareFile (files : Files) (arguments : List String) :
    (prepareFile files arguments).result =
      (workspaceOf arguments).bind fun (w, tokens) =>
        (desktopFileFlags.readFlags tokens).bind fun flagged =>
          let path := (flagged.raw? "parametersFile").getD ""
          (readFeature files path).result.bind fun feature =>
            (desktopProperties.readMapping feature.entries).map fun request =>
              (w, request, contextOf path feature) := by
  unfold prepareFile
  simp only [Narrated.result_bind, takeWorkspace_result, takeFlags_result, Narrated.result_say,
    Narrated.result_of]
  refine congrArg _ (funext fun (w, tokens) => congrArg _ (funext fun flagged => ?_))
  refine congrArg ((readFeature files _).result.bind) (funext fun feature => ?_)
  cases desktopProperties.readMapping feature.entries with
  | error r => rfl
  | ok request =>
    simp only [result_tellParameters, Narrated.result_sayAll]
    -- Telling the number of parameters changes no result.
    split <;> simp [Except.bind, Except.map]

/-- How preparing a run goes with its arguments, the same way in all files until one of them is
read. -/
inductive FileStages : List String → Prop
  | noWorkspace (result : ∀ files, (prepareFile files []).result = .error .missingWorkspace) :
      FileStages []
  | badWorkspace {first : String} {tokens : List String} (bad : ¬ NamesWorkspace first)
      (result : ∀ files,
        (prepareFile files (first :: tokens)).result = .error (.invalidWorkspace first)) :
      FileStages (first :: tokens)
  | misnamed {first : String} {tokens : List String} {r : Rejection}
      (named : NamesWorkspace first) (reading : Reading desktopFileFlags tokens (.error r))
      (result : ∀ files, (prepareFile files (first :: tokens)).result = .error r) :
      FileStages (first :: tokens)
  | named {first path : String} {tokens : List String}
      (named : NamesWorkspace first) (file : NamesFile tokens path)
      (result : ∀ files, (prepareFile files (first :: tokens)).result =
        (readFeature files path).result.bind fun feature =>
          (desktopProperties.readMapping feature.entries).map fun request =>
            (⟨first⟩, request, contextOf path feature)) :
      FileStages (first :: tokens)

theorem prepareFile_stages (arguments : List String) : FileStages arguments := by
  have hprepare := fun files => result_prepareFile files arguments
  cases arguments with
  | nil => exact .noWorkspace hprepare
  | cons first tokens =>
    rw [workspaceOf_cons] at hprepare
    by_cases hw : NamesWorkspace first
    · rw [if_pos hw] at hprepare
      have hreading := readFlags_reading desktopFileFlags tokens
      cases hflags : desktopFileFlags.readFlags tokens with
      | error r =>
        rw [hflags] at hreading
        simp only [hflags, Except.bind] at hprepare
        exact .misnamed hw hreading hprepare
      | ok flagged =>
        rw [hflags] at hreading
        obtain ⟨path, hraw, hfile⟩ := namesFile_of_reading hreading
        simp only [hflags, Except.bind, hraw, Option.getD_some] at hprepare
        exact .named hw hfile hprepare
    · rw [if_neg hw] at hprepare
      exact .badWorkspace hw hprepare

theorem prepareFile_spec (files : Files) (arguments : List String) :
    FilePrepared files arguments (prepareFile files arguments).result := by
  cases prepareFile_stages arguments with
  | noWorkspace result =>
    rw [result]
    exact .noWorkspace
  | badWorkspace bad result =>
    rw [result]
    exact .badWorkspace bad
  | misnamed named reading result =>
    rw [result]
    exact .misnamed named reading
  | @named first path tokens named file result =>
    have hread := readFeature_spec files path
    rw [result]
    cases hfeature : (readFeature files path).result with
    | error r =>
      rw [hfeature] at hread
      exact .unread named file hread
    | ok feature =>
      rw [hfeature] at hread
      obtain ⟨folder, hfolder⟩ := hread.property (by decide : "FolderOut" ∈ _)
      obtain ⟨parameters, hparameters⟩ := hread.property (by decide : "Parameters" ∈ _)
      simp only [Except.bind, readMapping_entries hfolder hparameters]
      by_cases hempty : folder = .null ∨ folder = .string ""
      · rw [if_pos hempty]
        exact .noFolder named file hread hfolder hempty
      · rw [if_neg hempty]
        exact .accepted named file hread hfolder hparameters hempty

/-! ## The code -/

variable {first : String} {tokens : List String} {r : Rejection} {w : Workspace}
  {feature : Feature} {folder parameters : Json}

theorem code_of_misnamed (named : NamesWorkspace first)
    (reading : Reading desktopFileFlags tokens (.error r)) :
    parametersFileCode r = 20 ∧ fileStageCode files (first :: tokens) = 20 := by
  rw [fileStageCode, if_neg (not_not.2 named)]
  cases reading with
  | misplaced offence =>
    refine ⟨parametersFileCode_of_tellsShape offence.tellsShape, ?_⟩
    split
    · rw [if_pos (Or.inl offence.malformed)]
    · rfl
  | @unfit before after spec raw placed flags fit bad =>
    have hmem : (spec, raw) ∈ declaredFlags desktopFileFlags tokens := by simp [flags]
    have hspec := spec?_of_mem_declaredFlags hmem
    -- The schema declares no other flag.
    have hone : spec = ⟨"parametersFile", .path, true⟩ :=
      List.mem_singleton.1 (Schema.mem_of_spec? hspec)
    subst hone
    have htext := textsOf_eq_singleton (by decide) (not_malformed_iff.2 placed)
      ((mem_declaredFlags hspec).1 hmem)
    have hpath : ¬ IsPath raw := by
      intro h
      have hread := read?_path.2 ⟨h, rfl⟩
      simp [Kind.accepts, hread] at bad
    refine ⟨rfl, ?_⟩
    simp only [htext]
    rw [if_pos (Or.inr hpath)]
  | incomplete placed fit absent =>
    have hunused : "parametersFile" ∉ usedNames tokens := by
      intro hused
      apply absent
      show (["parametersFile"].filter fun name => name ∉ usedNames tokens) = []
      simp [hused]
    have habsent : absentNames desktopFileFlags tokens = ["parametersFile"] := by
      show (["parametersFile"].filter fun name => name ∉ usedNames tokens) = _
      simp [hunused]
    have htexts : textsOf "parametersFile" tokens = [] := by
      have hcount := length_textsOf_le "parametersFile" tokens
      rw [List.count_eq_zero_of_not_mem hunused] at hcount
      exact List.eq_nil_of_length_eq_zero (Nat.le_zero.1 hcount)
    rw [habsent, htexts]
    exact ⟨rfl, rfl⟩

theorem NamesFile.fileStageCode (named : NamesWorkspace first) (file : NamesFile tokens path) :
    fileStageCode files (first :: tokens) = pathCode files ⟨first⟩ path := by
  have hfine : ¬ (Malformed desktopFileFlags tokens ∨ ¬ IsPath path) := by
    rintro (h | h)
    · exact file.placed h
    · exact h file.isPath
  rw [Desktop.fileStageCode, if_neg (not_not.2 named)]
  simp only [file.text]
  rw [if_neg hfine]

theorem documentCode_of_missing {document : Json} {name : String}
    (hname : name ∈ desktopProperties.requiredNames)
    (h : Feature.property? document name = none) : documentCode files w document = 40 := by
  have hcases : name = "FolderOut" ∨ name = "Parameters" := by
    simpa [desktopProperties, Schema.requiredNames] using hname
  unfold documentCode
  rcases hcases with rfl | rfl
  · rw [h]
  · rw [h]
    split
    next hnone => simp at hnone
    next => rfl

theorem code_of_featureRead (w : Workspace) (h : FeatureRead files path (.error r)) :
    parametersFileCode r = pathCode files w path := by
  unfold pathCode
  cases h with
  | noFile missing =>
    rw [if_pos (by simp [missing])]
    rfl
  | noDocument file none =>
    rw [if_neg (not_not.2 file), none]
    rfl
  | @noFeature document f file found fault =>
    rw [if_neg (not_not.2 file), found]
    cases f with
    | missingProperty name =>
      obtain ⟨hstructured, hname, hmissing⟩ := fault
      simp only [hstructured, not_true_eq_false, if_false]
      rw [documentCode_of_missing hname hmissing]
      rfl
    | _ =>
      have hnot : ¬ Feature.Structured document := fault
      simp only [hnot, not_false_eq_true, if_true]
      rfl

theorem pathCode_of_feature (w : Workspace) (h : FeatureRead files path (.ok feature))
    (hfolder : feature.properties.lookup "FolderOut" = some folder)
    (hparameters : feature.properties.lookup "Parameters" = some parameters) :
    pathCode files w path =
      if folder = .null ∨ folder = .string "" then 40
      else if w.EndsIn "_fails" then 100
      else if w.EndsIn "_nofiles" then 0
      else if files.CanHold (Feature.propertyText folder) "result_v2.txt" then 0
      else 50 := by
  unfold pathCode
  cases h with
  | @feature document _ file found sound =>
    obtain ⟨hstructured, hproperties, -, -⟩ := sound
    rw [if_neg (not_not.2 file), found]
    simp only [hstructured, not_true_eq_false, if_false]
    unfold documentCode Feature.property?
    simp only [hproperties, Option.bind_some, hfolder, hparameters]

/-! ## The status -/

theorem isFileName_fileResult : Path.IsFileName fileStandin.artifactName := by
  constructor <;> decide

/-- What the job of a run with a parameters file comes to: a refusal, or the run of a prepared job.
-/
inductive FileJobPost (files : Files) (arguments : List String) :
    Except Failure (Option Artifact × Files) → Prop
  | refused {r : Rejection} (prepared : FilePrepared files arguments (.error r)) :
      FileJobPost files arguments (.error (.rejected r))
  | run {w : Workspace} {request : Request} {context : List (String × String)}
      {result : Except Failure (Option Artifact × Files)}
      (prepared : FilePrepared files arguments (.ok (w, request, context)))
      (post : fileStandin.RunPost files w ((request.raw? "FolderOut").getD "")
        (fileStandin.report w context request) result) :
      FileJobPost files arguments result

theorem fileJob_spec (files : Files) (arguments : List String) :
    FileJobPost files arguments (fileJob files arguments).result := by
  have hprepared := prepareFile_spec files arguments
  unfold fileJob
  simp only [Narrated.result_bind, Narrated.result_mapError]
  cases hresult : (prepareFile files arguments).result with
  | error r =>
    rw [hresult] at hprepared
    exact .refused hprepared
  | ok prepared =>
    obtain ⟨w, request, context⟩ := prepared
    rw [hresult] at hprepared
    simp only [Except.mapError, Except.bind]
    generalize hrun : (fileStandin.run files w _ request context).result = result
    exact .run hprepared (Standin.run_spec isFileName_fileResult hrun)

variable {arguments : List String} {result : Except Failure (Option Artifact × Files)}

theorem code_of_fileJobPost (h : FileJobPost files arguments result) :
    (exitStatus .parametersFile result).code = fileStageCode files arguments := by
  cases h with
  | refused prepared =>
    show parametersFileCode _ = _
    cases prepared with
    | noWorkspace => rfl
    | @badWorkspace first tokens bad =>
      rw [fileStageCode, if_pos bad]
      rfl
    | misnamed named reading =>
      obtain ⟨hcode, hstage⟩ := code_of_misnamed named reading
      rw [hcode, hstage]
    | unread named file read => rw [file.fileStageCode named, code_of_featureRead _ read]
    | noFolder named file read present empty =>
      obtain ⟨parameters, hparameters⟩ := read.property (by decide : "Parameters" ∈ _)
      rw [file.fileStageCode named, pathCode_of_feature _ read present hparameters, if_pos empty]
      rfl
  | run prepared post =>
    cases prepared with
    | accepted named file read folderPresent parametersPresent notEmpty =>
      rw [code_of_runPost .parametersFile post, file.fileStageCode named,
        pathCode_of_feature _ read folderPresent parametersPresent, if_neg notEmpty]
      rfl

theorem worded_of_fileJobPost (h : FileJobPost files arguments (.error (.rejected r))) :
    r.Worded := by
  cases h with
  | refused prepared =>
    cases prepared with
    | noWorkspace | badWorkspace => trivial
    | misnamed named reading => exact reading.worded
    | unread named file read => cases read <;> trivial
    | noFolder => exact Kind.refusal_ne_empty _ _ _
  | run prepared post => exact worded_of_runPost post

theorem fileStageCode_ne_one (files : Files) (arguments : List String) :
    fileStageCode files arguments ≠ 1 := by
  have hdocument : ∀ w document, documentCode files w document ≠ 1 := by
    intro w document
    unfold documentCode
    split
    · split_ifs <;> decide
    · decide
  have hpath : ∀ w path, pathCode files w path ≠ 1 := by
    intro w path
    unfold pathCode
    split
    · decide
    · split
      · decide
      · split
        · decide
        · exact hdocument w _
  unfold fileStageCode
  split
  · decide
  · split
    · decide
    · split
      · split
        · decide
        · exact hpath _ _
      · decide

/-- A run with a parameters file ends with the code of the first stage that refuses, and with a text
unless all goes well. -/
theorem runFile_status (files : Files) (arguments : List String) :
    let status := (runFile files arguments).status
    status.code = fileStageCode files arguments ∧ status.code ≠ 1 ∧
      (status.stderr = none ↔ status.code = 0) ∧ status.stderr ≠ some "" := by
  have hstatus : (runFile files arguments).status =
      exitStatus .parametersFile (fileJob files arguments).result := rfl
  have hjob := fileJob_spec files arguments
  have hcode := code_of_fileJobPost hjob
  have hworded : ∀ r, (fileJob files arguments).result = .error (.rejected r) → r.Worded := by
    intro r hr
    rw [hr] at hjob
    exact worded_of_fileJobPost hjob
  obtain ⟨hnone, hempty⟩ := exitStatus_stderr .parametersFile hworded
  simp only [hstatus]
  refine ⟨hcode, ?_, hnone, hempty⟩
  rw [hcode]
  exact fileStageCode_ne_one files arguments

end MapStandin.Desktop
