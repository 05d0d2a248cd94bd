import MapStandin.Proofs.Desktop.FileRun
import MapStandin.Proofs.Desktop.Log
import MapStandin.Proofs.Feature.Shown

/-! # The log of a run with a parameters file

A run with a parameters file opens with all of its arguments in full and tells the path of the file.
Of what it tells after that, the texts in the file have a part only by what is left of them after
the cut, the folder for the result apart. -/

namespace MapStandin.Desktop

open Parameter
open Narrated (Matches SameTale)

variable {files files' : Files} {first name path : String} {tokens tokens' : List String}
  {document document' : Json} {feature feature' : Feature}

/-! ## Files that are shown alike -/

/-- Documents that are shown alike, with one folder for the result and as many parameters. -/
structure SameDocument (document document' : Json) : Prop where
  shown : Feature.ShownAlike document document'
  folder : Feature.property? document' "FolderOut" = Feature.property? document "FolderOut"
  members : ((Feature.property? document' "Parameters").bind Json.members?).map List.length =
    ((Feature.property? document "Parameters").bind Json.members?).map List.length

/-- The path leads to documents that are shown alike, or to none in the same way. -/
structure SameInput (files files' : Files) (path : String) : Prop where
  file : files'.isFile path = files.isFile path
  document : Option.Rel SameDocument (documentAt? files path) (documentAt? files' path)

/-- Runs that name one parameters file and find the same in it after the cut. -/
structure SameView (files files' : Files) (tokens tokens' : List String) : Prop where
  shown : shownTokens tokens' = shownTokens tokens
  path : textsOf "parametersFile" tokens' = textsOf "parametersFile" tokens
  folders : files.SameFolders files'
  input : ∀ path ∈ textsOf "parametersFile" tokens, SameInput files files' path

/-- Features of documents that are shown alike. -/
structure SameFeature (feature feature' : Feature) : Prop where
  shown : Feature.SameShown feature feature'
  folder : feature'.properties.lookup "FolderOut" = feature.properties.lookup "FolderOut"
  members : ((feature'.properties.lookup "Parameters").bind Json.members?).map List.length =
    ((feature.properties.lookup "Parameters").bind Json.members?).map List.length

/-- Rejections with which a run exits alike. -/
def SameCode (r r' : Rejection) : Prop := parametersFileCode r' = parametersFileCode r

/-! ## Reading the file -/

theorem ofJson_sameDocument (same : SameDocument document document') (required : List String) :
    Matches Eq SameFeature (Feature.ofJson required document)
      (Feature.ofJson required document') := by
  refine (Feature.ofJson_alike same.shown required).mono (fun _ _ h => h) ?_
  rintro feature feature' ⟨hshown, hproperties, hproperties'⟩
  have hfolder := same.folder
  have hmembers := same.members
  simp only [Feature.property?, hproperties, hproperties', Option.bind_some] at hfolder hmembers
  exact ⟨hshown, hfolder, hmembers⟩

theorem readFeature_alike (same : SameInput files files' path) :
    SameTale SameCode SameFeature (readFeature files path) (readFeature files' path) := by
  have hfile' := same.file
  have hdocument := same.document
  cases hfile : files.isFile path with
  | false =>
    rw [hfile] at hfile'
    unfold readFeature
    rw [hfile, hfile']
    exact ⟨rfl, .error rfl⟩
  | true =>
    rw [hfile] at hfile'
    cases hfound : documentAt? files path with
    | none =>
      rw [hfound] at hdocument
      cases hfound' : documentAt? files' path with
      | none =>
        obtain ⟨reason, hread, -⟩ := readFeature_of_none hfile hfound
        obtain ⟨reason', hread', -⟩ := readFeature_of_none hfile' hfound'
        rw [hread, hread']
        exact ⟨rfl, .error rfl⟩
      | some document' => rw [hfound'] at hdocument; cases hdocument
    | some document =>
      rw [hfound] at hdocument
      cases hfound' : documentAt? files' path with
      | none => rw [hfound'] at hdocument; cases hdocument
      | some document' =>
        rw [hfound'] at hdocument
        cases hdocument with
        | some hsame =>
          rw [readFeature_of_document hfile hfound, readFeature_of_document hfile' hfound']
          refine .bind (.say .info rfl) fun _ _ _ => ?_
          refine .bind (.of ((ofJson_sameDocument hsame _).mapError ?_)) fun f f' h => ?_
          · rintro f _ rfl
            rfl
          exact .bind (.say .info rfl) fun _ _ _ => .pure h

/-! ## The job -/

theorem SameCode.of_eq {r r' : Rejection} (h : r = r') : SameCode r r' :=
  congrArg parametersFileCode h.symm

/-- Requests with one folder for the result that are shown alike. -/
structure SameRequest (request request' : Request) : Prop where
  shown : shownTexts request'.texts = shownTexts request.texts
  folder : request'.raw? "FolderOut" = request.raw? "FolderOut"

theorem readMapping_alike (same : SameFeature feature feature')
    (read : FeatureRead files path (.ok feature)) (read' : FeatureRead files' path (.ok feature')) :
    Matches SameCode SameRequest (desktopProperties.readMapping feature.entries)
      (desktopProperties.readMapping feature'.entries) := by
  obtain ⟨folder, hfolder⟩ := read.property (by decide : "FolderOut" ∈ _)
  obtain ⟨parameters, hparameters⟩ := read.property (by decide : "Parameters" ∈ _)
  obtain ⟨parameters', hparameters'⟩ := read'.property (by decide : "Parameters" ∈ _)
  have hfolder' := same.folder.trans hfolder
  have hshown := same.shown.lookup "Parameters"
  rw [hparameters, hparameters', Option.map_some, Option.map_some, Option.map_some,
    Option.map_some] at hshown
  rw [readMapping_entries hfolder hparameters, readMapping_entries hfolder' hparameters']
  by_cases hempty : folder = .null ∨ folder = .string ""
  · rw [if_pos hempty, if_pos hempty]
    exact .error rfl
  · rw [if_neg hempty, if_neg hempty]
    refine .ok ⟨?_, rfl⟩
    simp only [shownTexts, propertyRequest, Request.texts, List.map_cons, List.map_nil]
    rw [Option.some.inj hshown]

theorem tellGeometry_alike {ε ε' : Type} {F : ε → ε' → Prop}
    (same : feature'.geometry = feature.geometry) :
    SameTale F Eq (tellGeometry feature) (tellGeometry feature') := by
  unfold tellGeometry Feature.geometryKind
  rw [same]
  cases feature.geometry with
  | none => exact .say .info rfl
  | some geometry => exact .say .info rfl

theorem SameView.readFlags_eq (same : SameView files files' tokens tokens') :
    desktopFileFlags.readFlags tokens' = desktopFileFlags.readFlags tokens := by
  apply readFlags_congr same.shown
  have hsingle := @declaredFlags_of_single desktopFileFlags ⟨"parametersFile", .path, true⟩ rfl
  rw [hsingle, hsingle, same.path]

theorem prepareFile_alike (same : SameView files files' tokens tokens') :
    SameTale SameCode (fun a a' => a'.1 = a.1 ∧ SameRequest a.2.1 a'.2.1)
      (prepareFile files (first :: tokens)) (prepareFile files' (first :: tokens')) := by
  unfold prepareFile
  refine .bind ((takeWorkspace_alike first tokens tokens').mono (fun _ _ => SameCode.of_eq)
    fun _ _ h => h) ?_
  rintro _ _ ⟨-, rfl, rfl⟩
  have hflags : Matches SameCode
      (fun a a' => a = a' ∧ desktopFileFlags.readFlags tokens = .ok a)
      (desktopFileFlags.readFlags tokens) (desktopFileFlags.readFlags tokens') := by
    rw [same.readFlags_eq]
    exact (Matches.refl _).known.mono (fun _ _ => SameCode.of_eq) fun _ _ h => ⟨h.1, h.2.1⟩
  refine .bind (takeFlags_alike same.shown hflags) ?_
  rintro flagged _ ⟨rfl, hread⟩
  have hreading := readFlags_reading desktopFileFlags tokens
  rw [hread] at hreading
  obtain ⟨path, hraw, hfile⟩ := namesFile_of_reading hreading
  have hinput := same.input path (by rw [hfile.text]; exact List.mem_singleton_self path)
  simp only [hraw, Option.getD_some]
  refine .bind (.say .info rfl) fun _ _ _ => ?_
  refine .bind (readFeature_alike hinput).known ?_
  rintro feature feature' ⟨hsame, hfeature, hfeature'⟩
  have hspec := readFeature_spec files path
  have hspec' := readFeature_spec files' path
  rw [hfeature] at hspec
  rw [hfeature'] at hspec'
  refine .bind (.of (readMapping_alike hsame hspec hspec')) fun request request' hrequest => ?_
  refine .bind (tellParameters_alike hrequest.shown) fun _ _ _ => ?_
  refine .bind (.sayAll .debug (hsame.shown.filtered (fun name => !desktopProperties.declares name)
    fun name => s!"Ignoring legacy property {name}")) fun _ _ _ => ?_
  -- The geometry is told last, whether or not the parameters are an object.
  have hlast : SameTale SameCode (fun a a' => a'.1 = a.1 ∧ SameRequest a.2.1 a'.2.1)
      (do tellGeometry feature; return (Workspace.mk first, request, contextOf path feature))
      (do tellGeometry feature'; return (Workspace.mk first, request', contextOf path feature')) :=
    .bind (tellGeometry_alike hsame.shown.geometry) fun _ _ _ => .pure ⟨rfl, hrequest⟩
  have hmembers := hsame.members
  obtain ⟨v, hv⟩ := hspec.property (by decide : "Parameters" ∈ _)
  obtain ⟨v', hv'⟩ := hspec'.property (by decide : "Parameters" ∈ _)
  rw [hv, hv', Option.bind_some, Option.bind_some] at hmembers
  simp only [hv, hv']
  -- Either both documents have objects of one size there, or neither has an object.
  cases v with
  | object members =>
    cases v' with
    | object members' =>
      obtain hlength : members'.length = members.length := Option.some.inj hmembers
      exact .bind (.say .info (by rw [hlength])) fun _ _ _ => hlast
    | _ => cases hmembers
  | _ =>
    cases v' with
    | object members' => cases hmembers
    | _ => exact hlast

/-- Failures with which a run exits alike. -/
def SameExit (f f' : Failure) : Prop :=
  (exitStatus .parametersFile (.error f' : Except Failure (Option Artifact × Files))).code =
    (exitStatus .parametersFile (.error f : Except Failure (Option Artifact × Files))).code

theorem fileJob_alike (same : SameView files files' tokens tokens') :
    SameTale SameExit (fun _ _ => True) (fileJob files (first :: tokens))
      (fileJob files' (first :: tokens')) := by
  unfold fileJob
  refine .bind ((prepareFile_alike same).mapError fun r r' h => h) ?_
  rintro ⟨w, request, context⟩ ⟨_, request', context'⟩ ⟨rfl, hrequest⟩
  simp only [hrequest.folder]
  refine (Standin.run_alike same.folders isFileName_fileResult).mono ?_ fun _ _ _ => trivial
  rintro f _ rfl
  rfl

theorem code_of_matches {result result' : Except Failure (Option Artifact × Files)}
    (h : Matches SameExit (fun _ _ => True) result result') :
    (exitStatus .parametersFile result').code = (exitStatus .parametersFile result).code := by
  cases h with
  | error together => exact together
  | ok => rfl

theorem code_runFile (files : Files) (arguments : List String) :
    (runFile files arguments).status.code = fileStageCode files arguments :=
  code_of_fileJobPost (fileJob_spec files arguments)

/-! ## Properties that are accepted -/

theorem mem_prepareFile {arguments : List String} {w : Workspace} {request : Request}
    {context : List (String × String)} {raw : String}
    (prepared : (prepareFile files arguments).result = .ok (w, request, context))
    (h : (name, raw) ∈ request.texts) :
    (⟨.info, s!"  {name}: " ++ shown raw⟩ : Event) ∈ (prepareFile files arguments).events := by
  unfold prepareFile at prepared ⊢
  obtain ⟨⟨w', flags⟩, hworkspace, prepared⟩ := Narrated.exists_of_bind prepared
  obtain ⟨flagged, hflags, prepared⟩ := Narrated.exists_of_bind prepared
  obtain ⟨-, -, prepared⟩ := Narrated.exists_of_bind prepared
  obtain ⟨feature, hfeature, prepared⟩ := Narrated.exists_of_bind prepared
  obtain ⟨request', hrequest, prepared⟩ := Narrated.exists_of_bind prepared
  obtain ⟨-, -, prepared⟩ := Narrated.exists_of_bind prepared
  obtain ⟨-, -, prepared⟩ := Narrated.exists_of_bind prepared
  -- What is told after the request leaves it as it is.
  have heq : request' = request := by
    simp only at prepared
    split at prepared
    · obtain ⟨-, -, prepared⟩ := Narrated.exists_of_bind prepared
      obtain ⟨-, -, prepared⟩ := Narrated.exists_of_bind prepared
      cases prepared
      rfl
    · obtain ⟨-, -, prepared⟩ := Narrated.exists_of_bind prepared
      cases prepared
      rfl
  apply Narrated.mem_events_of_later hworkspace
  apply Narrated.mem_events_of_later hflags
  apply Narrated.mem_events_of_later rfl
  apply Narrated.mem_events_of_later hfeature
  apply Narrated.mem_events_of_later hrequest
  apply Narrated.mem_events_of_first
  rw [heq]
  exact mem_tellParameters h

/-- A code that no refusal before the job has tells that the properties were accepted. -/
theorem exists_prepared {arguments : List String}
    (code : fileStageCode files arguments ∈ [0, 50, 100]) :
    ∃ prepared, (prepareFile files arguments).result = .ok prepared := by
  have hprepared := prepareFile_spec files arguments
  cases hresult : (prepareFile files arguments).result with
  | ok prepared => exact ⟨prepared, rfl⟩
  | error r =>
    rw [hresult] at hprepared
    have hstage : parametersFileCode r = fileStageCode files arguments :=
      code_of_fileJobPost (.refused hprepared)
    -- A refusal before the job has one of the codes of the earlier stages.
    have hearly : parametersFileCode r ∈ [10, 15, 20, 25, 30, 35, 40] := by
      cases hprepared with
      | noWorkspace | badWorkspace | noFolder => simp [parametersFileCode]
      | misnamed named reading => simp [(@code_of_misnamed files _ _ _ named reading).1]
      | unread named file read =>
        cases read with
        | noFile | noDocument => simp [parametersFileCode]
        | @noFeature document f file found fault => cases f <;> simp [parametersFileCode]
    rw [hstage] at hearly
    simp only [List.mem_cons, List.not_mem_nil, or_false] at code hearly
    omega

theorem request_of_prepared {w : Workspace} {request : Request} {context : List (String × String)}
    (prepared : (prepareFile files (first :: tokens)).result = .ok (w, request, context))
    (named : textsOf "parametersFile" tokens = [path])
    (found : documentAt? files path = some document) :
    ∃ folder parameters, w = ⟨first⟩ ∧
      Feature.property? document "FolderOut" = some folder ∧
      Feature.property? document "Parameters" = some parameters ∧
      request = propertyRequest (Feature.propertyText folder) (Feature.propertyText parameters) ∧
      fileStageCode files (first :: tokens) =
        if w.EndsIn "_fails" then 100
        else if w.EndsIn "_nofiles" then 0
        else if files.CanHold (Feature.propertyText folder) "result_v2.txt" then 0
        else 50 := by
  have hprepared := prepareFile_spec files (first :: tokens)
  rw [prepared] at hprepared
  cases hprepared with
  | @accepted _ path' _ feature folder parameters hw file read hfolder hparameters hempty =>
    have hpath := file.text
    rw [named] at hpath
    obtain rfl := List.head_eq_of_cons_eq hpath
    have hstage := @NamesFile.fileStageCode files path first tokens hw file
    rw [pathCode_of_feature _ read hfolder hparameters, if_neg hempty] at hstage
    cases read with
    | @feature document' _ _ found' sound =>
      obtain rfl := Option.some.inj (found.symm.trans found')
      have hproperty : ∀ name, Feature.property? document name = feature.properties.lookup name := by
        intro name
        rw [Feature.property?, sound.2.1, Option.bind_some]
      exact ⟨folder, parameters, rfl, (hproperty _).trans hfolder, (hproperty _).trans hparameters,
        rfl, hstage⟩

theorem mem_texts_of_property {folder parameters v : Json}
    (hfolder : Feature.property? document "FolderOut" = some folder)
    (hparameters : Feature.property? document "Parameters" = some parameters)
    (declared : desktopProperties.declares name = true)
    (property : Feature.property? document name = some v) :
    (name, Feature.propertyText v) ∈
      (propertyRequest (Feature.propertyText folder) (Feature.propertyText parameters)).texts := by
  obtain ⟨spec, hspec, rfl⟩ := Schema.declares_iff.1 declared
  simp only [desktopProperties, List.mem_cons, List.not_mem_nil, or_false] at hspec
  rcases hspec with rfl | rfl
  · obtain rfl := Option.some.inj (property.symm.trans hfolder)
    exact List.mem_cons_self
  · obtain rfl := Option.some.inj (property.symm.trans hparameters)
    exact List.mem_cons_of_mem _ List.mem_cons_self

theorem mem_path_prepareFile (hpath : textsOf "parametersFile" tokens = [path])
    (code : fileStageCode files (first :: tokens) ∉ [15, 20]) :
    (⟨.info, s!"Parameters file: {path}"⟩ : Event) ∈
      (prepareFile files (first :: tokens)).events := by
  by_cases named : NamesWorkspace first
  · have hreading := readFlags_reading desktopFileFlags tokens
    cases hread : desktopFileFlags.readFlags tokens with
    | error r =>
      rw [hread] at hreading
      rw [(code_of_misnamed named hreading).2] at code
      exact absurd (by decide) code
    | ok flagged =>
      rw [hread] at hreading
      obtain ⟨path', hraw, file⟩ := namesFile_of_reading hreading
      have htext := file.text
      rw [hpath] at htext
      obtain rfl := List.head_eq_of_cons_eq htext
      unfold prepareFile
      apply Narrated.mem_events_of_later (a := (⟨first⟩, tokens))
      · rw [takeWorkspace_result, workspaceOf_cons, if_pos named]
      apply Narrated.mem_events_of_later (a := flagged)
      · rw [takeFlags_result, hread]
      simp only [hraw, Option.getD_some]
      exact Narrated.mem_events_of_first (List.mem_singleton_self _)
  · rw [fileStageCode, if_pos named] at code
    exact absurd (by decide) code

/-! ## The log -/

/-- What the log of a run with a parameters file says of the texts of its properties. -/
structure FileLogPost (files : Files) (arguments : List (List UInt8)) : Prop where
  undecoded : ∀ r, decodeArguments arguments = .error r →
    (runBytes .parametersFile files arguments).events =
      [⟨.debug, s!"FME Desktop V2 Mock - Exiting with code {parametersFileCode r}"⟩]
  /-- The opening has all arguments in full. -/
  opening : ∀ texts, decodeArguments arguments = .ok texts →
    (runBytes .parametersFile files arguments).events.take 1 =
      [⟨.info, s!"FME Desktop V2 Mock - Reading {texts.length} arguments: " ++
        Text.quotedList texts⟩]
  /-- It shows no more of the texts than their cut exactly if none is longer than that. -/
  discreet : ∀ first tokens, decodeArguments arguments = .ok (first :: tokens) →
    ((∀ arguments' tokens', decodeArguments arguments' = .ok (first :: tokens') →
        shownTokens tokens' = shownTokens tokens →
        (runBytes .parametersFile files arguments').events.take 1 =
          (runBytes .parametersFile files arguments).events.take 1) ↔
      ∀ p ∈ places tokens, ∀ raw ∈ p.text, raw.toList.length ≤ 100)
  /-- What follows the opening shows no more of a text than its cut. -/
  rest : ∀ files' first tokens arguments' tokens',
    decodeArguments arguments = .ok (first :: tokens) →
    decodeArguments arguments' = .ok (first :: tokens') → SameView files files' tokens tokens' →
    (runBytes .parametersFile files' arguments').events.drop 1 =
      (runBytes .parametersFile files arguments).events.drop 1
  /-- An accepted text that is too long is told by its front. -/
  told : ∀ first tokens path document name v, decodeArguments arguments = .ok (first :: tokens) →
    textsOf "parametersFile" tokens = [path] → documentAt? files path = some document →
    (runBytes .parametersFile files arguments).status.code ∈ [0, 50, 100] →
    desktopProperties.declares name = true → Feature.property? document name = some v →
    100 < (Feature.propertyText v).toList.length →
    ⟨.info, s!"  {name}: " ++
        (String.ofList ((Feature.propertyText v).toList.take 100) ++ "...")⟩ ∈
      (runBytes .parametersFile files arguments).events
  /-- The path of the parameters file is told in full. -/
  named : ∀ first tokens path, decodeArguments arguments = .ok (first :: tokens) →
    textsOf "parametersFile" tokens = [path] →
    (runBytes .parametersFile files arguments).status.code ∉ [15, 20] →
    ⟨.info, s!"Parameters file: {path}"⟩ ∈ (runBytes .parametersFile files arguments).events
  /-- So is the path of the result file, with the folder. -/
  created : ∀ first tokens path document folder,
    decodeArguments arguments = .ok (first :: tokens) →
    textsOf "parametersFile" tokens = [path] → documentAt? files path = some document →
    Feature.property? document "FolderOut" = some folder →
    (runBytes .parametersFile files arguments).status.code = 0 →
    ¬ (Workspace.mk first).EndsIn "_nofiles" →
    ⟨.info, "Created output file: " ++ Path.join (Feature.propertyText folder) "result_v2.txt"⟩ ∈
      (runBytes .parametersFile files arguments).events

theorem take_fileOpening (files : Files) (arguments : List (List UInt8)) (texts : List String)
    (h : decodeArguments arguments = .ok texts) :
    (runBytes .parametersFile files arguments).events.take 1 =
      [⟨.info, s!"FME Desktop V2 Mock - Reading {texts.length} arguments: " ++
        Text.quotedList texts⟩] := by
  rw [runBytes_of_texts h]
  rfl

theorem runBytes_fileLog (files : Files) (arguments : List (List UInt8)) :
    FileLogPost files arguments where
  undecoded _ := events_of_undecoded
  opening := take_fileOpening files arguments
  discreet first tokens h := by
    refine opening_discreet_iff (take_fileOpening files) ?_ h
    intro texts texts' hlength hopening
    have htext := congrArg Event.text (List.head_eq_of_cons_eq hopening)
    simp only [hlength] at htext
    exact (String.append_right_inj _).1 htext
  rest files' first tokens arguments' tokens' h h' same := by
    rw [runBytes_of_texts h, runBytes_of_texts h']
    obtain ⟨hevents, hresult⟩ := @fileJob_alike files files' first tokens tokens' same
    have hcode : (run .parametersFile files' (first :: tokens')).status.code =
        (run .parametersFile files (first :: tokens)).status.code := code_of_matches hresult
    -- Behind the opening stand the events of the job and the closing.
    have hdrop : ∀ files tokens, (run .parametersFile files (first :: tokens)).events.drop 1 =
        (fileJob files (first :: tokens)).events ++
          [closing fileStandin.title (run .parametersFile files (first :: tokens)).status] :=
      fun _ _ => rfl
    rw [hdrop, hdrop, hevents, closing_congr hcode]
  told first tokens path document name v h hpath hdocument hcode declared hv long := by
    rw [runBytes_of_texts h] at hcode ⊢
    have hstage : fileStageCode files (first :: tokens) ∈ [0, 50, 100] := by
      rw [← code_runFile]
      exact hcode
    obtain ⟨⟨w, request, context⟩, hresult⟩ := exists_prepared hstage
    obtain ⟨folder, parameters, rfl, hfolder, hparameters, rfl, -⟩ :=
      request_of_prepared hresult hpath hdocument
    have hmem := mem_prepareFile hresult (mem_texts_of_property hfolder hparameters declared hv)
    rw [shown_of_long long] at hmem
    exact mem_conclude (Narrated.mem_events_of_first hmem)
  named first tokens path h hpath hcode := by
    rw [runBytes_of_texts h] at hcode ⊢
    have hstage : fileStageCode files (first :: tokens) ∉ [15, 20] := by
      rw [← code_runFile]
      exact hcode
    exact mem_conclude (Narrated.mem_events_of_first (mem_path_prepareFile hpath hstage))
  created first tokens path document folder h hpath hdocument hfolder hcode produces := by
    rw [runBytes_of_texts h] at hcode ⊢
    have hstage : fileStageCode files (first :: tokens) = 0 := by
      rw [← code_runFile]
      exact hcode
    obtain ⟨⟨w, request, context⟩, hresult⟩ :=
      exists_prepared (by rw [hstage]; exact List.mem_cons_self)
    obtain ⟨folder', parameters, rfl, hfolder', -, rfl, hcode⟩ :=
      request_of_prepared hresult hpath hdocument
    obtain rfl := Option.some.inj (hfolder.symm.trans hfolder')
    rw [hstage, if_neg produces] at hcode
    split_ifs at hcode with hfails hhold
    exact mem_conclude (Narrated.mem_events_of_later (Narrated.mapError_of_ok hresult _)
      (Standin.mem_run isFileName_fileResult hfails produces hhold))

end MapStandin.Desktop
