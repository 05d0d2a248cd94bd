import MapStandin.Proofs.DataDownload.Address
import MapStandin.Proofs.DataDownload.Query
import MapStandin.Proofs.Server.Entry

/-! # Results behind their addresses

The address that a job is answered with leads back to the service: whoever asks for its path, at any
later time and without credentials, gets the result of that version and name. -/

namespace MapStandin.Server

open DataDownload (Convention Envelope IsStamp RootedAt Published QueryAnswer FeatureAnswer
  lackedNames resultAddress resultName resultNames envelopeResponse)
open Url (Host PlainName hostAddress)

/-! ## Paths of results -/

namespace Place

variable {version file : String}

theorem ofPath?_resultFile (hversion : '/' ∉ version.toList) (hfile : '/' ∉ file.toList)
    (notEmpty : file ≠ "") : ofPath? .dataDownload ("/download/" ++ (version ++ ("/" ++ file))) =
      some (.resultFile version file) := by
  have hrest : version ++ ("/" ++ file) ≠ "" := by
    intro hempty
    have htext := congrArg String.toList hempty
    simp at htext
  have hsplit : Text.splitFirst '/' (version ++ ("/" ++ file)).toList =
      some (version.toList, file.toList) := by
    rw [String.toList_append, String.toList_append]
    exact Text.splitFirst_append hversion
  have hfileEmpty : file.toList ≠ [] := fun h => notEmpty (String.toList_injective h)
  unfold ofPath? ofDownloadPath?
  rw [if_neg (append_ne (by decide))]
  simp only
  rw [if_neg (append_ne (by decide)), if_neg (append_ne (by decide)),
    if_neg (append_ne (by decide)), below?_append (by decide) (by decide),
    below?_append (by decide) (by decide), below?_eq_some_iff.2 ⟨rfl, hrest⟩]
  simp only [Option.bind_some, resultFile?, hsplit]
  rw [if_neg (by simpa [hfileEmpty] using hfile), String.ofList_toList, String.ofList_toList]

theorem decoded_resultFile (hversion : '%' ∉ version.toList) (hfile : '%' ∉ file.toList) :
    (resultFile version file).decoded = .ok (.resultFile version file) := by
  have hname : ∀ {label s : String}, '%' ∉ s.toList → readName label s = .ok s := fun h =>
    readName_eq_ok_iff.2 (Percent.decode_encodeList h)
  simp only [decoded, hname hversion, hname hfile]
  rfl

end Place

variable {c : Context} {r : Http.Request} {convention : Convention} {name : Option String}
  {version file : String} {host : Host} {port : Option Nat}

/-! ## Serving results -/

/-- A response that carries the result of a version and a name. -/
structure CarriesResult (response : Http.Response) (version file : String) : Prop where
  status : response.status = .ok
  mediaType : response.header? "content-type" = some "application/zip"
  disposition : response.header? "content-disposition" =
    some ("attachment; filename=\"" ++ file ++ "\"")
  result : ∃ entries time, response.body = .archive entries ∧ entries.lookup "result.txt" =
    some ("FME Server Mock Result\nVersion: " ++ version ++ "\nFilename: " ++ file ++
      "\nTimestamp: " ++ time)

theorem disposition_eq (h : ∀ c ∈ file.toList, Url.isHostChar c = true) :
    Http.disposition file = "attachment; filename=\"" ++ file ++ "\"" := by
  have hfile : file.toList.all Http.isHeaderChar = true :=
    List.all_eq_true.2 fun c hc =>
      Url.of_isHostChar (p := fun c => Http.isHeaderChar c = true) (by decide +kernel) (h c hc)
  have hwords : "attachment; filename=\"".toList.all Http.isHeaderChar = true ∧
      "\"".toList.all Http.isHeaderChar = true := by decide
  unfold Http.disposition Http.dispositionOf
  simp only [String.toList_append, List.all_append, hfile, hwords, Bool.and_self, if_true]

/-- The path of a result leads to it, whatever else a request says. -/
theorem answer_resultFile (service : c.service = .dataDownload) (method : r.method = .get)
    (hversion : PlainName version) (hfile : PlainName file) (notEmpty : file ≠ "")
    (path : r.target.path = "/download/" ++ (version ++ ("/" ++ file))) :
    CarriesResult (c.answer r).response version file := by
  have hslash : ∀ {s}, PlainName s → '/' ∉ s.toList := fun h =>
    Url.not_mem_of_isHostChar h.chars (by decide)
  have hpercent : ∀ {s}, PlainName s → '%' ∉ s.toList := fun h =>
    Url.not_mem_of_isHostChar h.chars (by decide)
  have hplace : Place.ofPath? c.service r.target.path = some (.resultFile version file) := by
    rw [service, path]
    exact Place.ofPath?_resultFile (hslash hversion) (hslash hfile) notEmpty
  have hhandles : (Place.resultFile version file).handles r.method = true := by
    rw [method]
    rfl
  have henter : c.enter r (.resultFile version file) = c.resultReply version file :=
    enter_of_fits rfl hhandles (Place.decoded_resultFile (hpercent hversion) (hpercent hfile)) rfl
  rw [answer_eq hplace (by simp [method]), henter]
  refine ⟨rfl, rfl, congrArg some (disposition_eq hfile.chars),
    DataDownload.resultEntries version file c.now.time, c.now.time, ?_, rfl⟩
  simp only [Reply.completed, method]
  rfl

/-! ## Sound requests -/

def versionOf : Convention → String
  | .query => "v1"
  | .feature => "v2"

/-- A request has what the service asks for: two parameters in the query, or a feature with two
properties in the body. -/
inductive Sound : Convention → Http.Request → Prop
  | query {r : Http.Request} (complete : lackedNames (Http.Query.pairs r.target.query) = []) :
      Sound .query r
  | feature {r : Http.Request} {document : Json} {f : Feature}
      (json : Json.parse r.body = .ok document)
      (feature : Feature.ofJson ["FolderOut", "Parameters"] document = .ok f) : Sound .feature r

variable {meant : Option String} {url : String}

theorem response_replyAt (sound : Sound convention r)
    (succeeds : ¬ (Workspace.mk (meant.getD "")).EndsIn "_fails")
    (address : resultAddress c.settings.baseUrl (r.header? "host") (versionOf convention)
      c.now.stamp = .ok url) :
    (c.replyAt r (.ofJob convention meant)).response =
      envelopeResponse .ok (.success (some url)) := by
  have hpublished : Published (c.downloadCall r meant) (versionOf convention)
      (envelopeResponse .ok (.success (some url))) := .success address succeeds
  cases sound with
  | query complete => exact (QueryAnswer.published complete hpublished).response_eq
  | feature json feature =>
    exact (FeatureAnswer.published json feature hpublished).response_eq _

theorem status_replyAt_ne (h : ¬ (Sound convention r ∧
      ¬ (Workspace.mk (meant.getD "")).EndsIn "_fails"))
    (address : resultAddress c.settings.baseUrl (r.header? "host") (versionOf convention)
      c.now.stamp = .ok url) :
    (c.replyAt r (.ofJob convention meant)).response.status ≠ .ok := by
  have hpublished : Sound convention r → ∃ message, Published (c.downloadCall r meant)
      (versionOf convention) (DataDownload.failureResponse .serverError message) := fun sound =>
    ⟨_, .simulated address (not_not.1 fun succeeds => h ⟨sound, succeeds⟩)⟩
  have hne : ∀ {response : Http.Response} {status : Http.Status} {message : String},
      response = DataDownload.failureResponse status message → status ≠ .ok →
        response.status ≠ .ok := by
    rintro _ status message rfl hstatus
    exact hstatus
  -- A sound request fails by its workspace, any other one by what it lacks.
  cases convention with
  | query =>
    by_cases complete : lackedNames (Http.Query.pairs r.target.query) = []
    · obtain ⟨message, published⟩ := hpublished (.query complete)
      exact hne (QueryAnswer.published complete published).response_eq (by decide)
    · exact hne (QueryAnswer.lacking complete).response_eq (by decide)
  | feature =>
    cases json : Json.parse r.body with
    | error reason => exact hne ((FeatureAnswer.notJson json).response_eq _) (by decide)
    | ok document =>
      cases feature : Feature.ofJson ["FolderOut", "Parameters"] document with
      | error f => exact hne ((FeatureAnswer.notFeature json feature).response_eq _) (by decide)
      | ok f =>
        obtain ⟨message, published⟩ := hpublished (.feature json feature)
        exact hne ((FeatureAnswer.published json feature published).response_eq _) (by decide)

/-! ## Requests that get a result -/

/-- A request gets a result: it is let in, is made with a method of the service and a body that the
service reads, names a workspace that is to succeed and has what the service asks for. -/
structure Accepted (c : Context) (convention : Convention) (name : Option String)
    (r : Http.Request) : Prop where
  admitted : Admitted c.settings.download convention (sent? r)
  taken : Taken convention r.method
  fits : Fits convention r.body
  sound : Sound convention r
  workspace : ∃ meant, Place.Meant name meant ∧
    ¬ (Workspace.mk (meant.getD "")).EndsIn "_fails"

theorem status_enter_iff
    (address : resultAddress c.settings.baseUrl (r.header? "host") (versionOf convention)
      c.now.stamp = .ok url) :
    (c.enter r (.ofJob convention name)).response.status = .ok ↔ Accepted c convention name r := by
  constructor
  · intro hstatus
    by_cases hadmitted : Admitted c.settings.download convention (sent? r)
    · by_cases htaken : Taken convention r.method
      · by_cases hname : ∃ meant, Place.Meant name meant
        · by_cases hfits : Fits convention r.body
          · obtain ⟨meant, hmeant⟩ := hname
            rw [enter_of_served hadmitted htaken hfits hmeant] at hstatus
            obtain ⟨hsound, hsucceeds⟩ := not_not.1 fun h => status_replyAt_ne h address hstatus
            exact ⟨hadmitted, htaken, hfits, hsound, meant, hmeant, hsucceeds⟩
          · rw [enter_of_long_body hadmitted htaken hfits hname] at hstatus
            cases hstatus
        · simp [enter_of_bad_name hadmitted htaken hname] at hstatus
      · rw [enter_of_wrong_method hadmitted htaken] at hstatus
        cases hstatus
    · obtain ⟨f, hf⟩ := exists_fault hadmitted
      rw [enter_of_error hf] at hstatus
      cases convention <;> cases hstatus
  · rintro ⟨hadmitted, htaken, hfits, hsound, meant, hmeant, hsucceeds⟩
    rw [enter_of_served hadmitted htaken hfits hmeant, response_replyAt hsound hsucceeds address]
    rfl

/-- A response issues an address that leads back to the service: to the result in the folder of its
convention, under the time stamp of the answer. -/
structure Issues (c : Context) (convention : Convention) (m : Http.Method)
    (response : Http.Response) (u : Url) : Prop where
  envelope : response.body =
    if m = .head then .empty else .bytes (Utf8.encode (Envelope.success (some u.text)).render)
  read : Url.parse u.text = .ok u
  path : u.path.text = "/download/" ++ versionOf convention ++ "/" ++ c.now.stamp ++ ".zip"
  bare : u.query = none ∧ u.fragment = none
  served : ∀ (now : Moment) (r' : Http.Request), r'.method = .get →
    r'.target.path = u.path.text →
      CarriesResult (({ c with now := now } : Context).answer r').response
        (versionOf convention) (c.now.stamp ++ ".zip")

/-- The address that an accepted request is answered with is one that the service serves. -/
theorem answer_issues (c : Context) (r : Http.Request) (service : c.service = .dataDownload)
    (path : Place.JobPath convention r.target.path name) (method : r.method ≠ .options)
    (root : RootedAt c.settings.baseUrl (r.header? "host") host port)
    (stamp : IsStamp c.now.stamp) :
    ((c.answer r).response.status = .ok ↔ Accepted c convention name r) ∧
      (Accepted c convention name r → Issues c convention r.method (c.answer r).response
        (hostAddress host port (resultNames (versionOf convention) c.now.stamp))) := by
  have hversion : PlainName (versionOf convention) := by
    cases convention <;> exact ⟨by decide, by decide, by decide⟩
  have hfile := DataDownload.plainName_resultName stamp
  have haddress := DataDownload.resultAddress_eq root hversion stamp
  -- The address names the path below, and that path leads to the result.
  have hself := answer_eq (c := c) (r := r)
    (by rw [service]; exact Place.ofPath?_eq_job_iff.2 path) method
  have hpath : (Url.Path.names (resultNames (versionOf convention) c.now.stamp)).text =
      "/download/" ++ (versionOf convention ++ ("/" ++ resultName c.now.stamp)) := by
    apply String.toList_injective
    simp [DataDownload.text_resultNames, DataDownload.resultPath]
  rw [hself]
  refine ⟨status_enter_iff haddress, fun haccepted => ⟨?_, ?_, ?_, ⟨rfl, rfl⟩, ?_⟩⟩
  · obtain ⟨hadmitted, htaken, hfits, hsound, meant, hmeant, hsucceeds⟩ := haccepted
    rw [enter_of_served hadmitted htaken hfits hmeant]
    simp only [Reply.completed, response_replyAt hsound hsucceeds haddress]
    rfl
  · obtain ⟨place, hplace, -⟩ := DataDownload.addressRoot_eq root
    exact Url.parse_text hplace (DataDownload.plainName_resultNames hversion stamp)
      (List.cons_ne_nil _ _)
  · apply String.toList_injective
    simp [hostAddress, hpath, resultName]
  · intro now r' hget htarget
    exact answer_resultFile service hget hversion hfile (by simp)
      (htarget.trans hpath)

theorem answer_issues_named :
    let c : Context := ⟨{}, .dataDownload, ⟨"20240131_154500", ""⟩⟩
    let r : Http.Request := ⟨.get, ⟨"/fmeserver/v1/datadownload", "Product=p&FolderOut=o"⟩,
      [("Host", Utf8.encode "FME.example.org:08080"),
        ("Authorization", Utf8.encode "Basic dGVzdHVzZXI6dGVzdHBhc3M=")], []⟩
    c.service = .dataDownload ∧ Place.JobPath .query r.target.path none ∧ r.method ≠ .options ∧
      RootedAt c.settings.baseUrl (r.header? "host") (.name "fme.example.org") (some 8080) ∧
      IsStamp c.now.stamp ∧ Accepted c .query none r ∧
      Issues c .query r.method (c.answer r).response
        (hostAddress (.name "fme.example.org") (some 8080) (resultNames "v1" c.now.stamp)) := by
  intro c r
  have hhost : Url.HostName "FME.example.org" :=
    .of_letter (by decide) (by decide) (by decide : _ = some ['o', 'r', 'g']) (by decide)
  have hport : Url.PortText "08080".toList (some 8080) :=
    .digits (by decide) (by decide) (by decide)
  have hheader : r.header? "host" = some ("FME.example.org" ++ ":" ++ "08080") := by
    decide +kernel
  have hname : Text.small "FME.example.org" = "fme.example.org" := by decide
  have hroot : RootedAt c.settings.baseUrl (r.header? "host") (.name "fme.example.org")
      (some 8080) := by
    rw [hheader, ← hname]
    exact .named (.port (.name hhost) hport)
  have haccepted : Accepted c .query none r :=
    ⟨.login rfl (by decide +kernel), .inl rfl, trivial, .query (by decide +kernel), none, .absent,
      by decide⟩
  exact ⟨rfl, .query, by decide, hroot, by decide, haccepted,
    (answer_issues c r rfl .query (by decide) hroot (by decide)).2 haccepted⟩

end MapStandin.Server
