import MapStandin.Proofs.DataDownload.Log
import MapStandin.Proofs.Desktop.FileLog
import MapStandin.Proofs.Desktop.FlagLog
import MapStandin.Proofs.Server.Entry

/-! # What the logs disclose

The log of a request for a job shows no more of a parameter than is left of it after the cut. So does
the log of a desktop run, but for its opening, which does so only if no argument has to be cut, and
for the paths of the parameters file and of the result. -/

namespace MapStandin

namespace Server

open DataDownload (SameBody SameQuery lackedNames)
open DataDownload.Call (asksForJson)
open Parameter (toldPropertyNames toldQueryNames)

variable {c : Context} {r r' : Http.Request} {convention : DataDownload.Convention}
  {name : Option String}

/-- The pairs in the query of a request. -/
def pairsOf (r : Http.Request) : List (String × String) := Http.Query.pairs r.target.query

/-- Requests for one job that send the same headers. -/
structure SameEntry (r r' : Http.Request) : Prop where
  method : r'.method = r.method
  path : r'.target.path = r.target.path
  headers : r'.headers = r.headers

theorem SameEntry.downloadCall (same : SameEntry r r') (workspace : Option String) :
    c.downloadCall r' workspace = c.downloadCall r workspace := by
  unfold Context.downloadCall Http.Request.header?
  rw [same.headers]

theorem events_of_options (hm : r.method = .options) : (c.answer r).events = [] := by
  have hreply : c.replyTo r (Place.ofPath? c.service r.target.path) = .of Context.optionsResponse :=
    if_pos hm
  exact congrArg Reply.events hreply

theorem SameEntry.refusal?_eq (same : SameEntry r r') :
    c.refusal? (.ofJob convention name) r' = c.refusal? (.ofJob convention name) r := by
  rw [refusal?_ofJob, refusal?_ofJob]
  unfold Context.authorization? Http.Request.header?
  rw [same.headers]

/-- What is told before the service is reached does not depend on the query, nor on the body but for
whether it is too long. -/
theorem events_enter_alike (same : SameEntry r r')
    (fits : Fits convention r'.body ↔ Fits convention r.body)
    (replies : ∀ meant, (c.replyAt r' (.ofJob convention meant)).events =
      (c.replyAt r (.ofJob convention meant)).events) :
    (c.enter r' (.ofJob convention name)).events =
      (c.enter r (.ofJob convention name)).events := by
  have hspec := enter_spec c r (.ofJob convention name)
  generalize c.enter r (.ofJob convention name) = reply at hspec
  -- Up to the service, both requests take the same way.
  cases hspec with
  | refused h => rw [enter_of_refusal (same.refusal?_eq.trans h)]
  | wrongMethod h hm =>
    rw [← same.method] at hm
    rw [enter_of_not_handles (same.refusal?_eq.trans h) hm]
  | badName h hm hname =>
    rw [← same.method] at hm
    rw [enter_of_undecoded (same.refusal?_eq.trans h) hm hname]
  | longBody h hm hname hbody =>
    obtain ⟨meant, -, rfl⟩ := decoded_ofJob_iff.1 hname
    rw [← same.method] at hm
    rw [fits_ofJob, ← fits, ← fits_ofJob] at hbody
    rw [enter_of_not_fits (same.refusal?_eq.trans h) hm hname hbody]
  | served h hm hname hbody =>
    obtain ⟨meant, -, rfl⟩ := decoded_ofJob_iff.1 hname
    rw [← same.method] at hm
    rw [fits_ofJob, ← fits, ← fits_ofJob] at hbody
    rw [enter_of_fits (same.refusal?_eq.trans h) hm hname hbody]
    exact replies meant

theorem events_answer_alike (service : c.service = .dataDownload)
    (path : Place.JobPath convention r.target.path name) (same : SameEntry r r')
    (fits : Fits convention r'.body ↔ Fits convention r.body)
    (replies : ∀ meant, (c.replyAt r' (.ofJob convention meant)).events =
      (c.replyAt r (.ofJob convention meant)).events) :
    (c.answer r').events = (c.answer r).events := by
  have hplace : Place.ofPath? c.service r.target.path = some (.ofJob convention name) := by
    rw [service]
    exact Place.ofPath?_eq_job_iff.2 path
  by_cases hm : r.method = .options
  · rw [events_of_options hm, events_of_options (same.method.trans hm)]
  · rw [answer_eq hplace hm, answer_eq (same.path ▸ hplace) (same.method ▸ hm)]
    exact events_enter_alike same fits replies

theorem mem_answer {meant : Option String} {e : Event} (service : c.service = .dataDownload)
    (path : Place.JobPath convention r.target.path name)
    (admitted : Admitted c.settings.download convention (sent? r))
    (taken : Taken convention r.method) (fits : Fits convention r.body)
    (named : Place.Meant name meant)
    (h : e ∈ (c.replyAt r (.ofJob convention meant)).events) : e ∈ (c.answer r).events := by
  have hm : r.method ≠ .options := by
    intro hm
    rw [hm] at taken
    cases convention <;> simp [Taken] at taken
  rw [answer_eq (by rw [service]; exact Place.ofPath?_eq_job_iff.2 path) hm,
    enter_of_served admitted taken fits named]
  exact h

/-- What the log of a request with parameters in the query says of them. -/
structure QueryLogPost (c : Context) (name : Option String) (r : Http.Request) : Prop where
  /-- The log shows no more of a text than its cut. -/
  rest : ∀ r', SameEntry r r' → SameQuery (pairsOf r) (pairsOf r') →
    (c.answer r').events = (c.answer r).events
  /-- A text that is too long is told by its front. -/
  told : ∀ meant key raw, Admitted c.settings.download .query (sent? r) →
    Taken .query r.method → Place.Meant name meant → lackedNames (pairsOf r) = [] →
    key ∈ toldQueryNames → (pairsOf r).lookup key = some raw → 100 < raw.toList.length →
    ⟨.info, s!"  {key}: " ++ (String.ofList (raw.toList.take 100) ++ "...")⟩ ∈ (c.answer r).events

/-- What the log of a request with a feature in the body says of its properties. -/
structure FeatureLogPost (c : Context) (name : Option String) (r : Http.Request) : Prop where
  /-- The log shows no more of a text than its cut. Only a body that is too long is not read. -/
  rest : ∀ r', SameEntry r r' → asksForJson (pairsOf r') = asksForJson (pairsOf r) →
    (Fits .feature r'.body ↔ Fits .feature r.body) → SameBody r.body r'.body →
      (c.answer r').events = (c.answer r).events
  /-- A text that is too long is told by its front. -/
  told : ∀ meant document feature key v, Admitted c.settings.download .feature (sent? r) →
    Taken .feature r.method → Fits .feature r.body → Place.Meant name meant →
    Json.parse r.body = .ok document →
    Feature.ofJson ["FolderOut", "Parameters"] document = .ok feature → key ∈ toldPropertyNames →
    Feature.property? document key = some v → 100 < (Feature.propertyText v).toList.length →
    ⟨.info, s!"  {key}: " ++
      (String.ofList ((Feature.propertyText v).toList.take 100) ++ "...")⟩ ∈ (c.answer r).events

theorem answer_queryLog (service : c.service = .dataDownload)
    (path : Place.JobPath .query r.target.path name) : QueryLogPost c name r where
  rest r' same query := by
    apply events_answer_alike service path same Iff.rfl
    intro meant
    show (Context.jobReply _).events = (Context.jobReply _).events
    rw [same.downloadCall]
    exact DataDownload.events_jobReply (DataDownload.answerQuery_alike query)
      fun _ _ => congrArg _ ∘ Eq.symm
  told meant key raw admitted taken named complete told h long :=
    mem_answer service path admitted taken trivial named
      (DataDownload.mem_jobReply (DataDownload.mem_answerQuery complete told h long))

theorem answer_featureLog (service : c.service = .dataDownload)
    (path : Place.JobPath .feature r.target.path name) : FeatureLogPost c name r where
  rest r' same asks fits body := by
    apply events_answer_alike service path same fits
    intro meant
    show (Context.jobReply _).events = (Context.jobReply _).events
    rw [same.downloadCall]
    exact DataDownload.events_jobReply (DataDownload.answerFeature_alike asks body)
      fun _ _ => congrArg _ ∘ Eq.symm
  told meant document feature key v admitted taken fits named json read told h long :=
    mem_answer service path admitted taken fits named
      (DataDownload.mem_jobReply (DataDownload.mem_answerFeature json read told h long))

end Server

/-- The ways to ask for a job: a run on a desktop, or a request to the data download service. -/
inductive Asking
  | run (convention : Desktop.Convention) (files : Files) (arguments : List (List UInt8))
  | request (convention : DataDownload.Convention) (c : Server.Context) (name : Option String)
      (r : Http.Request)

/-- What the log says of the parameters. -/
def Asking.LogPost : Asking → Prop
  | .run .flags files arguments => Desktop.FlagLogPost files arguments
  | .run .parametersFile files arguments => Desktop.FileLogPost files arguments
  | .request .query c name r =>
    c.service = .dataDownload → Server.Place.JobPath .query r.target.path name →
      Server.QueryLogPost c name r
  | .request .feature c name r =>
    c.service = .dataDownload → Server.Place.JobPath .feature r.target.path name →
      Server.FeatureLogPost c name r

theorem Asking.log_spec (asking : Asking) : asking.LogPost := by
  cases asking with
  | run convention files arguments =>
    cases convention with
    | flags => exact Desktop.runBytes_flagLog files arguments
    | parametersFile => exact Desktop.runBytes_fileLog files arguments
  | request convention c name r =>
    cases convention with
    | query => exact Server.answer_queryLog
    | feature => exact Server.answer_featureLog

/-- The opening of a run with flags has a text of more than a hundred characters in full. -/
theorem log_in_full :
    ∃ value, value = String.ofList (List.replicate 101 'a') ∧ 100 < value.toList.length ∧
      value ∈ Parameter.textsOf "OrderLabel" ["--OrderLabel", value] ∧
      ∃ e ∈ (Desktop.runBytes .flags ⟨[], [], [], []⟩
        (["job.fmw", "--OrderLabel", value].map Utf8.encode)).events,
        value.toList <:+: e.text.toList := by
  have hname : (Parameter.flagName? "--OrderLabel") = some "OrderLabel" := by decide
  refine ⟨_, rfl, ?_, ?_, Desktop.exists_in_full .flags (by simp) ?_⟩
  · rw [String.toList_ofList, List.length_replicate]
    decide
  · rw [Parameter.mem_textsOf]
    exact ⟨⟨"--OrderLabel", some _⟩, List.mem_cons_self, hname, rfl⟩
  · intro c hc
    rw [String.toList_ofList] at hc
    rw [List.eq_of_mem_replicate hc]
    decide +kernel

end MapStandin
