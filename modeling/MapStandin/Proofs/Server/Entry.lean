import MapStandin.Server.Answer
import MapStandin.Proofs.Access.Credentials
import MapStandin.Proofs.Server.Place

/-! # Who gets a job

The credentials of a request are judged before anything else of it is looked at. Whoever is refused
learns nothing about the workspace, the parameters or the body. -/

namespace MapStandin.Server

open DataDownload (Convention Envelope)

variable {c : Context} {r : Http.Request} {p : Place} {convention : Convention}
  {name : Option String}

/-! ## Entering and leaving -/

/-- A reply with the headers that are set last, and without content for `HEAD`. -/
def Reply.completed (reply : Reply) (place : Option Place) (m : Http.Method) : Reply :=
  { reply with response := {
      status := reply.response.status
      headers := reply.response.headers ++ Context.allowHeader place m ++ Context.originHeaders
      body := if m = .head then .empty else reply.response.body } }

theorem answer_eq (hplace : Place.ofPath? c.service r.target.path = some p)
    (hm : r.method ≠ .options) : c.answer r = (c.enter r p).completed (some p) r.method := by
  have hreply : c.replyTo r (some p) = c.enter r p := if_neg hm
  unfold Context.answer
  simp only [hplace, hreply]
  rfl

theorem enter_of_refusal {reply : Reply} (h : c.refusal? p r = some reply) :
    c.enter r p = reply := by
  rw [Context.enter, h]

theorem enter_of_not_handles (h : c.refusal? p r = none) (hm : ¬ p.handles r.method = true) :
    c.enter r p = .of (.bare .methodNotAllowed) := by
  rw [Context.enter, h]
  exact if_neg hm

theorem enter_of_undecoded {label : String} (h : c.refusal? p r = none)
    (hm : p.handles r.method = true) (hname : p.decoded = .error label) :
    c.enter r p = Context.undecodedReply label := by
  rw [Context.enter, h]
  simp only [if_pos hm, hname]

theorem enter_of_not_fits {meant : Place} (h : c.refusal? p r = none)
    (hm : p.handles r.method = true) (hname : p.decoded = .ok meant)
    (hbody : ¬ meant.fits r.body = true) : c.enter r p = Context.longBodyReply := by
  rw [Context.enter, h]
  simp only [if_pos hm, hname, if_neg hbody]

theorem enter_of_fits {meant : Place} (h : c.refusal? p r = none)
    (hm : p.handles r.method = true) (hname : p.decoded = .ok meant)
    (hbody : meant.fits r.body = true) : c.enter r p = c.replyAt r meant := by
  rw [Context.enter, h]
  simp only [if_pos hm, hname, if_pos hbody]

inductive EnterPost (c : Context) (r : Http.Request) (p : Place) : Reply → Prop
  | refused {reply : Reply} (h : c.refusal? p r = some reply) : EnterPost c r p reply
  | wrongMethod (h : c.refusal? p r = none) (hm : ¬ p.handles r.method = true) :
      EnterPost c r p (.of (.bare .methodNotAllowed))
  | badName {label : String} (h : c.refusal? p r = none) (hm : p.handles r.method = true)
      (hname : p.decoded = .error label) : EnterPost c r p (Context.undecodedReply label)
  | longBody {meant : Place} (h : c.refusal? p r = none) (hm : p.handles r.method = true)
      (hname : p.decoded = .ok meant) (hbody : ¬ meant.fits r.body = true) :
      EnterPost c r p Context.longBodyReply
  | served {meant : Place} (h : c.refusal? p r = none) (hm : p.handles r.method = true)
      (hname : p.decoded = .ok meant) (hbody : meant.fits r.body = true) :
      EnterPost c r p (c.replyAt r meant)

theorem enter_spec (c : Context) (r : Http.Request) (p : Place) :
    EnterPost c r p (c.enter r p) := by
  cases hrefusal : c.refusal? p r with
  | some reply =>
    rw [enter_of_refusal hrefusal]
    exact .refused hrefusal
  | none =>
    by_cases hm : p.handles r.method = true
    · cases hname : p.decoded with
      | ok meant =>
        by_cases hbody : meant.fits r.body = true
        · rw [enter_of_fits hrefusal hm hname hbody]
          exact .served hrefusal hm hname hbody
        · rw [enter_of_not_fits hrefusal hm hname hbody]
          exact .longBody hrefusal hm hname hbody
      | error label =>
        rw [enter_of_undecoded hrefusal hm hname]
        exact .badName hrefusal hm hname
    · rw [enter_of_not_handles hrefusal hm]
      exact .wrongMethod hrefusal hm

theorem exists_warning_of_refusal? {reply : Reply} (h : c.refusal? p r = some reply) :
    ∃ text, reply.events = [⟨.warn, text⟩] := by
  unfold Context.refusal? at h
  cases p with
  | queryJob _ | featureJob _ | map _ =>
    simp only at h
    split at h
    · obtain rfl := Option.some.inj h
      exact ⟨_, rfl⟩
    · cases h
  | trouble | resultFile _ _ | health => cases h

/-- Whatever is told first and is no warning comes from the service that the request reaches. -/
theorem head?_enter_iff {e : Event} (level : e.level ≠ .warn) :
    (c.enter r p).events.head? = some e ↔
      c.refusal? p r = none ∧ p.handles r.method = true ∧
        ∃ meant, p.decoded = .ok meant ∧ meant.fits r.body = true ∧
          (c.replyAt r meant).events.head? = some e := by
  have hspec := enter_spec c r p
  generalize c.enter r p = reply at hspec
  cases hspec with
  | refused h =>
    obtain ⟨text, htext⟩ := exists_warning_of_refusal? h
    rw [htext, h]
    refine ⟨fun hhead => ?_, nofun⟩
    obtain rfl := Option.some.inj hhead
    exact absurd rfl level
  | wrongMethod h hm => exact ⟨nofun, fun hright => absurd hright.2.1 hm⟩
  | badName h hm hname =>
    refine ⟨nofun, fun ⟨_, _, meant, hmeant, _⟩ => ?_⟩
    rw [hname] at hmeant
    cases hmeant
  | longBody h hm hname hbody =>
    refine ⟨nofun, fun ⟨_, _, meant, hmeant, hfits, _⟩ => ?_⟩
    obtain rfl := Except.ok.inj (hname.symm.trans hmeant)
    exact absurd hfits hbody
  | served h hm hname hbody =>
    constructor
    · intro hhead
      exact ⟨h, hm, _, hname, hbody, hhead⟩
    · rintro ⟨-, -, meant, hmeant, -, hhead⟩
      obtain rfl := Except.ok.inj (hname.symm.trans hmeant)
      exact hhead

theorem head?_ofNarrated {ε : Type} {report : ε → Http.Response × Event}
    {x : Narrated ε Http.Response} {e : Event} (h : x.events.head? = some e) :
    (Reply.ofNarrated report x).events.head? = some e := by
  unfold Reply.ofNarrated
  split
  · exact h
  · rw [List.head?_append, h, Option.some_or]

/-! ## Credentials for a job -/

/-- The first `Authorization` header, as it is sent. -/
def sent? (r : Http.Request) : Option (List UInt8) :=
  (r.headers.find? fun h => Text.small h.1 == "authorization").map Prod.snd

/-- How the credentials for a job of a convention are judged. -/
def judge (s : DownloadSettings) : Convention → Option String → Except Access.Fault Unit
  | .query, header => s.login.verify header
  | .feature, header => s.tokens.verify header

/-- The headers that let a request in. -/
inductive Admitted (s : DownloadSettings) : Convention → Option (List UInt8) → Prop
  | login {value : List UInt8} {text : String} (readable : Http.readable? value = some text)
      (good : s.login.verify (some text) = .ok ()) : Admitted s .query (some value)
  | token {value : List UInt8} {token : String}
      (readable : Http.readable? value = some ("fmetoken token=" ++ token))
      (good : s.tokens.start.toList <+: token.toList) : Admitted s .feature (some value)

theorem authorization?_eq (r : Http.Request) :
    Context.authorization? r = (sent? r).bind Http.readable? := rfl

theorem judge_eq_ok_iff {s : DownloadSettings} :
    judge s convention (Context.authorization? r) = .ok () ↔ Admitted s convention (sent? r) := by
  rw [authorization?_eq]
  constructor
  · intro h
    cases convention with
    | query =>
      obtain ⟨text, htext, -⟩ := Access.Login.verify_eq_ok_iff.1 h
      obtain ⟨value, hvalue, hreadable⟩ := Option.bind_eq_some_iff.1 htext
      rw [hvalue, Option.bind_some, hreadable] at h
      rw [hvalue]
      exact .login hreadable h
    | feature =>
      obtain ⟨token, htoken, hstart⟩ := Access.TokenRule.verify_eq_ok_iff.1 h
      obtain ⟨value, hvalue, hreadable⟩ := Option.bind_eq_some_iff.1 htoken
      rw [hvalue]
      exact .token hreadable hstart
  · intro h
    generalize sent? r = header at h
    cases h with
    | login readable good =>
      rw [Option.bind_some, readable]
      exact good
    | token readable good =>
      rw [Option.bind_some, readable]
      exact Access.TokenRule.verify_eq_ok_iff.2 ⟨_, rfl, good⟩

theorem refusal?_ofJob : c.refusal? (.ofJob convention name) r =
    match judge c.settings.download convention (Context.authorization? r) with
    | .error f => some (Context.refuseJob convention f)
    | .ok () => none := by
  cases convention <;> rfl

theorem refusal?_ofJob_eq_none_iff :
    c.refusal? (.ofJob convention name) r = none ↔
      Admitted c.settings.download convention (sent? r) := by
  rw [refusal?_ofJob, ← judge_eq_ok_iff]
  cases judge c.settings.download convention (Context.authorization? r) <;> simp

theorem exists_fault (h : ¬ Admitted c.settings.download convention (sent? r)) :
    ∃ f, judge c.settings.download convention (Context.authorization? r) = .error f := by
  cases hjudge : judge c.settings.download convention (Context.authorization? r) with
  | error f => exact ⟨f, rfl⟩
  | ok => exact absurd (judge_eq_ok_iff.1 hjudge) h

/-! ## Methods, names and bodies of a job -/

/-- The methods with which a job of a convention is asked for. -/
def Taken : Convention → Http.Method → Prop
  | .query, m => m = .get ∨ m = .head
  | .feature, m => m = .post

theorem handles_ofJob {m : Http.Method} :
    (Place.ofJob convention name).handles m = true ↔ Taken convention m := by
  cases convention <;> simp [Place.ofJob, Place.handles, Place.methods, Taken]

theorem decoded_ofJob_iff {q : Place} :
    (Place.ofJob convention name).decoded = .ok q ↔
      ∃ meant, Place.Meant name meant ∧ q = .ofJob convention meant := by
  cases convention <;> exact Place.map_readOptional_eq_ok_iff

/-- The bodies that a service of a convention reads: what stands in the query needs none. -/
def Fits : Convention → List UInt8 → Prop
  | .query, _ => True
  | .feature, body => body.length ≤ 2097152

theorem fits_ofJob {body : List UInt8} :
    (Place.ofJob convention name).fits body = true ↔ Fits convention body := by
  cases convention with
  | query => exact iff_of_true rfl trivial
  | feature => exact decide_eq_true_iff

def opening : Convention → String → Event
  | .query, workspace => ⟨.info, s!"FME Server V1 request for workspace '{workspace}'"⟩
  | .feature, workspace => ⟨.info, s!"FME Server V2 request for workspace '{workspace}'"⟩

theorem opening_injective {workspace workspace' : String}
    (h : opening convention workspace = opening convention workspace') :
    workspace = workspace' := by
  apply String.toList_injective
  have htext := congrArg (fun e : Event => e.text.toList) h
  cases convention <;> simpa [opening, toString] using htext

theorem head?_replyAt_ofJob (meant : Option String) :
    (c.replyAt r (.ofJob convention meant)).events.head? =
      some (opening convention (meant.getD "")) := by
  cases convention with
  | query =>
    rw [Place.ofJob, Context.replyAt, Context.jobReply]
    exact head?_ofNarrated rfl
  | feature =>
    rw [Place.ofJob, Context.replyAt, Context.jobReply]
    exact head?_ofNarrated rfl

/-! ## Refusals -/

/-- The response to whoever is refused a job. -/
structure Refusal (convention : Convention) (m : Http.Method) (message : String)
    (response : Http.Response) : Prop where
  status : response.status = .unauthorized
  body : response.body =
    if m = .head then .empty else .bytes (Utf8.encode (Envelope.failure message).render)
  challenge : response.header? "www-authenticate" =
    match convention with
    | .query => some "Basic realm=\"FME Server\""
    | .feature => none

theorem refusal_refuseJob (f : Access.Fault) (m : Http.Method) :
    Refusal convention m f.message
      ((Context.refuseJob convention f).completed (some (.ofJob convention name)) m).response := by
  constructor
  · cases convention <;> rfl
  · by_cases hm : m = .head
    · simp only [Reply.completed, if_pos hm]
    · simp only [Reply.completed, if_neg hm]
      cases convention <;> rfl
  · unfold Http.Response.header? Reply.completed Context.allowHeader
    cases convention with
    | query => rfl
    | feature =>
      simp only
      split <;> rfl

theorem completed_ofJob (reply : Reply) (m : Http.Method) (name name' : Option String) :
    reply.completed (some (.ofJob convention name)) m =
      reply.completed (some (.ofJob convention name')) m := by
  cases convention <;> rfl

theorem enter_of_error {f : Access.Fault}
    (h : judge c.settings.download convention (Context.authorization? r) = .error f) :
    c.enter r (.ofJob convention name) = Context.refuseJob convention f :=
  enter_of_refusal (by rw [refusal?_ofJob, h])

/-! ## The answer to a request for a job -/

theorem opened_iff {workspace : String} :
    (c.enter r (.ofJob convention name)).events.head? = some (opening convention workspace) ↔
      Admitted c.settings.download convention (sent? r) ∧ Taken convention r.method ∧
        Fits convention r.body ∧ ∃ meant, Place.Meant name meant ∧ meant.getD "" = workspace := by
  have hlevel : (opening convention workspace).level ≠ .warn := by cases convention <;> nofun
  rw [head?_enter_iff hlevel, refusal?_ofJob_eq_none_iff, handles_ofJob]
  refine and_congr_right fun _ => and_congr_right fun _ => ?_
  constructor
  · rintro ⟨q, hq, hfits, hhead⟩
    obtain ⟨meant, hmeant, rfl⟩ := decoded_ofJob_iff.1 hq
    rw [head?_replyAt_ofJob] at hhead
    exact ⟨fits_ofJob.1 hfits, meant, hmeant, opening_injective (Option.some.inj hhead)⟩
  · rintro ⟨hfits, meant, hmeant, rfl⟩
    exact ⟨_, decoded_ofJob_iff.2 ⟨meant, hmeant, rfl⟩, fits_ofJob.2 hfits,
      head?_replyAt_ofJob meant⟩

theorem enter_of_served {meant : Option String}
    (h : Admitted c.settings.download convention (sent? r)) (hm : Taken convention r.method)
    (hbody : Fits convention r.body) (hname : Place.Meant name meant) :
    c.enter r (.ofJob convention name) = c.replyAt r (.ofJob convention meant) :=
  enter_of_fits (refusal?_ofJob_eq_none_iff.2 h) (handles_ofJob.2 hm)
    (decoded_ofJob_iff.2 ⟨meant, hname, rfl⟩) (fits_ofJob.2 hbody)

theorem enter_of_long_body (h : Admitted c.settings.download convention (sent? r))
    (hm : Taken convention r.method) (hbody : ¬ Fits convention r.body)
    (hname : ∃ meant, Place.Meant name meant) :
    c.enter r (.ofJob convention name) = Context.longBodyReply := by
  obtain ⟨meant, hmeant⟩ := hname
  exact enter_of_not_fits (refusal?_ofJob_eq_none_iff.2 h) (handles_ofJob.2 hm)
    (decoded_ofJob_iff.2 ⟨meant, hmeant, rfl⟩) (mt fits_ofJob.1 hbody)

theorem enter_of_wrong_method (h : Admitted c.settings.download convention (sent? r))
    (hm : ¬ Taken convention r.method) :
    c.enter r (.ofJob convention name) = .of (.bare .methodNotAllowed) :=
  enter_of_not_handles (refusal?_ofJob_eq_none_iff.2 h) (mt handles_ofJob.1 hm)

theorem enter_of_bad_name (h : Admitted c.settings.download convention (sent? r))
    (hm : Taken convention r.method) (hname : ¬ ∃ meant, Place.Meant name meant) :
    (c.enter r (.ofJob convention name)).response.status = .badRequest := by
  cases hdecoded : (Place.ofJob convention name).decoded with
  | error label =>
    rw [enter_of_undecoded (refusal?_ofJob_eq_none_iff.2 h) (handles_ofJob.2 hm) hdecoded]
    rfl
  | ok q =>
    obtain ⟨meant, hmeant, -⟩ := decoded_ofJob_iff.1 hdecoded
    exact absurd ⟨meant, hmeant⟩ hname

/-- What a request for a job comes to: a service is reached, or the request is refused, or it has a
wrong method, or it names a workspace that is no text, or its body is too long. -/
structure AnswerJobPost (c : Context) (convention : Convention) (name : Option String)
    (r : Http.Request) (reply : Reply) : Prop where
  reached : ∀ workspace, reply.events.head? = some (opening convention workspace) ↔
    Admitted c.settings.download convention (sent? r) ∧ Taken convention r.method ∧
      Fits convention r.body ∧ ∃ meant, Place.Meant name meant ∧ meant.getD "" = workspace
  served : Admitted c.settings.download convention (sent? r) → Taken convention r.method →
    Fits convention r.body → ∀ meant, Place.Meant name meant → reply =
      (c.replyAt r (.ofJob convention meant)).completed (some (.ofJob convention name)) r.method
  refused : ¬ Admitted c.settings.download convention (sent? r) →
    ∃ f, judge c.settings.download convention (Context.authorization? r) = .error f ∧
      Refusal convention r.method f.message reply.response
  wrongMethod : Admitted c.settings.download convention (sent? r) → ¬ Taken convention r.method →
    reply.response.status = .methodNotAllowed
  badName : Admitted c.settings.download convention (sent? r) → Taken convention r.method →
    (¬ ∃ meant, Place.Meant name meant) → reply.response.status = .badRequest
  longBody : Admitted c.settings.download convention (sent? r) → Taken convention r.method →
    (∃ meant, Place.Meant name meant) → ¬ Fits convention r.body →
      reply.response.status = .payloadTooLarge
  alike : ¬ Admitted c.settings.download convention (sent? r) →
    ∀ (now : Moment) (name' : Option String) (r' : Http.Request),
      Place.JobPath convention r'.target.path name' → r'.method = r.method → sent? r' = sent? r →
        ({ c with now := now }).answer r' = reply

theorem answer_job (c : Context) (r : Http.Request) (service : c.service = .dataDownload)
    (path : Place.JobPath convention r.target.path name) (method : r.method ≠ .options) :
    AnswerJobPost c convention name r (c.answer r) := by
  -- Any request for a job, at any time, is answered by what entering comes to.
  have hanswer : ∀ {now : Moment} {name' : Option String} {r' : Http.Request},
      Place.JobPath convention r'.target.path name' → r'.method = r.method →
        ({ c with now := now }).answer r' =
          (({ c with now := now }).enter r' (.ofJob convention name')).completed
            (some (.ofJob convention name')) r.method := by
    intro now name' r' path' method'
    rw [← method'] at method ⊢
    exact answer_eq (by rw [service]; exact Place.ofPath?_eq_job_iff.2 path') method
  have hself : c.answer r = (c.enter r (.ofJob convention name)).completed
      (some (.ofJob convention name)) r.method := hanswer path rfl
  refine ⟨fun workspace => ?_, fun h hm hbody meant hname => ?_, fun hnot => ?_, fun h hm => ?_,
    fun h hm hname => ?_, fun h hm hname hbody => ?_,
    fun hnot now name' r' path' method' hsent => ?_⟩
  · rw [hself]
    exact opened_iff
  · rw [hself, enter_of_served h hm hbody hname]
  · obtain ⟨f, hf⟩ := exists_fault hnot
    rw [hself, enter_of_error hf]
    exact ⟨f, hf, refusal_refuseJob f r.method⟩
  · rw [hself, enter_of_wrong_method h hm]
    rfl
  · rw [hself]
    exact enter_of_bad_name h hm hname
  · rw [hself, enter_of_long_body h hm hbody hname]
    rfl
  · obtain ⟨f, hf⟩ := exists_fault hnot
    have hf' : judge c.settings.download convention (Context.authorization? r') = .error f := by
      rw [authorization?_eq, hsent]
      exact hf
    rw [hself, hanswer path' method', enter_of_error hf,
      enter_of_error (c := { c with now := now }) hf']
    exact completed_ofJob _ _ _ _

theorem answer_job_named :
    let c : Context := ⟨{}, .dataDownload, ⟨"", ""⟩⟩
    let r : Http.Request := ⟨.post, ⟨"/fmedatadownload/v2/" ++ "a%20b.fmw", ""⟩,
      [("Authorization", Utf8.encode "fmetoken token=valid_1")], []⟩
    c.service = .dataDownload ∧ Place.JobPath .feature r.target.path (some "a%20b.fmw") ∧
      r.method ≠ .options ∧ AnswerJobPost c .feature (some "a%20b.fmw") r (c.answer r) :=
  ⟨rfl, .featureOf (by decide), by decide, answer_job _ _ rfl (.featureOf (by decide)) (by decide)⟩

/-- Good credentials reach no service with a wrong method, a workspace that is no text or a body
that is too long, and not every refusal carries an envelope. -/
theorem answer_job_gaps :
    let c : Context := ⟨{}, .dataDownload, ⟨"", ""⟩⟩
    let good : List (String × List UInt8) :=
      [("authorization", Utf8.encode "Basic dGVzdHVzZXI6dGVzdHBhc3M=")]
    let put : Http.Request := ⟨.other "PUT", ⟨"/fmeserver/v1/datadownload", ""⟩, good, []⟩
    let noText : Http.Request := ⟨.get, ⟨"/fmedatadownload/Repositories/%FF", ""⟩, good, []⟩
    let long : Http.Request := ⟨.post, ⟨"/fmeserver/v2/datadownload", ""⟩,
      [("authorization", Utf8.encode "fmetoken token=valid_1")], List.replicate 2097153 0x20⟩
    let head : Http.Request := ⟨.head, ⟨"/fmeserver/v1/datadownload", ""⟩, [], []⟩
    (Admitted c.settings.download .query (sent? put) ∧ (c.answer put).events = [] ∧
        (c.answer put).response.status = .methodNotAllowed) ∧
      (Admitted c.settings.download .query (sent? noText) ∧ (c.answer noText).events = [] ∧
        (c.answer noText).response.status = .badRequest) ∧
      (Admitted c.settings.download .feature (sent? long) ∧ (c.answer long).events = [] ∧
        (c.answer long).response.status = .payloadTooLarge) ∧
      (¬ Admitted c.settings.download .query (sent? head) ∧
        (c.answer head).response.body = .empty) := by
  intro c good put noText long head
  have hgood : Admitted {} .query (some (Utf8.encode "Basic dGVzdHVzZXI6dGVzdHBhc3M=")) :=
    .login rfl (by decide +kernel)
  have hreadable : Http.readable? (Utf8.encode "fmetoken token=valid_1") =
      some ("fmetoken token=" ++ "valid_1") := by decide +kernel
  have htoken : Admitted c.settings.download .feature (sent? long) :=
    .token hreadable (by decide)
  -- The long body is judged by its length alone, as it is too long to be looked through here.
  have hlong : ¬ Fits .feature long.body := by
    show ¬ (List.replicate 2097153 _).length ≤ 2097152
    rw [List.length_replicate]
    decide
  have hanswer : c.answer long =
      Context.longBodyReply.completed (some (.ofJob .feature none)) .post := by
    rw [← enter_of_long_body (r := long) htoken rfl hlong ⟨none, .absent⟩]
    exact answer_eq (Place.ofPath?_eq_job_iff.2 .feature) (by decide)
  refine ⟨⟨hgood, ?_⟩, ⟨hgood, ?_⟩, ⟨htoken, ?_⟩, nofun, ?_⟩
  · decide +kernel
  · decide +kernel
  · rw [hanswer]
    exact ⟨rfl, rfl⟩
  · decide +kernel

end MapStandin.Server
