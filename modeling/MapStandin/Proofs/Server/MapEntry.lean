import MapStandin.Proofs.Server.Entry

/-! # Who gets a map

Nobody needs credentials for a map, but whoever sends a login must send the right one. A header that
cannot be read as text counts as none at all. -/

namespace MapStandin.Server

open MapServer (Call Parameters exceptionDocument)

variable {c : Context} {r : Http.Request} {name : Option String}

/-! ## Credentials for a map -/

/-- The header sends a login, and not the right one. -/
inductive WrongLogin (l : Access.Login) : Option (List UInt8) → Prop
  | sent {value : List UInt8} {login : String}
      (readable : Http.readable? value = some ("Basic " ++ login)) (wrong : ¬ l.SentBy login) :
      WrongLogin l (some value)

theorem verifyIfSent_eq_ok_iff {l : Access.Login} :
    l.verifyIfSent (Context.authorization? r) = .ok () ↔ ¬ WrongLogin l (sent? r) := by
  rw [authorization?_eq, Access.Login.verifyIfSent_eq_ok_iff]
  constructor
  · intro h hwrong
    generalize sent? r = header at h hwrong
    cases hwrong with
    | sent readable wrong => exact wrong (h _ readable)
  · intro h login hlogin
    obtain ⟨value, hvalue, hreadable⟩ := Option.bind_eq_some_iff.1 hlogin
    rw [hvalue] at h
    exact Classical.not_not.1 fun wrong => h (.sent hreadable wrong)

theorem refusal?_map : c.refusal? (.map name) r =
    match c.settings.map.login.verifyIfSent (Context.authorization? r) with
    | .error f => some (Context.refuseMap f)
    | .ok () => none := rfl

theorem refusal?_map_eq_none_iff :
    c.refusal? (.map name) r = none ↔ ¬ WrongLogin c.settings.map.login (sent? r) := by
  rw [refusal?_map, ← verifyIfSent_eq_ok_iff]
  cases c.settings.map.login.verifyIfSent (Context.authorization? r) <;> simp

/-! ## Methods, names and bodies of a map -/

def TakenByMap (m : Http.Method) : Prop := m = .get ∨ m = .head ∨ m = .post

theorem handles_map {m : Http.Method} : (Place.map name).handles m = true ↔ TakenByMap m := by
  simp [Place.handles, Place.methods, TakenByMap]

theorem decoded_map_iff {q : Place} :
    (Place.map name).decoded = .ok q ↔ ∃ meant, Place.Meant name meant ∧ q = .map meant :=
  Place.map_readOptional_eq_ok_iff

theorem fits_map {body : List UInt8} :
    (Place.map name).fits body = true ↔ body.length ≤ 2097152 := decide_eq_true_iff

def mapOpening (call : Call) (p : Parameters) : Event :=
  ⟨.info, s!"QGIS Server {call.method} request: service {p.service}, request {p.request}, " ++
    s!"map {call.projectOf p}"⟩

theorem head?_answer (call : Call) (p : Parameters) :
    (call.answer p).events.head? = some (mapOpening call p) := by
  unfold Call.answer
  rfl

theorem head?_replyAt_map (meant : Option String) :
    (c.replyAt r (.map meant)).events.head? =
      some (mapOpening (c.mapCall r meant)
        (MapServer.parametersOf (Http.Query.pairs r.target.query))) := by
  rw [Context.replyAt, Context.mapReply]
  exact head?_ofNarrated (head?_answer _ _)

/-! ## The answer to a request for a map -/

theorem map_opened_iff :
    (∃ meant, (c.enter r (.map name)).events.head? = some (mapOpening (c.mapCall r meant)
        (MapServer.parametersOf (Http.Query.pairs r.target.query)))) ↔
      ¬ WrongLogin c.settings.map.login (sent? r) ∧ TakenByMap r.method ∧
        r.body.length ≤ 2097152 ∧ ∃ meant, Place.Meant name meant := by
  have hlevel : ∀ call p, (mapOpening call p).level ≠ .warn := fun _ _ => nofun
  simp only [head?_enter_iff (hlevel _ _), refusal?_map_eq_none_iff, handles_map,
    exists_and_left]
  refine and_congr_right fun _ => and_congr_right fun _ => ?_
  constructor
  · rintro ⟨_, q, hq, hfits, -⟩
    obtain ⟨meant, hmeant, rfl⟩ := decoded_map_iff.1 hq
    exact ⟨fits_map.1 hfits, meant, hmeant⟩
  · rintro ⟨hbody, meant, hmeant⟩
    exact ⟨meant, _, decoded_map_iff.2 ⟨meant, hmeant, rfl⟩, fits_map.2 hbody,
      head?_replyAt_map meant⟩

theorem enter_map_of_served {meant : Option String}
    (h : ¬ WrongLogin c.settings.map.login (sent? r)) (hm : TakenByMap r.method)
    (hbody : r.body.length ≤ 2097152) (hname : Place.Meant name meant) :
    c.enter r (.map name) = c.replyAt r (.map meant) :=
  enter_of_fits (refusal?_map_eq_none_iff.2 h) (handles_map.2 hm)
    (decoded_map_iff.2 ⟨meant, hname, rfl⟩) (fits_map.2 hbody)

theorem enter_map_of_long_body (h : ¬ WrongLogin c.settings.map.login (sent? r))
    (hm : TakenByMap r.method) (hbody : 2097152 < r.body.length)
    (hname : ∃ meant, Place.Meant name meant) :
    c.enter r (.map name) = Context.longBodyReply := by
  obtain ⟨meant, hmeant⟩ := hname
  exact enter_of_not_fits (refusal?_map_eq_none_iff.2 h) (handles_map.2 hm)
    (decoded_map_iff.2 ⟨meant, hmeant, rfl⟩) (mt fits_map.1 (Nat.not_le.2 hbody))

/-- What a request for a map comes to: the map server is reached, or an exception reports the wrong
login, or the method, the name of the project or the body is at fault. -/
structure AnswerMapPost (c : Context) (name : Option String) (r : Http.Request) (reply : Reply) :
    Prop where
  reached : (∃ meant, reply.events.head? = some (mapOpening (c.mapCall r meant)
      (MapServer.parametersOf (Http.Query.pairs r.target.query)))) ↔
    ¬ WrongLogin c.settings.map.login (sent? r) ∧ TakenByMap r.method ∧
      r.body.length ≤ 2097152 ∧ ∃ meant, Place.Meant name meant
  served : ¬ WrongLogin c.settings.map.login (sent? r) → TakenByMap r.method →
    r.body.length ≤ 2097152 → ∀ meant, Place.Meant name meant → reply =
      (c.replyAt r (.map meant)).completed (some (.map name)) r.method
  longBody : ¬ WrongLogin c.settings.map.login (sent? r) → TakenByMap r.method →
    (∃ meant, Place.Meant name meant) → 2097152 < r.body.length →
      reply.response.status = .payloadTooLarge
  refused : WrongLogin c.settings.map.login (sent? r) →
    ∃ f, c.settings.map.login.verifyIfSent (Context.authorization? r) = .error f ∧
      reply.response.status = .unauthorized ∧
      reply.response.body = if r.method = .head then .empty
        else .bytes (Utf8.encode (exceptionDocument "AuthorizationError" f.message))

theorem answer_map (c : Context) (r : Http.Request) (service : c.service = .mapServer)
    (path : Place.MapPath r.target.path name) (method : r.method ≠ .options) :
    AnswerMapPost c name r (c.answer r) := by
  have hplace : Place.ofPath? c.service r.target.path = some (.map name) := by
    rw [service]
    exact Place.ofPath?_eq_map_iff.2 path
  rw [answer_eq hplace method]
  refine ⟨map_opened_iff, fun h hm hbody meant hname => ?_, fun h hm hname hbody => ?_,
    fun hwrong => ?_⟩
  · rw [enter_map_of_served h hm hbody hname]
  · rw [enter_map_of_long_body h hm hbody hname]
    rfl
  · cases hlogin : c.settings.map.login.verifyIfSent (Context.authorization? r) with
    | ok => exact absurd hwrong (verifyIfSent_eq_ok_iff.1 hlogin)
    | error f =>
      have henter : c.enter r (.map name) = Context.refuseMap f :=
        enter_of_refusal (by rw [refusal?_map, hlogin])
      rw [henter]
      exact ⟨f, rfl, rfl, rfl⟩

theorem answer_map_named :
    let c : Context := ⟨{}, .mapServer, ⟨"", ""⟩⟩
    let r : Http.Request := ⟨.get, ⟨"/qgis/" ++ "data%2Fp.qgs", "SERVICE=WFS"⟩,
      [("authorization", Utf8.encode c.settings.map.login.header)], []⟩
    c.service = .mapServer ∧ Place.MapPath r.target.path (some "data%2Fp.qgs") ∧
      r.method ≠ .options ∧ AnswerMapPost c (some "data%2Fp.qgs") r (c.answer r) :=
  ⟨rfl, .of (by decide), by decide, answer_map _ _ rfl (.of (by decide)) (by decide)⟩

/-- A byte that is no ASCII text hides a wrong login: the request is served. -/
theorem answer_map_unreadable :
    let c : Context := ⟨{}, .mapServer, ⟨"", ""⟩⟩
    let login : List UInt8 := [0xFF]
    let r : Http.Request :=
      ⟨.get, ⟨"/qgis", "SERVICE=WMS&REQUEST=GetProjectSettings"⟩,
        [("authorization", Utf8.encode "Basic " ++ login)], []⟩
    login ≠ Base64.encode (Utf8.encode c.settings.map.login.plain) ∧
      (c.answer r).response.status = .ok ∧ (c.answer r).events ≠ [] := by
  decide +kernel

end MapStandin.Server
