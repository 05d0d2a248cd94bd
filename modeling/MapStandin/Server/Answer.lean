import MapStandin.DataDownload.Result
import MapStandin.DataDownload.Service
import MapStandin.MapServer.Service
import MapStandin.Server.Place

/-! # Answering requests

From a request to a response: the place at its path, the credentials that the place needs, and the
service that answers there. Pages of other origins may ask whatever they like. -/

namespace MapStandin.Server

structure Reply where
  response : Http.Response
  events : List Event

def Reply.of (response : Http.Response) : Reply := ⟨response, []⟩

/-- The reply that a narrated answer comes to; `report` gives the response and the event of a
fault. -/
def Reply.ofNarrated (report : ε → Http.Response × Event) (x : Narrated ε Http.Response) : Reply :=
  match x.result with
  | .ok response => ⟨response, x.events⟩
  | .error e => ⟨(report e).1, x.events ++ [(report e).2]⟩

/-- The time of an answer: as it stands in file names, and in full. -/
structure Moment where
  stamp : String
  time : String
  deriving DecidableEq, Repr

/-- What a reply depends on besides the request. -/
structure Context where
  settings : Settings
  service : Service
  now : Moment

namespace Context

/-! ## Credentials -/

def authorization? (r : Http.Request) : Option String := r.header? "authorization"

def refuseJob (c : DataDownload.Convention) (f : Access.Fault) : Reply :=
  ⟨DataDownload.rejectionResponse c f.rejection,
    [⟨.warn, s!"Authentication failed: {f.message}"⟩]⟩

def refuseMap (f : Access.Fault) : Reply :=
  let fault : MapServer.Fault := ⟨.authorization, f.message⟩
  ⟨fault.response, [fault.event]⟩

/-- The refusal of a request that does not have the credentials that a place needs. -/
def refusal? (c : Context) (p : Place) (r : Http.Request) : Option Reply :=
  let sent := authorization? r
  match p with
  | .queryJob _ =>
    match c.settings.download.login.verify sent with
    | .error f => some (refuseJob .query f)
    | .ok () => none
  | .featureJob _ =>
    match c.settings.download.tokens.verify sent with
    | .error f => some (refuseJob .feature f)
    | .ok () => none
  | .map _ =>
    match c.settings.map.login.verifyIfSent sent with
    | .error f => some (refuseMap f)
    | .ok () => none
  | .trouble | .resultFile _ _ | .health => none

/-! ## Services -/

def downloadCall (c : Context) (r : Http.Request) (workspace : Option String) :
    DataDownload.Call where
  settings := c.settings
  host := r.header? "host"
  workspace := ⟨workspace.getD ""⟩
  stamp := c.now.stamp

def mapCall (c : Context) (r : Http.Request) (project : Option String) : MapServer.Call where
  settings := c.settings.map
  method := r.method.name
  project := project
  body := r.body
  stamp := c.now.stamp

def jobReply : Narrated DataDownload.Fault Http.Response → Reply :=
  Reply.ofNarrated fun f => (f.response, f.event)

def mapReply : Narrated MapServer.Fault Http.Response → Reply :=
  Reply.ofNarrated fun f => (f.response, f.event)

def resultReply (c : Context) (version filename : String) : Reply :=
  ⟨DataDownload.resultResponse version filename c.now.time,
    [⟨.info, s!"Download request: version {version}, file {filename}"⟩]⟩

def healthReport (service : Service) : Json :=
  .object [("status", .string "healthy"), ("service", .string service.title)]

/-- The reply of the service at a place, whose names are decoded. -/
def replyAt (c : Context) (r : Http.Request) : Place → Reply
  | .queryJob workspace =>
    jobReply ((c.downloadCall r workspace).answerQuery (Http.Query.pairs r.target.query))
  | .featureJob workspace =>
    jobReply ((c.downloadCall r workspace).answerFeature (Http.Query.pairs r.target.query) r.body)
  | .trouble => jobReply (Narrated.fail .simulated)
  | .resultFile version filename => c.resultReply version filename
  | .map project =>
    mapReply ((c.mapCall r project).answer
      (MapServer.parametersOf (Http.Query.pairs r.target.query)))
  | .health => .of (Http.textResponse .ok Http.jsonType (healthReport c.service).render)

def undecodedReply (label : String) : Reply :=
  .of (Http.textResponse .badRequest Http.textType
    ("Invalid URL: Invalid UTF-8 in `" ++ label ++ "`"))

def longBodyReply : Reply :=
  .of (Http.textResponse .payloadTooLarge Http.textType
    "Failed to buffer the request body: length limit exceeded")

/-- The reply to a request for a place: first the credentials are looked at, then the method, then
the names in the path, then the length of the body. -/
def enter (c : Context) (r : Http.Request) (p : Place) : Reply :=
  match c.refusal? p r with
  | some reply => reply
  | none =>
    if p.handles r.method then
      match p.decoded with
      | .ok p => if p.fits r.body then c.replyAt r p else longBodyReply
      | .error label => undecodedReply label
    else .of (.bare .methodNotAllowed)

/-! ## Pages of other origins -/

def originHeaders : List (String × String) :=
  [("access-control-allow-origin", "*"),
    ("vary", "origin, access-control-request-method, access-control-request-headers")]

def optionsResponse : Http.Response :=
  ⟨.ok, [("access-control-allow-methods", "*"), ("access-control-allow-headers", "*")], .empty⟩

/-- The reply to a request before the last headers are set. -/
def replyTo (c : Context) (r : Http.Request) (place : Option Place) : Reply :=
  if r.method = .options then .of optionsResponse
  else match place with
    | some p => c.enter r p
    | none => .of (.bare .notFound)

/-- The header that names the methods of a place, for a method that it does not handle. -/
def allowHeader (place : Option Place) (m : Http.Method) : List (String × String) :=
  match place with
  | some p => if p.handles m then [] else [("allow", p.methodText)]
  | none => []

/-- Answers a request. The response to `HEAD` has no content. -/
def answer (c : Context) (r : Http.Request) : Reply :=
  let place := Place.ofPath? c.service r.target.path
  let reply := c.replyTo r place
  let response := reply.response
  { reply with response := {
      status := response.status
      headers := response.headers ++ allowHeader place r.method ++ originHeaders
      body := if r.method = .head then .empty else response.body } }

end Context

end MapStandin.Server
