import MapStandin.DataDownload.Envelope
import MapStandin.Http.Content
import MapStandin.Job.Outcome
import MapStandin.Log
import MapStandin.Url.Fault

/-! # Faults of the data download service

Why a request for data gets no job, and the response that says so. -/

namespace MapStandin.DataDownload

/-- Why a request gets no job. -/
inductive Fault
  | missingParameters (names : List String)
  | invalidBody (reason : String)
  | invalidFeature (f : Feature.Fault)
  | rejected (r : Rejection)
  | simulated
  | noAddress (f : Url.Fault)
  deriving DecidableEq, Repr

def statusOf : Category → Http.Status
  | .authentication => .unauthorized
  | .environment => .serverError
  | .structural | .presence | .duplicate | .type => .badRequest

namespace Fault

def ofRejection : Rejection → Fault
  | .missingParameters names => .missingParameters names
  | .invalidFeature f => .invalidFeature f
  | r => .rejected r

def message : Fault → String
  | .missingParameters names => s!"Missing required parameters: {Rejection.listed names}"
  | .invalidBody reason => s!"Invalid JSON body: {reason}"
  | .invalidFeature f => f.message
  | .rejected r => r.message
  | .simulated => "Simulated FME Server error"
  | .noAddress f => s!"Cannot build download URL: {f.message}"

def status : Fault → Http.Status
  | .missingParameters _ | .invalidBody _ | .invalidFeature _ => .badRequest
  | .rejected r => statusOf r.category
  | .simulated | .noAddress _ => .serverError

end Fault

/-! ## Responses -/

def envelopeResponse (status : Http.Status) (e : Envelope) : Http.Response :=
  Http.textResponse status Http.jsonType e.render

def failureResponse (status : Http.Status) (message : String) : Http.Response :=
  envelopeResponse status (.failure message)

def Fault.response (f : Fault) : Http.Response :=
  failureResponse f.status f.message

/-- The event that reports a fault: an error if the service is to blame, else a warning. -/
def Fault.event (f : Fault) : Event :=
  if f.status = .serverError then ⟨.error, s!"FME Server request failed: {f.message}"⟩
  else ⟨.warn, s!"FME Server request rejected: {f.message}"⟩

/-- How clients of the service send their parameters and credentials. -/
inductive Convention
  | query
  | feature
  deriving DecidableEq, Repr

/-- What a client with wrong credentials is asked for. -/
def challenge : Convention → Option String
  | .query => some "Basic realm=\"FME Server\""
  | .feature => none

/-- The response that reports a rejection; where there is a challenge, refused access comes with
it. -/
def rejectionResponse (c : Convention) (r : Rejection) : Http.Response :=
  let response := failureResponse (statusOf r.category) r.message
  match r.category, challenge c with
  | .authentication, some text => response.withHeader "www-authenticate" text
  | _, _ => response

def outcomeResponse (c : Convention) : Outcome → Http.Response
  | .ok artifact => envelopeResponse .ok (.success (artifact.map Artifact.reference))
  | .error .simulated => failureResponse .serverError simulatedMessage
  | .error (.rejected r) => rejectionResponse c r

end MapStandin.DataDownload
