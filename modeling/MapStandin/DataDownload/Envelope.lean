import MapStandin.Json.Record

/-! # Envelopes

The JSON document in which the data download service answers: a status, a message for a failure and
the address of the result for a success. -/

namespace MapStandin.DataDownload

structure Envelope where
  status : String
  message : Option String
  url : Option String
  deriving DecidableEq, Repr

namespace Envelope

def successStatus : String := "success"

def failureStatus : String := "failure"

def success (url : Option String) : Envelope := ⟨successStatus, none, url⟩

def failure (message : String) : Envelope := ⟨failureStatus, some message, none⟩

/-! ## Writing -/

/-- The member of a text that may be absent. -/
def optionalMember (name : String) : Option String → List (String × Json)
  | some s => [(name, .string s)]
  | none => []

/-- The JSON value of an envelope; what is absent has no member. -/
def toJson (e : Envelope) : Json :=
  .object [("serviceResponse", .object
    (("statusInfo", .object (("status", .string e.status) :: optionalMember "message" e.message)) ::
      optionalMember "url" e.url))]

def render (e : Envelope) : String := e.toJson.render

/-! ## Reading -/

structure StatusDraft where
  status : Option String
  message : Option (Option String)

def statusRecord : Json.Record StatusDraft (String × Option String) where
  title := "struct StatusInfo"
  fields := [
    .of "status" StatusDraft.status (fun d s => { d with status := some s }) Json.text,
    .of "message" StatusDraft.message (fun d m => { d with message := some m })
      (Json.optional Json.text)]
  blank := ⟨none, none⟩
  finish d := match d.status with
    | some s => .ok (s, d.message.join)
    | none => .error "status"

structure ResponseDraft where
  info : Option (String × Option String)
  url : Option (Option String)

def responseRecord : Json.Record ResponseDraft Envelope where
  title := "struct ServiceResponse"
  fields := [
    .of "statusInfo" ResponseDraft.info (fun d i => { d with info := some i }) statusRecord.read,
    .of "url" ResponseDraft.url (fun d u => { d with url := some u }) (Json.optional Json.text)]
  blank := ⟨none, none⟩
  finish d := match d.info with
    | some (status, message) => .ok ⟨status, message, d.url.join⟩
    | none => .error "statusInfo"

def record : Json.Record (Option Envelope) Envelope where
  title := "struct Envelope"
  fields := [.of "serviceResponse" id (fun _ e => some e) responseRecord.read]
  blank := none
  finish d := match d with
    | some e => .ok e
    | none => .error "serviceResponse"

def parse (input : List UInt8) : Except String Envelope := record.parse input

end Envelope

end MapStandin.DataDownload
