import MapStandin.DataDownload.Fault
import MapStandin.Proofs.Json.Written

/-! # Envelopes read back

A client reads from the text of an envelope what was put into it. So it learns from every response
to an outcome whether the job succeeded, and the address of the result or what went wrong. -/

namespace MapStandin.DataDownload

open Json (Takes takes_text takes_optional_text takes_field)

namespace Envelope

/-! ## The text -/

/-- A member that may be absent, as it stands behind another one. -/
def optionalText (name : String) : Option String → List Char
  | none => []
  | some s => ',' :: (Json.quoted name ++ ':' :: Json.quoted s)

/-- The text of an envelope, written out. What is absent leaves nothing behind. -/
def writtenOut (e : Envelope) : List Char :=
  "\x7b\"serviceResponse\":\x7b\"statusInfo\":\x7b\"status\":".toList ++ Json.quoted e.status ++
    optionalText "message" e.message ++ "\x7d".toList ++ optionalText "url" e.url ++
    "\x7d\x7d".toList

theorem toList_render (e : Envelope) : e.render.toList = e.writtenOut := by
  have hopening : "\x7b\"serviceResponse\":\x7b\"statusInfo\":\x7b\"status\":".toList =
      '\x7b' :: (Json.quoted "serviceResponse" ++ ':' :: '\x7b' ::
        (Json.quoted "statusInfo" ++ ':' :: '\x7b' :: (Json.quoted "status" ++ [':']))) := by
    decide
  have hclosing : "\x7d".toList = ['\x7d'] ∧ "\x7d\x7d".toList = ['\x7d', '\x7d'] := by decide
  obtain ⟨status, message, url⟩ := e
  unfold render Json.render writtenOut
  rw [String.toList_ofList, hopening, hclosing.1, hclosing.2]
  cases message <;> cases url <;>
    simp only [toJson, optionalMember, optionalText, Json.chars, Json.memberChars,
      List.append_assoc, List.cons_append, List.nil_append]

/-- A quote, a backslash and a line break are escaped. -/
example : optionalText "message" (some "a\"\\\n") = ",\"message\":\"a\\\"\\\\\\n\"".toList := by
  decide

/-! ## Reading -/

theorem takes_statusRecord (status : String) (message : Option String) :
    Takes statusRecord.read
      (.object (("status", .string status) :: optionalMember "message" message))
      (status, message) := by
  cases message with
  | none => exact Json.Record.takes_object (.field rfl rfl (takes_field (takes_text _) _) .done) rfl
  | some text =>
    exact Json.Record.takes_object
      (.field rfl rfl (takes_field (takes_text _) _)
        (.field rfl rfl (takes_field (takes_optional_text _) _) .done)) rfl

theorem takes_responseRecord (e : Envelope) :
    Takes responseRecord.read
      (.object (("statusInfo",
        .object (("status", .string e.status) :: optionalMember "message" e.message)) ::
          optionalMember "url" e.url)) e := by
  obtain ⟨status, message, url⟩ := e
  have hstatus := takes_statusRecord status message
  cases url with
  | none => exact Json.Record.takes_object (.field rfl rfl (takes_field hstatus _) .done) rfl
  | some address =>
    exact Json.Record.takes_object
      (.field rfl rfl (takes_field hstatus _)
        (.field rfl rfl (takes_field (takes_optional_text _) _) .done)) rfl

theorem parse_render (e : Envelope) : parse (Utf8.encode e.render) = .ok e :=
  Json.Record.parse_written
    (Json.Record.takes_object (.field rfl rfl (takes_field (takes_responseRecord e) _) .done) rfl)

end Envelope

/-! ## Responses to outcomes -/

def addressOf : Outcome → Option String
  | .ok artifact => artifact.map Artifact.reference
  | .error _ => none

def complaintOf : Outcome → Option String
  | .ok _ => none
  | .error .simulated => some "The FME workspace resulted in an error (simulated)"
  | .error (.rejected r) => some r.message

/-- A response whose content is read as an envelope that tells an outcome. -/
structure Tells (response : Http.Response) (o : Outcome) (e : Envelope) : Prop where
  read : ∃ content, response.body = .bytes content ∧ Envelope.parse content = .ok e
  status : e.status = "success" ↔ response.status.code = 200
  url : e.url = addressOf o
  message : e.message = complaintOf o

theorem read_envelopeResponse (status : Http.Status) (e : Envelope) :
    ∃ content, (envelopeResponse status e).body = .bytes content ∧
      Envelope.parse content = .ok e :=
  ⟨_, rfl, e.parse_render⟩

theorem code_statusOf_ne (category : Category) : (statusOf category).code ≠ 200 := by
  cases category <;> decide

theorem rejectionResponse_eq (c : Convention) (r : Rejection) :
    (rejectionResponse c r).status = statusOf r.category ∧
      (rejectionResponse c r).body =
        (envelopeResponse (statusOf r.category) (.failure r.message)).body := by
  unfold rejectionResponse
  simp only
  split <;> exact ⟨rfl, rfl⟩

theorem exists_tells (c : Convention) (o : Outcome) : ∃ e, Tells (outcomeResponse c o) o e := by
  cases o with
  | ok artifact =>
    exact ⟨.success (artifact.map Artifact.reference), read_envelopeResponse _ _,
      ⟨fun _ => rfl, fun _ => rfl⟩, rfl, rfl⟩
  | error failure =>
    cases failure with
    | simulated =>
      exact ⟨.failure simulatedMessage, read_envelopeResponse _ _,
        iff_of_false (by decide : "failure" ≠ "success") (by decide : 500 ≠ 200), rfl, rfl⟩
    | rejected r =>
      obtain ⟨hstatus, hbody⟩ := rejectionResponse_eq c r
      refine ⟨.failure r.message, ?_, ?_, rfl, rfl⟩
      · obtain ⟨content, hcontent, hparse⟩ :=
          read_envelopeResponse (statusOf r.category) (.failure r.message)
        exact ⟨content, hbody.trans hcontent, hparse⟩
      · have hcode : (outcomeResponse c (.error (.rejected r))).status.code ≠ 200 := by
          show (rejectionResponse c r).status.code ≠ 200
          rw [hstatus]
          exact code_statusOf_ne r.category
        exact iff_of_false (by decide : "failure" ≠ "success") hcode

/-- Every envelope is read back from its text, which has no member for what is absent, and every
response to an outcome tells the outcome. -/
theorem envelopes_readBack :
    (∀ e : Envelope,
      e.render.toList = e.writtenOut ∧ Envelope.parse (Utf8.encode e.render) = .ok e) ∧
    ∀ (c : Convention) (o : Outcome), ∃ e, Tells (outcomeResponse c o) o e :=
  ⟨fun e => ⟨e.toList_render, e.parse_render⟩, exists_tells⟩

end MapStandin.DataDownload
