import MapStandin.Server.Answer
import MapStandin.Proofs.Job.Result
import MapStandin.Proofs.Parameter.Properties

/-! # The answer to a posted feature

The body has to be JSON, then a feature with the required properties; only then is an address built
and the workspace asked how the job turns out. The query is looked at for the log only. -/

namespace MapStandin.DataDownload

open Parameter
open Server.Context (jobReply)

variable {call : Call} {version : String} {response : Http.Response}

theorem response_jobReply (x : Narrated Fault Http.Response) :
    (jobReply x).response =
      match x.result with
      | .ok response => response
      | .error f => f.response := by
  unfold jobReply Server.Reply.ofNarrated
  cases x.result <;> rfl

/-! ## Publishing -/

/-- The response to a sound request, whose result lies in the folder of a version. -/
inductive Published (call : Call) (version : String) : Http.Response → Prop
  | noAddress {f : Url.Fault}
      (address : resultAddress call.settings.baseUrl call.host version call.stamp = .error f) :
      Published call version
        (failureResponse .serverError ("Cannot build download URL: " ++ f.message))
  | simulated {url : String}
      (address : resultAddress call.settings.baseUrl call.host version call.stamp = .ok url)
      (fails : call.workspace.EndsIn "_fails") :
      Published call version
        (failureResponse .serverError "The FME workspace resulted in an error (simulated)")
  | success {url : String}
      (address : resultAddress call.settings.baseUrl call.host version call.stamp = .ok url)
      (succeeds : ¬ call.workspace.EndsIn "_fails") :
      Published call version (envelopeResponse .ok (.success (some url)))

theorem Published.response_eq (h : Published call version response) (convention : Convention) :
    (jobReply (call.publish convention version)).response = response := by
  rw [response_jobReply]
  unfold Call.publish Call.address
  cases h with
  | noAddress address =>
    simp only [address, Narrated.result_bind, Narrated.result_of, Except.mapError, Except.bind]
    rfl
  | simulated address fails =>
    simp only [address, Narrated.result_bind, Narrated.result_of, Except.mapError, Except.bind,
      Narrated.result_settled, Standin.result_publish, if_pos fails]
    rfl
  | success address succeeds =>
    simp only [address, Narrated.result_bind, Narrated.result_of, Except.mapError, Except.bind,
      Narrated.result_settled, Standin.result_publish, if_neg succeeds]
    rfl

theorem exists_published (call : Call) (version : String) :
    ∃ response, Published call version response := by
  cases address : resultAddress call.settings.baseUrl call.host version call.stamp with
  | error f => exact ⟨_, .noAddress address⟩
  | ok url =>
    by_cases fails : call.workspace.EndsIn "_fails"
    · exact ⟨_, .simulated address fails⟩
    · exact ⟨_, .success address fails⟩

/-! ## A feature in the body -/

theorem exists_request_of_feature {document : Json} {feature : Feature}
    (h : Feature.ofJson ["FolderOut", "Parameters"] document = .ok feature) :
    ∃ request, serverProperties.readMapping feature.entries = .ok request := by
  refine exists_request (missingFrom_of_feature h) ?_
  intro spec hspec raw _
  simp only [serverProperties, List.mem_cons, List.not_mem_nil, or_false] at hspec
  rcases hspec with rfl | rfl <;> rfl

/-- The response to a body that may hold a feature. -/
inductive FeatureAnswer (call : Call) (body : List UInt8) : Http.Response → Prop
  | notJson {reason : String} (json : Json.parse body = .error reason) :
      FeatureAnswer call body (failureResponse .badRequest ("Invalid JSON body: " ++ reason))
  | notFeature {document : Json} {f : Feature.Fault} (json : Json.parse body = .ok document)
      (feature : Feature.ofJson ["FolderOut", "Parameters"] document = .error f) :
      FeatureAnswer call body (failureResponse .badRequest f.message)
  | published {document : Json} {feature : Feature} {response : Http.Response}
      (json : Json.parse body = .ok document)
      (feature : Feature.ofJson ["FolderOut", "Parameters"] document = .ok feature)
      (published : Published call "v2" response) : FeatureAnswer call body response

theorem result_tellFeature {ε : Type} (f : Feature) :
    (Call.tellFeature f : Narrated ε Unit).result = .ok () := by
  unfold Call.tellFeature
  cases f.geometryKind <;> rfl

theorem result_answerFeature (call : Call) (pairs : List (String × String)) (body : List UInt8) :
    (call.answerFeature pairs body).result =
      ((Json.parse body).mapError .invalidBody).bind fun document =>
        ((Feature.ofJson ["FolderOut", "Parameters"] document).mapError .invalidFeature).bind
          fun feature => ((serverProperties.readMapping feature.entries).mapError .ofRejection).bind
            fun _ => (call.publish .feature "v2").result := by
  unfold Call.answerFeature Call.tellWorkspace
  split
  all_goals
    simp only [Narrated.result_bind, Narrated.result_say, Narrated.result_of, result_tellFeature]
    rfl

theorem FeatureAnswer.response_eq {body : List UInt8} (h : FeatureAnswer call body response)
    (pairs : List (String × String)) :
    (jobReply (call.answerFeature pairs body)).response = response := by
  rw [response_jobReply, result_answerFeature]
  cases h with
  | notJson json =>
    rw [json]
    rfl
  | notFeature json feature =>
    rw [json]
    simp only [Except.mapError, Except.bind, feature]
    rfl
  | published json feature published =>
    obtain ⟨request, hrequest⟩ := exists_request_of_feature feature
    have hpublish := published.response_eq .feature
    rw [response_jobReply] at hpublish
    rw [json]
    simp only [Except.mapError, Except.bind, feature, hrequest]
    exact hpublish

theorem exists_featureAnswer (call : Call) (body : List UInt8) :
    ∃ response, FeatureAnswer call body response := by
  cases json : Json.parse body with
  | error reason => exact ⟨_, .notJson json⟩
  | ok document =>
    cases feature : Feature.ofJson ["FolderOut", "Parameters"] document with
    | error f => exact ⟨_, .notFeature json feature⟩
    | ok f =>
      obtain ⟨response, published⟩ := exists_published call "v2"
      exact ⟨response, .published json feature published⟩

structure AnswerFeaturePost (call : Call) (pairs : List (String × String)) (body : List UInt8) :
    Prop where
  answer : ∀ response,
    (jobReply (call.answerFeature pairs body)).response = response ↔
      FeatureAnswer call body response
  secondCheck : ∀ document feature, Json.parse body = .ok document →
    Feature.ofJson ["FolderOut", "Parameters"] document = .ok feature →
      ∃ request, serverProperties.readMapping feature.entries = .ok request
  anyQuery : ∀ pairs', (jobReply (call.answerFeature pairs' body)).response =
    (jobReply (call.answerFeature pairs body)).response

theorem answerFeature_spec (c : Server.Context) (r : Http.Request) (workspace : Option String)
    (pairs : List (String × String)) (body : List UInt8) :
    AnswerFeaturePost (c.downloadCall r workspace) pairs body where
  answer response := by
    obtain ⟨response', hanswer⟩ := exists_featureAnswer (c.downloadCall r workspace) body
    refine ⟨?_, fun h => h.response_eq pairs⟩
    rintro rfl
    rwa [hanswer.response_eq pairs]
  secondCheck _ _ _ feature := exists_request_of_feature feature
  anyQuery pairs' := by
    obtain ⟨response, hanswer⟩ := exists_featureAnswer (c.downloadCall r workspace) body
    rw [hanswer.response_eq pairs, hanswer.response_eq pairs']

end MapStandin.DataDownload
