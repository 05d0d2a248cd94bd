import MapStandin.Proofs.DataDownload.Query
import MapStandin.Proofs.MapServer.Collection
import MapStandin.Proofs.Text.Case

/-! # What the map server answers

The answer depends on five parameters, on the first text of each in any case of its name. Whatever
else a request says is only told in the log. -/

namespace MapStandin.MapServer

open Text (SameText capitals capitals_eq_iff)

variable {call call' : Call} {pairs pairs' before after : List (String × String)}
  {name key value : String} {result : Except Fault Http.Response}

/-! ## What a query says -/

/-- The first text under a name, written in any case. -/
def firstText? (pairs : List (String × String)) (name : String) : Option String :=
  (pairs.find? fun p => SameText p.1 name).map Prod.snd

/-- The first text under a name, empty if there is none. -/
def said (pairs : List (String × String)) (name : String) : String :=
  (firstText? pairs name).getD ""

theorem firstText?_eq_lookup (pairs : List (String × String)) (name : String) :
    firstText? pairs name = (pairs.map fun p => (capitals p.1, p.2)).lookup (capitals name) := by
  induction pairs with
  | nil => rfl
  | cons p rest ih =>
    rw [List.map_cons, List.lookup_cons, firstText?, List.find?_cons]
    by_cases h : SameText p.1 name
    · rw [decide_eq_true h, beq_iff_eq.2 (capitals_eq_iff.2 h).symm]
      rfl
    · rw [decide_eq_false h, beq_eq_false_iff_ne.2 (Ne.symm (mt capitals_eq_iff.1 h))]
      exact ih

theorem lookup_parametersOf (hname : capitals name = name) :
    (parametersOf pairs).lookup name = firstText? pairs name := by
  rw [firstText?_eq_lookup, hname]
  exact DataDownload.lookup_firstValues _ _

theorem getD_parametersOf (hname : capitals name = name) (fallback : String) :
    (parametersOf pairs).getD name fallback = (firstText? pairs name).getD fallback := by
  rw [Parameters.getD, lookup_parametersOf hname]

theorem service_parametersOf : (parametersOf pairs).service = capitals (said pairs "SERVICE") := by
  rw [Parameters.service, getD_parametersOf (by decide), said]

theorem request_parametersOf : (parametersOf pairs).request = capitals (said pairs "REQUEST") := by
  rw [Parameters.request, getD_parametersOf (by decide), said]

/-! ## Tasks -/

/-- What a query says under a name is the given word, in any case. -/
def Says (pairs : List (String × String)) (name word : String) : Prop :=
  SameText (said pairs name) word

/-- The task that a query asks for. -/
inductive Asks (pairs : List (String × String)) : Task → Prop
  | settings (service : Says pairs "SERVICE" "WMS")
      (request : Says pairs "REQUEST" "GetProjectSettings") : Asks pairs .settings
  | print (service : Says pairs "SERVICE" "WMS") (request : Says pairs "REQUEST" "GetPrint") :
      Asks pairs .print
  | features (service : Says pairs "SERVICE" "WFS") (request : Says pairs "REQUEST" "GetFeature") :
      Asks pairs .features
  | otherMap (service : Says pairs "SERVICE" "WMS")
      (notSettings : ¬ Says pairs "REQUEST" "GetProjectSettings")
      (notPrint : ¬ Says pairs "REQUEST" "GetPrint") :
      Asks pairs (.unsupported (capitals (said pairs "REQUEST")))
  | otherFeature (service : Says pairs "SERVICE" "WFS")
      (notFeatures : ¬ Says pairs "REQUEST" "GetFeature") :
      Asks pairs (.unsupported (capitals (said pairs "REQUEST")))
  | noService (notMap : ¬ Says pairs "SERVICE" "WMS") (notFeature : ¬ Says pairs "SERVICE" "WFS") :
      Asks pairs .noService

theorem says_service_iff {word : String} (h : capitals word = word) :
    Says pairs "SERVICE" word ↔ (parametersOf pairs).service = word := by
  rw [service_parametersOf, Says, ← capitals_eq_iff, h]

theorem says_request_iff {word capital : String} (h : capitals word = capital) :
    Says pairs "REQUEST" word ↔ (parametersOf pairs).request = capital := by
  rw [request_parametersOf, Says, ← capitals_eq_iff, h]

theorem asks_iff {task : Task} :
    Asks pairs task ↔ taskOf (parametersOf pairs).service (parametersOf pairs).request = task := by
  have hmap : Says pairs "SERVICE" "WMS" ↔ _ := says_service_iff (by decide)
  have hfeature : Says pairs "SERVICE" "WFS" ↔ _ := says_service_iff (by decide)
  have hsettings : Says pairs "REQUEST" "GetProjectSettings" ↔
      (parametersOf pairs).request = "GETPROJECTSETTINGS" := says_request_iff (by decide)
  have hprint : Says pairs "REQUEST" "GetPrint" ↔
      (parametersOf pairs).request = "GETPRINT" := says_request_iff (by decide)
  have hfeatures : Says pairs "REQUEST" "GetFeature" ↔
      (parametersOf pairs).request = "GETFEATURE" := says_request_iff (by decide)
  -- The words for one parameter differ, so at most one of the questions is answered by yes.
  constructor
  · intro h
    unfold taskOf
    cases h with
    | settings service request => rw [if_pos (hmap.1 service), if_pos (hsettings.1 request)]
    | print service request =>
      rw [if_pos (hmap.1 service), if_neg, if_pos (hprint.1 request)]
      rw [hprint.1 request]
      decide
    | features service request =>
      rw [if_neg, if_pos (hfeature.1 service), if_pos (hfeatures.1 request)]
      rw [hfeature.1 service]
      decide
    | otherMap service notSettings notPrint =>
      rw [if_pos (hmap.1 service), if_neg (mt hsettings.2 notSettings),
        if_neg (mt hprint.2 notPrint), request_parametersOf]
    | otherFeature service notFeatures =>
      rw [if_neg, if_pos (hfeature.1 service), if_neg (mt hfeatures.2 notFeatures),
        request_parametersOf]
      rw [hfeature.1 service]
      decide
    | noService notMap notFeature =>
      rw [if_neg (mt hmap.2 notMap), if_neg (mt hfeature.2 notFeature)]
  · rintro rfl
    unfold taskOf
    split_ifs with service settings print service' features
    · exact .settings (hmap.2 service) (hsettings.2 settings)
    · exact .print (hmap.2 service) (hprint.2 print)
    · rw [request_parametersOf]
      exact .otherMap (hmap.2 service) (mt hsettings.1 settings) (mt hprint.1 print)
    · exact .features (hfeature.2 service') (hfeatures.2 features)
    · rw [request_parametersOf]
      exact .otherFeature (hfeature.2 service') (mt hfeatures.1 features)
    · exact .noService (mt hmap.1 service) (mt hfeature.1 service')

/-! ## The answer -/

/-- The result of a query with these pairs: a document, a printed page, or an exception. -/
inductive PairsAnswer (s : MapSettings) (stamp : String) (pairs : List (String × String)) :
    Except Fault Http.Response → Prop
  | settings (asks : Asks pairs .settings) :
      PairsAnswer s stamp pairs (.ok (Call.document (settingsDocument s.template s.layer)))
  | print {key : String} (asks : Asks pairs .print) (sent : firstText? pairs "ATLAS_PK" = some key)
      (notEmpty : key ≠ "") :
      PairsAnswer s stamp pairs (.ok (Http.attachment
        ((firstText? pairs "TEMPLATE").getD s.template ++ "_" ++ stamp ++ ".pdf")
        Http.pdfType (.bytes (Utf8.encode Call.printedPage))))
  | noKey (asks : Asks pairs .print)
      (lacking : firstText? pairs "ATLAS_PK" = none ∨ firstText? pairs "ATLAS_PK" = some "") :
      PairsAnswer s stamp pairs (.error
        ⟨.missingParameter, "ATLAS_PK parameter is required for Atlas printing"⟩)
  | features (asks : Asks pairs .features) :
      PairsAnswer s stamp pairs (.ok (Call.document
        (collectionDocument ((firstText? pairs "TYPENAME").getD s.layer) Call.footprints)))
  | unsupported {request : String} (asks : Asks pairs (.unsupported request)) :
      PairsAnswer s stamp pairs (.error
        ⟨.unsupported, "Request type '" ++ request ++ "' not supported"⟩)
  | noService (asks : Asks pairs .noService) :
      PairsAnswer s stamp pairs (.error ⟨.missingParameter, "SERVICE parameter is required"⟩)

namespace Call

theorem result_answer (c : Call) (p : Parameters) :
    (c.answer p).result = match taskOf p.service p.request with
      | .settings => c.answerSettings.result
      | .print => (c.answerPrint p).result
      | .features => (c.answerFeatures p).result
      | .unsupported request => .error ⟨.unsupported, s!"Request type '{request}' not supported"⟩
      | .noService => .error ⟨.missingParameter, "SERVICE parameter is required"⟩ := by
  unfold answer
  simp only [Narrated.result_bind, Narrated.result_say, Except.bind]
  cases taskOf p.service p.request <;> rfl

theorem result_answerPrint (c : Call) (p : Parameters) :
    (c.answerPrint p).result =
      if p.getD "ATLAS_PK" "" = "" then
        .error ⟨.missingParameter, "ATLAS_PK parameter is required for Atlas printing"⟩
      else .ok (Http.attachment (printName (p.getD "TEMPLATE" c.settings.template) c.stamp)
        Http.pdfType (.bytes (Utf8.encode printedPage))) := by
  unfold answerPrint tellPrint
  split_ifs with h
  · simp [h, Except.bind]
  · simp [h, Except.bind]

end Call

theorem PairsAnswer.result_eq (h : PairsAnswer call.settings call.stamp pairs result) :
    (call.answer (parametersOf pairs)).result = result := by
  rw [Call.result_answer]
  cases h with
  | settings asks =>
    rw [asks_iff.1 asks]
    rfl
  | print asks sent notEmpty =>
    have hkey : (parametersOf pairs).getD "ATLAS_PK" "" ≠ "" := by
      rw [getD_parametersOf (by decide), sent]
      exact notEmpty
    simp only [asks_iff.1 asks, Call.result_answerPrint]
    rw [if_neg hkey, getD_parametersOf (by decide)]
    rfl
  | noKey asks lacking =>
    have hkey : (parametersOf pairs).getD "ATLAS_PK" "" = "" := by
      rw [getD_parametersOf (by decide)]
      rcases lacking with h | h <;> rw [h] <;> rfl
    simp only [asks_iff.1 asks, Call.result_answerPrint]
    rw [if_pos hkey]
  | features asks =>
    simp only [asks_iff.1 asks, Call.answerFeatures_result]
    rw [getD_parametersOf (by decide)]
  | unsupported asks =>
    rw [asks_iff.1 asks]
    rfl
  | noService asks => rw [asks_iff.1 asks]

theorem exists_pairsAnswer (s : MapSettings) (stamp : String) (pairs : List (String × String)) :
    ∃ result, PairsAnswer s stamp pairs result := by
  have hasks : Asks pairs _ := asks_iff.2 rfl
  generalize taskOf (parametersOf pairs).service (parametersOf pairs).request = task at hasks
  cases task with
  | settings => exact ⟨_, .settings hasks⟩
  | print =>
    cases hkey : firstText? pairs "ATLAS_PK" with
    | none => exact ⟨_, .noKey hasks (.inl hkey)⟩
    | some key =>
      by_cases hempty : key = ""
      · exact ⟨_, .noKey hasks (.inr (hempty ▸ hkey))⟩
      · exact ⟨_, .print hasks hkey hempty⟩
  | features => exact ⟨_, .features hasks⟩
  | unsupported request => exact ⟨_, .unsupported hasks⟩
  | noService => exact ⟨_, .noService hasks⟩

/-! ## What does not matter -/

/-- Two queries say the same about a map: of the service and the request in any case, of the other
parameters in the same texts. -/
structure SaysSame (pairs pairs' : List (String × String)) : Prop where
  service : SameText (said pairs "SERVICE") (said pairs' "SERVICE")
  request : SameText (said pairs "REQUEST") (said pairs' "REQUEST")
  texts : ∀ name ∈ ["TYPENAME", "TEMPLATE", "ATLAS_PK"],
    firstText? pairs name = firstText? pairs' name

theorem SaysSame.asks {task : Task} (h : SaysSame pairs pairs') (asks : Asks pairs task) :
    Asks pairs' task := by
  rw [asks_iff, service_parametersOf, request_parametersOf] at asks ⊢
  rwa [← capitals_eq_iff.2 h.service, ← capitals_eq_iff.2 h.request]

theorem SaysSame.answer {s : MapSettings} {stamp : String} (h : SaysSame pairs pairs')
    (answer : PairsAnswer s stamp pairs result) : PairsAnswer s stamp pairs' result := by
  have hkey := h.texts "ATLAS_PK" (by decide)
  cases answer with
  | settings asks => exact .settings (h.asks asks)
  | print asks sent notEmpty =>
    rw [h.texts "TEMPLATE" (by decide)]
    exact .print (h.asks asks) (hkey ▸ sent) notEmpty
  | noKey asks lacking => exact .noKey (h.asks asks) (hkey ▸ lacking)
  | features asks =>
    rw [h.texts "TYPENAME" (by decide)]
    exact .features (h.asks asks)
  | unsupported asks => exact .unsupported (h.asks asks)
  | noService asks => exact .noService (h.asks asks)

theorem SaysSame.result_eq (h : SaysSame pairs pairs') (settings : call'.settings = call.settings)
    (stamp : call'.stamp = call.stamp) :
    (call'.answer (parametersOf pairs')).result = (call.answer (parametersOf pairs)).result := by
  obtain ⟨result, hanswer⟩ := exists_pairsAnswer call.settings call.stamp pairs
  rw [hanswer.result_eq]
  exact PairsAnswer.result_eq (settings.symm ▸ stamp.symm ▸ h.answer hanswer)

/-- The parameters on which an answer depends. -/
def answeredNames : List String := ["SERVICE", "REQUEST", "TYPENAME", "TEMPLATE", "ATLAS_PK"]

theorem saysSame_of_firstText?
    (h : ∀ name ∈ answeredNames, firstText? pairs name = firstText? pairs' name) :
    SaysSame pairs pairs' where
  service := by
    rw [said, h "SERVICE" (by decide)]
    exact .refl _
  request := by
    rw [said, h "REQUEST" (by decide)]
    exact .refl _
  texts name hname := h name (List.mem_cons_of_mem _ (List.mem_cons_of_mem _ hname))

theorem firstText?_recased
    (h : List.Forall₂ (fun p q => SameText p.1 q.1 ∧ p.2 = q.2) pairs pairs') (name : String) :
    firstText? pairs name = firstText? pairs' name := by
  rw [firstText?_eq_lookup, firstText?_eq_lookup]
  congr 1
  induction h with
  | nil => rfl
  | cons hp _ ih => rw [List.map_cons, List.map_cons, ih, capitals_eq_iff.2 hp.1, hp.2]

theorem firstText?_insert
    (h : ¬ SameText key name ∨ ∃ p ∈ before, SameText p.1 key) :
    firstText? (before ++ (key, value) :: after) name = firstText? (before ++ after) name := by
  unfold firstText?
  rw [List.find?_append, List.find?_append, List.find?_cons]
  by_cases hkey : SameText key name
  · -- a pair before the new one has the name already
    obtain ⟨p, hp, hsame⟩ := h.resolve_left (not_not_intro hkey)
    obtain ⟨q, hq⟩ : ∃ q, before.find? (fun p => SameText p.1 name) = some q :=
      Option.isSome_iff_exists.1
        (List.find?_isSome.2 ⟨p, hp, decide_eq_true (hsame.trans hkey)⟩)
    rw [hq]
    rfl
  · rw [decide_eq_false hkey]

theorem firstText?_filter (h : (pairs'.filter fun p => SameText p.1 name) =
    pairs.filter fun p => SameText p.1 name) : firstText? pairs' name = firstText? pairs name := by
  rw [firstText?, firstText?, ← List.head?_filter, ← List.head?_filter, h]

/-- What the answer to a query comes to. The method, the project and the content of the request do
not matter, nor how names are written, nor what follows a name that was there before; pairs under
the five names keep their order, and others may stand anywhere. -/
structure AnswerPairsPost (call : Call) (pairs : List (String × String)) : Prop where
  answer : ∀ result, (call.answer (parametersOf pairs)).result = result ↔
    PairsAnswer call.settings call.stamp pairs result
  sameSaid : ∀ pairs', SaysSame pairs pairs' → ∀ method project body,
    (({ call with method, project, body } : Call).answer (parametersOf pairs')).result =
      (call.answer (parametersOf pairs)).result
  recased : ∀ pairs', List.Forall₂ (fun p q => SameText p.1 q.1 ∧ p.2 = q.2) pairs pairs' →
    (call.answer (parametersOf pairs')).result = (call.answer (parametersOf pairs)).result
  repeated : ∀ before after key value, pairs = before ++ after →
    (∃ p ∈ before, SameText p.1 key) →
    (call.answer (parametersOf (before ++ (key, value) :: after))).result =
      (call.answer (parametersOf pairs)).result
  otherNames : ∀ before after key value, pairs = before ++ after →
    (∀ name ∈ answeredNames, ¬ SameText key name) →
    (call.answer (parametersOf (before ++ (key, value) :: after))).result =
      (call.answer (parametersOf pairs)).result
  anyOrder : ∀ pairs', (∀ name ∈ answeredNames, (pairs'.filter fun p => SameText p.1 name) =
      pairs.filter fun p => SameText p.1 name) →
    (call.answer (parametersOf pairs')).result = (call.answer (parametersOf pairs)).result

theorem answer_pairs (call : Call) (pairs : List (String × String)) :
    AnswerPairsPost call pairs where
  answer result := by
    obtain ⟨result', hanswer⟩ := exists_pairsAnswer call.settings call.stamp pairs
    refine ⟨?_, PairsAnswer.result_eq⟩
    rintro rfl
    rwa [hanswer.result_eq]
  sameSaid pairs' h method project body := h.result_eq rfl rfl
  recased pairs' h :=
    (saysSame_of_firstText? fun name _ => firstText?_recased h name).result_eq rfl rfl
  repeated before after key value := by
    rintro rfl h
    exact (saysSame_of_firstText? fun _ _ => (firstText?_insert (.inr h)).symm).result_eq rfl rfl
  otherNames before after key value := by
    rintro rfl h
    refine SaysSame.result_eq (saysSame_of_firstText? fun name hname => ?_) rfl rfl
    exact (firstText?_insert (.inl (h name hname))).symm
  anyOrder pairs' h :=
    (saysSame_of_firstText? fun name hname => (firstText?_filter (h name hname)).symm).result_eq
      rfl rfl

end MapStandin.MapServer
