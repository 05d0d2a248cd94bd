import MapStandin.Proofs.DataDownload.Answer

/-! # The answer to a query

Two parameters have to be there. Of every name only the first text counts, and an empty one counts
as none; whatever else the query says does not matter. -/

namespace MapStandin.DataDownload

open Parameter
open Call (queryEntries)
open Server.Context (jobReply)

variable {call : Call} {pairs pairs' : List (String × String)} {name : String}
  {response : Http.Response}

/-! ## First texts -/

theorem lookup_filter_ne {key : String} (h : name ≠ key) :
    (pairs.filter fun p => p.1 != key).lookup name = pairs.lookup name := by
  induction pairs with
  | nil => rfl
  | cons p rest ih =>
    by_cases hp : p.1 = key
    · have hne : (name == p.1) = false := by simpa [hp] using h
      rw [List.filter_cons_of_neg (by simpa using hp), ih, List.lookup_cons, hne]
    · rw [List.filter_cons_of_pos (by simpa using hp), List.lookup_cons, List.lookup_cons, ih]

theorem lookup_firstValues (pairs : List (String × String)) (name : String) :
    (firstValues pairs).lookup name = pairs.lookup name := by
  induction pairs with
  | nil => rfl
  | cons p rest ih =>
    obtain ⟨key, raw⟩ := p
    rw [firstValues, List.lookup_cons, List.lookup_cons]
    cases hname : name == key with
    | true => rfl
    | false => rw [lookup_filter_ne (by simpa using hname), ih]

theorem nodup_firstValues (pairs : List (String × String)) :
    ((firstValues pairs).map Prod.fst).Nodup := by
  induction pairs with
  | nil => exact List.nodup_nil
  | cons p rest ih =>
    rw [firstValues, List.map_cons, List.nodup_cons]
    constructor
    · simp
    · exact ih.sublist (List.filter_sublist.map Prod.fst)

theorem lookup_queryEntries (pairs : List (String × String)) (name : String) :
    (queryEntries pairs).lookup name = (pairs.lookup name).filter (· ≠ "") := by
  have hfirst := nodup_firstValues pairs
  have hentries : ((queryEntries pairs).map Prod.fst).Nodup :=
    hfirst.sublist (List.filter_sublist.map Prod.fst)
  apply Option.ext
  intro raw
  rw [Option.filter_eq_some_iff, ← lookup_firstValues pairs name, lookup_eq_some_iff_mem hfirst,
    lookup_eq_some_iff_mem hentries]
  unfold queryEntries
  rw [List.mem_filter]

/-! ## What is lacking -/

/-- The required parameters whose first text is absent or empty. -/
def lackedNames (pairs : List (String × String)) : List String :=
  ["Product", "FolderOut"].filter fun name => (pairs.lookup name).getD "" = ""

theorem mem_names_queryEntries :
    name ∈ (queryEntries pairs).map Prod.fst ↔ (pairs.lookup name).getD "" ≠ "" := by
  have hlookup := lookup_queryEntries pairs name
  constructor
  · intro hmem hempty
    refine not_mem_names_of_lookup ?_ hmem
    rw [hlookup, Option.filter_eq_none_iff]
    intro raw hraw
    rw [hraw, Option.getD_some] at hempty
    simp [hempty]
  · intro hne
    cases hraw : pairs.lookup name with
    | none => exact absurd (by rw [hraw, Option.getD_none]) hne
    | some raw =>
      rw [hraw, Option.getD_some] at hne
      rw [hraw, Option.filter_some_pos (by simpa using hne)] at hlookup
      exact mem_names_of_lookup hlookup

theorem missingFrom_queryEntries (pairs : List (String × String)) :
    serverQuery.missingFrom ((queryEntries pairs).map Prod.fst) = lackedNames pairs := by
  show ["Product", "FolderOut"].filter _ = ["Product", "FolderOut"].filter _
  apply List.filter_congr
  intro name _
  rw [List.contains_eq_mem, ← decide_not]
  exact decide_eq_decide.2 (by rw [mem_names_queryEntries, not_not])

/-- No text that is there can be refused: the empty ones are left out before. -/
theorem exists_request_of_complete (h : lackedNames pairs = []) :
    ∃ request, serverQuery.readMapping (queryEntries pairs) = .ok request := by
  apply exists_request
  · rw [missingFrom_queryEntries, h]
  · intro spec hspec raw hraw
    rw [lookup_queryEntries, Option.filter_eq_some_iff] at hraw
    have hkind : spec.kind = .nonEmpty := by
      simp only [serverQuery, List.mem_cons, List.not_mem_nil, or_false] at hspec
      rcases hspec with rfl | rfl <;> rfl
    have hne : raw ≠ "" := by simpa using hraw.2
    simp [hkind, Kind.accepts, Kind.read?, hne]

theorem readMapping_of_lacked (h : lackedNames pairs ≠ []) :
    serverQuery.readMapping (queryEntries pairs) =
      .error (.missingParameters (lackedNames pairs)) := by
  unfold Schema.readMapping
  rw [missingFrom_queryEntries]
  split
  · contradiction
  · rfl

/-! ## The answer -/

inductive QueryAnswer (call : Call) (pairs : List (String × String)) : Http.Response → Prop
  | lacking (lacked : lackedNames pairs ≠ []) :
      QueryAnswer call pairs (failureResponse .badRequest
        ("Missing required parameters: " ++ ", ".intercalate (lackedNames pairs)))
  | published {response : Http.Response} (complete : lackedNames pairs = [])
      (published : Published call "v1" response) : QueryAnswer call pairs response

theorem result_answerQuery (call : Call) (pairs : List (String × String)) :
    (call.answerQuery pairs).result =
      ((serverQuery.readMapping (queryEntries pairs)).mapError .ofRejection).bind
        fun _ => (call.publish .query "v1").result := by
  unfold Call.answerQuery Call.tellWorkspace
  simp only [Narrated.result_bind, Narrated.result_say, Narrated.result_of, Narrated.result_sayAll]
  rfl

theorem QueryAnswer.response_eq (h : QueryAnswer call pairs response) :
    (jobReply (call.answerQuery pairs)).response = response := by
  rw [response_jobReply, result_answerQuery]
  cases h with
  | lacking lacked =>
    rw [readMapping_of_lacked lacked]
    rfl
  | published complete published =>
    obtain ⟨request, hrequest⟩ := exists_request_of_complete complete
    have hpublish := published.response_eq .query
    rw [response_jobReply] at hpublish
    rw [hrequest]
    exact hpublish

theorem exists_queryAnswer (call : Call) (pairs : List (String × String)) :
    ∃ response, QueryAnswer call pairs response := by
  by_cases lacked : lackedNames pairs = []
  · obtain ⟨response, published⟩ := exists_published call "v1"
    exact ⟨response, .published lacked published⟩
  · exact ⟨_, .lacking lacked⟩

/-! ## What does not matter -/

theorem response_answerQuery_congr
    (h : ∀ name ∈ ["Product", "FolderOut"], pairs'.lookup name = pairs.lookup name) :
    (jobReply (call.answerQuery pairs')).response =
      (jobReply (call.answerQuery pairs)).response := by
  have hlacked : lackedNames pairs' = lackedNames pairs := by
    unfold lackedNames
    apply List.filter_congr
    intro name hname
    rw [h name hname]
  obtain ⟨response, hanswer⟩ := exists_queryAnswer call pairs
  have hanswer' : QueryAnswer call pairs' response := by
    cases hanswer with
    | lacking lacked => exact hlacked ▸ .lacking (hlacked ▸ lacked)
    | published complete published => exact .published (hlacked.trans complete) published
  rw [hanswer.response_eq, hanswer'.response_eq]

theorem lookup_insert {before after : List (String × String)} {key raw : String}
    (h : name ≠ key ∨ key ∈ before.map Prod.fst) :
    (before ++ (key, raw) :: after).lookup name = (before ++ after).lookup name := by
  rw [List.lookup_append, List.lookup_append, List.lookup_cons]
  by_cases hname : name = key
  · subst hname
    have hmem : name ∈ before.map Prod.fst := h.resolve_left (· rfl)
    cases hlookup : before.lookup name with
    | none => exact absurd hmem (not_mem_names_of_lookup hlookup)
    | some first => rfl
  · rw [beq_eq_false_iff_ne.2 hname]

theorem lookup_eq_head?_filter (pairs : List (String × String)) (name : String) :
    pairs.lookup name = (pairs.filter fun p => p.1 = name).head?.map Prod.snd := by
  induction pairs with
  | nil => rfl
  | cons p rest ih =>
    rw [List.lookup_cons]
    by_cases hp : p.1 = name
    · rw [List.filter_cons_of_pos (by simpa using hp), beq_iff_eq.2 hp.symm]
      rfl
    · rw [List.filter_cons_of_neg (by simpa using hp), beq_eq_false_iff_ne.2 (Ne.symm hp), ih]

structure AnswerQueryPost (call : Call) (pairs : List (String × String)) : Prop where
  answer : ∀ response,
    (jobReply (call.answerQuery pairs)).response = response ↔ QueryAnswer call pairs response
  neverInvalid : ∀ key message,
    serverQuery.readMapping (queryEntries pairs) ≠ .error (.invalidValue key message)
  otherKeys : ∀ before after key raw, pairs = before ++ after → key ∉ ["Product", "FolderOut"] →
    (jobReply (call.answerQuery (before ++ (key, raw) :: after))).response =
      (jobReply (call.answerQuery pairs)).response
  laterPairs : ∀ before after key raw, pairs = before ++ after → key ∈ before.map Prod.fst →
    (jobReply (call.answerQuery (before ++ (key, raw) :: after))).response =
      (jobReply (call.answerQuery pairs)).response
  anyOrder : ∀ pairs', (∀ key : String,
      pairs'.filter (fun p => p.1 = key) = pairs.filter fun p => p.1 = key) →
    (jobReply (call.answerQuery pairs')).response = (jobReply (call.answerQuery pairs)).response

theorem answerQuery_spec (c : Server.Context) (r : Http.Request) (workspace : Option String)
    (pairs : List (String × String)) :
    AnswerQueryPost (c.downloadCall r workspace) pairs where
  answer response := by
    obtain ⟨response', hanswer⟩ := exists_queryAnswer (c.downloadCall r workspace) pairs
    refine ⟨?_, QueryAnswer.response_eq⟩
    rintro rfl
    rwa [hanswer.response_eq]
  neverInvalid key message := by
    by_cases lacked : lackedNames pairs = []
    · obtain ⟨request, hrequest⟩ := exists_request_of_complete lacked
      rw [hrequest]
      exact nofun
    · rw [readMapping_of_lacked lacked]
      exact nofun
  otherKeys before after key raw := by
    rintro rfl hkey
    refine response_answerQuery_congr fun name hname => lookup_insert (.inl ?_)
    rintro rfl
    exact hkey hname
  laterPairs before after key raw := by
    rintro rfl hkey
    exact response_answerQuery_congr fun name _ => lookup_insert (.inr hkey)
  anyOrder pairs' hfilter := by
    refine response_answerQuery_congr fun name _ => ?_
    rw [lookup_eq_head?_filter, lookup_eq_head?_filter, hfilter]

end MapStandin.DataDownload
