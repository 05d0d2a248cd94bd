import MapStandin.Proofs.DataDownload.Query
import MapStandin.Proofs.Feature.Shown
import MapStandin.Proofs.Log

/-! # The log of the data download service

The service tells the parameters that it knows, each after the cut, and of the others the names at
most. Requests that are shown alike leave the same log. -/

namespace MapStandin.DataDownload

open Parameter
open Call (queryEntries asksForJson)
open Narrated (Matches SameTale)
open Server.Context (jobReply)

variable {call : Call} {pairs pairs' : List (String × String)} {name raw : String}
  {document document' : Json} {feature feature' : Feature}

theorem toldLine_eq (name : String) (value : Option String) :
    toldLine name value = s!"  {name}: " ++ (value.map shown).getD (shown absentText) := by
  cases value <;> rfl

theorem events_jobReply {E : Fault → Fault → Prop} {R : Http.Response → Http.Response → Prop}
    {x x' : Narrated Fault Http.Response} (h : SameTale E R x x')
    (fault : ∀ f f', E f f' → f'.event = f.event) :
    (jobReply x').events = (jobReply x).events := by
  obtain ⟨hevents, hresult⟩ := h
  obtain ⟨result, events⟩ := x
  obtain ⟨result', events'⟩ := x'
  obtain rfl : events' = events := hevents
  cases hresult with
  | error together => exact congrArg (events' ++ [·]) (fault _ _ together)
  | ok => rfl

theorem mem_jobReply {x : Narrated Fault Http.Response} {e : Event} (h : e ∈ x.events) :
    e ∈ (jobReply x).events := by
  unfold jobReply Server.Reply.ofNarrated
  split
  · exact h
  · exact List.mem_append_left _ h

/-! ## Queries -/

/-- Queries that have the same first text, after the cut, for each name that is told. -/
def SameQuery (pairs pairs' : List (String × String)) : Prop :=
  ∀ name ∈ toldQueryNames, (pairs'.lookup name).map shown = (pairs.lookup name).map shown

theorem shown_queryEntries (pairs : List (String × String)) (name : String) :
    ((queryEntries pairs).lookup name).map shown =
      ((pairs.lookup name).map shown).filter (· ≠ "") := by
  rw [lookup_queryEntries]
  cases pairs.lookup name with
  | none => rfl
  | some raw => by_cases hraw : raw = "" <;> simp [hraw, shown_eq_empty_iff, Option.filter]

theorem SameQuery.entries (same : SameQuery pairs pairs') (h : name ∈ toldQueryNames) :
    ((queryEntries pairs').lookup name).map shown =
      ((queryEntries pairs).lookup name).map shown := by
  rw [shown_queryEntries, shown_queryEntries, same name h]

theorem SameQuery.present (same : SameQuery pairs pairs') (h : name ∈ toldQueryNames) :
    name ∈ (queryEntries pairs').map Prod.fst ↔ name ∈ (queryEntries pairs).map Prod.fst := by
  have hshown := same name h
  rw [mem_names_queryEntries, mem_names_queryEntries]
  cases hraw : pairs.lookup name with
  | none =>
    cases hraw' : pairs'.lookup name with
    | none => rfl
    | some raw' =>
      rw [hraw, hraw'] at hshown
      cases hshown
  | some raw =>
    cases hraw' : pairs'.lookup name with
    | none =>
      rw [hraw, hraw'] at hshown
      cases hshown
    | some raw' =>
      rw [hraw, hraw'] at hshown
      rw [Option.getD_some, Option.getD_some, ne_eq, ne_eq, ← shown_eq_empty_iff,
        Option.some.inj hshown, shown_eq_empty_iff]

theorem readMapping_query_alike (same : SameQuery pairs pairs') :
    Matches Eq (fun request request' => request'.size = request.size)
      (serverQuery.readMapping (queryEntries pairs))
      (serverQuery.readMapping (queryEntries pairs')) := by
  have hlacked : lackedNames pairs' = lackedNames pairs := by
    rw [← missingFrom_queryEntries, ← missingFrom_queryEntries]
    apply List.filter_congr
    intro name hname
    have htold : name ∈ toldQueryNames := by revert name; decide
    simp [same.present htold]
  by_cases lacked : lackedNames pairs = []
  · obtain ⟨request, hread⟩ := exists_request_of_complete lacked
    obtain ⟨request', hread'⟩ := exists_request_of_complete (hlacked.trans lacked)
    have hnames : request'.values.map Prod.fst = request.values.map Prod.fst := by
      rw [names_of_readMapping hread, names_of_readMapping hread']
      apply List.filter_congr
      intro name hname
      have htold : name ∈ toldQueryNames := by revert name; decide
      simp [same.present htold]
    rw [hread, hread']
    refine .ok ?_
    simpa [Request.size] using congrArg List.length hnames
  · rw [readMapping_of_lacked lacked, readMapping_of_lacked (hlacked ▸ lacked), hlacked]
    exact .error rfl

theorem answerQuery_alike (same : SameQuery pairs pairs') :
    SameTale Eq Eq (call.answerQuery pairs) (call.answerQuery pairs') := by
  unfold Call.answerQuery
  refine .bind (.say .info rfl) fun _ _ _ => ?_
  refine .bind (.of ((readMapping_query_alike same).mapError fun _ _ => congrArg _)) ?_
  intro request request' hsize
  refine .bind (.say .debug (by rw [hsize])) fun _ _ _ => ?_
  refine .bind (.say .info rfl) fun _ _ _ => ?_
  refine .bind (.sayAll .info ?_) fun _ _ _ => .refl _
  apply List.map_congr_left
  intro name hname
  rw [toldLine_eq, toldLine_eq, same.entries hname]

/-! ## Features -/

/-- Bodies that are the same, or that hold documents that are shown alike. -/
inductive SameBody : List UInt8 → List UInt8 → Prop
  | refl (body : List UInt8) : SameBody body body
  | shown {body body' : List UInt8} {document document' : Json}
      (json : Json.parse body = .ok document) (json' : Json.parse body' = .ok document')
      (alike : Feature.ShownAlike document document') : SameBody body body'

theorem tellFeature_alike {ε ε' : Type} {F : ε → ε' → Prop}
    (same : Feature.SameShown feature feature') :
    SameTale F Eq (Call.tellFeature feature) (Call.tellFeature feature') := by
  unfold Call.tellFeature Feature.geometryKind
  rw [same.geometry]
  cases feature.geometry
  all_goals
    refine .bind (.say .info rfl) fun _ _ _ => ?_
    refine .bind (.say .info rfl) fun _ _ _ => ?_
    refine .bind (.sayAll .info ?_) fun _ _ _ => ?_
    · simp only [toldLine_eq, same.lookup]
    · exact .sayAll .debug (same.filtered (fun name => !toldPropertyNames.contains name)
        fun name => s!"Ignoring legacy property {name}")

theorem SameBody.parsed {body body' : List UInt8} (same : SameBody body body') :
    Matches Eq Feature.ShownAlike (Json.parse body) (Json.parse body') := by
  cases same with
  | refl =>
    cases Json.parse body with
    | error reason => exact .error rfl
    | ok document => exact .ok (.refl document)
  | shown json json' alike =>
    rw [json, json']
    exact .ok alike

theorem answerFeature_alike {body body' : List UInt8}
    (asks : asksForJson pairs' = asksForJson pairs) (same : SameBody body body') :
    SameTale Eq Eq (call.answerFeature pairs body) (call.answerFeature pairs' body') := by
  unfold Call.answerFeature
  rw [asks]
  refine .bind (.say .info rfl) fun _ _ _ => ?_
  cases asksForJson pairs
  -- Without the format there is a warning in front; the rest is the same.
  on_goal 1 => refine .bind (.say .warn rfl) fun _ _ _ => ?_
  all_goals
    refine .bind (.of (same.parsed.mapError fun _ _ => congrArg _)) ?_
    intro document document' halike
    refine .bind (.of ((Feature.ofJson_alike halike _).known.mapError fun _ _ => congrArg _)) ?_
    rintro feature feature' ⟨⟨hshown, -, -⟩, hread, hread'⟩
    obtain ⟨request, hrequest⟩ := exists_request_of_feature hread
    obtain ⟨request', hrequest'⟩ := exists_request_of_feature hread'
    rw [hrequest, hrequest']
    simp only [Except.mapError, Narrated.of_ok_bind]
    exact .bind (tellFeature_alike hshown) fun _ _ _ => .refl _

/-! ## What is told -/

theorem mem_answerQuery (complete : lackedNames pairs = []) (told : name ∈ toldQueryNames)
    (h : pairs.lookup name = some raw) (long : 100 < raw.toList.length) :
    (⟨.info, s!"  {name}: " ++ (String.ofList (raw.toList.take 100) ++ "...")⟩ : Event) ∈
      (call.answerQuery pairs).events := by
  obtain ⟨request, hread⟩ := exists_request_of_complete complete
  have hne : raw ≠ "" := by
    rintro rfl
    exact absurd long (by decide)
  have hline : toldLine name ((queryEntries pairs).lookup name) =
      s!"  {name}: " ++ (String.ofList (raw.toList.take 100) ++ "...") := by
    rw [toldLine_eq, lookup_queryEntries, h, Option.filter_some_pos (by simpa using hne),
      Option.map_some, Option.getD_some, shown_of_long long]
  unfold Call.answerQuery
  apply Narrated.mem_events_of_later rfl
  apply Narrated.mem_events_of_later (a := request)
  · rw [hread]
    rfl
  apply Narrated.mem_events_of_later rfl
  apply Narrated.mem_events_of_later rfl
  apply Narrated.mem_events_of_first
  rw [← hline]
  exact List.mem_map_of_mem (List.mem_map_of_mem told)

theorem mem_tellFeature {ε : Type} {v : Json} (told : name ∈ toldPropertyNames)
    (h : feature.properties.lookup name = some v)
    (long : 100 < (Feature.propertyText v).toList.length) :
    (⟨.info, s!"  {name}: " ++
        (String.ofList ((Feature.propertyText v).toList.take 100) ++ "...")⟩ : Event) ∈
      (Call.tellFeature feature : Narrated ε Unit).events := by
  have hline : toldLine name ((feature.properties.lookup name).map Feature.propertyText) =
      s!"  {name}: " ++ (String.ofList ((Feature.propertyText v).toList.take 100) ++ "...") := by
    rw [toldLine_eq, h, Option.map_some, Option.map_some, Option.getD_some, shown_of_long long]
  unfold Call.tellFeature
  rw [← hline]
  cases feature.geometryKind
  all_goals
    apply Narrated.mem_events_of_later rfl
    apply Narrated.mem_events_of_later rfl
    apply Narrated.mem_events_of_first
    exact List.mem_map_of_mem (List.mem_map_of_mem told)

theorem mem_answerFeature {body : List UInt8} {v : Json} (json : Json.parse body = .ok document)
    (read : Feature.ofJson ["FolderOut", "Parameters"] document = .ok feature)
    (told : name ∈ toldPropertyNames) (h : Feature.property? document name = some v)
    (long : 100 < (Feature.propertyText v).toList.length) :
    (⟨.info, s!"  {name}: " ++
        (String.ofList ((Feature.propertyText v).toList.take 100) ++ "...")⟩ : Event) ∈
      (call.answerFeature pairs body).events := by
  obtain ⟨request, hrequest⟩ := exists_request_of_feature read
  have hlookup : feature.properties.lookup name = some v := by
    rw [← property?_of_feature read]
    exact h
  unfold Call.answerFeature
  apply Narrated.mem_events_of_later rfl
  cases asksForJson pairs
  on_goal 1 => apply Narrated.mem_events_of_later rfl
  all_goals
    apply Narrated.mem_events_of_later (a := document)
    · rw [json]
      rfl
    apply Narrated.mem_events_of_later (a := feature)
    · exact congrArg (Except.mapError _) read
    apply Narrated.mem_events_of_later (a := request)
    · rw [hrequest]
      rfl
    exact Narrated.mem_events_of_first (mem_tellFeature told hlookup long)

end MapStandin.DataDownload
