import MapStandin.Proofs.Feature.Answer
import MapStandin.Proofs.Parameter.Mapping

/-! # Properties as parameters

A feature with the required properties lacks no parameter: a property keeps its name when it is read
as a text. What is left is whether the texts fit, in declared order. -/

namespace MapStandin.Parameter

open Feature (property?)

variable {schema : Schema} {document : Json} {feature : Feature} {name raw : String}

/-! ## Texts -/

/-- The text that a property is read as. -/
inductive Flat : Json → String → Prop
  | string (s : String) : Flat (.string s) s
  | null : Flat .null ""
  | other {v : Json} (noString : v.string? = none) (noNull : v ≠ .null) : Flat v v.render

/-- The document has a property of this name, and it is read as this text. -/
def HasText (document : Json) (name raw : String) : Prop :=
  ∃ v, property? document name = some v ∧ Flat v raw

theorem flat_iff {v : Json} : Flat v raw ↔ Feature.propertyText v = raw := by
  constructor
  · intro h
    cases h with
    | string | null => rfl
    | other noString noNull =>
      cases v with
      | string s => simp [Json.string?] at noString
      | null => exact absurd rfl noNull
      | bool | number | array | object => rfl
  · rintro rfl
    cases v with
    | string s => exact .string s
    | null => exact .null
    | bool | number | array | object => exact .other rfl Json.noConfusion

theorem property?_of_feature {required : List String}
    (sound : Feature.ofJson required document = .ok feature) (name : String) :
    property? document name = feature.properties.lookup name := by
  have hspec := Feature.ofJson_spec required document
  rw [sound] at hspec
  rw [property?, hspec.2.1, Option.bind_some]

theorem lookup_entries_iff {required : List String}
    (sound : Feature.ofJson required document = .ok feature) :
    feature.entries.lookup name = some raw ↔ HasText document name raw := by
  rw [Feature.lookup_entries, ← property?_of_feature sound, Option.map_eq_some_iff]
  simp only [HasText, flat_iff]

/-! ## Presence -/

theorem missingFrom_of_feature
    (sound : Feature.ofJson schema.requiredNames document = .ok feature) :
    schema.missingFrom (feature.entries.map Prod.fst) = [] := by
  have hspec := Feature.ofJson_spec schema.requiredNames document
  rw [sound] at hspec
  obtain ⟨-, -, -, hall⟩ := hspec
  unfold Schema.missingFrom
  rw [List.filter_eq_nil_iff]
  intro name hname
  obtain ⟨v, hv⟩ := Option.ne_none_iff_exists'.1 (hall name hname)
  rw [property?_of_feature sound] at hv
  have hmem := mem_names_of_lookup ((Feature.lookup_entries feature name).trans (congrArg _ hv))
  simpa using hmem

theorem readMapping_of_present {entries : List (String × String)}
    (present : schema.missingFrom (entries.map Prod.fst) = []) :
    schema.readMapping entries = (acceptAll (schema.declaredEntries entries)).map Request.mk := by
  unfold Schema.readMapping
  rw [present]
  cases acceptAll (schema.declaredEntries entries) <;> rfl

/-! ## The answer -/

/-- The accepted value is what the property of a declared name is read as. -/
def TakenFrom (document : Json) (spec : Spec) (a : String × Accepted) : Prop :=
  a.1 = spec.name ∧ HasText document spec.name a.2.raw ∧
    spec.kind.read? a.2.raw = some a.2.value

/-- The answer to the properties of a document. No name can be absent. -/
inductive PropertiesReading (schema : Schema) (document : Json) :
    Except Rejection Request → Prop
  | unfit {before after : List Spec} {spec : Spec} {raw : String}
      (declared : schema.specs = before ++ spec :: after)
      (text : HasText document spec.name raw)
      (fit : ∀ earlier ∈ before, ∀ text, HasText document earlier.name text →
        earlier.kind.accepts text = true)
      (first : spec.kind.accepts raw = false) :
      PropertiesReading schema document
        (.error (.invalidValue spec.name (spec.kind.refusal spec.name raw)))
  | accepted {request : Request}
      (values : List.Forall₂ (TakenFrom document)
        (schema.specs.filter fun spec => (property? document spec.name).isSome) request.values) :
      PropertiesReading schema document (.ok request)

section Answer

variable {entries : List (String × String)}
  (texts : ∀ {name raw}, entries.lookup name = some raw ↔ HasText document name raw)
include texts

theorem isSome_lookup_iff (name : String) :
    (entries.lookup name).isSome = (property? document name).isSome := by
  rw [Bool.eq_iff_iff, Option.isSome_iff_exists, Option.isSome_iff_exists]
  constructor
  · rintro ⟨raw, hraw⟩
    obtain ⟨v, hv, -⟩ := texts.1 hraw
    exact ⟨v, hv⟩
  · rintro ⟨v, hv⟩
    exact ⟨_, texts.2 ⟨v, hv, flat_iff.2 rfl⟩⟩

theorem takenFrom_of_fits {specs : List Spec} {values : List (String × Accepted)}
    (h : List.Forall₂ Fits
      (specs.filterMap fun spec => (entries.lookup spec.name).map fun raw => (spec, raw)) values) :
    List.Forall₂ (TakenFrom document)
      (specs.filter fun spec => (property? document spec.name).isSome) values := by
  -- The induction is on the declarations: one whose name is absent takes no value.
  induction specs generalizing values with
  | nil =>
    cases h
    exact .nil
  | cons spec rest ih =>
    have hsome := isSome_lookup_iff texts spec.name
    rw [List.filterMap_cons] at h
    cases hlookup : entries.lookup spec.name with
    | none =>
      rw [hlookup] at h hsome
      rw [List.filter_cons_of_neg (by simpa using hsome.symm)]
      exact ih h
    | some raw =>
      rw [hlookup] at h hsome
      rw [List.filter_cons_of_pos (by simpa using hsome.symm)]
      cases h with
      | @cons _ a _ _ hfit hrest =>
        obtain ⟨hname, hraw, hvalue⟩ := hfit
        refine .cons ⟨hname, ?_, ?_⟩ (ih hrest)
        · rw [hraw]
          exact texts.1 hlookup
        · rw [hraw]
          exact hvalue

theorem propertiesReading_of_texts :
    PropertiesReading schema document
      ((acceptAll (schema.declaredEntries entries)).map Request.mk) := by
  have hvalues := acceptAll_spec (schema.declaredEntries entries)
  cases haccept : acceptAll (schema.declaredEntries entries) with
  | ok values =>
    rw [haccept] at hvalues
    exact .accepted (takenFrom_of_fits texts hvalues)
  | error r =>
    rw [haccept] at hvalues
    obtain ⟨front, spec, raw, back, hsplit, hfit, hfirst, rfl⟩ := hvalues
    unfold Schema.declaredEntries at hsplit
    -- The split of the declared texts comes from a split of the declarations.
    obtain ⟨before, rest, hspecs, rfl, hrest⟩ := List.filterMap_eq_append_iff.1 hsplit
    obtain ⟨absent, found, after, rfl, habsent, hfound, -⟩ := List.filterMap_eq_cons_iff.1 hrest
    obtain ⟨text, hlookup, heq⟩ := Option.map_eq_some_iff.1 hfound
    obtain ⟨rfl, rfl⟩ := Prod.mk.inj heq
    rw [← List.append_assoc] at hspecs
    refine .unfit hspecs (texts.1 hlookup) ?_ hfirst
    intro earlier hearlier text htext
    have hlookup' := texts.2 htext
    rcases List.mem_append.1 hearlier with hbefore | hnone
    · exact hfit (earlier, text) (List.mem_filterMap.2 ⟨earlier, hbefore, by simp [hlookup']⟩)
    · have := habsent earlier hnone
      simp [hlookup'] at this

end Answer

/-- The second check of a feature finds no name absent. It takes the declared properties in declared
order, and no other property has a part in it. -/
theorem readMapping_of_feature
    (sound : Feature.ofJson schema.requiredNames document = .ok feature) :
    PropertiesReading schema document (schema.readMapping feature.entries) ∧
      (∀ names, schema.readMapping feature.entries ≠ .error (.missingParameters names)) ∧
      ∀ document' feature', Feature.ofJson schema.requiredNames document' = .ok feature' →
        (∀ spec ∈ schema.specs, property? document' spec.name = property? document spec.name) →
        schema.readMapping feature'.entries = schema.readMapping feature.entries := by
  have hread := readMapping_of_present (missingFrom_of_feature sound)
  have hreading : PropertiesReading schema document (schema.readMapping feature.entries) := by
    rw [hread]
    exact propertiesReading_of_texts (lookup_entries_iff sound)
  refine ⟨hreading, ?_, ?_⟩
  · intro names h
    rw [h] at hreading
    cases hreading
  · intro document' feature' sound' same
    rw [hread, readMapping_of_present (missingFrom_of_feature sound')]
    have hentries : schema.declaredEntries feature'.entries =
        schema.declaredEntries feature.entries := by
      unfold Schema.declaredEntries
      apply List.filterMap_congr
      intro spec hspec
      rw [Feature.lookup_entries, Feature.lookup_entries, ← property?_of_feature sound,
        ← property?_of_feature sound', same spec hspec]
    rw [hentries]

/-- A property that is null is there, with the empty text, and that one does not fit. -/
theorem desktopProperties_of_feature :
    let properties : List (String × Json) :=
      [("FolderOut", .null), ("Note", .string "FolderOut"), ("Parameters", .array [])]
    let document : Json :=
      .object [("geometry", .null), ("properties", .object properties), ("type", .string "Feature")]
    Feature.ofJson desktopProperties.requiredNames document = .ok ⟨none, properties⟩ ∧
      PropertiesReading desktopProperties document
        (.error (.invalidValue "FolderOut" "Value for parameter FolderOut is null or empty")) := by
  intro properties document
  have hsound : Feature.ofJson desktopProperties.requiredNames document =
      .ok ⟨none, properties⟩ := rfl
  exact ⟨hsound, (readMapping_of_feature hsound).1⟩

end MapStandin.Parameter
