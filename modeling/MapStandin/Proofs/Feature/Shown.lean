import MapStandin.Proofs.Feature.Answer
import MapStandin.Proofs.Log
import MapStandin.Proofs.Parameter.Shown

/-! # What the log shows of a feature

Two documents that are shown alike are both features or both at fault in the same way: the checks
look at the type, at the geometry and at the names of the properties, not at their texts. -/

namespace MapStandin.Feature

open Parameter (shown shownTexts lookup_shownTexts)
open Narrated (Matches)

variable {document document' : Json} {feature feature' : Feature}

def propertyTexts (properties : List (String × Json)) : List (String × String) :=
  properties.map fun (name, v) => (name, propertyText v)

/-- Documents with the same type and geometry, whose properties have the same names and, after the
cut, the same texts. -/
structure ShownAlike (document document' : Json) : Prop where
  object : document'.members?.isSome = document.members?.isSome
  type : document'.member? "type" = document.member? "type"
  geometry : document'.member? "geometry" = document.member? "geometry"
  properties :
    ((document'.member? "properties").map fun v => v.members?.map (shownTexts ∘ propertyTexts)) =
      (document.member? "properties").map fun v => v.members?.map (shownTexts ∘ propertyTexts)

theorem ShownAlike.refl (document : Json) : ShownAlike document document := by
  constructor <;> rfl

/-! ## Features that are shown alike -/

/-- Features with one geometry and with properties that are shown alike. -/
structure SameShown (feature feature' : Feature) : Prop where
  geometry : feature'.geometry = feature.geometry
  texts : shownTexts feature'.entries = shownTexts feature.entries

theorem SameShown.lookup (same : SameShown feature feature') (name : String) :
    ((feature'.properties.lookup name).map propertyText).map shown =
      ((feature.properties.lookup name).map propertyText).map shown := by
  rw [← lookup_entries, ← lookup_entries, ← lookup_shownTexts, ← lookup_shownTexts, same.texts]

theorem SameShown.names (same : SameShown feature feature') :
    feature'.properties.map Prod.fst = feature.properties.map Prod.fst := by
  have hnames := congrArg (List.map Prod.fst) same.texts
  simpa [shownTexts, entries, Function.comp_def] using hnames

theorem SameShown.filtered {β : Type} (same : SameShown feature feature') (keep : String → Bool)
    (line : String → β) :
    (feature'.properties.filter fun p => keep p.1).map (fun p => line p.1) =
      (feature.properties.filter fun p => keep p.1).map fun p => line p.1 := by
  have hfilter : ∀ properties : List (String × Json),
      (properties.filter fun p => keep p.1).map (fun p => line p.1) =
        ((properties.map Prod.fst).filter keep).map line := by
    intro properties
    rw [List.filter_map, List.map_map]
    rfl
  rw [hfilter, hfilter, same.names]

/-! ## The reader -/

theorem geometryOf_congr {members members' : List (String × Json)}
    (same : members'.lookup "geometry" = members.lookup "geometry") :
    geometryOf members' = geometryOf members := by
  unfold geometryOf
  rw [same]

theorem propertiesOf_alike {members members' : List (String × Json)}
    (same : ShownAlike (.object members) (.object members')) :
    Matches Eq (fun properties properties' =>
        shownTexts (propertyTexts properties') = shownTexts (propertyTexts properties) ∧
          members.lookup "properties" = some (.object properties) ∧
          members'.lookup "properties" = some (.object properties'))
      (propertiesOf members) (propertiesOf members') := by
  have hproperties := same.properties
  unfold propertiesOf
  rw [Json.member?, Json.member?] at hproperties
  cases hv : members.lookup "properties" with
  | none =>
    cases hv' : members'.lookup "properties" with
    | none => exact .error rfl
    | some v' => simp [hv, hv'] at hproperties
  | some v =>
    cases hv' : members'.lookup "properties" with
    | none => simp [hv, hv'] at hproperties
    | some v' =>
      rw [hv, hv'] at hproperties
      have hmembers := Option.some.inj hproperties
      -- Either both values are objects or neither is.
      cases v with
      | object properties =>
        cases v' with
        | object properties' => exact .ok ⟨Option.some.inj hmembers, rfl, rfl⟩
        | _ => cases hmembers
      | _ =>
        cases v' with
        | object properties' => cases hmembers
        | _ => exact .error rfl

/-- Reading looks at the names of properties, never at their texts. -/
theorem ofJson_alike (same : ShownAlike document document') (required : List String) :
    Matches Eq (fun feature feature' => SameShown feature feature' ∧
        propertiesIn? document = some feature.properties ∧
        propertiesIn? document' = some feature'.properties)
      (ofJson required document) (ofJson required document') := by
  have hobject := same.object
  cases document with
  | object members =>
    cases document' with
    | object members' =>
      by_cases type : members.lookup "type" = some (.string "Feature")
      · have type' : members'.lookup "type" = some (.string "Feature") := same.type.trans type
        rw [ofJson_of_type type, ofJson_of_type type', geometryOf_congr same.geometry]
        refine .bind (.refl _) ?_
        rintro geometry _ rfl
        refine .bind (propertiesOf_alike same) ?_
        rintro properties properties' ⟨htexts, hpresent, hpresent'⟩
        have hsame : SameShown ⟨geometry, properties⟩ ⟨geometry, properties'⟩ := ⟨rfl, htexts⟩
        have habsent : ∀ name, (properties'.lookup name).isNone = (properties.lookup name).isNone := by
          intro name
          simpa using congrArg Option.isNone (hsame.lookup name)
        simp only [habsent]
        cases required.find? fun name => (properties.lookup name).isNone with
        | some name => exact .error rfl
        | none =>
          exact .ok ⟨hsame, propertiesIn?_object hpresent, propertiesIn?_object hpresent'⟩
      · have type' : members'.lookup "type" ≠ some (.string "Feature") :=
          fun h => type (same.type.symm.trans h)
        rw [ofJson_of_other_type type, ofJson_of_other_type type']
        exact .error rfl
    | _ => cases hobject
  | _ =>
    cases document' with
    | object members' => cases hobject
    | _ => exact .error rfl

end MapStandin.Feature
