import Mathlib.Logic.Basic
import Mathlib.Tactic.SplitIfs
import MapStandin.Feature.Basic

/-! # The shape of features

What a sound geometry and a structured feature are, without an order of checks. A document is taken
for a feature if and only if it is one. -/

namespace MapStandin

namespace Geometry

/-! ## Sound geometries -/

/-- A value with the structure of a geometry, at any depth. -/
inductive Sound : Json → Prop
  | simple {members : List (String × Json)} {kind : Kind} {coordinates : Json}
      (notCollection : kind ≠ .collection)
      (type : members.lookup "type" = some (.string kind.name))
      (present : members.lookup "coordinates" = some coordinates)
      (notNull : coordinates ≠ .null) :
      Sound (.object members)
  | collection {members : List (String × Json)} {items : List Json}
      (type : members.lookup "type" = some (.string "GeometryCollection"))
      (present : members.lookup "geometries" = some (.array items))
      (sound : ∀ item ∈ items, Sound item) :
      Sound (.object members)

variable {members : List (String × Json)} {items : List Json} {kind : Kind} {v : Json}

theorem Kind.ofName?_eq_some {name : String} :
    Kind.ofName? name = some kind ↔ kind.name = name := by
  constructor
  · intro h
    have := List.find?_some h
    simpa using this
  · rintro rfl
    exact Kind.ofName?_name kind

theorem string?_eq_some {s : String} : v.string? = some s ↔ v = .string s := by
  cases v <;> simp [Json.string?]

theorem kindOf_eq_ok :
    kindOf members = .ok kind ↔ members.lookup "type" = some (.string kind.name) := by
  unfold kindOf
  cases h : (members.lookup "type").bind Json.string? with
  | none =>
    have hnot : members.lookup "type" ≠ some (.string kind.name) := by
      intro hkind
      simp [hkind, Json.string?] at h
    simp [hnot]
  | some name =>
    obtain ⟨v, hv, hname⟩ := Option.bind_eq_some_iff.1 h
    obtain rfl := string?_eq_some.1 hname
    rw [hv]
    simp only [Option.some.injEq, Json.string.injEq]
    -- The name of a kind is found for that kind and for no other.
    cases hkind : Kind.ofName? name with
    | none =>
      have hnot : name ≠ kind.name := by
        rintro rfl
        simp [Kind.ofName?_name] at hkind
      simp [hnot]
    | some k =>
      obtain rfl := Kind.ofName?_eq_some.1 hkind
      rw [Except.ok.injEq]
      constructor
      · rintro rfl
        rfl
      · intro hname
        have := Kind.ofName?_name kind
        rw [← hname, hkind] at this
        exact Option.some.inj this

theorem hasCoordinates_iff :
    hasCoordinates members = true ↔ ∃ v, members.lookup "coordinates" = some v ∧ v ≠ .null := by
  unfold hasCoordinates
  split
  next h => simp [h]
  next h => simp [h]
  next v hnull h => exact ⟨fun _ => ⟨v, h, hnull⟩, fun _ => rfl⟩

theorem collectionFault?_eq (members : List (String × Json)) :
    collectionFault? members =
      match members.lookup "geometries" with
      | some (.array items) => firstFault? items
      | _ => some .missingGeometries := by
  induction members with
  | nil => rfl
  | cons member rest ih =>
    obtain ⟨name, v⟩ := member
    unfold collectionFault?
    rw [List.lookup_cons]
    by_cases hname : name = "geometries"
    · subst hname
      cases v <;> rfl
    · have hne : ("geometries" == name) = false := beq_eq_false_iff_ne.2 (Ne.symm hname)
      rw [if_neg hname, hne]
      exact ih

theorem firstFault?_eq_none_iff : firstFault? items = none ↔ ∀ v ∈ items, fault? v = none := by
  induction items with
  | nil => simp [firstFault?]
  | cons v rest ih =>
    unfold firstFault?
    cases h : fault? v with
    | none => simp [h, ih]
    | some f => simp [h]

theorem fault?_object (h : kindOf members = .ok kind) :
    fault? (.object members) =
      if kind = .collection then collectionFault? members
      else if hasCoordinates members then none else some .missingCoordinates := by
  unfold fault?
  cases kind <;> simp [h]

theorem Sound.fault?_eq_none (h : Sound v) : fault? v = none := by
  induction h with
  | @simple members kind coordinates notCollection type present notNull =>
    rw [fault?_object (kindOf_eq_ok.2 type), if_neg notCollection,
      if_pos (hasCoordinates_iff.2 ⟨coordinates, present, notNull⟩)]
  | @collection members items type present sound ih =>
    have hkind : kindOf members = .ok .collection := kindOf_eq_ok.2 type
    rw [fault?_object hkind, if_pos rfl, collectionFault?_eq, present]
    exact firstFault?_eq_none_iff.2 ih

theorem sizeOf_lookup_lt {name : String} (h : members.lookup name = some v) :
    sizeOf v < sizeOf members := by
  induction members with
  | nil => simp at h
  | cons member rest ih =>
    obtain ⟨n, w⟩ := member
    rw [List.lookup_cons] at h
    cases hn : name == n with
    | true =>
      rw [hn] at h
      obtain rfl := Option.some.inj h
      simp only [List.cons.sizeOf_spec, Prod.mk.sizeOf_spec]
      omega
    | false =>
      rw [hn] at h
      have := ih h
      simp only [List.cons.sizeOf_spec]
      omega

theorem sound_of_fault? (v : Json) (h : fault? v = none) : Sound v := by
  -- The recursion goes from a collection to its geometries.
  match v with
  | .null | .bool _ | .number _ | .string _ | .array _ => simp [fault?] at h
  | .object members =>
    cases hkind : kindOf members with
    | error f => simp [fault?, hkind] at h
    | ok kind =>
      have htype := kindOf_eq_ok.1 hkind
      rw [fault?_object hkind] at h
      by_cases hcollection : kind = .collection
      · subst hcollection
        rw [if_pos rfl, collectionFault?_eq] at h
        split at h
        next items hitems =>
          have hall := firstFault?_eq_none_iff.1 h
          have hsize : sizeOf (Json.array items) < sizeOf members := sizeOf_lookup_lt hitems
          refine .collection htype hitems fun item hitem => ?_
          have hitemSize := List.sizeOf_lt_of_mem hitem
          exact sound_of_fault? item (hall item hitem)
        next => simp at h
      · rw [if_neg hcollection] at h
        split_ifs at h with hcoordinates
        obtain ⟨w, hw, hnull⟩ := hasCoordinates_iff.1 hcoordinates
        exact .simple hcollection htype hw hnull
termination_by sizeOf v
decreasing_by
  simp only [Json.array.sizeOf_spec, Json.object.sizeOf_spec] at hsize ⊢
  omega

theorem fault?_eq_none_iff : fault? v = none ↔ Sound v :=
  ⟨sound_of_fault? v, Sound.fault?_eq_none⟩

instance (v : Json) : Decidable (Sound v) := decidable_of_iff _ fault?_eq_none_iff

def OfJsonPost (v : Json) : Except Fault Geometry → Prop
  | .ok g => Sound v ∧ g.value = v ∧ (v.member? "type") = some (.string g.kind.name)
  | .error f => ¬ Sound v ∧ fault? v = some f

theorem ofJson_spec (v : Json) : OfJsonPost v (Geometry.ofJson v) := by
  unfold Geometry.ofJson
  cases hfault : fault? v with
  | some f =>
    refine ⟨?_, hfault⟩
    rw [← fault?_eq_none_iff, hfault]
    simp
  | none =>
    have hsound := fault?_eq_none_iff.1 hfault
    cases id hsound with
    | @simple members kind coordinates notCollection type present notNull =>
      simp only [kindOf_eq_ok.2 type]
      exact ⟨hsound, rfl, type⟩
    | @collection members items type present sound =>
      have hkind : kindOf members = .ok .collection := kindOf_eq_ok.2 type
      simp only [hkind]
      exact ⟨hsound, rfl, type⟩

end Geometry

namespace Feature

/-! ## Structured features -/

/-- The properties that a document holds. -/
def propertiesIn? (document : Json) : Option (List (String × Json)) :=
  (document.member? "properties").bind Json.members?

def property? (document : Json) (name : String) : Option Json :=
  (propertiesIn? document).bind fun properties => properties.lookup name

def geometryType? (document : Json) : Option String :=
  ((document.member? "geometry").bind (Json.member? "type")).bind Json.string?

instance (v : Json) : Decidable (v = .null) :=
  match v with
  | .null => .isTrue rfl
  | .bool _ | .number _ | .string _ | .array _ | .object _ => .isFalse (by simp)

instance (v : Json) (s : String) : Decidable (v = .string s) :=
  decidable_of_iff (v.string? = some s) Geometry.string?_eq_some

/-- A document has the structure of a feature, whatever its properties are. -/
def Structured (document : Json) : Prop :=
  (document.member? "type").bind Json.string? = some "Feature" ∧
    (∃ g ∈ document.member? "geometry", g = .null ∨ Geometry.Sound g) ∧
    (propertiesIn? document).isSome

instance (document : Json) : Decidable (Structured document) :=
  inferInstanceAs (Decidable (_ ∧ _ ∧ _))

/-- What reading a feature comes to. Only a structured document lacks a property. -/
def OfJsonPost (required : List String) (document : Json) : Except Fault Feature → Prop
  | .ok f => Structured document ∧ propertiesIn? document = some f.properties ∧
      f.geometryKind.map Geometry.Kind.name = geometryType? document ∧
      ∀ name ∈ required, property? document name ≠ none
  | .error (.missingProperty name) =>
    Structured document ∧ name ∈ required ∧ property? document name = none
  | .error _ => ¬ Structured document

/-! ## Texts of properties -/

theorem lookup_entries (f : Feature) (name : String) :
    f.entries.lookup name = (f.properties.lookup name).map propertyText := by
  unfold entries
  induction f.properties with
  | nil => rfl
  | cons member rest ih =>
    obtain ⟨n, v⟩ := member
    rw [List.map_cons, List.lookup_cons, List.lookup_cons, ih]
    cases name == n <;> rfl

theorem propertyText_eq_empty {v : Json} :
    propertyText v = "" ↔ v = .null ∨ v = .string "" := by
  have hrender : v.render ≠ "" := v.render_ne_empty
  cases v <;> simp [propertyText, hrender]

end Feature

end MapStandin
