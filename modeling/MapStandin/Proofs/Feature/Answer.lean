import MapStandin.Proofs.Feature.Shape

/-! # What a document is answered

The checks of a feature have an order, and a geometry that is at fault is told by the first fault in
it. `Answer` says which answer a document gets; reading gives that answer and no other. -/

namespace MapStandin

namespace Geometry

/-! ## Geometries in document order -/

/-- What is wrong with a geometry itself, whatever geometries it holds. -/
inductive Offends : Json → Fault → Prop
  | notObject {v : Json} (object : v.members? = none) : Offends v .notObject
  | missingType {members : List (String × Json)}
      (type : ∀ name, members.lookup "type" ≠ some (.string name)) :
      Offends (.object members) .missingType
  | unsupported {members : List (String × Json)} {name : String}
      (type : members.lookup "type" = some (.string name))
      (unknown : ∀ kind : Kind, kind.name ≠ name) :
      Offends (.object members) (.unsupported name)
  | missingCoordinates {members : List (String × Json)} {kind : Kind}
      (notCollection : kind ≠ .collection)
      (type : members.lookup "type" = some (.string kind.name))
      (absent : members.lookup "coordinates" = none ∨ members.lookup "coordinates" = some .null) :
      Offends (.object members) .missingCoordinates
  | missingGeometries {members : List (String × Json)}
      (type : members.lookup "type" = some (.string "GeometryCollection"))
      (absent : ∀ items, members.lookup "geometries" ≠ some (.array items)) :
      Offends (.object members) .missingGeometries

/-- The geometries that a collection holds. -/
def itemsOf (v : Json) : List Json :=
  if (v.member? "type").bind Json.string? = some "GeometryCollection" then
    ((v.member? "geometries").bind Json.items?).getD []
  else []

variable {members : List (String × Json)} {items : List Json} {kind : Kind} {v : Json} {f : Fault}

theorem sizeOf_member_lt {name : String} {w : Json} (h : v.member? name = some w) :
    sizeOf w < sizeOf v := by
  cases v with
  | object members =>
    have := sizeOf_lookup_lt h
    rw [Json.object.sizeOf_spec]
    omega
  | _ => simp [Json.member?] at h

theorem sizeOf_item_lt {item : Json} (h : item ∈ itemsOf v) : sizeOf item < sizeOf v := by
  unfold itemsOf at h
  split at h
  · cases hvalue : v.member? "geometries" with
    | none => simp [hvalue] at h
    | some w =>
      have hw := sizeOf_member_lt hvalue
      cases w with
      | array items =>
        have hitem : item ∈ items := by simpa [hvalue, Json.items?] using h
        have := List.sizeOf_lt_of_mem hitem
        rw [Json.array.sizeOf_spec] at hw
        omega
      | _ => simp [hvalue, Json.items?] at h
  · simp at h

/-- A geometry and all geometries in it, each before those that it holds, in document order. -/
def depthFirst (v : Json) : List Json :=
  v :: (itemsOf v).attach.flatMap fun ⟨item, _⟩ => depthFirst item
termination_by sizeOf v
decreasing_by exact sizeOf_item_lt ‹_›

theorem depthFirst_eq (v : Json) : depthFirst v = v :: (itemsOf v).flatMap depthFirst := by
  rw [depthFirst, List.flatMap_subtype (g := depthFirst) (fun _ _ => rfl), List.unattach_attach]

/-- `f` is what is wrong with the first geometry in document order with which anything is. -/
def FirstFault (v : Json) (f : Fault) : Prop :=
  ∃ before g after, depthFirst v = before ++ g :: after ∧ Offends g f ∧
    ∀ h ∈ before, ∀ f', ¬ Offends h f'

/-! ## The first fault -/

/-- The fault of a geometry itself. -/
def ownFault? : Json → Option Fault
  | .object members =>
    match kindOf members with
    | .error f => some f
    | .ok .collection =>
      if ((members.lookup "geometries").bind Json.items?).isSome then none
      else some .missingGeometries
    | .ok _ => if hasCoordinates members then none else some .missingCoordinates
  | _ => some .notObject

theorem ownFault?_object (h : kindOf members = .ok kind) :
    ownFault? (.object members) =
      if kind = .collection then
        if ((members.lookup "geometries").bind Json.items?).isSome then none
        else some .missingGeometries
      else if hasCoordinates members then none else some .missingCoordinates := by
  unfold ownFault?
  cases kind <;> simp [h]

theorem Kind.name_eq_collection : kind.name = "GeometryCollection" ↔ kind = .collection := by
  cases kind <;> decide

theorem bind_string?_eq_some {value : Option Json} {name : String} :
    value.bind Json.string? = some name ↔ value = some (.string name) := by
  simp [Option.bind_eq_some_iff, string?_eq_some]

theorem kindOf_eq_error :
    kindOf members = .error f ↔
      (f = .missingType ∧ ∀ name, members.lookup "type" ≠ some (.string name)) ∨
        ∃ name, f = .unsupported name ∧ members.lookup "type" = some (.string name) ∧
          ∀ kind : Kind, kind.name ≠ name := by
  unfold kindOf
  cases htype : (members.lookup "type").bind Json.string? with
  | none =>
    have hnot : ∀ name, members.lookup "type" ≠ some (.string name) := by
      intro name hname
      simp [bind_string?_eq_some.2 hname] at htype
    simp [hnot, eq_comm]
  | some name =>
    rw [bind_string?_eq_some.1 htype]
    cases hkind : Kind.ofName? name with
    | none =>
      have hunknown : ∀ kind : Kind, kind.name ≠ name := by
        rintro kind rfl
        simp [Kind.ofName?_name] at hkind
      simp only [hkind, Except.error.injEq, Option.some.injEq, Json.string.injEq]
      constructor
      · rintro rfl
        exact Or.inr ⟨name, rfl, rfl, hunknown⟩
      · rintro (⟨-, hnot⟩ | ⟨n, rfl, rfl, -⟩)
        · exact absurd rfl (hnot name)
        · rfl
    | some kind =>
      obtain rfl := Kind.ofName?_eq_some.1 hkind
      simp only [hkind, reduceCtorEq, Option.some.injEq, Json.string.injEq, false_iff]
      rintro (⟨-, hnot⟩ | ⟨n, -, hn, hnot⟩)
      · exact hnot kind.name rfl
      · exact hnot kind hn

theorem hasCoordinates_eq_false :
    hasCoordinates members = false ↔
      members.lookup "coordinates" = none ∨ members.lookup "coordinates" = some .null := by
  unfold hasCoordinates
  split
  next h => simp [h]
  next h => simp [h]
  next v hnull h =>
    have hnull' : v ≠ .null := hnull
    simp [h, hnull']

theorem bind_items?_eq_some {value : Option Json} :
    value.bind Json.items? = some items ↔ value = some (.array items) := by
  cases value with
  | none => simp
  | some v => cases v <;> simp [Json.items?]

theorem Offends.ownFault?_eq (h : Offends v f) : ownFault? v = some f := by
  cases h with
  | notObject object =>
    cases v with
    | object members => simp [Json.members?] at object
    | _ => rfl
  | missingType type =>
    have hkind := kindOf_eq_error.2 (Or.inl ⟨rfl, type⟩)
    simp [ownFault?, hkind]
  | unsupported type unknown =>
    have hkind := kindOf_eq_error.2 (Or.inr ⟨_, rfl, type, unknown⟩)
    simp [ownFault?, hkind]
  | missingCoordinates notCollection type absent =>
    rw [ownFault?_object (kindOf_eq_ok.2 type), if_neg notCollection,
      hasCoordinates_eq_false.2 absent]
    rfl
  | @missingGeometries members type absent =>
    have hkind : kindOf members = .ok .collection := kindOf_eq_ok.2 type
    have hnone : (members.lookup "geometries").bind Json.items? = none := by
      rw [Option.eq_none_iff_forall_ne_some]
      exact fun items hitems => absent items (bind_items?_eq_some.1 hitems)
    rw [ownFault?_object hkind, if_pos rfl, hnone]
    rfl

theorem offends_of_ownFault? (h : ownFault? v = some f) : Offends v f := by
  cases v with
  | object members =>
    cases hkind : kindOf members with
    | error f' =>
      obtain rfl : f' = f := by simpa [ownFault?, hkind] using h
      rcases kindOf_eq_error.1 hkind with ⟨rfl, type⟩ | ⟨name, rfl, type, unknown⟩
      · exact .missingType type
      · exact .unsupported type unknown
    | ok kind =>
      have htype := kindOf_eq_ok.1 hkind
      rw [ownFault?_object hkind] at h
      split_ifs at h with hcollection hitems hcoordinates
      · obtain rfl := Option.some.inj h
        subst hcollection
        refine .missingGeometries htype fun items hsome => hitems ?_
        rw [bind_items?_eq_some.2 hsome]
        rfl
      · obtain rfl := Option.some.inj h
        exact .missingCoordinates hcollection htype
          (hasCoordinates_eq_false.1 (Bool.eq_false_iff.2 hcoordinates))
  | _ =>
    obtain rfl := Option.some.inj h
    exact .notObject rfl

theorem ownFault?_eq_some_iff : ownFault? v = some f ↔ Offends v f :=
  ⟨offends_of_ownFault?, Offends.ownFault?_eq⟩

theorem fault?_eq (v : Json) : fault? v = (ownFault? v).or (firstFault? (itemsOf v)) := by
  cases v with
  | object members =>
    cases hkind : kindOf members with
    | error f => simp [fault?, ownFault?, hkind]
    | ok kind =>
      have htype : (Json.object members).member? "type" = some (.string kind.name) :=
        kindOf_eq_ok.1 hkind
      rw [fault?_object hkind, ownFault?_object hkind]
      unfold itemsOf
      rw [htype, Option.bind_some, Json.string?, Json.member?]
      by_cases hcollection : kind = .collection
      · have hname := congrArg some (Kind.name_eq_collection.2 hcollection)
        rw [if_pos hcollection, if_pos hcollection, if_pos hname, collectionFault?_eq]
        cases members.lookup "geometries" with
        | none => rfl
        | some value => cases value <;> rfl
      · have hname := mt (Kind.name_eq_collection.1 ∘ Option.some.inj) hcollection
        rw [if_neg hcollection, if_neg hcollection, if_neg hname]
        split <;> rfl
  | _ => rfl

theorem firstFault?_eq_findSome?
    (h : ∀ item ∈ items, fault? item = (depthFirst item).findSome? ownFault?) :
    firstFault? items = (items.flatMap depthFirst).findSome? ownFault? := by
  induction items with
  | nil => rfl
  | cons item rest ih =>
    rw [firstFault?, List.flatMap_cons, List.findSome?_append, ← h item List.mem_cons_self,
      ← ih fun other hother => h other (List.mem_cons_of_mem _ hother)]
    cases fault? item <;> rfl

theorem fault?_eq_findSome? (v : Json) : fault? v = (depthFirst v).findSome? ownFault? := by
  have hitems : firstFault? (itemsOf v) =
      ((itemsOf v).flatMap depthFirst).findSome? ownFault? :=
    firstFault?_eq_findSome? fun item hitem => fault?_eq_findSome? item
  rw [depthFirst_eq, List.findSome?_cons, fault?_eq, hitems]
  cases ownFault? v <;> rfl
termination_by sizeOf v
decreasing_by exact sizeOf_item_lt hitem

theorem fault?_eq_some_iff : fault? v = some f ↔ FirstFault v f := by
  rw [fault?_eq_findSome?, List.findSome?_eq_some_iff]
  unfold FirstFault
  simp only [ownFault?_eq_some_iff, Option.eq_none_iff_forall_ne_some, ne_eq]

theorem FirstFault.not_sound (h : FirstFault v f) : ¬ Sound v := by
  intro hsound
  rw [← fault?_eq_some_iff, hsound.fault?_eq_none] at h
  simp at h

theorem ofJson_eq_error : Geometry.ofJson v = .error f ↔ FirstFault v f := by
  rw [← fault?_eq_some_iff]
  have hspec := ofJson_spec v
  cases hread : Geometry.ofJson v with
  | ok g =>
    rw [hread] at hspec
    simp [hspec.1.fault?_eq_none]
  | error f' =>
    rw [hread] at hspec
    rw [hspec.2, Except.error.injEq, Option.some.injEq]

theorem ofJson_eq_ok {g : Geometry} :
    Geometry.ofJson v = .ok g ↔
      Sound v ∧ g.value = v ∧ v.member? "type" = some (.string g.kind.name) := by
  have hspec := ofJson_spec v
  cases hread : Geometry.ofJson v with
  | error f =>
    rw [hread] at hspec
    simp [hspec.1]
  | ok g' =>
    rw [hread] at hspec
    obtain ⟨hsound, hvalue, htype⟩ := hspec
    constructor
    · rintro ⟨⟩
      exact ⟨hsound, hvalue, htype⟩
    · rintro ⟨-, hvalue', htype'⟩
      have hname : g'.kind.name = g.kind.name := by simpa [htype] using htype'
      have hkind := Kind.ofName?_name g'.kind
      rw [hname, Kind.ofName?_name] at hkind
      obtain ⟨kind, value⟩ := g
      obtain ⟨kind', value'⟩ := g'
      simp only at hvalue hvalue' hkind
      rw [hvalue, hvalue', Option.some.inj hkind]

end Geometry

namespace Feature

/-! ## The answer -/

/-- The geometry that the members of a document hold: none for null, any other as it is. -/
inductive Holds (members : List (String × Json)) : Option Geometry → Prop
  | null (present : members.lookup "geometry" = some .null) : Holds members none
  | geometry {g : Geometry} (present : members.lookup "geometry" = some g.value)
      (sound : Geometry.Sound g.value)
      (type : g.value.member? "type" = some (.string g.kind.name)) :
      Holds members (some g)

/-- The answer to a document: each case says that the checks before it went well. -/
inductive Answer (required : List String) : Json → Except Fault Feature → Prop
  | notAnObject {document : Json} (object : document.members? = none) :
      Answer required document (.error .notAnObject)
  | notAFeature {members : List (String × Json)}
      (type : members.lookup "type" ≠ some (.string "Feature")) :
      Answer required (.object members) (.error .notAFeature)
  | missingGeometry {members : List (String × Json)}
      (type : members.lookup "type" = some (.string "Feature"))
      (absent : members.lookup "geometry" = none) :
      Answer required (.object members) (.error .missingGeometry)
  | invalidGeometry {members : List (String × Json)} {v : Json} {f : Geometry.Fault}
      (type : members.lookup "type" = some (.string "Feature"))
      (present : members.lookup "geometry" = some v) (notNull : v ≠ .null)
      (first : Geometry.FirstFault v f) :
      Answer required (.object members) (.error (.invalidGeometry f.message))
  | missingProperties {members : List (String × Json)} {geometry : Option Geometry}
      (type : members.lookup "type" = some (.string "Feature")) (holds : Holds members geometry)
      (absent : members.lookup "properties" = none) :
      Answer required (.object members) (.error .missingProperties)
  | propertiesNotObject {members : List (String × Json)} {geometry : Option Geometry} {v : Json}
      (type : members.lookup "type" = some (.string "Feature")) (holds : Holds members geometry)
      (present : members.lookup "properties" = some v) (object : v.members? = none) :
      Answer required (.object members) (.error .propertiesNotObject)
  | missingProperty {members properties : List (String × Json)} {geometry : Option Geometry}
      {before after : List String} {name : String}
      (type : members.lookup "type" = some (.string "Feature")) (holds : Holds members geometry)
      (present : members.lookup "properties" = some (.object properties))
      (names : required = before ++ name :: after)
      (earlier : ∀ n ∈ before, properties.lookup n ≠ none)
      (absent : properties.lookup name = none) :
      Answer required (.object members) (.error (.missingProperty name))
  | feature {members properties : List (String × Json)} {geometry : Option Geometry}
      (type : members.lookup "type" = some (.string "Feature")) (holds : Holds members geometry)
      (present : members.lookup "properties" = some (.object properties))
      (all : ∀ name ∈ required, properties.lookup name ≠ none) :
      Answer required (.object members) (.ok ⟨geometry, properties⟩)

variable {required : List String} {document : Json} {members properties : List (String × Json)}

theorem geometryOf_eq_ok {geometry : Option Geometry} :
    geometryOf members = .ok geometry ↔ Holds members geometry := by
  unfold geometryOf
  constructor
  · intro h
    split at h
    next => simp at h
    next hnull =>
      obtain rfl := Except.ok.inj h
      exact .null hnull
    next v notNull hpresent =>
      split at h
      next => simp at h
      next g hread =>
        obtain rfl := Except.ok.inj h
        obtain ⟨hsound, rfl, htype⟩ := Geometry.ofJson_eq_ok.1 hread
        exact .geometry hpresent hsound htype
  · intro h
    cases h with
    | null present => rw [present]
    | @geometry g present sound type =>
      have hread := Geometry.ofJson_eq_ok.2 ⟨sound, rfl, type⟩
      obtain ⟨kind, value⟩ := g
      rw [present]
      cases sound <;> simp only [hread]

theorem geometryOf_eq_error {f : Fault} :
    geometryOf members = .error f ↔
      (members.lookup "geometry" = none ∧ f = .missingGeometry) ∨
        ∃ v f', members.lookup "geometry" = some v ∧ v ≠ .null ∧ Geometry.FirstFault v f' ∧
          f = .invalidGeometry f'.message := by
  unfold geometryOf
  split
  next habsent =>
    simp [habsent, eq_comm]
  next hnull =>
    simp [hnull]
  next v notNull hpresent =>
    have hnull : v ≠ .null := notNull
    cases hread : Geometry.ofJson v with
    | error f' =>
      have hfirst := Geometry.ofJson_eq_error.1 hread
      simp only [hpresent, Except.error.injEq, reduceCtorEq, false_and, false_or]
      constructor
      · rintro rfl
        exact ⟨v, f', rfl, hnull, hfirst, rfl⟩
      · rintro ⟨w, f'', hw, -, hfirst', rfl⟩
        obtain rfl := Option.some.inj hw
        rw [Except.error.inj (hread.symm.trans (Geometry.ofJson_eq_error.2 hfirst'))]
    | ok g =>
      simp only [hpresent, reduceCtorEq, false_and, false_or, false_iff]
      rintro ⟨w, f', hw, -, hfirst, -⟩
      obtain rfl := Option.some.inj hw
      simp [Geometry.ofJson_eq_error.2 hfirst] at hread

theorem ofJson_of_type (type : members.lookup "type" = some (.string "Feature")) :
    ofJson required (.object members) =
      (geometryOf members).bind fun geometry => (propertiesOf members).bind fun properties =>
        match required.find? fun name => (properties.lookup name).isNone with
        | some name => .error (.missingProperty name)
        | none => .ok (Feature.mk geometry properties) := by
  unfold ofJson
  simp only [type, Option.bind_some, Json.string?]
  cases geometryOf members with
  | error f => rfl
  | ok geometry =>
    cases propertiesOf members with
    | error f => rfl
    | ok properties =>
      cases hfind : required.find? fun name => (properties.lookup name).isNone <;>
        simp [bind, Except.bind, pure, Except.pure, throw, throwThe, MonadExceptOf.throw, hfind]

theorem ofJson_of_other_type (type : members.lookup "type" ≠ some (.string "Feature")) :
    ofJson required (.object members) = .error .notAFeature := by
  unfold ofJson
  simp only
  rw [if_pos (mt Geometry.bind_string?_eq_some.1 type)]
  rfl

theorem Answer.ofJson_eq {result : Except Fault Feature} (h : Answer required document result) :
    ofJson required document = result := by
  cases h with
  | notAnObject object =>
    cases document with
    | object members => simp [Json.members?] at object
    | _ => rfl
  | notAFeature type => exact ofJson_of_other_type type
  | missingGeometry type absent =>
    rw [ofJson_of_type type, geometryOf_eq_error.2 (Or.inl ⟨absent, rfl⟩)]
    rfl
  | invalidGeometry type present notNull first =>
    rw [ofJson_of_type type, geometryOf_eq_error.2 (Or.inr ⟨_, _, present, notNull, first, rfl⟩)]
    rfl
  | missingProperties type holds absent =>
    rw [ofJson_of_type type, geometryOf_eq_ok.2 holds]
    simp [Except.bind, propertiesOf, absent]
  | @propertiesNotObject members geometry v type holds present object =>
    rw [ofJson_of_type type, geometryOf_eq_ok.2 holds]
    cases v with
    | object properties => simp [Json.members?] at object
    | _ => simp [Except.bind, propertiesOf, present]
  | @missingProperty members properties geometry before after name type holds present names earlier
      absent =>
    have hfind : (required.find? fun n => (properties.lookup n).isNone) = some name := by
      rw [List.find?_eq_some_iff_append]
      refine ⟨by simp [absent], before, after, names, ?_⟩
      simpa [Option.isSome_iff_ne_none] using earlier
    rw [ofJson_of_type type, geometryOf_eq_ok.2 holds]
    simp [Except.bind, propertiesOf, present, hfind]
  | @feature members properties geometry type holds present all =>
    have hfind : (required.find? fun n => (properties.lookup n).isNone) = none := by
      simpa [List.find?_eq_none] using all
    rw [ofJson_of_type type, geometryOf_eq_ok.2 holds]
    simp [Except.bind, propertiesOf, present, hfind]

theorem ofJson_answer (required : List String) (document : Json) :
    Answer required document (ofJson required document) := by
  cases document with
  | object members =>
    by_cases type : members.lookup "type" = some (.string "Feature")
    · rw [ofJson_of_type type]
      cases hgeometry : geometryOf members with
      | error f =>
        rcases geometryOf_eq_error.1 hgeometry with ⟨absent, rfl⟩ | ⟨v, f', present, hv, first, rfl⟩
        · exact .missingGeometry type absent
        · exact .invalidGeometry type present hv first
      | ok geometry =>
        have holds := geometryOf_eq_ok.1 hgeometry
        simp only [Except.bind, propertiesOf]
        cases present : members.lookup "properties" with
        | none => exact .missingProperties type holds present
        | some v =>
          cases v with
          | object properties =>
            simp only
            cases hfind : required.find? fun name => (properties.lookup name).isNone with
            | none =>
              refine .feature type holds present ?_
              simpa [List.find?_eq_none] using hfind
            | some name =>
              obtain ⟨absent, before, after, names, earlier⟩ :=
                List.find?_eq_some_iff_append.1 hfind
              refine .missingProperty type holds present names ?_ (by simpa using absent)
              simpa [Option.isSome_iff_ne_none] using earlier
          | _ => exact .propertiesNotObject type holds present rfl
    · rw [ofJson_of_other_type type]
      exact .notAFeature type
  | _ => exact .notAnObject rfl

theorem Holds.sound {geometry : Option Geometry} (h : Holds members geometry) :
    ∃ v ∈ members.lookup "geometry", v = .null ∨ Geometry.Sound v := by
  cases h with
  | null present => exact ⟨.null, present, Or.inl rfl⟩
  | geometry present sound type => exact ⟨_, present, Or.inr sound⟩

theorem Holds.kindName {geometry : Option Geometry} (h : Holds members geometry) :
    geometry.map (fun g => g.kind.name) = geometryType? (.object members) := by
  unfold geometryType?
  cases h with
  | null present => simp [Json.member?, present]
  | geometry present sound type =>
    rw [Json.member?, present, Option.bind_some, type]
    rfl

theorem bind_members?_eq_some {value : Option Json} :
    value.bind Json.members? = some properties ↔ value = some (.object properties) := by
  cases value with
  | none => simp
  | some v => cases v <;> simp [Json.members?]

theorem structured_object :
    Structured (.object members) ↔
      members.lookup "type" = some (.string "Feature") ∧
        (∃ v ∈ members.lookup "geometry", v = .null ∨ Geometry.Sound v) ∧
        ∃ properties, members.lookup "properties" = some (.object properties) := by
  unfold Structured propertiesIn? Json.member?
  rw [Geometry.bind_string?_eq_some, Option.isSome_iff_exists]
  simp only [bind_members?_eq_some]

theorem propertiesIn?_object (present : members.lookup "properties" = some (.object properties)) :
    propertiesIn? (.object members) = some properties :=
  bind_members?_eq_some.2 present

theorem ofJson_spec (required : List String) (document : Json) :
    OfJsonPost required document (ofJson required document) := by
  have h := ofJson_answer required document
  generalize ofJson required document = result at h ⊢
  cases h with
  | notAnObject object =>
    rintro ⟨htype, -⟩
    cases document with
    | object members => simp [Json.members?] at object
    | _ => simp [Json.member?] at htype
  | notAFeature type => exact fun h => type (structured_object.1 h).1
  | missingGeometry type absent =>
    intro h
    obtain ⟨-, ⟨v, hv, -⟩, -⟩ := structured_object.1 h
    simp [absent] at hv
  | invalidGeometry type present notNull first =>
    intro h
    obtain ⟨-, ⟨v, hv, hsound⟩, -⟩ := structured_object.1 h
    obtain rfl := Option.some.inj (present.symm.trans hv)
    rcases hsound with hnull | hsound
    · exact notNull hnull
    · exact first.not_sound hsound
  | missingProperties type holds absent =>
    intro h
    obtain ⟨-, -, properties, hproperties⟩ := structured_object.1 h
    simp [absent] at hproperties
  | propertiesNotObject type holds present object =>
    intro h
    obtain ⟨-, -, properties, hproperties⟩ := structured_object.1 h
    obtain rfl := Option.some.inj (present.symm.trans hproperties)
    simp [Json.members?] at object
  | missingProperty type holds present names earlier absent =>
    refine ⟨structured_object.2 ⟨type, holds.sound, _, present⟩, by simp [names], ?_⟩
    rw [property?, propertiesIn?_object present, Option.bind_some, absent]
  | feature type holds present all =>
    have hstructured := structured_object.2 ⟨type, holds.sound, _, present⟩
    refine ⟨hstructured, propertiesIn?_object present, ?_, ?_⟩
    · rw [← holds.kindName, geometryKind, Option.map_map]
      rfl
    · intro name hname
      rw [property?, propertiesIn?_object present]
      exact all name hname

/-- A document is accepted if and only if it is a structured feature with the required properties,
and it gets the answer of the first check that fails. -/
theorem ofJson_eq_iff (required : List String) (document : Json) :
    ((∃ feature, ofJson required document = .ok feature) ↔
      Structured document ∧ ∀ name ∈ required, property? document name ≠ none) ∧
    ∀ result, ofJson required document = result ↔ Answer required document result := by
  have hspec := ofJson_spec required document
  refine ⟨⟨?_, ?_⟩, fun result => ⟨?_, Answer.ofJson_eq⟩⟩
  · rintro ⟨feature, hread⟩
    rw [hread] at hspec
    exact ⟨hspec.1, hspec.2.2.2⟩
  · rintro ⟨hstructured, hall⟩
    cases hread : ofJson required document with
    | ok feature => exact ⟨feature, rfl⟩
    | error f =>
      rw [hread] at hspec
      cases f with
      | missingProperty name => exact absurd hspec.2.2 (hall name hspec.2.1)
      | _ => exact absurd hstructured hspec
  · rintro rfl
    exact ofJson_answer required document

end Feature

end MapStandin
