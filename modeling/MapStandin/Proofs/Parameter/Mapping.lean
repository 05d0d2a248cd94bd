import Mathlib.Data.List.Perm.Basic
import MapStandin.Proofs.Parameter.Reading

/-! # Mappings and flags

A mapping can be read as it is or as flags, one for each entry. Both readers accept the same
mappings with the same values; which fault they tell of can differ. -/

namespace MapStandin.Parameter

/-- The flags of a mapping, in the order of its entries. -/
def flagsOf (entries : List (String × String)) : List String :=
  entries.flatMap fun entry => [flag entry.1, entry.2]

variable {schema : Schema} {entries : List (String × String)} {spec : Spec} {name raw : String}

/-! ## The places of the flags -/

theorem flagName?_flag (name : String) : flagName? (flag name) = some name := by
  unfold flagName? Text.after? flag
  rw [String.toList_append, Text.afterList_append, Option.map_some, String.ofList_toList]

theorem places_flagsOf (entries : List (String × String)) :
    places (flagsOf entries) = entries.map fun entry => ⟨flag entry.1, some entry.2⟩ := by
  induction entries with
  | nil => rfl
  | cons entry rest ih =>
    rw [List.map_cons, ← ih]
    rfl

theorem usedNames_flagsOf (entries : List (String × String)) :
    usedNames (flagsOf entries) = entries.map Prod.fst := by
  unfold usedNames
  rw [places_flagsOf, List.filterMap_map, ← List.filterMap_eq_map]
  apply List.filterMap_congr
  intro entry _
  exact flagName?_flag entry.1

/-- At the places of a mapping's flags stands a flag, with a text. Only a name that comes again can be
at fault. -/
theorem wellPlaced_flagsOf_iff :
    WellPlaced schema [] (places (flagsOf entries)) ↔
      ((entries.map Prod.fst).filter schema.declares).Nodup := by
  have hused : (places (flagsOf entries)).filterMap Place.name? = entries.map Prod.fst :=
    usedNames_flagsOf entries
  rw [wellPlaced_iff_count (by simp), List.nil_append, hused, List.nodup_iff_count_le_one]
  constructor
  · rintro ⟨-, -, hcount⟩ name
    by_cases hname : schema.declares name = true
    · rw [List.count_filter hname]
      exact hcount name hname
    · rw [List.count_eq_zero_of_not_mem]
      · omega
      · simp [hname]
  · intro hcount
    refine ⟨?_, ?_, ?_⟩
    · intro p hp
      rw [places_flagsOf] at hp
      obtain ⟨entry, -, rfl⟩ := List.mem_map.1 hp
      simp [Place.name?, flagName?_flag]
    · intro p hp
      rw [places_flagsOf] at hp
      obtain ⟨entry, -, rfl⟩ := List.mem_map.1 hp
      simp
    · intro name hname
      rw [← List.count_filter hname]
      exact hcount name

theorem wellPlaced_flagsOf (nodup : (entries.map Prod.fst).Nodup) :
    WellPlaced schema [] (places (flagsOf entries)) :=
  wellPlaced_flagsOf_iff.2 (nodup.filter _)

theorem absentNames_flagsOf (schema : Schema) (entries : List (String × String)) :
    absentNames schema (flagsOf entries) = schema.missingFrom (entries.map Prod.fst) := by
  unfold absentNames Schema.missingFrom
  rw [usedNames_flagsOf]
  apply List.filter_congr
  intro name _
  rw [List.contains_eq_mem, decide_not]

/-! ## Look-up -/

section Lookup

variable {α : Type} {entries entries' : List (String × α)} {value : α}

theorem mem_names_of_lookup (h : entries.lookup name = some value) :
    name ∈ entries.map Prod.fst := by
  obtain ⟨before, after, rfl, -⟩ := List.lookup_eq_some_iff.1 h
  simp

theorem not_mem_names_of_lookup (h : entries.lookup name = none) :
    name ∉ entries.map Prod.fst := by
  intro hmem
  obtain ⟨entry, hentry, rfl⟩ := List.mem_map.1 hmem
  simpa using List.lookup_eq_none_iff.1 h entry hentry

theorem lookup_eq_some_iff_mem (nodup : (entries.map Prod.fst).Nodup) :
    entries.lookup name = some value ↔ (name, value) ∈ entries := by
  rw [List.lookup_eq_some_iff]
  constructor
  · rintro ⟨before, after, rfl, -⟩
    simp
  · intro hmem
    obtain ⟨before, after, rfl⟩ := List.append_of_mem hmem
    refine ⟨before, after, rfl, ?_⟩
    intro entry hentry
    rw [List.map_append, List.map_cons] at nodup
    have hfresh := (List.nodup_append'.1 nodup).2.2 (List.mem_map_of_mem hentry)
    rw [bne_iff_ne]
    rintro rfl
    exact hfresh List.mem_cons_self

theorem lookup_perm (perm : entries.Perm entries') (nodup : (entries.map Prod.fst).Nodup)
    (name : String) : entries'.lookup name = entries.lookup name := by
  have hnodup' := (perm.map Prod.fst).nodup_iff.1 nodup
  apply Option.ext
  intro value
  rw [lookup_eq_some_iff_mem hnodup', lookup_eq_some_iff_mem nodup, perm.mem_iff]

end Lookup

theorem Schema.Distinct.spec?_eq_some_iff (distinct : schema.Distinct) :
    schema.spec? spec.name = some spec ↔ spec ∈ schema.specs := by
  refine ⟨Schema.mem_of_spec?, fun hmem => ?_⟩
  have hdecl := Schema.declares_iff.2 ⟨spec, hmem, rfl⟩
  obtain ⟨found, hfound⟩ := Option.isSome_iff_exists.1 hdecl
  have hname := Schema.spec?_name hfound
  rw [hfound, List.inj_on_of_nodup_map distinct (Schema.mem_of_spec? hfound) hmem hname]

/-! ## The same declared texts -/

theorem mem_declaredFlags_flagsOf :
    (spec, raw) ∈ declaredFlags schema (flagsOf entries) ↔
      schema.spec? spec.name = some spec ∧ (spec.name, raw) ∈ entries := by
  constructor
  · intro h
    have hspec := spec?_of_mem_declaredFlags h
    obtain ⟨p, hp, hname, htext⟩ := mem_textsOf.1 ((mem_declaredFlags hspec).1 h)
    rw [places_flagsOf] at hp
    obtain ⟨⟨n, text⟩, hentry, rfl⟩ := List.mem_map.1 hp
    obtain rfl : n = spec.name := Option.some.inj ((flagName?_flag n).symm.trans hname)
    obtain rfl : text = raw := Option.some.inj htext
    exact ⟨hspec, hentry⟩
  · rintro ⟨hspec, hentry⟩
    rw [mem_declaredFlags hspec, mem_textsOf, places_flagsOf]
    exact ⟨_, List.mem_map_of_mem hentry, flagName?_flag spec.name, rfl⟩

theorem mem_declaredEntries :
    (spec, raw) ∈ schema.declaredEntries entries ↔
      spec ∈ schema.specs ∧ entries.lookup spec.name = some raw := by
  unfold Schema.declaredEntries
  simp

theorem declaredEntries_names (schema : Schema) (entries : List (String × String)) :
    (schema.declaredEntries entries).map (fun entry => entry.1.name) =
      (schema.specs.map Spec.name).filter fun name => name ∈ entries.map Prod.fst := by
  unfold Schema.declaredEntries
  induction schema.specs with
  | nil => rfl
  | cons spec rest ih =>
    rw [List.filterMap_cons, List.map_cons]
    cases hlookup : entries.lookup spec.name with
    | none =>
      rw [List.filter_cons_of_neg (by simpa using not_mem_names_of_lookup hlookup), ← ih]
      rfl
    | some raw =>
      rw [List.filter_cons_of_pos (by simpa using mem_names_of_lookup hlookup), ← ih]
      rfl

theorem declaredFlags_perm (distinct : schema.Distinct) (nodup : (entries.map Prod.fst).Nodup) :
    (declaredFlags schema (flagsOf entries)).Perm (schema.declaredEntries entries) := by
  have hplaced : WellPlaced schema [] (places (flagsOf entries)) := wellPlaced_flagsOf nodup
  have hflags := hplaced.nodup.of_map
  have hentries : (schema.declaredEntries entries).Nodup := by
    apply List.Nodup.of_map fun entry => entry.1.name
    rw [declaredEntries_names]
    exact distinct.filter _
  refine (List.perm_ext_iff_of_nodup hflags hentries).2 ?_
  rintro ⟨spec, raw⟩
  rw [mem_declaredFlags_flagsOf, mem_declaredEntries, distinct.spec?_eq_some_iff,
    lookup_eq_some_iff_mem nodup]

/-! ## Reading the mapping -/

/-- The answer to a mapping. An absent name counts before any value. -/
inductive MappingReading (schema : Schema) (entries : List (String × String)) :
    Except Rejection Request → Prop
  | incomplete (absent : schema.missingFrom (entries.map Prod.fst) ≠ []) :
      MappingReading schema entries
        (.error (.missingParameters (schema.missingFrom (entries.map Prod.fst))))
  | unfit {before after : List (Spec × String)} {spec : Spec} {raw : String}
      (absent : schema.missingFrom (entries.map Prod.fst) = [])
      (declared : schema.declaredEntries entries = before ++ (spec, raw) :: after)
      (fit : ∀ entry ∈ before, entry.1.kind.accepts entry.2 = true)
      (first : spec.kind.accepts raw = false) :
      MappingReading schema entries
        (.error (.invalidValue spec.name (spec.kind.refusal spec.name raw)))
  | complete {request : Request} (absent : schema.missingFrom (entries.map Prod.fst) = [])
      (values : List.Forall₂ Fits (schema.declaredEntries entries) request.values) :
      MappingReading schema entries (.ok request)

theorem readMapping_reading (schema : Schema) (entries : List (String × String)) :
    MappingReading schema entries (schema.readMapping entries) := by
  have hvalues := acceptAll_spec (schema.declaredEntries entries)
  unfold Schema.readMapping
  split
  next habsent =>
    cases haccept : acceptAll (schema.declaredEntries entries) with
    | error r =>
      rw [haccept] at hvalues
      obtain ⟨before, spec, raw, after, hdeclared, hfit, hfirst, rfl⟩ := hvalues
      exact .unfit habsent hdeclared hfit hfirst
    | ok values =>
      rw [haccept] at hvalues
      exact .complete habsent hvalues
  next habsent => exact .incomplete habsent

theorem names_of_readMapping {request : Request}
    (h : schema.readMapping entries = .ok request) :
    request.values.map Prod.fst =
      (schema.specs.map Spec.name).filter fun name => name ∈ entries.map Prod.fst := by
  have hreading := readMapping_reading schema entries
  rw [h] at hreading
  cases hreading with
  | complete absent values => rw [names_of_fits values, declaredEntries_names]

theorem exists_request (present : schema.missingFrom (entries.map Prod.fst) = [])
    (fit : ∀ spec ∈ schema.specs, ∀ raw, entries.lookup spec.name = some raw →
      spec.kind.accepts raw = true) :
    ∃ request, schema.readMapping entries = .ok request := by
  have hreading := readMapping_reading schema entries
  generalize schema.readMapping entries = result at hreading ⊢
  cases hreading with
  | incomplete absent => exact absurd present absent
  | @unfit before after spec raw absent declared _ first =>
    have hmem : (spec, raw) ∈ schema.declaredEntries entries := by simp [declared]
    obtain ⟨hspec, hlookup⟩ := mem_declaredEntries.1 hmem
    rw [fit spec hspec raw hlookup] at first
    cases first
  | complete absent values => exact ⟨_, rfl⟩

/-! ## Both readers -/

/-- How the answer to the flags of a mapping goes with the answer to the mapping. -/
inductive Agree (schema : Schema) (entries : List (String × String)) :
    Except Rejection Request → Except Rejection Request → Prop
  /-- Both accept the same values, one in the order of the entries and one in declared order. -/
  | accepted {flags mapping : Request} (values : flags.values.Perm mapping.values)
      (inOrder : flags.values.map Prod.fst = (entries.map Prod.fst).filter schema.declares)
      (declared : mapping.values.map Prod.fst =
        (schema.specs.map Spec.name).filter fun name => name ∈ entries.map Prod.fst) :
      Agree schema entries (.ok flags) (.ok mapping)
  | unfit {name text name' text' : String} :
      Agree schema entries (.error (.invalidValue name text)) (.error (.invalidValue name' text'))
  | incomplete {names : List String} :
      Agree schema entries (.error (.missingParameters names)) (.error (.missingParameters names))
  /-- Among flags a text that does not fit counts before an absent name. -/
  | unfitFirst {name text : String} {names : List String} :
      Agree schema entries (.error (.invalidValue name text)) (.error (.missingParameters names))

/-- Read as flags, a mapping is accepted if and only if it is accepted as it is, with the same
values. -/
theorem readFlags_agrees_readMapping (distinct : schema.Distinct)
    (nodup : (entries.map Prod.fst).Nodup) :
    Agree schema entries (schema.readFlags (flagsOf entries)) (schema.readMapping entries) := by
  have hplaced : WellPlaced schema [] (places (flagsOf entries)) := wellPlaced_flagsOf nodup
  have hperm := declaredFlags_perm distinct nodup
  have habsent := absentNames_flagsOf schema entries
  have hflags := readFlags_reading schema (flagsOf entries)
  have hmapping := readMapping_reading schema entries
  generalize schema.readFlags (flagsOf entries) = flags at hflags ⊢
  generalize schema.readMapping entries = mapping at hmapping ⊢
  -- Both check the same texts, but flags look for absent names last and a mapping looks first.
  cases hflags with
  | misplaced offence => exact absurd hplaced offence.not_wellPlaced
  | unfit placed flags fit first =>
    cases hmapping with
    | incomplete absent => exact .unfitFirst
    | unfit absent declared fit' first' => exact .unfit
    | complete absent values =>
      have hall := accepts_of_fits values
      exact absurd (fun flag hflag => hall flag (hperm.mem_iff.1 hflag))
        (not_all_accepted flags first)
  | incomplete placed fit missing =>
    rw [habsent] at missing ⊢
    cases hmapping with
    | incomplete absent => exact .incomplete
    | unfit absent declared fit' first' => exact absurd absent missing
    | complete absent values => exact absurd absent missing
  | complete placed none values once =>
    rw [habsent] at none
    cases hmapping with
    | incomplete absent => exact absurd none absent
    | unfit absent declared fit' first' =>
      have hall := accepts_of_fits values
      exact absurd (fun entry hentry => hall entry (hperm.mem_iff.2 hentry))
        (not_all_accepted declared first')
    | complete absent values' =>
      refine .accepted ?_ ?_ ?_
      · exact List.rel_perm_imp fits_rightUnique values values' hperm
      · rw [names_of_fits values, declaredFlags_names hplaced.texts, usedNames_flagsOf]
      · rw [names_of_fits values', declaredEntries_names]

theorem serverQuery_agrees :
    serverQuery.Distinct ∧
      (["FolderOut", "note", "Product"] : List String).Nodup ∧
      Agree serverQuery [("FolderOut", "/out"), ("note", ""), ("Product", "A")]
        (serverQuery.readFlags
          ["--FolderOut", "/out", "--note", "", "--Product", "A"])
        (serverQuery.readMapping [("FolderOut", "/out"), ("note", ""), ("Product", "A")]) := by
  have hdistinct : serverQuery.Distinct := by
    unfold Schema.Distinct
    decide
  exact ⟨hdistinct, by decide, readFlags_agrees_readMapping hdistinct (by decide)⟩

end MapStandin.Parameter
