import Mathlib.Algebra.Group.Nat.Even
import MapStandin.Proofs.Parameter.Mapping

/-! # Flags in another order

A flag that is not declared can stand anywhere among the others. Declared flags can stand in any
order, as far as the caller learns what was accepted or what is absent. -/

namespace MapStandin.Parameter

variable {schema : Schema} {entries entries' : List (String × String)}
  {before after : List String} {name raw : String}

/-! ## A flag that is not declared -/

/-- An even number of tokens leaves the pairs behind them as they are, also where the tokens have no
shape of flags. -/
theorem pairUp_insert (seen : List String) (even : Even before.length)
    (undeclared : schema.declares name = false) :
    schema.pairUp seen (before ++ flag name :: raw :: after) =
      schema.pairUp seen (before ++ after) := by
  fun_induction places before generalizing seen with
  | case1 =>
    have hspec : schema.spec? name = none := by simpa [Schema.declares] using undeclared
    rw [List.nil_append, List.nil_append, Schema.pairUp, flagName?_flag]
    simp only [hspec]
  | case2 token =>
    rw [List.length_singleton] at even
    exact absurd even (by decide)
  | case3 token text rest ih =>
    have hrest : Even rest.length := by
      rwa [List.length_cons, List.length_cons, Nat.even_add_one, Nat.even_add_one, not_not] at even
    simp only [List.cons_append, Schema.pairUp, ih _ hrest]

theorem readFlags_insert (even : Even before.length) (undeclared : schema.declares name = false) :
    schema.readFlags (before ++ flag name :: raw :: after) =
      schema.readFlags (before ++ after) := by
  unfold Schema.readFlags
  rw [pairUp_insert [] even undeclared]

/-! ## Declared flags -/

theorem declaredFlags_flagsOf (schema : Schema) (entries : List (String × String)) :
    declaredFlags schema (flagsOf entries) =
      entries.filterMap fun entry => (schema.spec? entry.1).map fun spec => (spec, entry.2) := by
  unfold declaredFlags
  rw [places_flagsOf, List.filterMap_map]
  apply List.filterMap_congr
  intro entry _
  rw [Function.comp_apply, Place.declared?_of_text rfl]
  show ((flagName? (flag entry.1)).bind schema.spec?).map _ = _
  rw [flagName?_flag, Option.bind_some]

theorem absentNames_perm (perm : entries.Perm entries') :
    absentNames schema (flagsOf entries') = absentNames schema (flagsOf entries) := by
  rw [absentNames_flagsOf, absentNames_flagsOf]
  unfold Schema.missingFrom
  apply List.filter_congr
  intro name _
  rw [List.contains_eq_mem, List.contains_eq_mem, decide_eq_decide.2 (perm.map Prod.fst).mem_iff]

/-- How the answers to the same flags in two orders go together. -/
inductive SameAnswer : Except Rejection Request → Except Rejection Request → Prop
  /-- The same values are accepted; each name has its text and its value in both. -/
  | accepted {request request' : Request} (values : request.values.Perm request'.values)
      (each : ∀ name, request'.get? name = request.get? name) :
      SameAnswer (.ok request) (.ok request')
  /-- Some value does not fit. Which one is told depends on the order. -/
  | unfit {name text name' text' : String} :
      SameAnswer (.error (.invalidValue name text)) (.error (.invalidValue name' text'))
  | incomplete {names : List String} :
      SameAnswer (.error (.missingParameters names)) (.error (.missingParameters names))

theorem readFlags_perm (perm : entries.Perm entries')
    (once : ((entries.map Prod.fst).filter schema.declares).Nodup) :
    SameAnswer (schema.readFlags (flagsOf entries)) (schema.readFlags (flagsOf entries')) := by
  have once' : ((entries'.map Prod.fst).filter schema.declares).Nodup :=
    ((perm.map Prod.fst).filter _).nodup_iff.1 once
  have hplaced : WellPlaced schema [] (places (flagsOf entries)) := wellPlaced_flagsOf_iff.2 once
  have hplaced' : WellPlaced schema [] (places (flagsOf entries')) :=
    wellPlaced_flagsOf_iff.2 once'
  have hflags : (declaredFlags schema (flagsOf entries)).Perm
      (declaredFlags schema (flagsOf entries')) := by
    rw [declaredFlags_flagsOf, declaredFlags_flagsOf]
    exact perm.filterMap _
  have habsent : absentNames schema (flagsOf entries') = absentNames schema (flagsOf entries) :=
    absentNames_perm perm
  have hreading := readFlags_reading schema (flagsOf entries)
  have hreading' := readFlags_reading schema (flagsOf entries')
  generalize schema.readFlags (flagsOf entries) = answer at hreading ⊢
  generalize schema.readFlags (flagsOf entries') = answer' at hreading' ⊢
  -- The same flags are checked in both orders, so one order refuses a text only if the other does.
  cases hreading with
  | misplaced offence => exact absurd hplaced offence.not_wellPlaced
  | unfit placed flags fit first =>
    have hsome := not_all_accepted flags first
    cases hreading' with
    | misplaced offence => exact absurd hplaced' offence.not_wellPlaced
    | unfit => exact .unfit
    | incomplete placed' fit' missing =>
      exact absurd (fun flag hflag => fit' flag (hflags.mem_iff.1 hflag)) hsome
    | complete placed' none values once' =>
      have hall := accepts_of_fits values
      exact absurd (fun flag hflag => hall flag (hflags.mem_iff.1 hflag)) hsome
  | incomplete placed fit missing =>
    cases hreading' with
    | misplaced offence => exact absurd hplaced' offence.not_wellPlaced
    | unfit placed' flags fit' first =>
      exact absurd (fun flag hflag => fit flag (hflags.mem_iff.2 hflag))
        (not_all_accepted flags first)
    | incomplete =>
      rw [habsent]
      exact .incomplete
    | complete placed' none => exact absurd (habsent.symm.trans none) missing
  | complete placed none values single =>
    cases hreading' with
    | misplaced offence => exact absurd hplaced' offence.not_wellPlaced
    | unfit placed' flags fit' first =>
      have hall := accepts_of_fits values
      exact absurd (fun flag hflag => hall flag (hflags.mem_iff.2 hflag))
        (not_all_accepted flags first)
    | incomplete placed' fit' missing => exact absurd (habsent.trans none) missing
    | complete placed' none' values' =>
      have hvalues := List.rel_perm_imp fits_rightUnique values values' hflags
      exact .accepted hvalues (lookup_perm hvalues single)

/-- A flag that is not declared makes no difference between any two pairs of tokens, whatever the
tokens are. The order of flags makes none to what is accepted and to what is absent. -/
theorem readFlags_rearranged (schema : Schema) :
    (∀ (before after : List String) (name raw : String), Even before.length →
      schema.declares name = false →
      schema.readFlags (before ++ flag name :: raw :: after) =
        schema.readFlags (before ++ after)) ∧
    ∀ entries entries' : List (String × String), entries.Perm entries' →
      ((entries.map Prod.fst).filter schema.declares).Nodup →
      SameAnswer (schema.readFlags (flagsOf entries)) (schema.readFlags (flagsOf entries')) := by
  constructor
  · intro before after name raw even undeclared
    exact readFlags_insert even undeclared
  · intro entries entries' perm once
    exact readFlags_perm perm once

theorem serverQuery_rearranged :
    serverQuery.readFlags ["--Product", "A", "--note", "--Product", "stray"] =
        serverQuery.readFlags ["--Product", "A", "stray"] ∧
      SameAnswer
        (serverQuery.readFlags ["--Product", "A", "--note", "1", "--FolderOut", "", "--note", "2"])
        (serverQuery.readFlags ["--note", "2", "--FolderOut", "", "--Product", "A", "--note", "1"])
    := by
  obtain ⟨hinsert, horder⟩ := readFlags_rearranged serverQuery
  constructor
  · exact hinsert ["--Product", "A"] ["stray"] "note" "--Product" (by decide) (by decide)
  · exact horder [("Product", "A"), ("note", "1"), ("FolderOut", ""), ("note", "2")]
      [("note", "2"), ("FolderOut", ""), ("Product", "A"), ("note", "1")] (by decide) (by decide)

end MapStandin.Parameter
