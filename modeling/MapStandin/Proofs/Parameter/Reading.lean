import Mathlib.Data.List.Forall2
import Mathlib.Data.List.Nodup
import MapStandin.Proofs.Parameter.Place

/-! # What reading flags comes to

`Reading` says which answer a token list gets from a schema, in terms of its places and its declared
flags. The reader gives that answer and no other. -/

namespace MapStandin.Parameter

/-- The accepted value `a` is what the flag stands for: its name, its text as it is and the value
that its kind reads in the text. -/
def Fits (flag : Spec × String) (a : String × Accepted) : Prop :=
  a.1 = flag.1.name ∧ a.2.raw = flag.2 ∧ flag.1.kind.read? flag.2 = some a.2.value

/-- The required names that no flag uses, in declared order. -/
def absentNames (schema : Schema) (tokens : List String) : List String :=
  schema.requiredNames.filter fun name => name ∉ usedNames tokens

/-- The answer to a token list. The first offence counts before any value, the first value that does
not fit before any absent name. -/
inductive Reading (schema : Schema) (tokens : List String) : Except Rejection Request → Prop
  | misplaced {r : Rejection} (offence : FirstOffence schema [] (places tokens) r) :
      Reading schema tokens (.error r)
  | unfit {before after : List (Spec × String)} {spec : Spec} {raw : String}
      (placed : WellPlaced schema [] (places tokens))
      (flags : declaredFlags schema tokens = before ++ (spec, raw) :: after)
      (fit : ∀ flag ∈ before, flag.1.kind.accepts flag.2 = true)
      (first : spec.kind.accepts raw = false) :
      Reading schema tokens
        (.error (.invalidValue spec.name (spec.kind.refusal spec.name raw)))
  | incomplete (placed : WellPlaced schema [] (places tokens))
      (fit : ∀ flag ∈ declaredFlags schema tokens, flag.1.kind.accepts flag.2 = true)
      (absent : absentNames schema tokens ≠ []) :
      Reading schema tokens (.error (.missingParameters (absentNames schema tokens)))
  | complete {request : Request} (placed : WellPlaced schema [] (places tokens))
      (absent : absentNames schema tokens = [])
      (values : List.Forall₂ Fits (declaredFlags schema tokens) request.values)
      (once : (request.values.map Prod.fst).Nodup) :
      Reading schema tokens (.ok request)

variable {schema : Schema}

/-! ## Pairing -/

/-- The names seen so far are the declared ones among the places taken so far. -/
def Seen (schema : Schema) (done : List Place) (seen : List String) : Prop :=
  ∀ name, name ∈ seen ↔ schema.declares name = true ∧ name ∈ done.filterMap Place.name?

/-- What pairing the tokens after the places `done` comes to: the first offence, or the declared
flags of a list without offences. -/
def PairUpPost (schema : Schema) (done : List Place) (tokens : List String) :
    Except Rejection (List (Spec × String)) → Prop
  | .error r => FirstOffence schema done (places tokens) r
  | .ok flags => WellPlaced schema done (places tokens) ∧ flags = declaredFlags schema tokens

theorem Seen.undeclared {done : List Place} {seen : List String} {p : Place} {name : String}
    (h : Seen schema done seen) (hp : p.name? = some name) (hname : schema.declares name = false) :
    Seen schema (done ++ [p]) seen := by
  intro n
  rw [h n, List.filterMap_append, List.mem_append]
  simp only [List.filterMap_cons, hp, List.filterMap_nil, List.mem_singleton]
  constructor
  · rintro ⟨hn, hm⟩
    exact ⟨hn, Or.inl hm⟩
  · rintro ⟨hn, hm | rfl⟩
    · exact ⟨hn, hm⟩
    · simp [hname] at hn

theorem Seen.declared {done : List Place} {seen : List String} {p : Place} {name : String}
    (h : Seen schema done seen) (hp : p.name? = some name) (hname : schema.declares name = true) :
    Seen schema (done ++ [p]) (name :: seen) := by
  intro n
  rw [List.mem_cons, h n, List.filterMap_append, List.mem_append]
  simp only [List.filterMap_cons, hp, List.filterMap_nil, List.mem_singleton]
  constructor
  · rintro (rfl | ⟨hn, hm⟩)
    · exact ⟨hname, Or.inr rfl⟩
    · exact ⟨hn, Or.inl hm⟩
  · rintro ⟨hn, hm | rfl⟩
    · exact Or.inr ⟨hn, hm⟩
    · exact Or.inl rfl

theorem declaredFlags_cons (token raw : String) (rest : List String) :
    declaredFlags schema (token :: raw :: rest) =
      (Place.declared? schema ⟨token, some raw⟩).toList ++ declaredFlags schema rest := by
  unfold declaredFlags
  rw [places, List.filterMap_cons]
  cases Place.declared? schema ⟨token, some raw⟩ <;> rfl

theorem PairUpPost.cons {done : List Place} {token raw : String} {rest : List String}
    {result : Except Rejection (List (Spec × String))}
    (hp : (⟨token, some raw⟩ : Place).offence? schema done = none)
    (h : PairUpPost schema (done ++ [⟨token, some raw⟩]) rest result) :
    PairUpPost schema done (token :: raw :: rest)
      (result.map ((Place.declared? schema ⟨token, some raw⟩).toList ++ ·)) := by
  cases result with
  | error r => exact firstOffence_cons.2 (Or.inr ⟨hp, h⟩)
  | ok flags =>
    obtain ⟨hplaced, rfl⟩ := h
    exact ⟨wellPlaced_cons.2 ⟨hp, hplaced⟩, (declaredFlags_cons token raw rest).symm⟩

theorem pairUp_spec (done : List Place) (seen tokens : List String) (h : Seen schema done seen) :
    PairUpPost schema done tokens (schema.pairUp seen tokens) := by
  -- The induction carries `Seen`: the names in `seen` stand for the places taken so far.
  fun_induction Schema.pairUp schema seen tokens generalizing done with
  | case1 => exact ⟨wellPlaced_nil, rfl⟩
  | case2 seen token hname | case3 seen token name hname | case4 seen token raw rest hname =>
    apply firstOffence_cons.2
    left
    simp [Place.offence?, Place.name?, hname]
  | case5 seen token raw rest name hname hspec ih =>
    -- An undeclared name can be used again and again.
    have hdecl : schema.declares name = false := by simp [Schema.declares, hspec]
    have hp : (⟨token, some raw⟩ : Place).offence? schema done = none := by
      simp [Place.offence?, Place.name?, hname, hdecl]
    have hpost := PairUpPost.cons hp (ih _ (h.undeclared hname hdecl))
    have hnone : Place.declared? schema ⟨token, some raw⟩ = none := by
      simp [Place.declared?, Place.name?, hname, hspec]
    rw [hnone] at hpost
    cases hresult : schema.pairUp seen rest <;> simpa [hresult, Except.map] using hpost
  | case6 seen token raw rest name hname spec hspec hmem =>
    apply firstOffence_cons.2
    left
    have hused := (h name).1 hmem
    simp [Place.offence?, Place.name?, hname, hused.1]
    simpa [Place.name?] using hused.2
  | case7 seen token raw rest name hname spec hspec hmem ih =>
    have hdecl : schema.declares name = true := by simp [Schema.declares, hspec]
    have hp : (⟨token, some raw⟩ : Place).offence? schema done = none := by
      rw [Place.offence?_eq_none_iff]
      exact ⟨by simp, name, hname, fun _ hused => hmem ((h name).2 ⟨hdecl, hused⟩)⟩
    have hpost := PairUpPost.cons hp (ih _ (h.declared hname hdecl))
    have hsome : Place.declared? schema ⟨token, some raw⟩ = some (spec, raw) := by
      simp [Place.declared?, Place.name?, hname, hspec]
    rw [hsome] at hpost
    exact hpost

/-! ## Values -/

/-- What checking texts in order comes to: a value for each, or the refusal of the first that does
not fit. -/
def AcceptAllPost (flags : List (Spec × String)) :
    Except Rejection (List (String × Accepted)) → Prop
  | .error r => ∃ before spec raw after, flags = before ++ (spec, raw) :: after ∧
      (∀ flag ∈ before, flag.1.kind.accepts flag.2 = true) ∧ spec.kind.accepts raw = false ∧
      r = .invalidValue spec.name (spec.kind.refusal spec.name raw)
  | .ok values => List.Forall₂ Fits flags values

theorem acceptAll_spec (flags : List (Spec × String)) : AcceptAllPost flags (acceptAll flags) := by
  induction flags with
  | nil => exact List.Forall₂.nil
  | cons flag rest ih =>
    obtain ⟨spec, raw⟩ := flag
    unfold acceptAll Spec.accept
    cases hread : spec.kind.read? raw with
    | none =>
      exact ⟨[], spec, raw, rest, rfl, by simp, by simp [Kind.accepts, hread], rfl⟩
    | some value =>
      cases hrest : acceptAll rest with
      | error r =>
        rw [hrest] at ih
        obtain ⟨before, spec', raw', after, hflags, hbefore, hfirst, hr⟩ := ih
        refine ⟨(spec, raw) :: before, spec', raw', after, by rw [hflags]; rfl, ?_, hfirst, hr⟩
        intro flag hflag
        rcases List.mem_cons.1 hflag with rfl | hflag
        · simp [Kind.accepts, hread]
        · exact hbefore flag hflag
      | ok values =>
        rw [hrest] at ih
        exact List.Forall₂.cons ⟨rfl, rfl, hread⟩ ih

theorem names_of_fits {flags : List (Spec × String)} {values : List (String × Accepted)}
    (h : List.Forall₂ Fits flags values) :
    values.map Prod.fst = flags.map fun flag => flag.1.name := by
  induction h with
  | nil => rfl
  | cons hfit _ ih => rw [List.map_cons, List.map_cons, ih, hfit.1]

theorem accepts_of_fits {flags : List (Spec × String)} {values : List (String × Accepted)}
    (h : List.Forall₂ Fits flags values) :
    ∀ flag ∈ flags, flag.1.kind.accepts flag.2 = true := by
  induction h with
  | nil => simp
  | cons hfit _ ih =>
    intro flag hflag
    rcases List.mem_cons.1 hflag with rfl | hflag
    · simp [Kind.accepts, hfit.2.2]
    · exact ih flag hflag

theorem fits_rightUnique : Relator.RightUnique Fits := by
  rintro flag ⟨name, raw, value⟩ ⟨name', raw', value'⟩ ⟨hname, hraw, hvalue⟩ ⟨hname', hraw', hvalue'⟩
  simp only at hname hraw hvalue hname' hraw' hvalue'
  rw [hname, hname', hraw, hraw', Option.some.inj (hvalue.symm.trans hvalue')]

/-! ## Names of declared flags -/

theorem Place.declared?_of_text {p : Place} {text : String} (h : p.text = some text) :
    p.declared? schema = (p.name?.bind schema.spec?).map fun spec => (spec, text) := by
  unfold Place.declared?
  rw [h]
  cases p.name?.bind schema.spec? <;> rfl

theorem declaredFlags_names {tokens : List String} (h : ∀ p ∈ places tokens, p.text ≠ none) :
    (declaredFlags schema tokens).map (fun flag => flag.1.name) =
      (usedNames tokens).filter schema.declares := by
  unfold declaredFlags usedNames
  generalize places tokens = ps at h
  induction ps with
  | nil => rfl
  | cons p ps ih =>
    have hrest := ih fun q hq => h q (List.mem_cons_of_mem _ hq)
    obtain ⟨text, htext⟩ := Option.ne_none_iff_exists'.1 (h p List.mem_cons_self)
    rw [List.filterMap_cons, List.filterMap_cons, Place.declared?_of_text htext]
    cases hname : p.name? with
    | none => exact hrest
    | some name =>
      rw [Option.bind_some]
      cases hspec : schema.spec? name with
      | none =>
        rw [List.filter_cons_of_neg (by simp [Schema.declares, hspec])]
        exact hrest
      | some spec =>
        rw [List.filter_cons_of_pos (by simp [Schema.declares, hspec])]
        rw [Option.map_some, List.map_cons, hrest, Schema.spec?_name hspec]

theorem WellPlaced.texts {tokens : List String} (h : WellPlaced schema [] (places tokens)) :
    ∀ p ∈ places tokens, p.text ≠ none :=
  ((wellPlaced_iff_count (by simp)).1 h).2.1

theorem WellPlaced.nodup {tokens : List String} (h : WellPlaced schema [] (places tokens)) :
    ((declaredFlags schema tokens).map fun flag => flag.1.name).Nodup := by
  rw [declaredFlags_names h.texts, List.nodup_iff_count_le_one]
  intro name
  by_cases hname : schema.declares name
  · rw [List.count_filter hname]
    exact ((wellPlaced_iff_count (by simp)).1 h).2.2 name hname
  · rw [List.count_eq_zero_of_not_mem]
    · omega
    · simp [hname]

theorem Schema.declares_of_required {name : String} (h : name ∈ schema.requiredNames) :
    schema.declares name = true := by
  obtain ⟨spec, hspec, rfl⟩ := List.mem_map.1 h
  exact Schema.declares_iff.2 ⟨spec, (List.mem_filter.1 hspec).1, rfl⟩

theorem missingFrom_declaredFlags {tokens : List String}
    (h : WellPlaced schema [] (places tokens)) :
    schema.missingFrom ((declaredFlags schema tokens).map fun flag => flag.1.name) =
      absentNames schema tokens := by
  unfold Schema.missingFrom absentNames
  rw [declaredFlags_names h.texts]
  apply List.filter_congr
  intro name hname
  have hdecl := Schema.declares_of_required hname
  simp [hdecl]

/-! ## The reader -/

theorem readFlags_reading (schema : Schema) (tokens : List String) :
    Reading schema tokens (schema.readFlags tokens) := by
  have hseen : Seen schema [] [] := by
    intro name
    simp
  -- The three passes of the reader, each with its own result.
  have hpairs := pairUp_spec [] [] tokens hseen
  unfold Schema.readFlags
  cases hp : schema.pairUp [] tokens with
  | error r =>
    rw [hp] at hpairs
    exact .misplaced hpairs
  | ok flags =>
    rw [hp] at hpairs
    obtain ⟨hplaced, rfl⟩ := hpairs
    simp only [bind, Except.bind]
    have hvalues := acceptAll_spec (declaredFlags schema tokens)
    cases hv : acceptAll (declaredFlags schema tokens) with
    | error r =>
      rw [hv] at hvalues
      obtain ⟨before, spec, raw, after, hflags, hfit, hfirst, rfl⟩ := hvalues
      exact .unfit hplaced hflags hfit hfirst
    | ok values =>
      rw [hv] at hvalues
      have hmissing : schema.missingFrom (values.map Prod.fst) = absentNames schema tokens := by
        rw [names_of_fits hvalues, missingFrom_declaredFlags hplaced]
      simp only [hmissing]
      cases habsent : absentNames schema tokens with
      | nil =>
        refine .complete hplaced habsent hvalues ?_
        rw [names_of_fits hvalues]
        exact hplaced.nodup
      | cons name names =>
        have hread := Reading.incomplete hplaced (accepts_of_fits hvalues) (by simp [habsent])
        rw [habsent] at hread
        exact hread

/-! ## What a request holds -/

/-- The texts that flags of a name have. -/
def textsOf (name : String) (tokens : List String) : List String :=
  (places tokens).filterMap fun p => if p.name? = some name then p.text else none

/-- Some declared flag has a text that does not fit its kind. -/
def Unfit (schema : Schema) (tokens : List String) : Prop :=
  ∃ flag ∈ declaredFlags schema tokens, flag.1.kind.accepts flag.2 = false

instance (schema : Schema) (tokens : List String) : Decidable (Unfit schema tokens) :=
  inferInstanceAs (Decidable (∃ flag ∈ declaredFlags schema tokens, _))

variable {tokens : List String} {request : Request} {spec : Spec} {name raw : String}

theorem not_unfit_iff :
    ¬ Unfit schema tokens ↔
      ∀ flag ∈ declaredFlags schema tokens, flag.1.kind.accepts flag.2 = true := by
  unfold Unfit
  simp

theorem mem_textsOf :
    raw ∈ textsOf name tokens ↔ ∃ p ∈ places tokens, p.name? = some name ∧ p.text = some raw := by
  unfold textsOf
  rw [List.mem_filterMap]
  constructor
  · rintro ⟨p, hp, htext⟩
    split at htext
    · exact ⟨p, hp, ‹_›, htext⟩
    · simp at htext
  · rintro ⟨p, hp, hname, htext⟩
    exact ⟨p, hp, by rw [if_pos hname, htext]⟩

theorem length_textsOf_le (name : String) (tokens : List String) :
    (textsOf name tokens).length ≤ (usedNames tokens).count name := by
  unfold textsOf usedNames
  induction places tokens with
  | nil => simp
  | cons p ps ih =>
    rw [List.filterMap_cons, List.filterMap_cons]
    cases hname : p.name? with
    | none => simpa [hname] using ih
    | some n =>
      by_cases hn : n = name
      · subst hn
        rw [List.count_cons_self]
        cases p.text with
        | none =>
          simp only [if_true]
          omega
        | some text =>
          simp only [if_true, List.length_cons]
          omega
      · rw [List.count_cons_of_ne hn]
        simpa [hn] using ih

theorem textsOf_eq_singleton (hname : schema.declares name = true)
    (h : ¬ Malformed schema tokens) (hraw : raw ∈ textsOf name tokens) :
    textsOf name tokens = [raw] := by
  obtain ⟨-, -, hcount⟩ := (wellPlaced_iff_count (by simp)).1 (not_malformed_iff.1 h)
  have hlength : (textsOf name tokens).length ≤ 1 :=
    Nat.le_trans (length_textsOf_le name tokens) (hcount name hname)
  obtain ⟨text, htext⟩ := List.length_eq_one_iff.1
    (Nat.le_antisymm hlength (List.length_pos_of_mem hraw))
  rw [htext] at hraw ⊢
  rw [List.mem_singleton.1 hraw]

theorem spec?_of_mem_declaredFlags (h : (spec, raw) ∈ declaredFlags schema tokens) :
    schema.spec? spec.name = some spec := by
  obtain ⟨p, -, hp⟩ := List.mem_filterMap.1 h
  obtain ⟨name, -, hspec, -⟩ := Place.declared?_eq_some_iff.1 hp
  rw [Schema.spec?_name hspec]
  exact hspec

theorem mem_declaredFlags (hspec : schema.spec? name = some spec) :
    (spec, raw) ∈ declaredFlags schema tokens ↔ raw ∈ textsOf name tokens := by
  rw [mem_textsOf]
  unfold declaredFlags
  rw [List.mem_filterMap]
  constructor
  · rintro ⟨p, hp, hflag⟩
    obtain ⟨name', hname', hfound, htext⟩ := Place.declared?_eq_some_iff.1 hflag
    refine ⟨p, hp, ?_, htext⟩
    rw [hname', ← Schema.spec?_name hfound, Schema.spec?_name hspec]
  · rintro ⟨p, hp, hname, htext⟩
    exact ⟨p, hp, Place.declared?_eq_some_iff.2 ⟨name, hname, hspec, htext⟩⟩

theorem lookup_of_fits {flags : List (Spec × String)} {values : List (String × Accepted)}
    (h : List.Forall₂ Fits flags values) (hnodup : (flags.map fun flag => flag.1.name).Nodup)
    (hflag : (spec, raw) ∈ flags) :
    ∃ value, values.lookup spec.name = some ⟨raw, value⟩ ∧ spec.kind.read? raw = some value := by
  induction h with
  | nil => simp at hflag
  | @cons flag a flags values hfit _ ih =>
    obtain ⟨hnew, hnodup⟩ := List.nodup_cons.1 hnodup
    rw [List.lookup_cons]
    rcases List.mem_cons.1 hflag with rfl | hflag
    · obtain ⟨hname, hraw, hvalue⟩ := hfit
      rw [beq_iff_eq.2 hname.symm]
      simp only at hraw
      exact ⟨a.2.value, by rw [← hraw], hvalue⟩
    · have hne : spec.name ≠ a.1 := by
        rw [hfit.1]
        intro heq
        exact hnew (List.mem_map.2 ⟨(spec, raw), hflag, heq⟩)
      rw [beq_eq_false_iff_ne.2 hne]
      exact ih hnodup hflag

theorem Reading.get?_of_text (h : Reading schema tokens (.ok request))
    (hspec : schema.spec? name = some spec) (hraw : raw ∈ textsOf name tokens) :
    ∃ value, request.get? name = some ⟨raw, value⟩ ∧ spec.kind.read? raw = some value := by
  cases h with
  | complete placed absent values once =>
    have hflag := (mem_declaredFlags hspec).2 hraw
    rw [← Schema.spec?_name hspec]
    exact lookup_of_fits values placed.nodup hflag

theorem mem_absentNames :
    name ∈ absentNames schema tokens ↔ name ∈ schema.requiredNames ∧ name ∉ usedNames tokens := by
  unfold absentNames
  simp

theorem Reading.used (h : Reading schema tokens (.ok request))
    (hname : name ∈ schema.requiredNames) : name ∈ usedNames tokens := by
  cases h with
  | complete placed absent values once =>
    by_contra hnot
    have hmem : name ∈ absentNames schema tokens := mem_absentNames.2 ⟨hname, hnot⟩
    rw [absent] at hmem
    simp at hmem

theorem Reading.exists_text (h : Reading schema tokens (.ok request)) (name : String)
    (hname : name ∈ schema.requiredNames) : ∃ raw, raw ∈ textsOf name tokens := by
  obtain ⟨p, hp, hpname⟩ := List.mem_filterMap.1 (h.used hname)
  cases h with
  | complete placed absent values once =>
    obtain ⟨raw, hraw⟩ := Option.ne_none_iff_exists'.1 (placed.texts p hp)
    exact ⟨raw, mem_textsOf.2 ⟨p, hp, hpname, hraw⟩⟩

theorem Reading.texts_eq (h : Reading schema tokens (.ok request)) :
    request.texts = (declaredFlags schema tokens).map fun flag => (flag.1.name, flag.2) := by
  cases h with
  | complete placed absent values once =>
    unfold Request.texts
    generalize declaredFlags schema tokens = flags at values
    generalize request.values = accepted at values
    induction values with
    | nil => rfl
    | @cons flag a flags accepted hfit _ ih =>
      obtain ⟨name, value⟩ := a
      obtain ⟨hname, hraw, -⟩ := hfit
      rw [List.map_cons, List.map_cons, ih, ← hname, ← hraw]

theorem Reading.mem_texts (h : Reading schema tokens (.ok request))
    (declared : schema.declares name = true) (hraw : raw ∈ textsOf name tokens) :
    (name, raw) ∈ request.texts := by
  obtain ⟨spec, hspec⟩ := Option.isSome_iff_exists.1 declared
  rw [h.texts_eq]
  refine List.mem_map.2 ⟨(spec, raw), (mem_declaredFlags hspec).2 hraw, ?_⟩
  rw [Schema.spec?_name hspec]

/-! ## One answer -/

/-- The first value that does not fit is the same in any two splits. -/
theorem first_unfit_unique {before before' after after' : List (Spec × String)}
    {flag flag' : Spec × String} (h : before ++ flag :: after = before' ++ flag' :: after')
    (hbefore : ∀ f ∈ before, f.1.kind.accepts f.2 = true)
    (hbefore' : ∀ f ∈ before', f.1.kind.accepts f.2 = true)
    (hflag : flag.1.kind.accepts flag.2 = false) (hflag' : flag'.1.kind.accepts flag'.2 = false) :
    flag = flag' := by
  -- The two splits are walked together; if one ends first, its flag is accepted in the other.
  induction before generalizing before' with
  | nil =>
    cases before' with
    | nil => exact (List.cons_eq_cons.1 h).1
    | cons f rest =>
      obtain ⟨rfl, -⟩ := List.cons_eq_cons.1 h
      simp [hbefore' flag List.mem_cons_self] at hflag
  | cons f rest ih =>
    cases before' with
    | nil =>
      obtain ⟨rfl, -⟩ := List.cons_eq_cons.1 h
      simp [hbefore f List.mem_cons_self] at hflag'
    | cons f' rest' =>
      obtain ⟨-, hrest⟩ := List.cons_eq_cons.1 h
      exact ih hrest (fun g hg => hbefore g (List.mem_cons_of_mem _ hg))
        fun g hg => hbefore' g (List.mem_cons_of_mem _ hg)

theorem not_all_accepted {flags before after : List (Spec × String)} {spec : Spec} {raw : String}
    (h : flags = before ++ (spec, raw) :: after) (hfirst : spec.kind.accepts raw = false) :
    ¬ ∀ flag ∈ flags, flag.1.kind.accepts flag.2 = true := by
  intro hall
  have := hall (spec, raw) (by rw [h]; simp)
  simp [hfirst] at this

theorem Reading.unique {tokens : List String} {a b : Except Rejection Request}
    (ha : Reading schema tokens a) (hb : Reading schema tokens b) : a = b := by
  cases ha with
  | misplaced offence =>
    cases hb with
    | misplaced offence' => rw [offence.unique offence']
    | unfit placed | incomplete placed | complete placed =>
      exact absurd placed offence.not_wellPlaced
  | unfit placed flags fit first =>
    cases hb with
    | misplaced offence => exact absurd placed offence.not_wellPlaced
    | unfit placed' flags' fit' first' =>
      obtain ⟨rfl, rfl⟩ := Prod.mk.inj
        (first_unfit_unique (flags.symm.trans flags') fit fit' first first')
      rfl
    | incomplete placed' fit' => exact absurd fit' (not_all_accepted flags first)
    | complete placed' absent values =>
      exact absurd (accepts_of_fits values) (not_all_accepted flags first)
  | incomplete placed fit absent =>
    cases hb with
    | misplaced offence => exact absurd placed offence.not_wellPlaced
    | unfit placed' flags fit' first => exact absurd fit (not_all_accepted flags first)
    | incomplete => rfl
    | complete placed' absent' => exact absurd absent' absent
  | @complete request placed absent values =>
    cases hb with
    | misplaced offence => exact absurd placed offence.not_wellPlaced
    | unfit placed' flags fit first =>
      exact absurd (accepts_of_fits values) (not_all_accepted flags first)
    | incomplete placed' fit absent' => exact absurd absent absent'
    | @complete request' placed' absent' values' =>
      obtain ⟨accepted⟩ := request
      obtain ⟨accepted'⟩ := request'
      have heq : accepted = accepted' := List.right_unique_forall₂' fits_rightUnique values values'
      rw [heq]

theorem readFlags_eq_iff (schema : Schema) (tokens : List String)
    (result : Except Rejection Request) :
    schema.readFlags tokens = result ↔ Reading schema tokens result := by
  constructor
  · rintro rfl
    exact readFlags_reading schema tokens
  · exact (readFlags_reading schema tokens).unique

end MapStandin.Parameter
