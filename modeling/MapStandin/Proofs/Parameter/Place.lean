import MapStandin.Parameter.Request

/-! # Places of flags

A token list is taken two tokens at a time. What is wrong with it is said here of its places and of
what stands before each of them, without a loop that goes through the list. -/

namespace MapStandin.Parameter

/-- A token where a flag should stand, and the token after it, if there is one. -/
structure Place where
  token : String
  text : Option String
  deriving DecidableEq, Repr

/-- The places of a token list. -/
def places : List String → List Place
  | [] => []
  | [token] => [⟨token, none⟩]
  | token :: text :: rest => ⟨token, some text⟩ :: places rest

def Place.name? (p : Place) : Option String := flagName? p.token

/-- What is wrong with a place that comes after the places `before`. -/
def Place.offence? (schema : Schema) (before : List Place) (p : Place) : Option Rejection :=
  match p.name?, p.text with
  | none, _ => some (.positionalArgument p.token)
  | some name, none => some (.missingValue name)
  | some name, some _ =>
    if schema.declares name ∧ name ∈ before.filterMap Place.name? then
      some (.duplicateParameter name)
    else none

def Place.declared? (schema : Schema) (p : Place) : Option (Spec × String) :=
  match p.name?.bind schema.spec?, p.text with
  | some spec, some text => some (spec, text)
  | _, _ => none

/-- The names of all flags, declared or not. -/
def usedNames (tokens : List String) : List String :=
  (places tokens).filterMap Place.name?

def declaredFlags (schema : Schema) (tokens : List String) : List (Spec × String) :=
  (places tokens).filterMap (Place.declared? schema)

/-! ## The first offence -/

/-- Nothing is wrong with the places `ps`, which come after the places `done`. -/
def WellPlaced (schema : Schema) (done ps : List Place) : Prop :=
  ∀ before p after, ps = before ++ p :: after → p.offence? schema (done ++ before) = none

/-- `r` is what is wrong with the first of the places `ps` at which something is wrong. -/
def FirstOffence (schema : Schema) (done ps : List Place) (r : Rejection) : Prop :=
  ∃ before p after, ps = before ++ p :: after ∧ WellPlaced schema done before ∧
    p.offence? schema (done ++ before) = some r

variable {schema : Schema} {done ps : List Place} {p : Place} {r : Rejection}

@[simp]
theorem wellPlaced_nil : WellPlaced schema done [] := by
  intro before p after h
  simp at h

theorem wellPlaced_cons :
    WellPlaced schema done (p :: ps) ↔
      p.offence? schema done = none ∧ WellPlaced schema (done ++ [p]) ps := by
  constructor
  · intro h
    refine ⟨by simpa using h [] p ps rfl, ?_⟩
    intro before q after hps
    have := h (p :: before) q after (by rw [hps]; rfl)
    simpa using this
  · rintro ⟨hp, hps⟩ before q after h
    rcases List.cons_eq_append_iff.1 h with ⟨rfl, hq⟩ | ⟨before', rfl, hrest⟩
    · obtain ⟨rfl, rfl⟩ := List.cons_eq_cons.1 hq
      simpa using hp
    · simpa using hps before' q after hrest

@[simp]
theorem not_firstOffence_nil : ¬ FirstOffence schema done [] r := by
  rintro ⟨before, p, after, h, -⟩
  simp at h

theorem firstOffence_cons :
    FirstOffence schema done (p :: ps) r ↔
      p.offence? schema done = some r ∨
        p.offence? schema done = none ∧ FirstOffence schema (done ++ [p]) ps r := by
  constructor
  · rintro ⟨before, q, after, h, hbefore, hq⟩
    rcases List.cons_eq_append_iff.1 h with ⟨rfl, hrest⟩ | ⟨before', rfl, hrest⟩
    · obtain ⟨rfl, rfl⟩ := List.cons_eq_cons.1 hrest
      exact Or.inl (by simpa using hq)
    · obtain ⟨hp, hbefore⟩ := wellPlaced_cons.1 hbefore
      exact Or.inr ⟨hp, before', q, after, hrest, hbefore, by simpa using hq⟩
  · rintro (hp | ⟨hp, before, q, after, rfl, hbefore, hq⟩)
    · exact ⟨[], p, ps, rfl, by simp, by simpa using hp⟩
    · exact ⟨p :: before, q, after, rfl, wellPlaced_cons.2 ⟨hp, hbefore⟩, by simpa using hq⟩

theorem FirstOffence.not_wellPlaced (h : FirstOffence schema done ps r) :
    ¬ WellPlaced schema done ps := by
  obtain ⟨before, p, after, hps, -, hp⟩ := h
  intro hall
  rw [hall before p after hps] at hp
  simp at hp

theorem FirstOffence.unique {r' : Rejection} (h : FirstOffence schema done ps r)
    (h' : FirstOffence schema done ps r') : r = r' := by
  induction ps generalizing done with
  | nil => exact absurd h not_firstOffence_nil
  | cons p ps ih =>
    rcases firstOffence_cons.1 h with hp | ⟨hp, hrest⟩ <;>
      rcases firstOffence_cons.1 h' with hp' | ⟨hp', hrest'⟩
    · simpa [hp] using hp'
    · simp [hp] at hp'
    · simp [hp] at hp'
    · exact ih hrest hrest'

/-! ## Lists without offences -/

theorem Place.offence?_eq_none_iff :
    p.offence? schema done = none ↔
      p.text ≠ none ∧ ∃ name, p.name? = some name ∧
        (schema.declares name = true → name ∉ done.filterMap Place.name?) := by
  unfold Place.offence?
  cases p.name? with
  | none => simp
  | some name =>
    cases p.text with
    | none => simp
    | some text => simp

theorem Place.of_offence? (h : p.offence? schema done = some r) :
    p.name? = none ∧ r = .positionalArgument p.token ∨
      ∃ name, p.name? = some name ∧
        (p.text = none ∧ r = .missingValue name ∨
          schema.declares name = true ∧ name ∈ done.filterMap Place.name? ∧
            r = .duplicateParameter name) := by
  unfold Place.offence? at h
  cases hname : p.name? with
  | none =>
    rw [hname] at h
    exact .inl ⟨rfl, (Option.some.inj h).symm⟩
  | some name =>
    refine .inr ⟨name, rfl, ?_⟩
    rw [hname] at h
    cases htext : p.text with
    | none =>
      rw [htext] at h
      exact .inl ⟨rfl, (Option.some.inj h).symm⟩
    | some text =>
      simp only [htext, Option.ite_none_right_eq_some, Option.some.injEq] at h
      exact .inr ⟨h.1.1, h.1.2, h.2.symm⟩

theorem Place.declared?_eq_some_iff {spec : Spec} {text : String} :
    p.declared? schema = some (spec, text) ↔
      ∃ name, p.name? = some name ∧ schema.spec? name = some spec ∧ p.text = some text := by
  unfold Place.declared?
  cases p.name? with
  | none => simp
  | some name =>
    simp only [Option.bind_some, Option.some.injEq, exists_eq_left']
    cases schema.spec? name <;> cases p.text <;> simp

/-- A place without an offence adds at most the first use of a declared name. -/
theorem wellPlaced_iff_count
    (h : ∀ name, schema.declares name → (done.filterMap Place.name?).count name ≤ 1) :
    WellPlaced schema done ps ↔
      (∀ p ∈ ps, p.name? ≠ none) ∧ (∀ p ∈ ps, p.text ≠ none) ∧
        ∀ name, schema.declares name → ((done ++ ps).filterMap Place.name?).count name ≤ 1 := by
  -- The induction moves one place at a time to `done`, and `h` is what it carries along.
  induction ps generalizing done with
  | nil => simpa using h
  | cons p ps ih =>
    rw [wellPlaced_cons, Place.offence?_eq_none_iff]
    constructor
    · rintro ⟨⟨htext, name, hname, hnew⟩, hps⟩
      have hstep : ∀ n, schema.declares n →
          ((done ++ [p]).filterMap Place.name?).count n ≤ 1 := by
        intro n hn
        rw [List.filterMap_append, List.count_append]
        simp only [List.filterMap_cons, hname, List.filterMap_nil, List.count_singleton]
        -- Only the count of the new name grows, and that name was not there before.
        by_cases heq : name = n
        · subst heq
          rw [List.count_eq_zero_of_not_mem (hnew hn)]
          simp
        · simpa [heq] using h n hn
      obtain ⟨hnames, htexts, hcount⟩ := (ih hstep).1 hps
      refine ⟨?_, ?_, by simpa using hcount⟩
      · simpa [hname] using hnames
      · simpa [htext] using htexts
    · rintro ⟨hnames, htexts, hcount⟩
      obtain ⟨name, hname⟩ := Option.ne_none_iff_exists'.1 (hnames p List.mem_cons_self)
      have hprefix : ∀ n, schema.declares n →
          ((done ++ [p]).filterMap Place.name?).count n ≤ 1 := by
        intro n hn
        have := hcount n hn
        simp only [List.filterMap_append, List.filterMap_cons, List.count_append] at this ⊢
        simp only [hname, List.filterMap_nil, List.count_cons] at this ⊢
        simp only [List.count_nil]
        omega
      refine ⟨⟨htexts p List.mem_cons_self, name, hname, ?_⟩, (ih hprefix).2 ⟨?_, ?_, ?_⟩⟩
      · intro hdecl hmem
        have hpos : 0 < (done.filterMap Place.name?).count name := List.count_pos_iff.2 hmem
        have := hprefix name hdecl
        rw [List.filterMap_append, List.count_append] at this
        simp [hname] at this
        omega
      · exact fun q hq => hnames q (List.mem_cons_of_mem _ hq)
      · exact fun q hq => htexts q (List.mem_cons_of_mem _ hq)
      · simpa using hcount

theorem Schema.declares_iff {name : String} :
    schema.declares name = true ↔ ∃ spec ∈ schema.specs, spec.name = name := by
  unfold Schema.declares Schema.spec?
  rw [List.find?_isSome]
  simp

/-- The tokens are not flags, each with a text and no declared one twice. -/
def Malformed (schema : Schema) (tokens : List String) : Prop :=
  (∃ p ∈ places tokens, p.name? = none) ∨ (∃ p ∈ places tokens, p.text = none) ∨
    ∃ spec ∈ schema.specs, 1 < (usedNames tokens).count spec.name

instance (schema : Schema) (tokens : List String) : Decidable (Malformed schema tokens) :=
  inferInstanceAs (Decidable (_ ∨ _ ∨ _))

theorem not_malformed_iff {tokens : List String} :
    ¬ Malformed schema tokens ↔ WellPlaced schema [] (places tokens) := by
  rw [wellPlaced_iff_count (by simp)]
  unfold Malformed usedNames
  simp only [not_or, not_exists, not_and, Nat.not_lt, List.nil_append]
  constructor
  · rintro ⟨hnames, htexts, hcount⟩
    refine ⟨hnames, htexts, ?_⟩
    intro name hname
    obtain ⟨spec, hspec, rfl⟩ := Schema.declares_iff.1 hname
    exact hcount spec hspec
  · rintro ⟨hnames, htexts, hcount⟩
    refine ⟨hnames, htexts, ?_⟩
    intro spec hspec
    exact hcount spec.name (Schema.declares_iff.2 ⟨spec, hspec, rfl⟩)

theorem FirstOffence.malformed {tokens : List String}
    (h : FirstOffence schema [] (places tokens) r) : Malformed schema tokens := by
  rcases Decidable.em (Malformed schema tokens) with hmal | hmal
  · exact hmal
  · exact absurd (not_malformed_iff.1 hmal) h.not_wellPlaced

end MapStandin.Parameter
