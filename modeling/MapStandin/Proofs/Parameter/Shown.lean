import MapStandin.Proofs.Parameter.Reading
import MapStandin.Text.Cut

/-! # What the log shows of parameters

The log shows the names of parameters and of each text what is left after the cut. Which flags are
skipped or refused for their shape can be told from that alone. -/

namespace MapStandin.Parameter

variable {schema : Schema} {tokens tokens' : List String} {raw : String}

/-! ## Texts -/

def shown (raw : String) : String := Text.cut loggedLength raw

theorem shown_of_long (long : 100 < raw.toList.length) :
    shown raw = String.ofList (raw.toList.take 100) ++ "..." :=
  Text.cut_of_lt_length long

theorem shown_eq_empty_iff : shown raw = "" ↔ raw = "" := by
  by_cases h : raw.toList.length ≤ loggedLength
  · rw [shown, Text.cut_of_length_le h]
  · have hlong := Nat.lt_of_not_le h
    rw [shown, Text.cut_of_lt_length hlong]
    constructor
    · intro hempty
      have := (String.append_eq_empty_iff.1 hempty).2
      exact absurd this (by decide)
    · rintro rfl
      exact absurd hlong (by decide)

theorem shown_tells_iff :
    (∀ raw', shown raw' = shown raw → raw' = raw) ↔ raw.toList.length ≤ 100 := by
  constructor
  · intro tells
    by_contra hlong
    -- A text with one more character is shown in the same way.
    have hlong := Nat.lt_of_not_le hlong
    have hpushed : (raw.push ' ').toList = raw.toList ++ [' '] := String.toList_push ' '
    have hshown : shown (raw.push ' ') = shown raw := by
      rw [shown_of_long hlong, shown_of_long (by rw [hpushed, List.length_append]; omega), hpushed,
        List.take_append_of_le_length (by omega)]
    have hlength := congrArg (fun raw => raw.toList.length) (tells _ hshown)
    simp [hpushed] at hlength
  · intro short raw' h
    have hraw : shown raw = raw := Text.cut_of_length_le short
    by_cases short' : raw'.toList.length ≤ 100
    · have hraw' : shown raw' = raw' := Text.cut_of_length_le short'
      rw [← hraw', h, hraw]
    · have hlong := Nat.lt_of_not_le short'
      have hlength := congrArg (fun raw => raw.toList.length) (h.trans hraw)
      simp only [shown_of_long hlong, String.toList_append, String.toList_ofList,
        List.length_append, List.length_take] at hlength
      have hdots : "...".toList.length = 3 := by decide
      omega

/-- Names with what the log shows of their texts. -/
def shownTexts (texts : List (String × String)) : List (String × String) :=
  texts.map fun (name, raw) => (name, shown raw)

theorem lookup_shownTexts (texts : List (String × String)) (name : String) :
    (shownTexts texts).lookup name = (texts.lookup name).map shown := by
  unfold shownTexts
  induction texts with
  | nil => rfl
  | cons p rest ih =>
    rw [List.map_cons, List.lookup_cons, List.lookup_cons, ih]
    cases name == p.1 <;> rfl

theorem lookup_texts (request : Request) (name : String) :
    request.texts.lookup name = request.raw? name := by
  unfold Request.texts Request.raw? Request.get?
  induction request.values with
  | nil => rfl
  | cons p rest ih =>
    rw [List.map_cons, List.lookup_cons, List.lookup_cons, ih]
    cases name == p.1 <;> rfl

theorem contains_of_shownTexts {request request' : Request}
    (same : shownTexts request'.texts = shownTexts request.texts) (name : String) :
    request'.contains name = request.contains name := by
  have hlookup := congrArg (fun texts => (texts.lookup name).isSome) same
  simpa [lookup_shownTexts, lookup_texts, Request.raw?, Request.contains] using hlookup

/-! ## Flags -/

/-- The tokens with what the log shows of the texts among them. -/
def shownTokens : List String → List String
  | token :: raw :: rest => token :: shown raw :: shownTokens rest
  | tokens => tokens

theorem length_shownTokens (tokens : List String) :
    (shownTokens tokens).length = tokens.length := by
  fun_induction shownTokens tokens <;> simp_all

theorem shownTokens_eq_cons_cons_iff {token first : String} {rest : List String} :
    shownTokens tokens = token :: first :: rest ↔
      ∃ raw tail, tokens = token :: raw :: tail ∧ shown raw = first ∧ shownTokens tail = rest := by
  constructor
  · intro h
    match tokens, h with
    | _ :: raw :: tail, h =>
      obtain ⟨rfl, htail⟩ := List.cons_eq_cons.1 h
      obtain ⟨hraw, hrest⟩ := List.cons_eq_cons.1 htail
      exact ⟨raw, tail, rfl, hraw, hrest⟩
  · rintro ⟨raw, tail, rfl, rfl, rfl⟩
    rfl

theorem shownTokens_tells_iff (tokens : List String) :
    (∀ tokens', shownTokens tokens' = shownTokens tokens → tokens' = tokens) ↔
      ∀ p ∈ places tokens, ∀ raw ∈ p.text, raw.toList.length ≤ 100 := by
  fun_induction places tokens with
  | case1 => simp [shownTokens, ← List.length_eq_zero_iff, length_shownTokens]
  | case2 token =>
    simp only [List.mem_singleton, forall_eq, Option.mem_def, reduceCtorEq, false_implies,
      implies_true, iff_true]
    intro tokens' h
    match tokens', h with
    | [_], h => exact h
  | case3 token raw rest ih =>
    rw [List.forall_mem_cons, ← ih]
    simp only [Option.mem_def, Option.some.injEq, forall_eq', ← shown_tells_iff]
    constructor
    -- A change of the first text or of the rest alone is a change of the tokens.
    · intro tells
      constructor
      · intro raw' h
        have htokens := tells (token :: raw' :: rest) (by rw [shownTokens, shownTokens, h])
        exact List.head_eq_of_cons_eq (List.tail_eq_of_cons_eq htokens)
      · intro rest' h
        have htokens := tells (token :: raw :: rest') (by rw [shownTokens, shownTokens, h])
        exact List.tail_eq_of_cons_eq (List.tail_eq_of_cons_eq htokens)
    · rintro ⟨tells, later⟩ tokens' h
      obtain ⟨raw', rest', rfl, hraw, hrest⟩ := shownTokens_eq_cons_cons_iff.1 h
      rw [tells raw' hraw, later rest' hrest]

theorem skippedFlags_shownTokens (seen : List String) (tokens : List String) :
    schema.skippedFlags seen (shownTokens tokens) = schema.skippedFlags seen tokens := by
  fun_induction Schema.skippedFlags schema seen tokens <;>
    simp_all [shownTokens, Schema.skippedFlags]

theorem pairUp_shownTokens (seen : List String) (tokens : List String) :
    schema.pairUp seen (shownTokens tokens) =
      (schema.pairUp seen tokens).map fun flags => flags.map fun flag => (flag.1, shown flag.2) := by
  -- The induction follows the pairing: no decision on the way looks at a text.
  fun_induction Schema.pairUp schema seen tokens with
  | case1 => rfl
  | case2 seen token hname | case3 seen token name hname =>
    simp [shownTokens, Schema.pairUp, hname, Except.map]
  | case4 seen token raw rest hname => simp [shownTokens, Schema.pairUp, hname, Except.map]
  | case5 seen token raw rest name hname hspec ih =>
    simp only [shownTokens, Schema.pairUp, hname, hspec, ih]
  | case6 seen token raw rest name hname spec hspec hmem =>
    simp [shownTokens, Schema.pairUp, hname, hspec, hmem, Except.map]
  | case7 seen token raw rest name hname spec hspec hmem ih =>
    simp only [shownTokens, Schema.pairUp, hname, hspec, hmem, if_false, ih]
    cases schema.pairUp (name :: seen) rest <;> rfl

theorem places_shownTokens (tokens : List String) :
    places (shownTokens tokens) =
      (places tokens).map fun p => ⟨p.token, p.text.map shown⟩ := by
  fun_induction places tokens with
  | case1 | case2 => rfl
  | case3 token text rest ih => rw [shownTokens, places, ih, List.map_cons, Option.map_some]

theorem declaredFlags_shownTokens (tokens : List String) :
    declaredFlags schema (shownTokens tokens) =
      (declaredFlags schema tokens).map fun flag => (flag.1, shown flag.2) := by
  unfold declaredFlags
  rw [places_shownTokens, List.filterMap_map, List.map_filterMap]
  apply List.filterMap_congr
  intro p _
  simp only [Function.comp_apply, Place.declared?, Place.name?]
  cases (flagName? p.token).bind schema.spec? <;> cases p.text <;> rfl

theorem shownTexts_of_reading {request request' : Request}
    (same : shownTokens tokens' = shownTokens tokens) (h : Reading schema tokens (.ok request))
    (h' : Reading schema tokens' (.ok request')) :
    shownTexts request'.texts = shownTexts request.texts := by
  have hflags := congrArg (declaredFlags schema) same
  rw [declaredFlags_shownTokens, declaredFlags_shownTokens] at hflags
  have hnames := congrArg (List.map fun flag : Spec × String => (flag.1.name, flag.2)) hflags
  rw [List.map_map, List.map_map] at hnames
  rw [h.texts_eq, h'.texts_eq, shownTexts, shownTexts, List.map_map, List.map_map]
  exact hnames

theorem readFlags_congr (same : shownTokens tokens' = shownTokens tokens)
    (flags : declaredFlags schema tokens' = declaredFlags schema tokens) :
    schema.readFlags tokens' = schema.readFlags tokens := by
  have hseen : Seen schema [] [] := by simp [Seen]
  have hspec := pairUp_spec [] [] tokens hseen
  have hspec' := pairUp_spec [] [] tokens' hseen
  have hshown := congrArg (schema.pairUp []) same
  rw [pairUp_shownTokens, pairUp_shownTokens] at hshown
  have hpairs : schema.pairUp [] tokens' = schema.pairUp [] tokens := by
    generalize schema.pairUp [] tokens = x at hspec hshown
    generalize schema.pairUp [] tokens' = x' at hspec' hshown
    match x, x', hshown with
    | .error _, .error _, h => exact congrArg Except.error (Except.error.inj h)
    | .ok _, .ok _, _ => rw [hspec.2, hspec'.2, flags]
  unfold Schema.readFlags
  rw [hpairs]

theorem declaredFlags_of_single {spec : Spec} (h : schema.specs = [spec]) (tokens : List String) :
    declaredFlags schema tokens = (textsOf spec.name tokens).map fun raw => (spec, raw) := by
  have hspec : ∀ name, schema.spec? name = if spec.name = name then some spec else none := by
    intro name
    unfold Schema.spec?
    rw [h]
    by_cases hname : spec.name = name <;> simp [hname]
  unfold declaredFlags textsOf
  rw [List.map_filterMap]
  apply List.filterMap_congr
  intro p _
  unfold Place.declared?
  cases hname : p.name? with
  | none => simp
  | some name =>
    rw [Option.bind_some, hspec]
    by_cases heq : spec.name = name
    · cases p.text <;> simp [heq]
    · simp [heq, Ne.symm heq]

end MapStandin.Parameter
