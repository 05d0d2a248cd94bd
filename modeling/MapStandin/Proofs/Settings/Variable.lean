import MapStandin.Proofs.Settings.Spelling
import MapStandin.Proofs.Settings.TextSetting

/-! # Variables of text settings

A variable of the environment gives a text setting what its text is respelled as. Nothing else
depends on this text, and nothing else that is told changes the setting. -/

namespace MapStandin.Settings

open Text (SameLetter SameText)

/-! ## Names of variables -/

theorem comparedName_eq {s t : String} (h : SameText s t) : comparedName s = comparedName t := by
  have hletter : ∀ {c d : Char}, SameLetter c d →
      SameLetter (if c = '\u212a' then 'k' else c) (if d = '\u212a' then 'k' else d) := by
    intro c d hsame
    -- the sign of the unit kelvin has no partner in ASCII
    have hiff : c = '\u212a' ↔ d = '\u212a' := by
      have hnumbers := Text.sameLetter_iff.1 hsame
      have hkelvin : ('\u212a' : Char).toNat = 8490 := rfl
      rw [← Char.toNat_inj, ← Char.toNat_inj, hkelvin]
      omega
    by_cases hc : c = '\u212a'
    · rw [if_pos hc, if_pos (hiff.1 hc)]
      exact .same 'k'
    · rwa [if_neg hc, if_neg (mt hiff.2 hc)]
  refine Text.small_eq_iff.2 ?_
  rw [SameText, String.toList_ofList, String.toList_ofList, List.forall₂_map_left_iff,
    List.forall₂_map_right_iff]
  exact List.Forall₂.imp (fun _ _ => hletter) h

theorem variableWay?_eq {s t : String} (h : SameText s t) : variableWay? s = variableWay? t := by
  rw [variableWay?, variableWay?, comparedName_eq h]

theorem variableWay?_variableName (k : TextSetting) :
    variableWay? k.variableName = some (k.way.map .name) := by
  match k with
  | .host => decide +kernel
  | .baseUrl => decide +kernel
  | .download k => cases k <;> decide +kernel
  | .map k => cases k <;> decide +kernel

theorem variableWay?_of_named {name : String} {k : TextSetting}
    (named : SameText name k.variableName) : variableWay? name = some (k.way.map .name) :=
  (variableWay?_eq named).trans (variableWay?_variableName k)

/-! ## Adding variables -/

/-- All values after variables of the environment. -/
def addAll (environment : List (String × String)) (all : Value) : Value :=
  environment.foldl (fun all v => addVariable all v.1 v.2) all

theorem addAll_append (before after : List (String × String)) (name text : String) (all : Value) :
    addAll (before ++ (name, text) :: after) all =
      addAll after (addVariable (addAll before all) name text) := by
  simp only [addAll, List.foldl_append, List.foldl_cons]

theorem addVariable_silent {name : String} (text : String) (all : Value)
    (h : variableWay? name = none) : addVariable all name text = all := by
  -- the body in place, as an equation of `addVariable` takes long to derive
  delta addVariable
  rw [h]

theorem addVariable_of_way {name : String} {way : List Step} (text : String) (all : Value)
    (h : variableWay? name = some way) :
    addVariable all name text =
      putAlong (.scalar (ofText text) (some .environment)) way (some all) := by
  delta addVariable
  rw [h]

theorem addAll_silent {environment : List (String × String)} (all : Value)
    (h : ∀ w ∈ environment, variableWay? w.1 = none) : addAll environment all = all := by
  induction environment with
  | nil => rfl
  | cons w environment ih =>
    obtain ⟨hw, hrest⟩ := List.forall_mem_cons.1 h
    rw [addAll, List.foldl_cons, addVariable_silent w.2 all hw]
    exact ih hrest

theorem exists_hole_of_addVariable {hole : List Frame} (name text : String)
    (h : ∀ way, variableWay? name = some way → Parted way (wayTo hole)) :
    ∃ hole', wayTo hole' = wayTo hole ∧
      ∀ v, addVariable (fill hole v) name text = fill hole' v := by
  cases hway : variableWay? name with
  | none => exact ⟨hole, rfl, fun v => addVariable_silent text _ hway⟩
  | some way =>
    obtain ⟨hole', hsame, hput⟩ := exists_hole_of_parted (h way hway)
      (.scalar (ofText text) (some .environment))
    exact ⟨hole', hsame, fun v => (addVariable_of_way text _ hway).trans (hput v)⟩

theorem exists_hole_of_addAll {environment : List (String × String)} {hole : List Frame}
    (h : ∀ w ∈ environment, ∀ way, variableWay? w.1 = some way → Parted way (wayTo hole)) :
    ∃ hole', wayTo hole' = wayTo hole ∧ ∀ v, addAll environment (fill hole v) = fill hole' v := by
  induction environment generalizing hole with
  | nil => exact ⟨hole, rfl, fun v => rfl⟩
  | cons w environment ih =>
    obtain ⟨hw, hrest⟩ := List.forall_mem_cons.1 h
    -- the way to the value stays the same, so the next variable parts from it too
    obtain ⟨next, hnext, hadd⟩ := exists_hole_of_addVariable w.1 w.2 hw
    obtain ⟨hole', hsame, hall⟩ := ih (hnext.symm ▸ hrest)
    refine ⟨hole', hsame.trans hnext, fun v => ?_⟩
    rw [addAll, List.foldl_cons, hadd v]
    exact hall v

theorem exists_hole_of_variable (before after : List (String × String)) (name : String)
    (k : TextSetting) (named : SameText name k.variableName)
    (last : ∀ w ∈ after, ∀ way, variableWay? w.1 = some way → Parted way k.way) (all : Value) :
    ∃ hole, wayTo hole = k.way ∧ ∀ t, addAll (before ++ (name, t) :: after) all =
      fill hole (.scalar (ofText t) (some .environment)) := by
  obtain ⟨first, hfirst, hput⟩ := exists_hole k.way (some (addAll before all))
  obtain ⟨hole, hhole, hadd⟩ := exists_hole_of_addAll (hfirst.symm ▸ last)
  refine ⟨hole, hhole.trans hfirst, fun t => ?_⟩
  rw [addAll_append, addVariable_of_way _ _ (variableWay?_of_named named), hput, hadd]

/-! ## Loading -/

variable {files : Files} {before after : List (String × String)} {name t v : String}
  {k : TextSetting}

theorem load_eq (files : Files) (environment : List (String × String)) :
    load files environment =
      (fileValue files).bind fun all => ofEntries (addAll environment all).entries := rfl

theorem reads_ofText (h : Respelled t v) :
    Reads (.scalar (ofText t) (some .environment)) v :=
  fun key => textOf_ofText h key _

theorem load_with (named : SameText name k.variableName)
    (last : ∀ w ∈ after, ∀ way, variableWay? w.1 = some way → Parted way k.way)
    (hv : Respelled t v) (u : String) :
    load files (before ++ (name, t) :: after) =
      (load files (before ++ (name, u) :: after)).map (k.set v) := by
  obtain ⟨w, hw⟩ := exists_respelled u
  rw [load_eq, load_eq]
  cases fileValue files with
  | error fault => rfl
  | ok all =>
    -- the tables around the value are the same for both texts
    obtain ⟨hole, hhole, hadd⟩ := exists_hole_of_variable before after name k named last all
    change ofEntries _ = (ofEntries _).map (k.set v)
    rw [hadd, hadd]
    exact ofEntries_fill k hhole (reads_ofText hv) (reads_ofText hw)

/-- No settings file is there, in whichever format. -/
structure NoFile (files : Files) : Prop where
  here : fileContent? files = none
  others : ∀ ending ∈ ["toml", "yaml", "yml", "ini", "ron", "json5"],
    files.content? ("config." ++ ending) = none

theorem load_alone (named : SameText name k.variableName) (hv : Respelled t v)
    (noFile : NoFile files)
    (silent : ∀ w ∈ before ++ after, variableWay? w.1 = none) :
    load files (before ++ (name, t) :: after) = .ok (k.set v {}) := by
  obtain ⟨hbefore, hafter⟩ := List.forall_mem_append.1 silent
  have hall : fileValue files = .ok (.table [] none) := by
    rw [fileValue, noFile.here]
    rfl
  rw [load_eq, hall]
  change ofEntries _ = _
  rw [addAll_append, addAll_silent _ hbefore, addAll_silent _ hafter,
    addVariable_of_way _ _ (variableWay?_of_named named),
    putAlong_empty _ _ (by cases k <;> nofun)]
  exact ofEntries_bare k (reads_ofText hv)

/-- What the variable of a text setting does: its text, respelled, is the setting, and only a text
that is its own spelling is kept. Nothing else depends on the text, neither another setting nor
whether the settings can be used. -/
structure VariablePost (files : Files) (before after : List (String × String))
    (name t : String) (k : TextSetting) (v : String) : Prop where
  respelled : ∀ w, Respelled t w ↔ w = v
  value : ∀ s, load files (before ++ (name, t) :: after) = .ok s → k.get s = v
  kept : ∀ s, load files (before ++ (name, t) :: after) = .ok s → (k.get s = t ↔ Kept t)
  others : ∀ u, load files (before ++ (name, t) :: after) =
    (load files (before ++ (name, u) :: after)).map (k.set v)
  /-- Where nothing else is told, all other settings have their usual values. -/
  alone : NoFile files → (∀ w ∈ before ++ after, variableWay? w.1 = none) →
    load files (before ++ (name, t) :: after) = .ok (k.set v {})

/-- A later variable has to part from the way to the setting: any other takes its place. -/
theorem load_variable (files : Files) (before after : List (String × String)) (name t : String)
    (k : TextSetting) (named : SameText name k.variableName)
    (last : ∀ w ∈ after, ∀ way, variableWay? w.1 = some way → Parted way k.way) :
    ∃ v, VariablePost files before after name t k v := by
  obtain ⟨v, hv⟩ := exists_respelled t
  have hvalue : ∀ s, load files (before ++ (name, t) :: after) = .ok s → k.get s = v := by
    intro s hs
    have hset : (.ok s : Except Fault Settings) = (Except.ok s).map (k.set v) :=
      hs ▸ load_with named last hv t
    rw [Except.ok.inj hset, TextSetting.get_set]
  refine ⟨v, ?_, hvalue, ?_, load_with named last hv, load_alone named hv⟩
  · exact fun w => ⟨fun hw => hw.unique hv, fun hw => hw ▸ hv⟩
  · intro s hs
    rw [hvalue s hs, ← respelled_self_iff]
    exact ⟨fun h => h ▸ hv, fun h => hv.unique h⟩

theorem load_variable_password :
    ∃ v, VariablePost { here := [], nodes := [] } [("GEODOUBLES__HOST", "first")]
        [("GEODOUBLES__HOST", "second")] "geodoubles__qgis__Password" "secret" (.map .password) v ∧
      v = "secret" ∧
      load { here := [], nodes := [] } [("GEODOUBLES__HOST", "first"),
          ("geodoubles__qgis__Password", "secret"), ("GEODOUBLES__HOST", "second")] =
        .ok { host := "second", map := { login := ⟨"qgisuser", "secret"⟩ } } := by
  have hhost : variableWay? "GEODOUBLES__HOST" = some [.name "host"] := by decide +kernel
  have last : ∀ w ∈ [("GEODOUBLES__HOST", "second")], ∀ way,
      variableWay? w.1 = some way → Parted way (TextSetting.map .password).way := by
    intro w hw way hway
    obtain rfl := List.mem_singleton.1 hw
    obtain rfl := Option.some.inj (hhost.symm.trans hway)
    exact .here (by decide) [] _
  obtain ⟨v, hv⟩ := load_variable { here := [], nodes := [] } [("GEODOUBLES__HOST", "first")]
    [("GEODOUBLES__HOST", "second")] "geodoubles__qgis__Password" "secret" (.map .password)
    (by decide +kernel) last
  exact ⟨v, hv, ((hv.respelled _).1 (respelled_self_iff.2 (by decide +kernel))).symm,
    by decide +kernel⟩

/-- The environment cannot say the password `007`, the settings file can. -/
theorem load_variable_leadingZeros :
    load { here := [], nodes := [] } [("GEODOUBLES__FME_SERVER__PASSWORD", "007")] =
        .ok { download := { login := ⟨"testuser", "7"⟩ } } ∧
      (⟨"testuser", "7"⟩ : Access.Login).verify
        (some (⟨"testuser", "007"⟩ : Access.Login).header) = .error .wrongPassword ∧
      load { here := [], nodes := [(["config.json"], .file (Utf8.encode
        "\x7b\"fme_server\": \x7b\"password\": \"007\"\x7d\x7d"))] } [] =
        .ok { download := { login := ⟨"testuser", "007"⟩ } } := by
  decide +kernel

end MapStandin.Settings
