import MapStandin.DataDownload.Fault
import MapStandin.Server.Place
import MapStandin.Proofs.Text.Utf8

/-! # Which paths lead to a service

The paths of jobs and of maps, written out. Each convention has one path without a workspace and one
for every workspace that is named; so has the map server for its projects. -/

namespace MapStandin.Server.Place

variable {path head other rest : String}

/-! ## Fronts of paths -/

theorem below?_eq_some_iff : below? head path = some rest ↔ path = head ++ rest ∧ rest ≠ "" := by
  unfold below?
  rw [Option.bind_eq_some_iff]
  constructor
  · rintro ⟨s, hs, hrest⟩
    split at hrest
    · cases hrest
    · rename_i hne
      obtain rfl := Option.some.inj hrest
      exact ⟨Text.after?_eq_some_iff.1 hs, by simpa using hne⟩
  · rintro ⟨hpath, hne⟩
    exact ⟨rest, Text.after?_eq_some_iff.2 hpath, if_neg (by simpa using hne)⟩

theorem append_ne (h : ¬ head.toList <+: path.toList) : head ++ rest ≠ path := by
  rintro rfl
  exact h (by simp)

theorem below?_append (h : ¬ head.toList <+: other.toList) (h' : ¬ other.toList <+: head.toList) :
    below? head (other ++ rest) = none := by
  cases hbelow : below? head (other ++ rest) with
  | none => rfl
  | some s =>
    have hpath := congrArg String.toList (below?_eq_some_iff.1 hbelow).1
    rw [String.toList_append, String.toList_append] at hpath
    rcases List.prefix_or_prefix_of_prefix ⟨_, hpath⟩ ⟨_, rfl⟩ with hother | hhead
    · exact absurd hother h'
    · exact absurd hhead h

/-! ## Jobs -/

def ofJob : DataDownload.Convention → Option String → Place
  | .query, workspace => .queryJob workspace
  | .feature, workspace => .featureJob workspace

/-- The paths of jobs, with the workspace as it is written there. -/
inductive JobPath : DataDownload.Convention → String → Option String → Prop
  | query : JobPath .query "/fmeserver/v1/datadownload" none
  | queryOf {workspace : String} (h : workspace ≠ "") :
      JobPath .query ("/fmedatadownload/Repositories/" ++ workspace) (some workspace)
  | feature : JobPath .feature "/fmeserver/v2/datadownload" none
  | featureOf {workspace : String} (h : workspace ≠ "") :
      JobPath .feature ("/fmedatadownload/v2/" ++ workspace) (some workspace)

variable {c : DataDownload.Convention} {name : Option String}

theorem JobPath.ofPath?_eq (h : JobPath c path name) :
    ofPath? .dataDownload path = some (ofJob c name) := by
  cases h with
  | query => decide
  | feature => decide
  | queryOf hne =>
    unfold ofPath? ofDownloadPath?
    rw [if_neg (append_ne (by decide))]
    simp only
    rw [if_neg (append_ne (by decide)), if_neg (append_ne (by decide)),
      if_neg (append_ne (by decide)), below?_eq_some_iff.2 ⟨rfl, hne⟩]
    rfl
  | featureOf hne =>
    unfold ofPath? ofDownloadPath?
    rw [if_neg (append_ne (by decide))]
    simp only
    rw [if_neg (append_ne (by decide)), if_neg (append_ne (by decide)),
      if_neg (append_ne (by decide)), below?_append (by decide) (by decide),
      below?_eq_some_iff.2 ⟨rfl, hne⟩]
    rfl

theorem resultFile?_ne_job (s : String) : resultFile? s ≠ some (ofJob c name) := by
  unfold resultFile?
  split
  · split <;> cases c <;> simp [ofJob]
  · exact nofun

theorem ofJob_injective {c' : DataDownload.Convention} {name' : Option String}
    (h : some (ofJob c name) = some (ofJob c' name')) : c = c' ∧ name = name' := by
  cases c <;> cases c' <;> simp_all [ofJob]

theorem jobPath_of_ofPath? (h : ofPath? .dataDownload path = some (ofJob c name)) :
    JobPath c path name := by
  unfold ofPath? ofDownloadPath? at h
  simp only at h
  split at h
  · cases c <;> cases h
  split at h
  · rename_i hpath
    have hjob : some (ofJob .query none) = some (ofJob c name) := h
    obtain ⟨rfl, rfl⟩ := ofJob_injective hjob
    exact hpath ▸ .query
  split at h
  · rename_i hpath
    have hjob : some (ofJob .feature none) = some (ofJob c name) := h
    obtain ⟨rfl, rfl⟩ := ofJob_injective hjob
    exact hpath ▸ .feature
  split at h
  · cases c <;> cases h
  split at h
  · rename_i workspace hbelow
    have hjob : some (ofJob .query (some workspace)) = some (ofJob c name) := h
    obtain ⟨rfl, rfl⟩ := ofJob_injective hjob
    obtain ⟨rfl, hne⟩ := below?_eq_some_iff.1 hbelow
    exact .queryOf hne
  split at h
  · rename_i workspace hbelow
    have hjob : some (ofJob .feature (some workspace)) = some (ofJob c name) := h
    obtain ⟨rfl, rfl⟩ := ofJob_injective hjob
    obtain ⟨rfl, hne⟩ := below?_eq_some_iff.1 hbelow
    exact .featureOf hne
  · obtain ⟨s, -, hs⟩ := Option.bind_eq_some_iff.1 h
    exact absurd hs (resultFile?_ne_job s)

theorem ofPath?_eq_job_iff :
    ofPath? .dataDownload path = some (ofJob c name) ↔ JobPath c path name :=
  ⟨jobPath_of_ofPath?, JobPath.ofPath?_eq⟩

/-! ## Maps -/

/-- The paths of the map server's service, with the project as it is written there. -/
inductive MapPath : String → Option String → Prop
  | plain : MapPath "/qgis" none
  | of {project : String} (h : project ≠ "") : MapPath ("/qgis/" ++ project) (some project)

theorem MapPath.ofPath?_eq (h : MapPath path name) :
    ofPath? .mapServer path = some (.map name) := by
  cases h with
  | plain => decide
  | of hne =>
    unfold ofPath? ofMapPath?
    rw [if_neg (append_ne (by decide))]
    simp only
    rw [if_neg (append_ne (by decide)), below?_eq_some_iff.2 ⟨rfl, hne⟩]
    rfl

theorem ofPath?_eq_map_iff : ofPath? .mapServer path = some (.map name) ↔ MapPath path name := by
  constructor
  · intro h
    unfold ofPath? ofMapPath? at h
    simp only at h
    split at h
    · cases h
    split at h
    · rename_i hpath
      cases h
      exact hpath ▸ .plain
    · obtain ⟨project, hbelow, hplace⟩ := Option.map_eq_some_iff.1 h
      cases hplace
      obtain ⟨rfl, hne⟩ := below?_eq_some_iff.1 hbelow
      exact .of hne
  · exact MapPath.ofPath?_eq

/-! ## Names in paths -/

/-- A name as it is written in a path and as it is meant; it may be absent. -/
inductive Meant : Option String → Option String → Prop
  | absent : Meant none none
  | named {written name : String} (h : Percent.decode (Utf8.encode written) = Utf8.encode name) :
      Meant (some written) (some name)

theorem readName_eq_ok_iff {label written name : String} :
    readName label written = .ok name ↔
      Percent.decode (Utf8.encode written) = Utf8.encode name := by
  rw [← Utf8.decode_eq_ok_iff]
  unfold readName Utf8.decode?
  cases Utf8.decode (Percent.decode (Utf8.encode written)) with
  | error f => simp [Except.toOption]
  | ok s => simp [Except.toOption]

theorem readOptional_eq_ok_iff (label : String) {written name : Option String} :
    readOptional label written = .ok name ↔ Meant written name := by
  cases written with
  | none =>
    constructor
    · intro h
      obtain rfl := Except.ok.inj h
      exact .absent
    · rintro ⟨⟩
      rfl
  | some written =>
    rw [readOptional]
    constructor
    · intro h
      cases hread : readName label written with
      | error l => simp [hread, Except.map] at h
      | ok s =>
        rw [hread] at h
        obtain rfl := Except.ok.inj h
        exact .named (readName_eq_ok_iff.1 hread)
    · intro hmeant
      cases hmeant with
      | named h =>
        rw [readName_eq_ok_iff.2 h]
        rfl

theorem map_readOptional_eq_ok_iff {label : String} {written : Option String}
    {f : Option String → Place} {p : Place} :
    (readOptional label written).map f = .ok p ↔ ∃ name, Meant written name ∧ p = f name := by
  simp only [← readOptional_eq_ok_iff label]
  cases readOptional label written with
  | error l => simp [Except.map]
  | ok name => simp [Except.map, eq_comm]

theorem Meant.unique {written name name' : Option String} (h : Meant written name)
    (h' : Meant written name') : name = name' :=
  Except.ok.inj ((readOptional_eq_ok_iff "").2 h ▸ (readOptional_eq_ok_iff "").2 h')

end MapStandin.Server.Place
