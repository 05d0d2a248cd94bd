import MapStandin.Proofs.Desktop.View
import MapStandin.Proofs.Json.Line
import MapStandin.Proofs.Text.Utf8

/-! # The text of a failure

A failed run tells its caller why. The text is a single line unless it quotes a text of the caller
that has a line break in it, and it quotes few of them without a look at their characters. -/

namespace MapStandin.Desktop

open Parameter
open Text (OneLine oneLine_append oneLine_ofList)

/-! ## Texts of the caller -/

/-- The texts that a rejection quotes although nothing has looked at their characters. -/
inductive Quotes : Rejection → String → Prop
  | workspace {path : String} : Quotes (.invalidWorkspace path) path
  | token {t : String} : Quotes (.positionalArgument t) t
  | flag {name : String} : Quotes (.missingValue name) name
  | value {k : Kind} {name raw : String} (shown : k ≠ .nonEmpty) :
      Quotes (.invalidValue name (k.refusal name raw)) raw
  | flagOfBytes {name shown : String} :
      Quotes (.invalidValue name s!"Value for parameter {name} is not valid UTF-8: {shown}") name
  | bytes {name shown : String} :
      Quotes (.invalidValue name s!"Value for parameter {name} is not valid UTF-8: {shown}") shown
  | geometryType {name : String} :
      Quotes (.invalidFeature (.invalidGeometry (Geometry.Fault.unsupported name).message)) name
  | folder {folder : String} : Quotes (.outputFolderMissing folder) folder

/-- The text that an argument shows. -/
def Shown (arguments : List (List UInt8)) (t : String) : Prop :=
  ∃ bytes ∈ arguments, Utf8.decodeLossy bytes = t

/-- The texts that a caller gives: arguments, names of flags among them, and the types of geometries
and the folder in a file of parameters. -/
inductive Given (files : Files) (arguments : List (List UInt8)) : String → Prop
  | argument {t : String} (shown : Shown arguments t) : Given files arguments t
  | flag {t name : String} (shown : Shown arguments t) (flag : flagName? t = some name) :
      Given files arguments name
  | geometryType {path name : String} {document v g : Json} (shown : Shown arguments path)
      (found : documentAt? files path = some document)
      (geometry : document.member? "geometry" = some v) (inside : g ∈ Geometry.depthFirst v)
      (type : g.member? "type" = some (.string name)) : Given files arguments name
  | folder {path folder : String} {document : Json} (shown : Shown arguments path)
      (found : documentAt? files path = some document)
      (property : Feature.property? document "FolderOut" = some (.string folder)) :
      Given files arguments folder

/-- The wording of a rejection is a single line if the texts that it quotes are, as far as they were
given. -/
def Traced (given : String → Prop) (r : Rejection) : Prop :=
  (∀ t, Quotes r t → given t → OneLine t) → OneLine r.message

variable {given : String → Prop} {files : Files} {arguments : List (List UInt8)} {r : Rejection}
  {path : String} {texts tokens : List String}

theorem traced_of_oneLine (h : OneLine r.message) : Traced given r := fun _ => h

/-! ## Wordings -/

/-- The text that ends the wording of a rejection, after words that are always the same. -/
def ending? : Rejection → Option String
  | .missingWorkspace | .duplicateParameter _ => none
  | .invalidWorkspace t | .positionalArgument t | .missingValue t | .invalidValue _ t
  | .parametersFileNotFound t | .invalidJson t | .unauthorized t | .outputFolderMissing t
  | .artifactNotWritten t => some t
  | .missingParameters names => some (Rejection.listed names)
  | .invalidFeature f => some f.message

theorem oneLine_message {t : String} (h : ending? r = some t) : OneLine r.message ↔ OneLine t := by
  have hafter : ∀ {words : String}, OneLine words → (OneLine (words ++ t) ↔ OneLine t) :=
    fun hwords => by simp only [oneLine_append, hwords, true_and]
  cases r with
  | missingWorkspace | duplicateParameter => simp [ending?] at h
  | invalidValue | unauthorized =>
    obtain rfl := Option.some.inj h
    exact Iff.rfl
  | _ =>
    obtain rfl := Option.some.inj h
    exact hafter (oneLine_ofList.2 (by decide))

theorem oneLine_about {a b s t : String} (ha : OneLine a) (hb : OneLine b) :
    OneLine (a ++ s ++ b ++ t) ↔ OneLine s ∧ OneLine t := by
  simp only [oneLine_append, ha, hb, true_and, and_true]

theorem oneLine_notUtf8 (name shown : String) :
    OneLine s!"Value for parameter {name} is not valid UTF-8: {shown}" ↔
      OneLine name ∧ OneLine shown :=
  oneLine_about (oneLine_ofList.2 (by decide)) (oneLine_ofList.2 (by decide))

theorem oneLine_between {a b s : String} (ha : OneLine a) (hb : OneLine b) :
    OneLine (a ++ s ++ b) ↔ OneLine s := by
  simp only [oneLine_append, ha, hb, true_and, and_true]

theorem oneLine_refusal (k : Kind) (name raw : String) :
    OneLine (k.refusal name raw) ↔ OneLine name ∧ (k ≠ .nonEmpty → OneLine raw) := by
  cases k with
  | nonEmpty =>
    have hrefusal : OneLine (Kind.nonEmpty.refusal name raw) ↔ OneLine name :=
      oneLine_between (oneLine_ofList.2 (by decide)) (oneLine_ofList.2 (by decide))
    simp [hrefusal]
  | _ =>
    exact (oneLine_about (oneLine_ofList.2 (by decide)) (oneLine_ofList.2 (by decide))).trans
      ⟨fun h => ⟨h.1, fun _ => h.2⟩, fun h => ⟨h.1, h.2 nofun⟩⟩

theorem oneLine_fault (f : Files.Fault) : OneLine f.message := by
  cases f <;> exact oneLine_ofList.2 (by decide)

theorem oneLine_invalidGeometry (reason : String) :
    OneLine (Feature.Fault.invalidGeometry reason).message ↔ OneLine reason :=
  oneLine_append.trans ⟨And.right, fun h => ⟨oneLine_ofList.2 (by decide), h⟩⟩

theorem oneLine_unsupported (name : String) :
    OneLine (Geometry.Fault.unsupported name).message ↔ OneLine name :=
  oneLine_between (oneLine_ofList.2 (by decide)) (oneLine_ofList.2 (by decide))

theorem Quotes.oneLine {t : String} (h : Quotes r t) (line : OneLine r.message) : OneLine t := by
  cases h with
  | workspace | token | flag | folder => exact (oneLine_message rfl).1 line
  | value shown => exact ((oneLine_refusal _ _ _).1 line).2 shown
  | flagOfBytes => exact ((oneLine_notUtf8 _ _).1 line).1
  | bytes => exact ((oneLine_notUtf8 _ _).1 line).2
  | geometryType =>
    exact (oneLine_unsupported _).1 ((oneLine_invalidGeometry _).1 ((oneLine_message rfl).1 line))

/-! ## Flags -/

def Named (schema : Schema) : Prop := ∀ spec ∈ schema.specs, OneLine spec.name

instance (schema : Schema) : Decidable (Named schema) :=
  inferInstanceAs (Decidable (∀ spec ∈ schema.specs, OneLine spec.name))

theorem named_desktopFlags : Named desktopFlags := by decide

theorem named_desktopFileFlags : Named desktopFileFlags := by decide

theorem oneLine_of_declares {schema : Schema} {name : String} (named : Named schema)
    (h : schema.declares name = true) : OneLine name := by
  obtain ⟨spec, hspec⟩ := Option.isSome_iff_exists.1 h
  exact Schema.spec?_name hspec ▸ named spec (Schema.mem_of_spec? hspec)

theorem mem_of_mem_places : ∀ {tokens : List String} {p : Place}, p ∈ places tokens →
    p.token ∈ tokens ∧ ∀ text ∈ p.text, text ∈ tokens
  | [token], p, h => by
    obtain rfl := List.mem_singleton.1 h
    exact ⟨List.mem_singleton_self _, nofun⟩
  | token :: text :: rest, p, h => by
    obtain rfl | h := List.mem_cons.1 h
    · refine ⟨List.mem_cons_self, ?_⟩
      rintro _ ⟨⟩
      exact List.mem_cons_of_mem _ List.mem_cons_self
    · obtain ⟨htoken, htext⟩ := mem_of_mem_places h
      exact ⟨List.mem_cons_of_mem _ (List.mem_cons_of_mem _ htoken), fun t ht =>
        List.mem_cons_of_mem _ (List.mem_cons_of_mem _ (htext t ht))⟩

theorem mem_of_mem_textsOf {name text : String} (h : text ∈ textsOf name tokens) :
    text ∈ tokens := by
  obtain ⟨p, hp, -, htext⟩ := mem_textsOf.1 h
  exact (mem_of_mem_places hp).2 text htext

theorem mem_of_mem_declaredFlags {schema : Schema} {spec : Spec} {raw : String}
    (h : (spec, raw) ∈ declaredFlags schema tokens) : raw ∈ tokens := by
  obtain ⟨p, hp, hdeclared⟩ := List.mem_filterMap.1 h
  obtain ⟨name, -, -, htext⟩ := Place.declared?_eq_some_iff.1 hdeclared
  exact (mem_of_mem_places hp).2 raw htext

theorem traced_of_offence {schema : Schema} {done : List Place} {p : Place} (named : Named schema)
    (h : p.offence? schema done = some r) (token : given p.token)
    (flag : ∀ name, flagName? p.token = some name → given name) : Traced given r := by
  intro hquoted
  obtain ⟨-, rfl⟩ | ⟨name, hname, ⟨-, rfl⟩ | ⟨declared, -, rfl⟩⟩ := Place.of_offence? h
  · exact (oneLine_message rfl).2 (hquoted _ .token token)
  · exact (oneLine_message rfl).2 (hquoted _ .flag (flag _ hname))
  · exact (oneLine_between (oneLine_ofList.2 (by decide)) (oneLine_ofList.2 (by decide))).2
      (oneLine_of_declares named declared)

theorem traced_of_reading {schema : Schema} (named : Named schema)
    (h : Reading schema tokens (.error r)) (token : ∀ t ∈ tokens, given t)
    (flag : ∀ t ∈ tokens, ∀ name, flagName? t = some name → given name) : Traced given r := by
  cases h with
  | misplaced offence =>
    obtain ⟨before, p, after, hplaces, -, hp⟩ := offence
    have hmem : p ∈ places tokens := by simp [hplaces]
    have htoken := (mem_of_mem_places hmem).1
    exact traced_of_offence named hp (token _ htoken) (flag _ htoken)
  | @unfit before after spec raw placed flags fit first =>
    have hmem : (spec, raw) ∈ declaredFlags schema tokens := by simp [flags]
    have hspec := Schema.mem_of_spec? (spec?_of_mem_declaredFlags hmem)
    exact fun hquoted => (oneLine_refusal _ _ _).2 ⟨named spec hspec, fun shown =>
      hquoted raw (.value shown) (token raw (mem_of_mem_declaredFlags hmem))⟩
  | incomplete placed fit absent =>
    refine traced_of_oneLine ((oneLine_message rfl).2 ?_)
    refine Text.oneLine_intercalate (oneLine_ofList.2 (by decide)) fun name hname => ?_
    obtain ⟨spec, hspec, rfl⟩ := List.mem_map.1 (mem_absentNames.1 hname).1
    exact named spec (List.mem_of_mem_filter hspec)

/-! ## The file of parameters -/

/-- What reading the file refuses. -/
inductive FileRefusal (files : Files) (path : String) : Rejection → Prop
  | noFile : FileRefusal files path (.parametersFileNotFound path)
  | noDocument {reason : String} (line : OneLine reason) :
      FileRefusal files path (.invalidJson reason)
  | noFeature {document : Json} {f : Feature.Fault} (found : documentAt? files path = some document)
      (answer : Feature.Answer desktopProperties.requiredNames document (.error f)) :
      FileRefusal files path (.invalidFeature f)

theorem NoDocument.oneLine {reason : String} (h : NoDocument files path reason) :
    OneLine reason := by
  cases h with
  | unreadable read => exact oneLine_fault _
  | notUtf8 => exact oneLine_ofList.2 (by decide)
  | notJson parse => exact Json.oneLine_of_parse parse

theorem fileRefusal_of_readFeature (h : (readFeature files path).result = .error r) :
    FileRefusal files path r := by
  by_cases hfile : files.isFile path = true
  · cases hfound : documentAt? files path with
    | none =>
      obtain ⟨reason, hread, hreason⟩ := readFeature_of_none hfile hfound
      rw [hread] at h
      obtain rfl := Except.error.inj h
      exact .noDocument hreason.oneLine
    | some document =>
      have hanswer := Feature.ofJson_answer desktopProperties.requiredNames document
      rw [readFeature_of_document hfile hfound] at h
      simp only [Narrated.result_bind, Narrated.result_of, Narrated.result_say, Except.bind] at h
      cases hfeature : Feature.ofJson desktopProperties.requiredNames document with
      | error f =>
        rw [hfeature] at h hanswer
        obtain rfl := Except.error.inj h
        exact .noFeature hfound hanswer
      | ok feature => simp [hfeature, Except.mapError] at h
  · unfold readFeature at h
    rw [Bool.eq_false_iff.2 hfile] at h
    obtain rfl := Except.error.inj h
    exact .noFile

theorem traced_of_fileRefusal (h : FileRefusal files path r) (shown : Shown arguments path)
    (line : OneLine path) : Traced (Given files arguments) r := by
  cases h with
  | noFile => exact traced_of_oneLine ((oneLine_message rfl).2 line)
  | noDocument line => exact traced_of_oneLine ((oneLine_message rfl).2 line)
  | @noFeature document f found answer =>
    -- Of all faults of a feature only one quotes a text of the document.
    unfold Traced
    rw [oneLine_message rfl]
    cases answer with
    | @invalidGeometry members v fault type present notNull first =>
      obtain ⟨before, g, after, hwalk, hoffends, -⟩ := first
      have hinside : g ∈ Geometry.depthFirst v := by simp [hwalk]
      rw [oneLine_invalidGeometry]
      cases hoffends with
      | @unsupported _ name type unknown =>
        exact fun hquoted => (oneLine_unsupported name).2
          (hquoted name .geometryType (.geometryType shown found present hinside type))
      | notObject | missingType | missingCoordinates | missingGeometries =>
        exact fun _ => oneLine_ofList.2 (by decide)
    | @missingProperty members properties geometry before after name type holds present names =>
      have hname : name ∈ desktopProperties.requiredNames := by simp [names]
      have hline : ∀ n ∈ desktopProperties.requiredNames, OneLine n := by decide
      exact fun _ => (oneLine_between (oneLine_ofList.2 (by decide))
        (oneLine_ofList.2 (by decide))).2 (hline name hname)
    | notAnObject | notAFeature | missingGeometry | missingProperties | propertiesNotObject =>
      exact fun _ => oneLine_ofList.2 (by decide)

/-! ## Preparing -/

/-- Why a run with a parameters file is not prepared. -/
inductive Unprepared (files : Files) : List String → Rejection → Prop
  | noWorkspace : Unprepared files [] .missingWorkspace
  | badWorkspace {first : String} {tokens : List String} :
      Unprepared files (first :: tokens) (.invalidWorkspace first)
  | misnamed {first : String} {tokens : List String} {r : Rejection}
      (reading : Reading desktopFileFlags tokens (.error r)) :
      Unprepared files (first :: tokens) r
  | unread {first path : String} {tokens : List String} {r : Rejection}
      (file : NamesFile tokens path) (refusal : FileRefusal files path r) :
      Unprepared files (first :: tokens) r
  | noFolder {first text : String} {tokens : List String} :
      Unprepared files (first :: tokens)
        (.invalidValue "FolderOut" (Kind.nonEmpty.refusal "FolderOut" text))

theorem unprepared_of_prepareFile (h : (prepareFile files texts).result = .error r) :
    Unprepared files texts r := by
  cases prepareFile_stages texts with
  | noWorkspace result =>
    obtain rfl := Except.error.inj ((result files).symm.trans h)
    exact .noWorkspace
  | badWorkspace bad result =>
    obtain rfl := Except.error.inj ((result files).symm.trans h)
    exact .badWorkspace
  | misnamed named reading result =>
    obtain rfl := Except.error.inj ((result files).symm.trans h)
    exact .misnamed reading
  | @named first path tokens named file result =>
    have hread := readFeature_spec files path
    rw [result] at h
    cases hfeature : (readFeature files path).result with
    | error r' =>
      rw [hfeature] at h
      obtain rfl := Except.error.inj h
      exact .unread file (fileRefusal_of_readFeature hfeature)
    | ok feature =>
      rw [hfeature] at h hread
      obtain ⟨folder, hfolder⟩ := hread.property (by decide : "FolderOut" ∈ _)
      obtain ⟨parameters, hparameters⟩ := hread.property (by decide : "Parameters" ∈ _)
      simp only [Except.bind, readMapping_entries hfolder hparameters] at h
      by_cases hempty : folder = .null ∨ folder = .string ""
      · rw [if_pos hempty] at h
        obtain rfl := Except.error.inj h
        exact .noFolder
      · rw [if_neg hempty] at h
        cases h

theorem oneLine_of_isPath {s : String} (h : IsPath s) : OneLine s := by
  intro c hc hbreak
  have hcontrol : ∀ b ∈ Text.lineBreaks, Text.isControl b = true := by decide
  simpa [hcontrol c hbreak] using h.2.2 c hc

section Job

variable {first : String} (shown : ∀ t ∈ texts, Shown arguments t)
include shown

theorem traced_of_invalidWorkspace (h : texts = first :: tokens) :
    Traced (Given files arguments) (.invalidWorkspace first) := fun hquoted =>
  (oneLine_message rfl).2
    (hquoted first .workspace (.argument (shown first (h ▸ List.mem_cons_self))))

theorem traced_of_flags {schema : Schema} (named : Named schema) (h : texts = first :: tokens)
    (reading : Reading schema tokens (.error r)) : Traced (Given files arguments) r := by
  have hshown : ∀ t ∈ tokens, Shown arguments t := fun t ht =>
    shown t (h ▸ List.mem_cons_of_mem first ht)
  exact traced_of_reading named reading (fun t ht => .argument (hshown t ht))
    fun t ht name hname => .flag (hshown t ht) hname

theorem traced_of_unprepared (h : Unprepared files texts r) :
    Traced (Given files arguments) r := by
  cases h with
  | noWorkspace => exact traced_of_oneLine (oneLine_ofList.2 (by decide))
  | badWorkspace => exact traced_of_invalidWorkspace shown rfl
  | misnamed reading => exact traced_of_flags shown named_desktopFileFlags rfl reading
  | @unread first path tokens r file refusal =>
    have hpath : path ∈ tokens :=
      mem_of_mem_textsOf (file.text ▸ List.mem_singleton_self path)
    exact traced_of_fileRefusal refusal (shown path (List.mem_cons_of_mem first hpath))
      (oneLine_of_isPath file.isPath)
  | noFolder =>
    exact traced_of_oneLine ((oneLine_refusal _ _ _).2 ⟨oneLine_ofList.2 (by decide), nofun⟩)

end Job

/-! ## The job -/

theorem traced_of_unwritten {s : Standin} {w : Workspace} {folder text : String}
    (h : s.RunPost files w folder text (.error (.rejected r)))
    (hfolder : OneLine folder ∨ given folder) : Traced given r := by
  obtain ⟨-, -, -, rfl | ⟨f, rfl⟩⟩ := h
  · intro hquoted
    exact (oneLine_message rfl).2 (hfolder.elim id (hquoted folder .folder))
  · exact traced_of_oneLine ((oneLine_message rfl).2 (oneLine_fault f))

theorem traced_of_flagJob (shown : ∀ t ∈ texts, Shown arguments t)
    (h : FlagJobPost files texts (.error (.rejected r))) : Traced (Given files arguments) r := by
  have hspec := prepareFlags_spec texts
  cases h with
  | refused prepared =>
    rw [prepared] at hspec
    cases hspec with
    | noWorkspace => exact traced_of_oneLine (oneLine_ofList.2 (by decide))
    | badWorkspace => exact traced_of_invalidWorkspace shown rfl
    | refused named reading => exact traced_of_flags shown named_desktopFlags rfl reading
  | @run w folder request _ prepared post =>
    rw [prepared] at hspec
    cases hspec with
    | @accepted first tokens _ _ named reading text =>
      have hfolder : folder ∈ tokens := mem_of_mem_textsOf (text ▸ List.mem_singleton_self folder)
      exact traced_of_unwritten post
        (.inr (.argument (shown folder (List.mem_cons_of_mem first hfolder))))

theorem given_of_property {document folder : Json} (shown : Shown arguments path)
    (found : documentAt? files path = some document)
    (property : Feature.property? document "FolderOut" = some folder) :
    OneLine (Feature.propertyText folder) ∨
      Given files arguments (Feature.propertyText folder) := by
  cases folder with
  | string s => exact .inr (.folder shown found property)
  | null => exact .inl nofun
  | bool | number | array | object => exact .inl (Json.oneLine_render _)

theorem traced_of_fileJob (shown : ∀ t ∈ texts, Shown arguments t)
    (h : (fileJob files texts).result = .error (.rejected r)) :
    Traced (Given files arguments) r := by
  have hspec := prepareFile_spec files texts
  unfold fileJob at h
  simp only [Narrated.result_bind, Narrated.result_mapError] at h
  cases hresult : (prepareFile files texts).result with
  | error r' =>
    rw [hresult] at h
    obtain ⟨rfl⟩ := Failure.rejected.inj (Except.error.inj h)
    exact traced_of_unprepared shown (unprepared_of_prepareFile hresult)
  | ok prepared =>
    obtain ⟨w, request, context⟩ := prepared
    rw [hresult] at h hspec
    have hpost := Standin.run_spec isFileName_fileResult h
    cases hspec with
    | @accepted first path tokens feature folder parameters named file read present =>
      have hpath : path ∈ tokens := mem_of_mem_textsOf (file.text ▸ List.mem_singleton_self path)
      cases read with
      | @feature document _ isFile found sound =>
        obtain ⟨-, hproperties, -⟩ := sound
        have hproperty : Feature.property? document "FolderOut" = some folder := by
          rw [Feature.property?, hproperties, Option.bind_some, present]
        exact traced_of_unwritten hpost
          (given_of_property (shown path (List.mem_cons_of_mem first hpath)) found hproperty)

/-! ## Arguments as bytes -/

inductive Decoded (arguments : List (List UInt8)) : Except Rejection (List String) → Prop
  | texts {texts : List String} (shown : ∀ t ∈ texts, Shown arguments t) :
      Decoded arguments (.ok texts)
  | notUtf8 {before : List String} {bytes : List UInt8} (shown : ∀ t ∈ before, Shown arguments t)
      (given : bytes ∈ arguments) :
      Decoded arguments (.error (notUtf8 before (Utf8.decodeLossy bytes)))

theorem decodeAfter_decoded {before : List String} {rest : List (List UInt8)}
    (shown : ∀ t ∈ before, Shown arguments t) (given : ∀ bytes ∈ rest, bytes ∈ arguments) :
    Decoded arguments (decodeAfter before rest) := by
  induction rest generalizing before with
  | nil => exact .texts fun t ht => shown t (List.mem_reverse.1 ht)
  | cons bytes rest ih =>
    have hbytes := given bytes List.mem_cons_self
    unfold decodeAfter
    cases hdecode : Utf8.decode? bytes with
    | none => exact .notUtf8 shown hbytes
    | some s =>
      have hs : Shown arguments s :=
        ⟨bytes, hbytes, by rw [Utf8.decode?_eq_some_iff.1 hdecode, Utf8.decodeLossy_encode]⟩
      exact ih (List.forall_mem_cons.2 ⟨hs, shown⟩) fun b hb => given b (List.mem_cons_of_mem _ hb)

theorem decodeArguments_decoded (arguments : List (List UInt8)) :
    Decoded arguments (decodeArguments arguments) :=
  decodeAfter_decoded nofun fun _ h => h

theorem traced_of_notUtf8 {before : List String} {shown : String} (given_shown : given shown)
    (flag : ∀ t ∈ before, ∀ name, flagName? t = some name → given name) :
    Traced given (notUtf8 before shown) := by
  match before with
  | [] => exact fun hquoted => (oneLine_message rfl).2 (hquoted _ .workspace given_shown)
  | [previous] => exact fun hquoted => (oneLine_message rfl).2 (hquoted _ .token given_shown)
  | previous :: earlier :: first =>
    cases hname : flagName? previous with
    | none =>
      simp only [notUtf8, hname]
      exact fun hquoted => (oneLine_message rfl).2 (hquoted _ .token given_shown)
    | some name =>
      simp only [notUtf8, hname]
      exact fun hquoted => (oneLine_notUtf8 _ _).2
        ⟨hquoted _ .flagOfBytes (flag previous List.mem_cons_self name hname),
          hquoted _ .bytes given_shown⟩

theorem traced_of_jobResult {c : Convention}
    (h : jobResult c files arguments = .error (.rejected r)) :
    Traced (Given files arguments) r := by
  have hdecoded := decodeArguments_decoded arguments
  unfold jobResult at h
  cases hargs : decodeArguments arguments with
  | error r' =>
    rw [hargs] at h hdecoded
    obtain rfl := Failure.rejected.inj (Except.error.inj h)
    cases hdecoded with
    | notUtf8 shown given =>
      exact traced_of_notUtf8 (.argument ⟨_, given, rfl⟩) fun t ht name => .flag (shown t ht)
  | ok texts =>
    rw [hargs] at h hdecoded
    cases hdecoded with
    | texts shown =>
      cases c with
      | flags =>
        have hpost := flagJob_spec files texts
        rw [show (flagJob files texts).result = _ from h] at hpost
        exact traced_of_flagJob shown hpost
      | parametersFile => exact traced_of_fileJob shown h

/-! ## The text -/

/-- The failure of a run quotes this text. -/
def Quoted (c : Convention) (files : Files) (arguments : List (List UInt8)) (t : String) : Prop :=
  ∃ r, jobResult c files arguments = .error (.rejected r) ∧ Quotes r t

theorem oneLine_rejectionText (c : Convention) (traced : Traced given r) :
    OneLine (rejectionText c r) ↔ ∀ t, Quotes r t → given t → OneLine t := by
  have htext : rejectionText c r = r.message ∨ OneLine (rejectionText c r) ∧ ∀ t, ¬ Quotes r t := by
    have hmissing : ∀ name, r.isMissing name = true → ∀ t, ¬ Quotes r t := by
      rintro name h t (_ | _)
      all_goals simp [Rejection.isMissing] at h
    unfold rejectionText
    cases c
    · simp only
      split
      · exact .inr ⟨oneLine_ofList.2 (by decide), hmissing _ ‹_›⟩
      · exact .inl rfl
    · simp only
      split
      · exact .inr ⟨oneLine_ofList.2 (by decide), hmissing _ ‹_›⟩
      · exact .inl rfl
  rcases htext with htext | ⟨hline, hnone⟩
  · rw [htext]
    exact ⟨fun h t hquotes _ => hquotes.oneLine h, traced⟩
  · exact ⟨fun _ t hquotes => absurd hquotes (hnone t), fun _ => hline⟩

/-- The text of a failure is a single line if and only if the given texts that it quotes are. -/
theorem runBytes_oneLine (c : Convention) (files : Files) (arguments : List (List UInt8)) :
    (∀ text ∈ (runBytes c files arguments).status.stderr, OneLine text) ↔
      ∀ t, Quoted c files arguments t → Given files arguments t → OneLine t := by
  rw [runBytes_status]
  cases hresult : jobResult c files arguments with
  | ok written =>
    exact ⟨fun _ t ⟨r, hr, _⟩ => by simp [hresult] at hr, fun _ => nofun⟩
  | error failure =>
    cases failure with
    | simulated =>
      refine ⟨fun _ t ⟨r, hr, _⟩ => by simp [hresult] at hr, ?_⟩
      rintro - text ⟨⟩
      exact oneLine_ofList.2 (by decide)
    | rejected r =>
      have htext := oneLine_rejectionText c (traced_of_jobResult hresult)
      constructor
      · rintro hline t ⟨r', hr', hquotes⟩ hgiven
        obtain rfl := Failure.rejected.inj (Except.error.inj (hresult.symm.trans hr'))
        exact htext.1 (hline _ rfl) t hquotes hgiven
      · rintro hall text ⟨⟩
        exact htext.2 fun t hquotes hgiven => hall t ⟨r, hresult, hquotes⟩ hgiven

/-- A stray argument is quoted with its line break. -/
theorem runBytes_twoLines :
    (runBytes .flags ⟨[], [], [], []⟩ [Utf8.encode "job.fmw", Utf8.encode "a\nb"]).status.stderr =
        some "Positional parameter in script parameter strings: a\nb" ∧
      ¬ OneLine "Positional parameter in script parameter strings: a\nb" := by
  decide +kernel

end MapStandin.Desktop
