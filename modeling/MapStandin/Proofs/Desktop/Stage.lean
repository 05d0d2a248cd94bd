import MapStandin.Desktop.Run
import MapStandin.Proofs.Job.Result
import MapStandin.Proofs.Parameter.Reading

/-! # Stages of a desktop run

Both kinds of run take a workspace off their arguments, read flags and end with a status. What these
stages refuse is said here once for both. -/

namespace MapStandin

/-! ## Wordings -/

/-- The rejection shows a text of its own, or one that its maker gave it. -/
def Rejection.Worded : Rejection → Prop
  | .invalidValue _ text | .unauthorized text => text ≠ ""
  | _ => True

theorem append_ne_empty {a b : String} (h : a ≠ "") : a ++ b ≠ "" := by
  intro hempty
  exact h (String.append_eq_empty_iff.1 hempty).1

theorem Rejection.message_ne_empty {r : Rejection} (h : r.Worded) : r.message ≠ "" := by
  cases r with
  | invalidValue name text | unauthorized text => exact h
  | missingWorkspace => decide
  | duplicateParameter name => exact append_ne_empty (append_ne_empty (by decide))
  | _ => exact append_ne_empty (by decide)

namespace Parameter

theorem Kind.refusal_ne_empty (k : Kind) (name raw : String) : k.refusal name raw ≠ "" := by
  have hstart : "Value for parameter " ++ name ≠ "" := append_ne_empty (by decide)
  cases k with
  | nonEmpty => exact append_ne_empty hstart
  | _ => exact append_ne_empty (append_ne_empty hstart)

variable {schema : Schema} {done ps : List Place} {tokens : List String} {r : Rejection}

/-- The rejections that tell of the shape of a token list. -/
def TellsShape : Rejection → Prop
  | .positionalArgument _ | .missingValue _ | .duplicateParameter _ => True
  | _ => False

theorem Place.offence?_tellsShape {p : Place} (h : p.offence? schema done = some r) :
    TellsShape r := by
  obtain ⟨-, rfl⟩ | ⟨name, -, ⟨-, rfl⟩ | ⟨-, -, rfl⟩⟩ := Place.of_offence? h
  all_goals trivial

theorem FirstOffence.tellsShape (h : FirstOffence schema done ps r) : TellsShape r := by
  obtain ⟨before, p, after, -, -, hp⟩ := h
  exact Place.offence?_tellsShape hp

theorem Reading.worded (h : Reading schema tokens (.error r)) : r.Worded := by
  cases h with
  | misplaced offence =>
    have hshape := offence.tellsShape
    cases r <;> trivial
  | unfit => exact Kind.refusal_ne_empty _ _ _
  | incomplete => trivial

end Parameter

namespace Desktop

open Parameter

theorem flagsCode_ne_zero (r : Rejection) : flagsCode r ≠ 0 := by
  unfold flagsCode
  split
  case h_3 => split <;> decide
  all_goals decide

theorem parametersFileCode_ne_zero (r : Rejection) : parametersFileCode r ≠ 0 := by
  unfold parametersFileCode
  split
  case h_3 => split <;> decide
  case h_7 => split <;> decide
  all_goals decide

theorem flagsCode_of_tellsShape {r : Rejection} (h : TellsShape r) : flagsCode r = 30 := by
  cases r <;> trivial

theorem parametersFileCode_of_tellsShape {r : Rejection} (h : TellsShape r) :
    parametersFileCode r = 20 := by
  cases r <;> trivial

theorem rejectionText_ne_empty (c : Convention) {r : Rejection} (h : r.Worded) :
    rejectionText c r ≠ "" := by
  unfold rejectionText
  cases c with
  | flags =>
    simp only
    split
    · decide
    · exact r.message_ne_empty h
  | parametersFile =>
    simp only
    split
    · decide
    · exact r.message_ne_empty h

theorem rejectionCode_ne_zero (c : Convention) (r : Rejection) : rejectionCode c r ≠ 0 := by
  cases c with
  | flags => exact flagsCode_ne_zero r
  | parametersFile => exact parametersFileCode_ne_zero r

theorem exitStatus_error_ne_zero {α : Type} (c : Convention) (e : Failure) :
    (exitStatus c (.error e : Except Failure α)).code ≠ 0 := by
  cases e with
  | simulated =>
    show (100 : Nat) ≠ 0
    decide
  | rejected r => exact rejectionCode_ne_zero c r

theorem exitStatus_stderr {α : Type} (c : Convention) {result : Except Failure α}
    (h : ∀ r, result = .error (.rejected r) → r.Worded) :
    ((exitStatus c result).stderr = none ↔ (exitStatus c result).code = 0) ∧
      (exitStatus c result).stderr ≠ some "" := by
  match result, h with
  | .ok a, _ => simp [exitStatus, ExitStatus.success]
  | .error .simulated, _ => simp [exitStatus, simulatedCode, simulatedMessage]
  | .error (.rejected r), h =>
    have hcode := rejectionCode_ne_zero c r
    have htext := rejectionText_ne_empty c (h r rfl)
    simp [exitStatus, hcode, htext]

/-! ## The workspace -/

/-- A text can be a path: it is not empty, not too long and free of control characters. -/
def IsPath (s : String) : Prop :=
  s ≠ "" ∧ s.utf8ByteSize ≤ 4096 ∧ ∀ c ∈ s.toList, Text.isControl c = false

instance (s : String) : Decidable (IsPath s) := inferInstanceAs (Decidable (_ ∧ _ ∧ _))

/-- A first argument that names a workspace: a path that is no flag. -/
def NamesWorkspace (first : String) : Prop :=
  ¬ "--".toList <+: first.toList ∧ IsPath first

instance (first : String) : Decidable (NamesWorkspace first) :=
  inferInstanceAs (Decidable (_ ∧ _))

theorem isPath_iff {s : String} : isPath s = true ↔ IsPath s := by
  unfold isPath IsPath longestPath
  simp [and_assoc]

theorem read?_path {raw : String} {value : Value} :
    Kind.path.read? raw = some value ↔ IsPath raw ∧ value = .path raw := by
  show (if isPath raw then some (Value.path raw) else none) = some value ↔ _
  rw [← isPath_iff]
  by_cases h : isPath raw = true <;> simp [h, eq_comm]

theorem required_of_reading {schema : Schema} {tokens : List String} {request : Request}
    {name : String} {kind : Kind} (h : Reading schema tokens (.ok request))
    (hspec : schema.spec? name = some ⟨name, kind, true⟩) :
    ∃ raw value, textsOf name tokens = [raw] ∧ kind.read? raw = some value ∧
      request.get? name = some ⟨raw, value⟩ := by
  have hrequired : name ∈ schema.requiredNames :=
    List.mem_map.2 ⟨_, List.mem_filter.2 ⟨Schema.mem_of_spec? hspec, rfl⟩, rfl⟩
  obtain ⟨raw, hraw⟩ := h.exists_text name hrequired
  obtain ⟨value, hget, hread⟩ := h.get?_of_text hspec hraw
  cases h with
  | complete placed absent values once =>
    have htext := textsOf_eq_singleton (Schema.declares_of_required hrequired)
      (not_malformed_iff.2 placed) hraw
    exact ⟨raw, value, htext, hread, hget⟩

theorem path_of_reading {schema : Schema} {tokens : List String} {request : Request}
    {name : String} (h : Reading schema tokens (.ok request))
    (hspec : schema.spec? name = some ⟨name, .path, true⟩) :
    ∃ path, textsOf name tokens = [path] ∧ IsPath path ∧
      request.get? name = some ⟨path, .path path⟩ := by
  obtain ⟨path, value, htext, hread, hget⟩ := required_of_reading h hspec
  obtain ⟨hvalid, rfl⟩ := read?_path.1 hread
  exact ⟨path, htext, hvalid, hget⟩

theorem flagName?_isSome_iff {token : String} :
    (flagName? token).isSome = true ↔ "--".toList <+: token.toList := by
  unfold flagName? Text.after?
  rw [Option.isSome_map]
  exact Text.afterList_isSome_iff

theorem workspaceOf_cons (first : String) (tokens : List String) :
    workspaceOf (first :: tokens) =
      if NamesWorkspace first then .ok (⟨first⟩, tokens) else .error (.invalidWorkspace first) := by
  have hnames : ¬ NamesWorkspace first ↔
      ((flagName? first).isSome || !isPath first) = true := by
    unfold NamesWorkspace
    rw [← isPath_iff, ← flagName?_isSome_iff]
    cases (flagName? first).isSome <;> simp
  simp only [workspaceOf]
  by_cases hw : NamesWorkspace first
  · rw [if_pos hw, if_neg (fun h => hnames.2 h hw)]
  · rw [if_neg hw, if_pos (hnames.1 hw)]

theorem takeWorkspace_result (arguments : List String) :
    (takeWorkspace arguments).result = workspaceOf arguments := by
  unfold takeWorkspace
  cases workspaceOf arguments <;> simp [Except.bind]

theorem takeFlags_result (schema : Schema) (tokens : List String) :
    (takeFlags schema tokens).result = schema.readFlags tokens := by
  unfold takeFlags
  simp [Except.bind]

@[simp]
theorem result_tellParameters {ε : Type} (r : Request) :
    (tellParameters r : Narrated ε Unit).result = .ok () := by
  simp [tellParameters, Except.bind]

/-! ## The run of a prepared job -/

/-- The code for a result file that cannot be written. -/
def unwritableCode : Convention → Nat
  | .flags => 35
  | .parametersFile => 50

section Run

variable {s : Standin} {files files' : Files} {w : Workspace} {folder text : String}
  {result result' : Except Failure (Option Artifact × Files)}

theorem worded_of_runPost {r : Rejection}
    (h : s.RunPost files w folder text (.error (.rejected r))) : r.Worded := by
  obtain ⟨-, -, -, rfl | ⟨f, rfl⟩⟩ := h <;> trivial

theorem code_of_runPost (c : Convention) (h : s.RunPost files w folder text result) :
    (exitStatus c result).code =
      if w.EndsIn "_fails" then 100
      else if w.EndsIn "_nofiles" then 0
      else if files.CanHold folder s.artifactName then 0
      else unwritableCode c := by
  match result, h with
  | .error .simulated, h =>
    have hfail : w.EndsIn "_fails" := h
    rw [if_pos hfail]
    rfl
  | .error (.rejected r), ⟨hfail, hnone, hhold, hr⟩ =>
    rw [if_neg hfail, if_neg hnone, if_neg hhold]
    obtain rfl | ⟨f, rfl⟩ := hr <;> cases c <;> rfl
  | .ok (none, after), ⟨hfail, hnone, _⟩ =>
    rw [if_neg hfail, if_pos hnone]
    rfl
  | .ok (some a, after), ⟨hfail, hnone, hhold, _⟩ =>
    rw [if_neg hfail, if_neg hnone, if_pos hhold]
    rfl

theorem exitStatus_eq_of_runPost (c : Convention) (h : s.RunPost files w folder text result)
    (h' : s.RunPost files' w folder text result') (hw : w.EndsIn "_fails" ∨ w.EndsIn "_nofiles") :
    exitStatus c result = exitStatus c result' := by
  match result, h, result', h' with
  | .error .simulated, _, .error .simulated, _ => rfl
  | .error .simulated, hfail, .ok (none, _), h' | .error .simulated, hfail, .ok (some _, _), h' =>
    exact absurd hfail h'.1
  | .ok (none, _), h, .error .simulated, hfail | .ok (some _, _), h, .error .simulated, hfail =>
    exact absurd hfail h.1
  | .ok _, _, .ok _, _ => rfl
  | .error (.rejected r), h, _, _ => exact absurd hw (not_or.2 ⟨h.1, h.2.1⟩)
  | _, _, .error (.rejected r), h' => exact absurd hw (not_or.2 ⟨h'.1, h'.2.1⟩)

end Run

end Desktop

end MapStandin
