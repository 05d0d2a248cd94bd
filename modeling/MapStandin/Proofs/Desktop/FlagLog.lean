import MapStandin.Proofs.Desktop.FlagRun
import MapStandin.Proofs.Desktop.Log

/-! # The log of a run with flags

A run with flags opens with all of its arguments in full. Of what it tells after that, the texts of
the flags have a part only by what is left of them after the cut, the folder for the result apart. -/

namespace MapStandin.Desktop

open Parameter
open Narrated (Matches SameTale)

variable {files : Files} {first name raw : String} {tokens tokens' : List String}

/-! ## Flags that are shown alike -/

/-- The number of members of the object that a text spells. -/
def memberCount? (raw : String) : Option Nat :=
  ((Json.readBytes (Utf8.encode raw)).toOption.bind Json.members?).map List.length

/-- Flags with the same names in the same places, whose texts are the same after the cut. -/
structure SameFlags (tokens tokens' : List String) : Prop where
  shown : shownTokens tokens' = shownTokens tokens
  folder : textsOf "FolderOut" tokens' = textsOf "FolderOut" tokens
  members : (textsOf "Parameters" tokens').map memberCount? =
    (textsOf "Parameters" tokens).map memberCount?

theorem read?_json {raw : String} {value : Value} (h : Kind.json.read? raw = some value) :
    ∃ v, value = .json v ∧ memberCount? raw = v.members?.map List.length := by
  obtain ⟨v, hv, rfl⟩ := Option.map_eq_some_iff.1 h
  exact ⟨v, rfl, by rw [memberCount?, hv, Option.bind_some]⟩

section Requests

variable {request request' : Request} (same : SameFlags tokens tokens')
  (h : Reading desktopFlags tokens (.ok request)) (h' : Reading desktopFlags tokens' (.ok request'))
include same h h'

theorem SameFlags.folder_eq :
    ∃ folder, request.get? "FolderOut" = some ⟨folder, .path folder⟩ ∧
      request'.get? "FolderOut" = some ⟨folder, .path folder⟩ := by
  have hspec : desktopFlags.spec? "FolderOut" = some ⟨"FolderOut", .path, true⟩ := by decide
  obtain ⟨folder, htext, -, hget⟩ := path_of_reading h hspec
  obtain ⟨folder', htext', -, hget'⟩ := path_of_reading h' hspec
  have hone := same.folder
  rw [htext, htext'] at hone
  obtain rfl := List.head_eq_of_cons_eq hone
  exact ⟨folder', hget, hget'⟩

theorem SameFlags.count_eq :
    ∃ raw raw' v v', request.get? "Parameters" = some ⟨raw, .json v⟩ ∧
      request'.get? "Parameters" = some ⟨raw', .json v'⟩ ∧
      v'.members?.map List.length = v.members?.map List.length := by
  have hspec : desktopFlags.spec? "Parameters" = some ⟨"Parameters", .json, true⟩ := by decide
  obtain ⟨raw, value, htext, hread, hget⟩ := required_of_reading h hspec
  obtain ⟨raw', value', htext', hread', hget'⟩ := required_of_reading h' hspec
  obtain ⟨v, rfl, hcount⟩ := read?_json hread
  obtain ⟨v', rfl, hcount'⟩ := read?_json hread'
  have hone := same.members
  rw [htext, htext'] at hone
  refine ⟨raw, raw', v, v', hget, hget', ?_⟩
  rw [← hcount, ← hcount']
  exact List.head_eq_of_cons_eq hone

end Requests

theorem prepareFlags_alike (same : SameFlags tokens tokens')
    (accepted : NamesWorkspace first →
      (desktopFlags.readFlags tokens').isOk = (desktopFlags.readFlags tokens).isOk) :
    SameTale (fun _ _ => True) (fun a a' => a'.1 = a.1 ∧ a'.2.1 = a.2.1)
      (prepareFlags (first :: tokens)) (prepareFlags (first :: tokens')) := by
  unfold prepareFlags
  refine .bind ((takeWorkspace_alike first tokens tokens').mono (fun _ _ _ => trivial)
    fun _ _ h => h) ?_
  rintro _ _ ⟨named, rfl, rfl⟩
  refine .bind (takeFlags_alike same.shown (.of_isOk (accepted named))) ?_
  rintro request request' ⟨hread, hread'⟩
  have hreading := readFlags_reading desktopFlags tokens
  have hreading' := readFlags_reading desktopFlags tokens'
  rw [hread] at hreading
  rw [hread'] at hreading'
  have hshown := shownTexts_of_reading same.shown hreading hreading'
  refine .bind (tellParameters_alike hshown) fun _ _ _ => ?_
  refine .bind (.sayAll .warn ?_) fun _ _ _ => ?_
  · simp only [contains_of_shownTexts hshown]
  obtain ⟨folder, hfolder, hfolder'⟩ := same.folder_eq hreading hreading'
  obtain ⟨raw, raw', v, v', hv, hv', hcount⟩ := same.count_eq hreading hreading'
  simp only [hfolder, hfolder', hv, hv', Option.bind_some, Value.asPath?]
  -- Either both texts spell objects of one size, or neither spells an object.
  cases v with
  | object members =>
    cases v' with
    | object members' =>
      obtain hlength : members'.length = members.length := Option.some.inj hcount
      exact .bind (.say .info (by rw [hlength])) fun _ _ _ => .pure ⟨rfl, rfl⟩
    | _ => cases hcount
  | _ =>
    cases v' with
    | object members' => cases hcount
    | _ => exact .pure ⟨rfl, rfl⟩

theorem flagJob_alike (same : SameFlags tokens tokens')
    (accepted : NamesWorkspace first →
      (desktopFlags.readFlags tokens').isOk = (desktopFlags.readFlags tokens).isOk) :
    (flagJob files (first :: tokens')).events = (flagJob files (first :: tokens)).events := by
  suffices h : SameTale (fun _ _ => True) (fun _ _ => True) (flagJob files (first :: tokens))
      (flagJob files (first :: tokens')) from h.events
  unfold flagJob
  refine .bind ((prepareFlags_alike same accepted).mapError fun _ _ _ => trivial) ?_
  rintro ⟨w, folder, request⟩ ⟨_, _, request'⟩ ⟨rfl, rfl⟩
  exact (Standin.run_alike (.refl files) isFileName_flagResult).mono (fun _ _ _ => trivial)
    fun _ _ _ => trivial

/-! ## Flags that are accepted -/

theorem isOk_readFlags_iff (files : Files) (named : NamesWorkspace first) :
    (desktopFlags.readFlags tokens).isOk = true ↔
      flagStageCode files (first :: tokens) ∈ [0, 35, 100] := by
  have hreading := readFlags_reading desktopFlags tokens
  cases hread : desktopFlags.readFlags tokens with
  | error r =>
    rw [hread] at hreading
    rw [← code_of_refused named hreading]
    -- No code of a refusal is a code of the job.
    have hcode : flagsCode r ∈ [20, 30, 40, 50] := by
      cases hreading with
      | misplaced offence => simp [flagsCode_of_tellsShape offence.tellsShape]
      | unfit => simp [flagsCode]
      | incomplete =>
        simp only [flagsCode]
        split <;> simp
    constructor
    · intro h
      cases h
    · intro h
      simp only [List.mem_cons, List.not_mem_nil, or_false] at h hcode
      omega
  | ok request =>
    rw [hread] at hreading
    obtain ⟨folder, htext, -, -⟩ := path_of_reading hreading
      (by decide : desktopFlags.spec? "FolderOut" = _)
    rw [flagStageCode_accepted named hreading htext]
    refine ⟨fun _ => ?_, fun _ => rfl⟩
    split_ifs <;> decide

theorem mem_prepareFlags {request : Request} (named : NamesWorkspace first)
    (read : desktopFlags.readFlags tokens = .ok request) (h : (name, raw) ∈ request.texts) :
    (⟨.info, s!"  {name}: " ++ shown raw⟩ : Event) ∈ (prepareFlags (first :: tokens)).events := by
  unfold prepareFlags
  apply Narrated.mem_events_of_later (a := (⟨first⟩, tokens))
  · rw [takeWorkspace_result, workspaceOf_cons, if_pos named]
  apply Narrated.mem_events_of_later (a := request)
  · rw [takeFlags_result, read]
  exact Narrated.mem_events_of_first (mem_tellParameters h)

theorem exists_accepted (code : flagStageCode files (first :: tokens) ∈ [0, 35, 100]) :
    ∃ folder request, NamesWorkspace first ∧ desktopFlags.readFlags tokens = .ok request ∧
      textsOf "FolderOut" tokens = [folder] ∧
      (prepareFlags (first :: tokens)).result = .ok (⟨first⟩, folder, request) := by
  by_cases named : NamesWorkspace first
  · have hok := (isOk_readFlags_iff files named).2 code
    have hprepared := prepareFlags_spec (first :: tokens)
    cases hresult : (prepareFlags (first :: tokens)).result with
    | error r =>
      rw [hresult] at hprepared
      cases hprepared with
      | badWorkspace bad => exact absurd named bad
      | refused _ reading =>
        rw [(readFlags_reading _ _).unique reading] at hok
        cases hok
    | ok prepared =>
      rw [hresult] at hprepared
      cases hprepared with
      | accepted _ reading text =>
        exact ⟨_, _, named, (readFlags_reading _ _).unique reading, text, rfl⟩
  · rw [flagStageCode, if_pos named] at code
    exact absurd code (by decide)

/-! ## The log -/

/-- What the log of a run with flags says of the texts of its flags. -/
structure FlagLogPost (files : Files) (arguments : List (List UInt8)) : Prop where
  /-- Arguments that are no texts are not told. -/
  undecoded : ∀ r, decodeArguments arguments = .error r →
    (runBytes .flags files arguments).events =
      [⟨.debug, s!"FME Desktop V1 Mock - Exiting with code {flagsCode r}"⟩]
  /-- The opening has all arguments in full. -/
  opening : ∀ texts, decodeArguments arguments = .ok texts →
    (runBytes .flags files arguments).events.take 2 =
      [⟨.info, s!"FME Desktop V1 Mock - Reading {texts.length} arguments"⟩,
        ⟨.debug, "Arguments: " ++ Text.quotedList texts⟩]
  /-- It shows no more of the texts than their cut exactly if none is longer than that. -/
  discreet : ∀ first tokens, decodeArguments arguments = .ok (first :: tokens) →
    ((∀ arguments' tokens', decodeArguments arguments' = .ok (first :: tokens') →
        shownTokens tokens' = shownTokens tokens →
        (runBytes .flags files arguments').events.take 2 =
          (runBytes .flags files arguments).events.take 2) ↔
      ∀ p ∈ places tokens, ∀ raw ∈ p.text, raw.toList.length ≤ 100)
  /-- What follows the opening shows no more of a text than its cut. -/
  rest : ∀ first tokens arguments' tokens',
    decodeArguments arguments = .ok (first :: tokens) →
    decodeArguments arguments' = .ok (first :: tokens') → SameFlags tokens tokens' →
    (runBytes .flags files arguments').status.code = (runBytes .flags files arguments).status.code →
    (runBytes .flags files arguments').events.drop 2 =
      (runBytes .flags files arguments).events.drop 2
  /-- An accepted text that is too long is told by its front. -/
  told : ∀ first tokens name raw, decodeArguments arguments = .ok (first :: tokens) →
    (runBytes .flags files arguments).status.code ∈ [0, 35, 100] →
    desktopFlags.declares name = true → raw ∈ textsOf name tokens → 100 < raw.toList.length →
    ⟨.info, s!"  {name}: " ++ (String.ofList (raw.toList.take 100) ++ "...")⟩ ∈
      (runBytes .flags files arguments).events
  /-- The path of the result file, with the folder in full, is told. -/
  created : ∀ first tokens folder, decodeArguments arguments = .ok (first :: tokens) →
    (runBytes .flags files arguments).status.code = 0 →
    ¬ (Workspace.mk first).EndsIn "_nofiles" → textsOf "FolderOut" tokens = [folder] →
    ⟨.info, "Created output file: " ++ Path.join folder "result_v1.txt"⟩ ∈
      (runBytes .flags files arguments).events

theorem code_runFlags (files : Files) (arguments : List String) :
    (runFlags files arguments).status.code = flagStageCode files arguments :=
  code_of_flagJobPost (flagJob_spec files arguments)

theorem take_flagOpening (files : Files) (arguments : List (List UInt8)) (texts : List String)
    (h : decodeArguments arguments = .ok texts) :
    (runBytes .flags files arguments).events.take 2 =
      [⟨.info, s!"FME Desktop V1 Mock - Reading {texts.length} arguments"⟩,
        ⟨.debug, "Arguments: " ++ Text.quotedList texts⟩] := by
  rw [runBytes_of_texts h]
  rfl

theorem runBytes_flagLog (files : Files) (arguments : List (List UInt8)) :
    FlagLogPost files arguments where
  undecoded _ := events_of_undecoded
  opening := take_flagOpening files arguments
  discreet first tokens h := by
    refine opening_discreet_iff (take_flagOpening files) ?_ h
    intro texts texts' hlength hopening
    have hevent := List.head_eq_of_cons_eq (List.tail_eq_of_cons_eq hopening)
    exact (String.append_right_inj _).1 (congrArg Event.text hevent)
  rest first tokens arguments' tokens' h h' same code := by
    rw [runBytes_of_texts h, runBytes_of_texts h'] at code ⊢
    have hstage : flagStageCode files (first :: tokens') = flagStageCode files (first :: tokens) := by
      rw [← code_runFlags, ← code_runFlags]
      exact code
    have hevents : (flagJob files (first :: tokens')).events =
        (flagJob files (first :: tokens)).events := by
      apply flagJob_alike same
      intro named
      rw [Bool.eq_iff_iff, isOk_readFlags_iff files named, isOk_readFlags_iff files named, hstage]
    -- Behind the opening stand the events of the job and the closing.
    have hdrop : ∀ tokens, (run .flags files (first :: tokens)).events.drop 2 =
        (flagJob files (first :: tokens)).events ++
          [closing flagStandin.title (run .flags files (first :: tokens)).status] := fun _ => rfl
    rw [hdrop, hdrop, hevents, closing_congr code]
  told first tokens name raw h code declared hraw long := by
    rw [runBytes_of_texts h] at code ⊢
    have hstage : flagStageCode files (first :: tokens) ∈ [0, 35, 100] := by
      rw [← code_runFlags]
      exact code
    obtain ⟨folder, request, named, hread, -, -⟩ := exists_accepted hstage
    have hreading := readFlags_reading desktopFlags tokens
    rw [hread] at hreading
    have hmem := mem_prepareFlags named hread (hreading.mem_texts declared hraw)
    rw [shown_of_long long] at hmem
    exact mem_conclude (Narrated.mem_events_of_first hmem)
  created first tokens folder h code produces htext := by
    rw [runBytes_of_texts h] at code ⊢
    have hstage : flagStageCode files (first :: tokens) = 0 := by
      rw [← code_runFlags]
      exact code
    obtain ⟨folder', request, named, hread, htext', hprepared⟩ :=
      exists_accepted (by rw [hstage]; exact List.mem_cons_self)
    rw [htext] at htext'
    obtain rfl := List.head_eq_of_cons_eq htext'
    have hreading := readFlags_reading desktopFlags tokens
    rw [hread] at hreading
    rw [flagStageCode_accepted named hreading htext, if_neg produces] at hstage
    split_ifs at hstage with hfails hhold
    exact mem_conclude (Narrated.mem_events_of_later (Narrated.mapError_of_ok hprepared _)
      (Standin.mem_run isFileName_flagResult hfails produces hhold))

end MapStandin.Desktop
