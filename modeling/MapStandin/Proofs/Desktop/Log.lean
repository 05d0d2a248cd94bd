import MapStandin.Proofs.Desktop.Stage
import MapStandin.Proofs.Parameter.Shown
import MapStandin.Proofs.Text.Quoted
import MapStandin.Proofs.Text.Utf8

/-! # The log of a desktop run

What both kinds of run tell: the arguments as they open, the flags that are skipped, the accepted
parameters and the code at the end. -/

namespace MapStandin.Desktop

open Parameter
open Narrated (Matches SameTale)

variable {files : Files} {c : Convention} {first name raw value : String}
  {texts tokens tokens' : List String}

/-! ## Stages that both kinds of run have -/

section Stages

variable {ε ε' : Type} {E : Rejection → Rejection → Prop} {R : Request → Request → Prop}
  {schema : Schema} {request request' : Request}

theorem takeWorkspace_alike (first : String) (tokens tokens' : List String) :
    SameTale Eq (fun a a' => NamesWorkspace first ∧ a = (⟨first⟩, tokens) ∧ a' = (⟨first⟩, tokens'))
      (takeWorkspace (first :: tokens)) (takeWorkspace (first :: tokens')) := by
  unfold takeWorkspace
  rw [workspaceOf_cons, workspaceOf_cons]
  by_cases named : NamesWorkspace first
  · rw [if_pos named, if_pos named]
    exact ⟨rfl, .ok ⟨named, rfl, rfl⟩⟩
  · rw [if_neg named, if_neg named]
    exact ⟨rfl, .error rfl⟩

theorem takeFlags_alike (same : shownTokens tokens' = shownTokens tokens)
    (read : Matches E R (schema.readFlags tokens) (schema.readFlags tokens')) :
    SameTale E R (takeFlags schema tokens) (takeFlags schema tokens') := by
  have hskipped : schema.skippedFlags [] tokens' = schema.skippedFlags [] tokens := by
    rw [← skippedFlags_shownTokens, same, skippedFlags_shownTokens]
  unfold takeFlags
  refine .bind (.sayAll .debug ?_) fun _ _ _ => .of read
  rw [hskipped]

theorem tellParameters_alike {F : ε → ε' → Prop}
    (same : shownTexts request'.texts = shownTexts request.texts) :
    SameTale F Eq (tellParameters request) (tellParameters request') := by
  have hlines := congrArg (List.map fun p : String × String => s!"  {p.1}: " ++ p.2) same
  rw [shownTexts, shownTexts, List.map_map, List.map_map] at hlines
  unfold tellParameters
  exact .bind (.say .info rfl) fun _ _ _ => .sayAll .info hlines

theorem mem_tellParameters (h : (name, raw) ∈ request.texts) :
    (⟨.info, s!"  {name}: " ++ shown raw⟩ : Event) ∈
      (tellParameters request : Narrated ε Unit).events := by
  unfold tellParameters
  apply Narrated.mem_events_of_later rfl
  exact List.mem_map.2 ⟨_, List.mem_map.2 ⟨(name, raw), h, rfl⟩, rfl⟩

end Stages

/-! ## The events of a run -/

theorem closing_congr {title : String} {status status' : ExitStatus}
    (h : status'.code = status.code) : closing title status' = closing title status := by
  unfold closing ExitStatus.isSuccess
  rw [h]

theorem closing_of_ne_zero {title : String} {status : ExitStatus} (h : status.code ≠ 0) :
    closing title status = ⟨.debug, s!"{title} - Exiting with code {status.code}"⟩ := by
  unfold closing ExitStatus.isSuccess
  rw [if_neg (by simpa using h)]

theorem mem_conclude {title : String} {opening : List Event}
    {job : Narrated Failure (Option Artifact × Files)} {e : Event} (h : e ∈ job.events) :
    e ∈ (conclude c title opening files job).events :=
  List.mem_append_left _ (List.mem_append_right _ h)

theorem runBytes_of_texts {arguments : List (List UInt8)}
    (h : decodeArguments arguments = .ok texts) : runBytes c files arguments = run c files texts := by
  unfold runBytes
  rw [h]

theorem events_of_undecoded {arguments : List (List UInt8)} {r : Rejection}
    (h : decodeArguments arguments = .error r) :
    (runBytes c files arguments).events =
      [⟨.debug, s!"{(standinOf c).title} - Exiting with code {rejectionCode c r}"⟩] := by
  unfold runBytes
  rw [h]
  exact congrArg ([·]) (closing_of_ne_zero (rejectionCode_ne_zero c r))

/-! ## Arguments in full -/

theorem infix_quoted (plain : ∀ c ∈ value.toList, Text.shownQuoted c = [c]) :
    value.toList <:+: (Text.quoted value).toList := by
  have hflat : value.toList.flatMap Text.shownQuoted = value.toList := by
    rw [List.flatMap_congr plain, List.flatMap_singleton']
  unfold Text.quoted
  rw [String.toList_ofList, hflat]
  exact List.infix_append ['"'] value.toList ['"']

theorem infix_intercalate {separator : List Char} {pieces : List (List Char)} {piece : List Char}
    (h : piece ∈ pieces) : piece <:+: separator.intercalate pieces := by
  induction pieces with
  | nil => cases h
  | cons front rest ih =>
    cases rest with
    | nil => simp [List.mem_singleton.1 h]
    | cons next rest =>
      rw [List.intercalate_cons_cons]
      rcases List.mem_cons.1 h with rfl | hrest
      · rw [List.append_assoc]
        exact (List.prefix_append _ _).isInfix
      · exact (ih hrest).trans (List.suffix_append _ _).isInfix

theorem decodeAfter_encode (before texts : List String) (rest : List (List UInt8)) :
    decodeAfter before (texts.map Utf8.encode ++ rest) =
      decodeAfter (texts.reverse ++ before) rest := by
  induction texts generalizing before with
  | nil => rfl
  | cons text texts ih =>
    rw [List.map_cons, List.cons_append, decodeAfter, Utf8.decode?_eq_some_iff.2 rfl]
    simp [ih]

theorem decodeArguments_encode (texts : List String) :
    decodeArguments (texts.map Utf8.encode) = .ok texts := by
  have hall := decodeAfter_encode [] texts []
  rw [List.append_nil, List.append_nil] at hall
  rw [decodeArguments, hall, decodeAfter, List.reverse_reverse]

theorem opening_discreet_iff {count : Nat} {opening : List String → List Event}
    (opens : ∀ arguments texts, decodeArguments arguments = .ok texts →
      (runBytes c files arguments).events.take count = opening texts)
    (full : ∀ texts texts', texts'.length = texts.length → opening texts' = opening texts →
      Text.quotedList texts' = Text.quotedList texts)
    {arguments : List (List UInt8)} (h : decodeArguments arguments = .ok (first :: tokens)) :
    (∀ arguments' tokens', decodeArguments arguments' = .ok (first :: tokens') →
        shownTokens tokens' = shownTokens tokens →
        (runBytes c files arguments').events.take count =
          (runBytes c files arguments).events.take count) ↔
      ∀ p ∈ places tokens, ∀ raw ∈ p.text, raw.toList.length ≤ 100 := by
  rw [← shownTokens_tells_iff, opens _ _ h]
  constructor
  · intro discreet tokens' same
    have hencoded := decodeArguments_encode (first :: tokens')
    have hopening := discreet _ _ hencoded same
    rw [opens _ _ hencoded] at hopening
    have hlength : (first :: tokens').length = (first :: tokens).length := by
      rw [List.length_cons, List.length_cons, ← length_shownTokens tokens', same,
        length_shownTokens]
    exact (List.cons_eq_cons.1 (Text.quotedList_injective (full _ _ hlength hopening))).2
  · intro tells arguments' tokens' h' same
    rw [opens _ _ h', tells tokens' same]

theorem exists_in_full (c : Convention) (h : value ∈ texts)
    (plain : ∀ c ∈ value.toList, Text.shownQuoted c = [c]) :
    ∃ e ∈ (runBytes c files (texts.map Utf8.encode)).events, value.toList <:+: e.text.toList := by
  have hquoted : (Text.quoted value).toList ∈ (texts.map Text.quoted).map String.toList :=
    List.mem_map_of_mem (List.mem_map_of_mem h)
  have hlist : value.toList <:+: (Text.quotedList texts).toList := by
    unfold Text.quotedList
    rw [String.toList_append, String.toList_append, String.toList_intercalate]
    exact ((infix_quoted plain).trans (infix_intercalate hquoted)).trans (List.infix_append _ _ _)
  have hafter : ∀ text : String, value.toList <:+: (text ++ Text.quotedList texts).toList := by
    intro text
    rw [String.toList_append]
    exact hlist.trans (List.suffix_append _ _).isInfix
  rw [runBytes_of_texts (decodeArguments_encode texts)]
  cases c with
  | flags => exact ⟨_, List.mem_cons_of_mem _ List.mem_cons_self, hafter _⟩
  | parametersFile => exact ⟨_, List.mem_cons_self, hafter _⟩

end MapStandin.Desktop
