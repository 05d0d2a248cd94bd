import Mathlib.Algebra.Group.Nat.Even
import Mathlib.Data.List.Induction
import MapStandin.Proofs.Desktop.Log
import MapStandin.Proofs.Parameter.Mapping

/-! # Arguments that are no texts

The first argument that is not UTF-8 ends a desktop run. It is refused by what stands before it,
which its own place asks for, unless a flag should stand there and the text before looks like
one. -/

namespace MapStandin.Desktop

open Parameter

/-! ## Places of arguments -/

/-- What an argument stands for. -/
inductive Role
  | workspace
  | flag
  | text (flag : String)
  deriving DecidableEq, Repr

/-- What the argument after the arguments `before` stands for. The first is the workspace, and the
others fill the places that flags are read from. -/
def roleAfter : List String → Role
  | [] => .workspace
  | _ :: tokens =>
    match (places tokens).getLast? with
    | some ⟨token, none⟩ => .text token
    | _ => .flag

/-- How an argument that is not UTF-8, shown as `shown`, is to be refused for what it stands for. -/
def Role.rejection (shown : String) : Role → Rejection
  | .workspace => .invalidWorkspace shown
  | .flag => .positionalArgument shown
  | .text token =>
    match flagName? token with
    | some name => .invalidValue name s!"Value for parameter {name} is not valid UTF-8: {shown}"
    | none => .positionalArgument shown

theorem text_of_mem_places {tokens : List String} (even : Even tokens.length) :
    ∀ p ∈ places tokens, p.text ≠ none := by
  fun_induction places tokens with
  | case1 => simp
  | case2 token => simp at even
  | case3 token text rest ih =>
    have hrest : Even rest.length := by
      rw [List.length_cons, List.length_cons] at even
      grind
    intro p hp
    rcases List.mem_cons.1 hp with rfl | hp
    · simp
    · exact ih hrest p hp

theorem places_concat {tokens : List String} (even : Even tokens.length) (token : String) :
    places (tokens ++ [token]) = places tokens ++ [⟨token, none⟩] := by
  fun_induction places tokens with
  | case1 => rfl
  | case2 token => simp at even
  | case3 first text rest ih =>
    have hrest : Even rest.length := by
      rw [List.length_cons, List.length_cons] at even
      grind
    rw [List.cons_append, List.cons_append, places, ih hrest, List.cons_append]

variable {before : List String} {shown : String}

theorem roleAfter_of_odd (odd : Odd before.length) : roleAfter before = .flag := by
  cases before with
  | nil => simp at odd
  | cons first tokens =>
    have heven : Even tokens.length := by
      rw [List.length_cons] at odd
      grind
    rw [roleAfter]
    split
    · rename_i token hlast
      exact absurd rfl (text_of_mem_places heven _ (List.mem_of_getLast? hlast))
    · rfl

theorem roleAfter_concat (odd : Odd before.length) (token : String) :
    roleAfter (before ++ [token]) = .text token := by
  cases before with
  | nil => simp at odd
  | cons first tokens =>
    have heven : Even tokens.length := by
      rw [List.length_cons] at odd
      grind
    rw [List.cons_append, roleAfter, places_concat heven, List.getLast?_concat]

/-! ## Rejections -/

theorem rejection_flag (name shown : String) :
    (Role.text (flag name)).rejection shown =
      .invalidValue name s!"Value for parameter {name} is not valid UTF-8: {shown}" := by
  simp only [Role.rejection, flagName?_flag]

theorem rejection_of_no_flag {token : String} (h : flagName? token = none) :
    (Role.text token).rejection shown = .positionalArgument shown := by
  simp only [Role.rejection, h]

/-- An argument after at least two others is refused as if it were the text of the one before. -/
theorem notUtf8_concat (earlier : List String) (token shown : String) :
    notUtf8 (earlier ++ [token]).reverse shown =
      if earlier = [] then .positionalArgument shown else (Role.text token).rejection shown := by
  rw [List.reverse_append, List.reverse_singleton, List.singleton_append]
  cases earlier using List.reverseRecOn with
  | nil => rfl
  | append_singleton first previous =>
    rw [if_neg (by simp), List.reverse_append, List.reverse_singleton, List.singleton_append]
    cases hname : flagName? token <;> simp [notUtf8, Role.rejection, hname]

/-- A flag should come after the arguments `before`, and the last of them, which is the text of a
flag, looks like a flag itself. -/
def Misled (before : List String) : Prop :=
  Odd before.length ∧ ∃ earlier name, earlier ≠ [] ∧ before = earlier ++ [flag name]

/-- How an argument after the arguments `before` is refused, shown as `shown`. -/
structure UndecodedPost (before : List String) (shown : String) (r : Rejection) : Prop where
  /-- What the argument stands for goes by the number of arguments before it. -/
  role : (before.length = 0 → roleAfter before = .workspace) ∧
    (Odd before.length → roleAfter before = .flag) ∧
    ∀ earlier token, before = earlier ++ [token] → Even before.length →
      roleAfter before = .text token
  placed : ¬ Misled before → r = (roleAfter before).rejection shown
  misled : ∀ earlier name, before = earlier ++ [flag name] → Misled before →
    r = .invalidValue name s!"Value for parameter {name} is not valid UTF-8: {shown}"

theorem notUtf8_spec (before : List String) (shown : String) :
    UndecodedPost before shown (notUtf8 before.reverse shown) := by
  cases before using List.reverseRecOn with
  | nil => exact ⟨by simp [roleAfter], fun _ => rfl, by simp⟩
  | append_singleton earlier token =>
    have hlength : (earlier ++ [token]).length = earlier.length + 1 := by simp
    rw [notUtf8_concat]
    refine ⟨⟨by simp, roleAfter_of_odd, ?_⟩, ?_, ?_⟩
    · intro earlier' token' h even
      obtain ⟨rfl, rfl⟩ := List.append_singleton_inj.1 h
      exact roleAfter_concat (by grind) token
    · intro misled
      rcases Nat.even_or_odd earlier.length with heven | hodd
      · rw [roleAfter_of_odd (by grind)]
        split
        · rfl
        · rename_i hsome
          apply rejection_of_no_flag
          -- A name here would make the place of a flag look like that of a text.
          rw [Option.eq_none_iff_forall_ne_some]
          intro name hname
          obtain rfl := Text.after?_eq_some_iff.1 hname
          exact misled ⟨by grind, earlier, name, hsome, rfl⟩
      · rw [roleAfter_concat hodd, if_neg]
        rintro rfl
        simp at hodd
    · rintro earlier' name h ⟨-, earlier'', name'', hsome, h''⟩
      obtain ⟨rfl, rfl⟩ := List.append_singleton_inj.1 h
      obtain ⟨rfl, -⟩ := List.append_singleton_inj.1 h''
      rw [if_neg hsome, rejection_flag]

/-! ## The first argument that is no text -/

/-- A byte string that is not UTF-8. -/
def NotText (bytes : List UInt8) : Prop := ∀ s, bytes ≠ Utf8.encode s

theorem notText_iff {bytes : List UInt8} : NotText bytes ↔ Utf8.decode? bytes = none := by
  rw [Option.eq_none_iff_forall_ne_some]
  exact forall_congr' fun s => not_congr Utf8.decode?_eq_some_iff.symm

theorem decodeArguments_undecoded (before : List String) {bytes : List UInt8}
    (rest : List (List UInt8)) (undecoded : NotText bytes) :
    ∃ r, decodeArguments (before.map Utf8.encode ++ bytes :: rest) = .error r ∧
      UndecodedPost before (Utf8.decodeLossy bytes) r := by
  refine ⟨_, ?_, notUtf8_spec before (Utf8.decodeLossy bytes)⟩
  rw [decodeArguments, decodeAfter_encode, List.append_nil, decodeAfter, notText_iff.1 undecoded]

theorem decodeArguments_undecoded_folder :
    NotText [0x63, 0x61, 0x66, 0xE9] ∧
      ∃ r, decodeArguments (["job.fmw", "--FolderOut"].map Utf8.encode ++
          [0x63, 0x61, 0x66, 0xE9] :: []) = .error r ∧
        UndecodedPost ["job.fmw", "--FolderOut"] (Utf8.decodeLossy [0x63, 0x61, 0x66, 0xE9]) r := by
  have hbytes : NotText [0x63, 0x61, 0x66, 0xE9] := notText_iff.2 (by decide)
  exact ⟨hbytes, decodeArguments_undecoded _ _ hbytes⟩

/-- Where a flag should stand, behind a text that looks like one, an argument is taken for the text
of a flag. -/
theorem decodeArguments_misled :
    roleAfter ["job.fmw", "--OrderLabel", "--x"] = .flag ∧
      decodeArguments (["job.fmw", "--OrderLabel", "--x"].map Utf8.encode ++ [0xFF] :: []) =
        .error (.invalidValue "x" "Value for parameter x is not valid UTF-8: \uFFFD") ∧
      (runBytes .flags .empty
        (["job.fmw", "--OrderLabel", "--x"].map Utf8.encode ++ [0xFF] :: [])).status =
        ⟨40, some "Value for parameter x is not valid UTF-8: \uFFFD"⟩ := by
  decide +kernel

end MapStandin.Desktop
