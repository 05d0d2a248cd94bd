import MapStandin.Access.Password
import MapStandin.Access.Token
import MapStandin.Proofs.Text.Base64
import MapStandin.Proofs.Text.Trim

/-! # Which credentials are good

A header text is good for a login if and only if it is the login in base64, blanks around it apart.
No other spelling is accepted, and a user name with a colon in it cannot be sent at all. A token is
good for how it starts. -/

namespace MapStandin.Access

theorem bind_after?_eq_some_iff {mark sent : String} {header : Option String} :
    header.bind (Text.after? mark) = some sent ↔ header = some (mark ++ sent) := by
  rw [Option.bind_eq_some_iff]
  constructor
  · rintro ⟨text, rfl, htext⟩
    rw [Text.after?_eq_some_iff.1 htext]
  · rintro rfl
    exact ⟨mark ++ sent, rfl, Text.after?_eq_some_iff.2 rfl⟩

/-! ## Logins -/

namespace Login

variable {l : Login} {sent : String}

theorem ofPlain?_eq_some_iff {s : String} :
    ofPlain? s = some l ↔ ':' ∉ l.username.toList ∧ s = l.plain := by
  unfold ofPlain? plain
  constructor
  · intro h
    obtain ⟨⟨user, word⟩, hsplit, rfl⟩ := Option.map_eq_some_iff.1 h
    obtain ⟨hs, hcolon⟩ := Text.splitFirst_eq_some hsplit
    refine ⟨by simpa using hcolon, String.toList_injective ?_⟩
    simpa using hs
  · rintro ⟨hcolon, rfl⟩
    have hlist : (l.username ++ ":" ++ l.password).toList =
        l.username.toList ++ ':' :: l.password.toList := by simp
    rw [hlist, Text.splitFirst_append hcolon]
    simp

/-- The text sends a login: it is the base64 form of the user name and the password, and the user
name ends at the first colon. -/
def SentBy (l : Login) (sent : String) : Prop :=
  ':' ∉ l.username.toList ∧ Text.trim sent = Base64.encodeText (Utf8.encode l.plain)

theorem read_eq_ok_iff : read sent = .ok l ↔ l.SentBy sent := by
  unfold read SentBy
  constructor
  · intro h
    cases hbytes : Base64.decode (Utf8.encode (Text.trim sent)) with
    | error f => simp [hbytes, Except.mapError, bind, Except.bind] at h
    | ok bytes =>
      cases hplain : Utf8.decode bytes with
      | error f => simp [hbytes, hplain, Except.mapError, bind, Except.bind] at h
      | ok plain =>
        simp only [hbytes, hplain, Except.mapError, bind, Except.bind] at h
        cases hlogin : ofPlain? plain with
        | none => simp [hlogin, throw, throwThe, MonadExceptOf.throw] at h
        | some given =>
          rw [hlogin] at h
          obtain rfl := Except.ok.inj h
          obtain ⟨hcolon, rfl⟩ := ofPlain?_eq_some_iff.1 hlogin
          obtain rfl := Utf8.decode_eq_ok_iff.1 hplain
          refine ⟨hcolon, Utf8.encode_injective ?_⟩
          rw [Base64.encode_encodeText]
          exact Base64.decode_eq_ok_iff.1 hbytes
  · rintro ⟨hcolon, htrim⟩
    rw [htrim, Base64.encode_encodeText, Base64.decode_eq_ok_iff.2 rfl]
    simp only [Except.mapError, bind, Except.bind, Utf8.decode_eq_ok_iff.2 rfl,
      ofPlain?_eq_some_iff.2 ⟨hcolon, rfl⟩]
    rfl

theorem check_eq_ok_iff : l.check sent = .ok () ↔ l.SentBy sent := by
  rw [← read_eq_ok_iff]
  unfold check
  cases read sent with
  | error m => simp [Except.mapError, bind, Except.bind]
  | ok given =>
    by_cases hgiven : given = l
    · simp [Except.mapError, bind, Except.bind, hgiven, pure, Except.pure]
    · simp [Except.mapError, bind, Except.bind, hgiven, throw, throwThe, MonadExceptOf.throw]

theorem verify_eq_ok_iff {header : Option String} :
    l.verify header = .ok () ↔ ∃ sent, header = some ("Basic " ++ sent) ∧ l.SentBy sent := by
  have hmark : ∀ {sent}, header.bind (Text.after? loginMark) = some sent ↔
      header = some ("Basic " ++ sent) := bind_after?_eq_some_iff
  unfold verify
  cases hheader : header.bind (Text.after? loginMark) with
  | none =>
    refine ⟨nofun, fun ⟨sent, hsent, _⟩ => ?_⟩
    rw [hmark.2 hsent] at hheader
    cases hheader
  | some sent =>
    rw [check_eq_ok_iff]
    constructor
    · intro h
      exact ⟨sent, hmark.1 hheader, h⟩
    · rintro ⟨sent', hsent', h⟩
      rw [hmark.2 hsent'] at hheader
      rwa [← Option.some.inj hheader]

theorem verifyIfSent_eq_ok_iff {header : Option String} :
    l.verifyIfSent header = .ok () ↔ ∀ sent, header = some ("Basic " ++ sent) → l.SentBy sent := by
  have hmark : ∀ {sent}, header.bind (Text.after? loginMark) = some sent ↔
      header = some ("Basic " ++ sent) := bind_after?_eq_some_iff
  unfold verifyIfSent
  cases hheader : header.bind (Text.after? loginMark) with
  | none =>
    refine ⟨fun _ sent hsent => ?_, fun _ => rfl⟩
    rw [hmark.2 hsent] at hheader
    cases hheader
  | some sent =>
    rw [check_eq_ok_iff]
    constructor
    · intro h sent' hsent'
      rw [hmark.2 hsent'] at hheader
      rwa [Option.some.inj hheader]
    · intro h
      exact h sent (hmark.1 hheader)

/-! ### Header texts -/

theorem isBlank_of_mem_encodeText {bytes : List UInt8} :
    ∀ c ∈ (Base64.encodeText bytes).toList, Text.isBlank c = false := by
  intro c hc
  obtain ⟨least, most⟩ := Base64.toNat_of_mem_encodeText hc
  exact Text.isBlank_of_visible least most

theorem sentBy_iff :
    l.SentBy sent ↔ ':' ∉ l.username.toList ∧
      ∃ before after : String, Text.AllBlank before.toList ∧ Text.AllBlank after.toList ∧
        sent = before ++ Base64.encodeText (Utf8.encode l.plain) ++ after := by
  unfold SentBy
  rw [Text.trim_eq_iff isBlank_of_mem_encodeText]

theorem sentBy_encodeText {l' : Login} :
    l.SentBy (Base64.encodeText (Utf8.encode l'.plain)) ↔
      ':' ∉ l.username.toList ∧ l'.plain = l.plain := by
  unfold SentBy
  rw [Text.trim_eq_self isBlank_of_mem_encodeText]
  constructor
  · rintro ⟨hcolon, htext⟩
    exact ⟨hcolon, Utf8.encode_injective (Base64.encodeText_injective htext)⟩
  · rintro ⟨hcolon, hplain⟩
    exact ⟨hcolon, by rw [hplain]⟩

theorem verify_some_iff {h : String} :
    l.verify (some h) = .ok () ↔ ∃ sent, h = "Basic " ++ sent ∧ l.SentBy sent := by
  rw [verify_eq_ok_iff]
  simp only [Option.some.injEq]

theorem verify_header_iff {l' : Login} :
    l.verify (some l'.header) = .ok () ↔
      ':' ∉ l.username.toList ∧ l'.plain = l.plain := by
  rw [verify_some_iff, ← sentBy_encodeText]
  unfold header loginMark
  constructor
  · rintro ⟨sent, heq, hsent⟩
    have hlist := congrArg String.toList heq
    rw [String.toList_append, String.toList_append] at hlist
    rwa [String.toList_injective (List.append_cancel_left hlist)]
  · intro hsent
    exact ⟨_, rfl, hsent⟩

theorem verifyIfSent_some (l : Login) (h : String) :
    l.verifyIfSent (some h) =
      if "Basic ".toList <+: h.toList then l.verify (some h) else .ok () := by
  split
  · rename_i hstart
    obtain ⟨sent, hsent⟩ := Option.isSome_iff_exists.1 (Text.afterList_isSome_iff.2 hstart)
    have hmark : (some h).bind (Text.after? loginMark) = some (String.ofList sent) := by
      rw [Option.bind_some, Text.after?, loginMark, hsent]
      rfl
    exact verifyIfSent_of_sent hmark
  · rename_i hstart
    rw [verifyIfSent_eq_ok_iff]
    rintro sent hsent
    rw [Option.some.inj hsent, String.toList_append] at hstart
    exact absurd (List.prefix_append _ _) hstart

structure VerifyPost (l : Login) : Prop where
  accepted : ∀ h, l.verify (some h) = .ok () ↔
    ':' ∉ l.username.toList ∧
      ∃ before after : String, Text.AllBlank before.toList ∧ Text.AllBlank after.toList ∧
        h = "Basic " ++ before ++
          Base64.encodeText (Utf8.encode (l.username ++ ":" ++ l.password)) ++ after
  /-- The header of a login is accepted for its text, not for where its user name ends. -/
  header : ∀ l' : Login, l.verify (some l'.header) = .ok () ↔
    ':' ∉ l.username.toList ∧
      l'.username ++ ":" ++ l'.password = l.username ++ ":" ++ l.password
  anyPassword : ':' ∉ l.username.toList → l.verify (some l.header) = .ok ()
  locked : ':' ∈ l.username.toList → ∀ header, l.verify header ≠ .ok ()
  optional : ∀ h, l.verifyIfSent (some h) =
    if "Basic ".toList <+: h.toList then l.verify (some h) else .ok ()

/-- A login accepts its own text in base64, with blanks around it, and no other text; one whose user
name has a colon accepts none. -/
theorem verify_spec (l : Login) : VerifyPost l where
  accepted h := by
    rw [verify_some_iff]
    simp only [sentBy_iff]
    constructor
    · rintro ⟨_, rfl, hcolon, before, after, hbefore, hafter, rfl⟩
      exact ⟨hcolon, before, after, hbefore, hafter, by simp only [plain, String.append_assoc]⟩
    · rintro ⟨hcolon, before, after, hbefore, hafter, rfl⟩
      exact ⟨_, by simp only [plain, String.append_assoc], hcolon, before, after, hbefore, hafter,
        rfl⟩
  header l' := verify_header_iff
  anyPassword hcolon := verify_header_iff.2 ⟨hcolon, rfl⟩
  locked hcolon header hok := by
    obtain ⟨sent, -, hnone, -⟩ := verify_eq_ok_iff.1 hok
    exact hnone hcolon
  optional h := verifyIfSent_some l h

end Login

/-! ## Tokens -/

theorem TokenRule.verify_eq_ok_iff {rule : TokenRule} {header : Option String} :
    rule.verify header = .ok () ↔
      ∃ token, header = some ("fmetoken token=" ++ token) ∧ rule.start.toList <+: token.toList := by
  have hmark : ∀ {token}, header.bind (Text.after? tokenMark) = some token ↔
      header = some ("fmetoken token=" ++ token) := bind_after?_eq_some_iff
  cases header with
  | none => simp [verify]
  | some sent =>
    simp only [verify]
    cases htoken : Text.after? tokenMark sent with
    | none =>
      refine ⟨nofun, fun ⟨token, hsent, _⟩ => ?_⟩
      have hafter := hmark.2 hsent
      rw [Option.bind_some, htoken] at hafter
      cases hafter
    | some token =>
      simp only [← hmark, Option.bind_some, htoken, Option.some.injEq, ← Text.startsWith_iff]
      split
      · rename_i hstart
        exact ⟨fun _ => ⟨token, rfl, hstart⟩, fun _ => rfl⟩
      · rename_i hstart
        refine ⟨nofun, ?_⟩
        rintro ⟨_, rfl, h⟩
        exact absurd h hstart

end MapStandin.Access
