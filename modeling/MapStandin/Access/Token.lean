import MapStandin.Access.Fault

/-! # Tokens

Access by a token, which is good if it starts as the settings say. -/

namespace MapStandin.Access

structure TokenRule where
  start : String
  deriving DecidableEq, Repr

def tokenMark : String := "fmetoken token="

def tokenHeader (token : String) : String := tokenMark ++ token

def TokenRule.verify (rule : TokenRule) (header : Option String) : Except Fault Unit :=
  match header with
  | none => .error .missingToken
  | some sent =>
    match Text.after? tokenMark sent with
    | none => .error .notAToken
    | some token => if Text.startsWith rule.start token then .ok () else .error .wrongToken

end MapStandin.Access
