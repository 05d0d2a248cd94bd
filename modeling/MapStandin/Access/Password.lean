import MapStandin.Access.Fault
import MapStandin.Text.Fields

/-! # User names and passwords

Access by a user name and a password, sent in base64 with a colon between them. -/

namespace MapStandin.Access

structure Login where
  username : String
  password : String
  deriving DecidableEq, Repr

def loginMark : String := "Basic "

namespace Login

/-- The text whose base64 form is sent. -/
def plain (l : Login) : String := l.username ++ ":" ++ l.password

/-- The login that a plain text holds: the user name ends at the first colon. -/
def ofPlain? (s : String) : Option Login :=
  (Text.splitFirst ':' s.toList).map fun (user, word) =>
    ⟨String.ofList user, String.ofList word⟩

def header (l : Login) : String :=
  loginMark ++ Base64.encodeText (Utf8.encode l.plain)

/-- The login in a header text, after its mark. -/
def read (sent : String) : Except Malformation Login := do
  let bytes ← (Base64.decode (Utf8.encode (Text.trim sent))).mapError .notBase64
  let plain ← (Utf8.decode bytes).mapError .notUtf8
  match ofPlain? plain with
  | some l => return l
  | none => throw .noColon

def check (l : Login) (sent : String) : Except Fault Unit := do
  let given ← (read sent).mapError .malformed
  if given = l then return () else throw .wrongPassword

def verify (l : Login) (header : Option String) : Except Fault Unit :=
  match header.bind (Text.after? loginMark) with
  | some sent => l.check sent
  | none => .error .missingPassword

/-- Access that is open to all who send no login at all. -/
def verifyIfSent (l : Login) (header : Option String) : Except Fault Unit :=
  match header.bind (Text.after? loginMark) with
  | some sent => l.check sent
  | none => .ok ()

theorem verifyIfSent_of_sent {l : Login} {header : Option String} {sent : String}
    (h : header.bind (Text.after? loginMark) = some sent) :
    l.verifyIfSent header = l.verify header := by
  simp [verifyIfSent, verify, h]

end Login

end MapStandin.Access
