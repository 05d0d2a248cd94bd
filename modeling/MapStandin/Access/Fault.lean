import MapStandin.Rejection
import MapStandin.Text.Base64
import MapStandin.Text.Utf8

/-! # Refused access

Why the credentials of a request are refused. -/

namespace MapStandin.Access

/-- Why a user name and password cannot be read. -/
inductive Malformation
  | notBase64 (f : Base64.Fault)
  | notUtf8 (f : Utf8.Fault)
  | noColon
  deriving DecidableEq, Repr

def Malformation.message : Malformation → String
  | .notBase64 f => f.message
  | .notUtf8 f => f.message
  | .noColon => "credentials are not user:password"

inductive Fault
  | missingPassword
  | malformed (m : Malformation)
  | wrongPassword
  | missingToken
  | notAToken
  | wrongToken
  deriving DecidableEq, Repr

def Fault.message : Fault → String
  | .missingPassword => "Missing or invalid Authorization header"
  | .malformed m => s!"Authentication error: {m.message}"
  | .wrongPassword => "Invalid credentials"
  | .missingToken => "Missing Authorization header"
  | .notAToken => "Invalid token format. Expected: fmetoken token=XXX"
  | .wrongToken => "Invalid API token"

def Fault.rejection (f : Fault) : Rejection := .unauthorized f.message

end MapStandin.Access
