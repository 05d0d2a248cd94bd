/-! # Faults of addresses

Why a text is no address of a resource. -/

namespace MapStandin.Url

inductive Fault
  | noBase
  | baseWithoutPath
  | emptyHost
  | invalidDomain
  | forbiddenHostChar
  | invalidPort
  | invalidV4
  | invalidV6
  deriving DecidableEq, Repr

def Fault.message : Fault → String
  | .noBase => "relative URL without a base"
  | .baseWithoutPath => "relative URL with a cannot-be-a-base base"
  | .emptyHost => "empty host"
  | .invalidDomain => "invalid international domain name"
  | .forbiddenHostChar => "invalid domain character"
  | .invalidPort => "invalid port number"
  | .invalidV4 => "invalid IPv4 address"
  | .invalidV6 => "invalid IPv6 address"

end MapStandin.Url
