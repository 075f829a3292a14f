/-!
# Why a text is not a URL
-/

namespace LiveSession.Url

inductive Fault where
  | emptyHost
  | internationalName
  | hostCharacter
  | port
  | ipv4
  | ipv6
  | noBase
  | baseWithoutHierarchy
  deriving DecidableEq, Repr

def Fault.message : Fault → String
  | .emptyHost => "empty host"
  | .internationalName => "invalid international domain name"
  | .hostCharacter => "invalid domain character"
  | .port => "invalid port number"
  | .ipv4 => "invalid IPv4 address"
  | .ipv6 => "invalid IPv6 address"
  | .noBase => "relative URL without a base"
  | .baseWithoutHierarchy => "relative URL with a cannot-be-a-base base"

end LiveSession.Url
