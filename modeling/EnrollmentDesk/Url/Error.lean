/-!
# Why a text is no address
-/

namespace EnrollmentDesk

/-- Why a text is not an absolute address. -/
inductive UrlError where
  /-- There is no scheme, so the text could only be read relative to another address. -/
  | noScheme
  | emptyHost
  | badPort
  | badIpv4
  | badIpv6
  /-- The host is no domain name, written in any script. -/
  | badDomain
  /-- The host has a character that no host of its scheme may have. -/
  | badHostCharacter
deriving DecidableEq

/-- The wording of an error. -/
def UrlError.message : UrlError → String
  | noScheme => "relative URL without a base"
  | emptyHost => "empty host"
  | badPort => "invalid port number"
  | badIpv4 => "invalid IPv4 address"
  | badIpv6 => "invalid IPv6 address"
  | badDomain => "invalid international domain name"
  | badHostCharacter => "invalid domain character"

end EnrollmentDesk
