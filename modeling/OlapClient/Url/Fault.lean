/-!
# Why a text is no URL

The reasons for which a text is refused as a URL, and their wording.
-/

namespace OlapClient

/-- Why a text is no URL. -/
inductive UrlFault where
  | emptyHost
  | invalidDomainName
  | invalidPort
  | invalidIpv4
  | invalidIpv6
  | invalidDomainCharacter
  | noScheme
  deriving DecidableEq, Repr

/-- The reason in words. -/
def UrlFault.message : UrlFault → String
  | .emptyHost => "empty host"
  | .invalidDomainName => "invalid international domain name"
  | .invalidPort => "invalid port number"
  | .invalidIpv4 => "invalid IPv4 address"
  | .invalidIpv6 => "invalid IPv6 address"
  | .invalidDomainCharacter => "invalid domain character"
  | .noScheme => "relative URL without a base"

end OlapClient
