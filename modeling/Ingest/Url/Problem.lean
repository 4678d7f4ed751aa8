/-!
# Why a text is not a URL
-/

namespace Ingest.Url

/-- The causes for which a text is refused as a URL. -/
inductive Problem where
  | relative
  | emptyHost
  | badPort
  | badIpv4
  | badIpv6
  | badHostCharacter
  | badDomain
  deriving DecidableEq, Repr

def Problem.message : Problem → String
  | .relative => "relative URL without a base"
  | .emptyHost => "empty host"
  | .badPort => "invalid port number"
  | .badIpv4 => "invalid IPv4 address"
  | .badIpv6 => "invalid IPv6 address"
  | .badHostCharacter => "invalid domain character"
  | .badDomain => "invalid international domain name"

end Ingest.Url
