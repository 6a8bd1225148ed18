/-! What can be wrong with an address. -/

namespace CaretSql.Url

inductive Error
  | noScheme
  | emptyHost
  | badPort
  | badIpv4
  | badIpv6
  | badHostChar
  | badDomain
deriving DecidableEq, Repr

namespace Error

def message : Error → String
  | .noScheme => "relative URL without a base"
  | .emptyHost => "empty host"
  | .badPort => "invalid port number"
  | .badIpv4 => "invalid IPv4 address"
  | .badIpv6 => "invalid IPv6 address"
  | .badHostChar => "invalid domain character"
  | .badDomain => "invalid international domain name"

end Error

end CaretSql.Url
