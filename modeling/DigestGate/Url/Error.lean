import DigestGate.Text.Quoted

namespace DigestGate

inductive UrlError where
  | misplacedBrackets
  | futureAddress
  | notAnAddress (host : String)
  | bracketedIPv4
  /-- The normal form of a character of the host contains a delimiter. -/
  | hiddenDelimiter (host : String)
deriving DecidableEq, Repr

def UrlError.message : UrlError → String
  | .misplacedBrackets => "Invalid IPv6 URL"
  | .futureAddress => "IPvFuture address is invalid"
  | .notAnAddress host => Text.quoted host ++ " does not appear to be an IPv4 or IPv6 address"
  | .bracketedIPv4 => "An IPv4 address cannot be in brackets"
  | .hiddenDelimiter host =>
    "netloc '" ++ host ++ "' contains invalid characters under NFKC normalization"

end DigestGate
