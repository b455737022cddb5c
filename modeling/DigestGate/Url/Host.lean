import DigestGate.Text.Ranges
import DigestGate.Url.Address
import DigestGate.Url.Error

namespace DigestGate.Url

/-- Characters whose normal form contains one of `/`, `?`, `#`, `@` and `:`. -/
def delimiterForms : List (Nat × Nat) := [
  (0x2047, 0x2049), (0x2100, 0x2101), (0x2105, 0x2106), (0x2A74, 0x2A74), (0xFE13, 0xFE13),
  (0xFE16, 0xFE16), (0xFE55, 0xFE56), (0xFE5F, 0xFE5F), (0xFE6B, 0xFE6B), (0xFF03, 0xFF03),
  (0xFF0F, 0xFF0F), (0xFF1A, 0xFF1A), (0xFF1F, 0xFF20)]

def checkBracketed (cs : List Char) : Except UrlError Unit :=
  if cs.head? = some 'v' then
    if isFutureAddress cs then .ok () else .error .futureAddress
  else if isIPv4 cs then .error .bracketedIPv4
  else if isIPv6 cs then .ok ()
  else .error (.notAnAddress (String.ofList cs))

def withoutUser (host : List Char) : List Char :=
  (host.reverse.takeWhile (· != '@')).reverse

/-- Nothing but a port may stand outside the brackets of a host. -/
def checkBrackets (host : List Char) : Except UrlError Unit :=
  match Text.cut '[' (withoutUser host) with
  | none => checkBracketed ((withoutUser host).takeWhile (· != ':'))
  | some (before, inside) =>
    let after := (inside.dropWhile (· != ']')).drop 1
    if before.isEmpty && (after.isEmpty || after.head? = some ':') then
      checkBracketed (inside.takeWhile (· != ']'))
    else .error .misplacedBrackets

def checkHost (host : List Char) : Except UrlError Unit :=
  match brackets host with
  | .error e => .error e
  | .ok () =>
    if host.any (Text.within delimiterForms) then .error (.hiddenDelimiter (String.ofList host))
    else .ok ()
where
  brackets (host : List Char) : Except UrlError Unit :=
    match host.contains '[', host.contains ']' with
    | false, false => .ok ()
    | true, true => checkBrackets host
    | _, _ => .error .misplacedBrackets

def isNameChar (c : Char) : Bool :=
  c.isAlphanum || c ∈ "-._~!$&'()*+,;=".toList

def isFutureLiteral : List Char → Bool
  | 'v' :: rest =>
    !(rest.takeWhile isHexDigit).isEmpty
      && match rest.dropWhile isHexDigit with
        | '.' :: c :: cs => (c :: cs).all fun c => isNameChar c || c = ':'
        | _ => false
  | _ => false

def maxPort : Nat := 65535

def isPort (cs : List Char) : Bool :=
  !cs.isEmpty && cs.all Char.isDigit && Text.number cs ≤ maxPort

def isPortSuffix : List Char → Bool
  | [] => true
  | ':' :: port => isPort port
  | _ => false

/-- A host that a client may name, with or without a port. -/
def isHostField : List Char → Bool
  | '[' :: rest =>
    let address := rest.takeWhile (· != ']')
    (isUnscopedIPv6 address || isFutureLiteral address)
      && match rest.dropWhile (· != ']') with
        | _ :: suffix => isPortSuffix suffix
        | [] => false
  | cs =>
    let name := cs.takeWhile (· != ':')
    !name.isEmpty && name.all (fun c => isNameChar c || c = '%')
      && isPortSuffix (cs.dropWhile (· != ':'))

end DigestGate.Url
