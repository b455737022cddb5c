import DigestGate.Bytes

namespace DigestGate.Url

def escapePath (c : Char) : List Char :=
  if c = '?' then ['%', '3', 'F']
  else if c = '#' then ['%', '2', '3']
  else if c = '\\' then ['%', '5', 'C']
  else [c]

/-- A path without a host. A second slash at its start is escaped. -/
def hostless : List Char → List Char
  | '/' :: '/' :: rest => '/' :: '%' :: '2' :: 'F' :: rest
  | path => path

def withQuery (query address : List Char) : List Char :=
  if query.isEmpty then address else address ++ '?' :: query

def withHost (scheme host path : List Char) : List Char :=
  if host.isEmpty && (scheme.isEmpty || path.take 2 = ['/', '/']) then path
  else
    '/' :: '/' :: host ++ (if path.isEmpty || path.head? = some '/' then path else '/' :: path)

def compose (scheme host path query : List Char) : List Char :=
  let address := withHost scheme host path
  withQuery query (if scheme.isEmpty then address else scheme ++ ':' :: address)

def isLinkChar (c : Char) : Bool :=
  c.isAlphanum || c ∈ "_.-~:/%#?=@[]!$&'()*+,;".toList

def percent (b : UInt8) : List Char :=
  '%' :: (Text.hexDigits 2 b.toNat).map Char.toUpper

def link (url : List Char) : String :=
  String.ofList (url.flatMap fun c =>
    if isLinkChar c then [c] else (Bytes.ofString (String.singleton c)).flatMap percent)

end DigestGate.Url
