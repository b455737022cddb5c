import DigestGate.Url.Host

namespace DigestGate.Url

def isSchemeChar (c : Char) : Bool :=
  c.isAlphanum || c = '+' || c = '-' || c = '.'

def dropScheme (url : List Char) : List Char :=
  match Text.cut ':' url with
  | some (c :: scheme, rest) => if c.isAlpha && scheme.all isSchemeChar then rest else url
  | _ => url

def endsHost (c : Char) : Bool :=
  c = '/' || c = '?' || c = '#'

def beforeQuery (cs : List Char) : List Char :=
  cs.takeWhile fun c => c != '?' && c != '#'

/-- The address without leading controls and blanks, and without tabs and line ends. -/
def cleaned (url : List Char) : List Char :=
  (url.dropWhile fun c => c.toNat ≤ 0x20).filter fun c => c != '\t' && c != '\r' && c != '\n'

def path (url : List Char) : Except UrlError (List Char) :=
  match dropScheme (cleaned url) with
  | '/' :: '/' :: rest =>
    match checkHost (rest.takeWhile fun c => !endsHost c) with
    | .error e => .error e
    | .ok () => .ok (beforeQuery (rest.dropWhile fun c => !endsHost c))
  | url => .ok (beforeQuery url)

end DigestGate.Url
