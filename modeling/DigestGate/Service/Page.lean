import DigestGate.Http.Scope

namespace DigestGate

inductive Page where
  | health
  | metrics
  | echo
deriving DecidableEq, Repr

namespace Page

def all : List Page := [.health, .metrics, .echo]

def path : Page → String
  | .health => "/__health"
  | .metrics => "/__metrics"
  | .echo => "/digest/echo"

def method : Page → String
  | .health => "GET"
  | .metrics => "GET"
  | .echo => "POST"

/-- Generated pages, which only matter for redirects. -/
def generatedPaths : List String := ["/openapi.json", "/docs", "/docs/oauth2-redirect", "/redoc"]

/-- A path may end in a line feed. -/
def leadsTo (path page : List Char) : Bool :=
  path = page || path = page ++ ['\n']

def ofPath? (sought : List Char) : Option Page :=
  all.find? fun p => leadsTo sought p.path.toList

def isPath (sought : List Char) : Bool :=
  (all.map path ++ generatedPaths).any fun page => leadsTo sought page.toList

def otherSlash (sought path : List Char) : List Char :=
  if sought.getLast? = some '/' then (path.reverse.dropWhile (· == '/')).reverse else path ++ ['/']

end Page

end DigestGate
