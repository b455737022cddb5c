import DigestGate.Http.Json

namespace DigestGate

structure Response where
  status : Nat
  contentType : Option String
  body : String
  allow : Option String := none
  location : Option String := none
deriving DecidableEq, Repr

namespace Response

def json (status : Nat) (document : Datum) : Response :=
  { status, contentType := some "application/json", body := document.toJson }

def lines (r : Response) : List (String × String) :=
  (r.allow.map fun methods => ("allow", methods)).toList
    ++ ("content-length", toString r.body.utf8ByteSize)
    :: (r.contentType.map fun type => ("content-type", type)).toList
    ++ (r.location.map fun place => ("location", place)).toList

end Response

end DigestGate
