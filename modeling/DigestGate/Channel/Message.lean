import DigestGate.Bytes
import DigestGate.Datum

namespace DigestGate

/-- A message from the server. Every field may be absent. -/
structure Message where
  type : Option Datum := none
  body : Option Bytes := none
  moreBody : Option Datum := none
  others : List (String × Datum) := []
deriving DecidableEq, Repr

namespace Message

def disconnect : Message :=
  { type := some (.text "http.disconnect") }

def part (body : Bytes) (more : Bool) : Message :=
  { type := some (.text "http.request"), body := some body, moreBody := some (.flag more) }

def isDisconnect (m : Message) : Bool :=
  m.type == some (.text "http.disconnect")

def isPart (m : Message) : Bool :=
  m.type == some (.text "http.request")

def payload (m : Message) : Bytes :=
  m.body.getD []

def hasMore (m : Message) : Bool :=
  (m.moreBody.map Datum.holds).getD false

end Message

end DigestGate
