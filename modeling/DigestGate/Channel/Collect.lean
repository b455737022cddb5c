import DigestGate.Channel.Basic

namespace DigestGate.Channel

def receiveParts : Nat → Channel → Except Failure (List Message) × Channel
  | 0, c => (.ok [], c)
  | count + 1, c =>
    match c.receive with
    | (.error e, c) => (.error e, c)
    | (.ok m, c) =>
      if m.isPart && m.hasMore then
        match receiveParts count c with
        | (.error e, c) => (.error e, c)
        | (.ok rest, c) => (.ok (m :: rest), c)
      else (.ok [m], c)

def receiveMany : Nat → Channel → Except Failure (List Message) × Channel
  | 0, c => (.ok [], c)
  | count + 1, c =>
    match c.receive with
    | (.error e, c) => (.error e, c)
    | (.ok m, c) =>
      match receiveMany count c with
      | (.error e, c) => (.error e, c)
      | (.ok rest, c) => (.ok (m :: rest), c)

/-- Joins the parts of the body, skipping messages of other types. -/
def receiveBodyWithin : Nat → Channel → Except Failure Bytes × Channel
  | 0, c => (.ok [], c)
  | count + 1, c =>
    match c.receive with
    | (.error e, c) => (.error e, c)
    | (.ok m, c) =>
      if m.type.isNone then (.error (.fault (.missingField "type")), c)
      else if m.isDisconnect then (.error (.fault .hungUp), c)
      else if m.isPart && !m.hasMore then (.ok m.payload, c)
      else
        match receiveBodyWithin count c with
        | (.error e, c) => (.error e, c)
        | (.ok rest, c) => (.ok ((if m.isPart then m.payload else []) ++ rest), c)

def receiveBody (c : Channel) : Except Failure Bytes × Channel :=
  receiveBodyWithin (c.supply + 1) c

end DigestGate.Channel
