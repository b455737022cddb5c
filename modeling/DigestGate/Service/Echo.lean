import DigestGate.Gate

namespace DigestGate

/-- Failures of a service. Behind the gate they are reported by a group of tasks. -/
inductive ServiceFailure where
  | failure (cause : Failure)
  | group (interrupted : Bool)
deriving DecidableEq, Repr

def ServiceFailure.message : ServiceFailure → String
  | .failure cause => cause.message
  | .group _ => "unhandled errors in a TaskGroup (1 sub-exception)"

def ServiceFailure.behindGate : Failure → ServiceFailure
  | .fault .hungUp => .failure (.fault .hungUp)
  | .interrupted _ => .group true
  | _ => .group false

namespace Service

def health : Response :=
  .json 200 (.record [("status", .text "ok")])

def notFound : Response :=
  .json 404 (.record [("detail", .text "Not Found")])

def notAllowed (methods : String) : Response :=
  { Response.json 405 (.record [("detail", .text "Method Not Allowed")]) with
    allow := some methods }

def showCheck (c : Check) : Datum :=
  .record [
    ("present", .flag c.present),
    ("verified", .flag c.verified),
    ("algorithms", .list (c.algorithms.map fun a => .text a.name)),
    ("headers", .list (c.fields.map fun f => .text f.name)),
    ("failure_reason", match c.reason with
      | some r => .text r.label
      | none => .null)]

def echoOf (length : Nat) (digests : List (Algorithm × Option Bytes)) (check : Check) : Response :=
  .json 200 (.record [
    ("length", .number length),
    ("digests", .record (digests.map fun (a, digest) =>
      (a.name, match digest with
        | some d => .text d.toHex
        | none => .null))),
    ("check", showCheck check)])

def digestsOf (body : Bytes) : List (Algorithm × Option Bytes) :=
  Algorithm.all.map fun a => (a, if body.isEmpty then none else some (a.compute body))

def digestsOfContent : List Algorithm → Solo Reader →
    Except Failure (List (Algorithm × Option Bytes)) × Solo Reader
  | [], content => (.ok [], content)
  | a :: rest, content =>
    match Solo.host.digest a content with
    | (.error e, content) => (.error e, content)
    | (.ok digest, content) =>
      match digestsOfContent rest content with
      | (.error e, content) => (.error e, content)
      | (.ok digests, content) => (.ok ((a, digest) :: digests), content)

def redirect (url : List Char) : Response :=
  { status := 307, contentType := none, body := "", location := some (Url.link url) }

abbrev Answer := Except ServiceFailure Response × List Log.Entry × Channel

def refuse (e : Fault) (channel : Channel) : Answer :=
  (.error (.failure (.fault e)), [], channel)

def echo (gated : Bool) (clearance : Clearance) (channel : Channel) : Answer :=
  match channel.receiveBody with
  | (.error e, channel) =>
    (.error (if gated then .behindGate e else .failure e), [], channel)
  | (.ok body, channel) =>
    match clearance with
    | .unexamined => (.ok (echoOf body.length (digestsOf body) .unchecked), [], channel)
    | .undeclared check => (.ok (echoOf body.length (digestsOf body) check), [], channel)
    | .checked check content =>
      match digestsOfContent Algorithm.all { content with log := [] } with
      | (.error e, content) => (.error (.failure e), content.log, channel)
      | (.ok digests, content) => (.ok (echoOf body.length digests check), content.log, channel)

end Service

end DigestGate
