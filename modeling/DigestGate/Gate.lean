import DigestGate.Channel.Collect
import DigestGate.Http.Response
import DigestGate.Http.Scope
import DigestGate.Metrics.Registry
import DigestGate.Request.Exchange
import DigestGate.Settings.Basic

namespace DigestGate

/-- The gate of an application. Fields that are not given are taken from the environment. -/
structure Gate where
  maximum : Option Int := none
  methods : Option (List String) := none
  mode : Option Mode := none
  chunk : Option Int := none
deriving DecidableEq, Repr

inductive Clearance where
  | unexamined
  | undeclared (check : Check)
  | checked (check : Check) (content : Solo Reader)

inductive Verdict where
  | forward (clearance : Clearance) (channel : Channel)
  | reject (response : Response) (channel : Channel)
  | fail (failure : Failure) (channel : Channel)

/-- A verdict, with the log entries and the observations made before it. -/
structure Passage where
  verdict : Verdict
  log : List Log.Entry := []
  observations : List Observation := []

namespace Gate

def upperMethods (methods : Datum) : Except Fault (List String) :=
  match methods.parts? with
  | none => .error (.misused .walk methods.kind)
  | some parts => parts.mapM Scope.upperMethod

def make (maximum : Option Int) (methods mode : Option Datum) (chunk : Option Int) :
    Except Fault Gate := do
  let mode ← mode.mapM modeNamed
  let methods ← methods.mapM upperMethods
  return { maximum, methods, mode, chunk }
where
  modeNamed : Datum → Except Fault Mode
    | .text name =>
      match Mode.named? name with
      | none => .error (.settings .unknownMode)
      | some mode => .ok mode
    | _ => .error (.settings .unknownMode)

def apply (g : Gate) (s : Settings) : Settings where
  maximum := g.maximum.getD s.maximum
  methods := g.methods.getD s.methods
  mode := g.mode.getD s.mode
  chunk := (g.chunk.filter (· != 0)).getD s.chunk

def digestRequired : Response :=
  .json 400 (.record [("error", .text "content_digest_required")])

def bodyTooLarge (limit : Nat) : Response :=
  .json 413 (.record [("error", .text "body_too_large"), ("limit", .number limit)])

def readFailed : Response :=
  .json 500 (.record [("error", .text "body_read_failed")])

def mismatch (reason : Option Reason) : Response :=
  .json 400 (.record [("error", .text "content_digest_mismatch"),
    ("reason", match reason with
      | some r => .text r.label
      | none => .null)])

/-- Buffers the body even if the declarations are unusable, so that it can be replayed. -/
def bufferAndVerify (lines : FieldLines) (content : Solo Reader) :
    Except Failure (Bytes × Check) × Solo Reader :=
  match Solo.host.ensure content with
  | (.error e, content) => (.error e, content)
  | (.ok body, content) =>
    match Solo.host.verify lines content with
    | (.error e, content) => (.error e, content)
    | (.ok check, content) => (.ok (body, check), content)

def turnAway (route : String) (content : Solo Reader) (failure : Failure) : Passage :=
  let channel := content.source.channel
  match failure with
  | .body (.tooLarge limit observed) => {
      verdict := .reject (bodyTooLarge limit) channel
      log := content.log ++ [.bodyRejected route limit observed]
      observations := Observation.ofBuffering "too_large" none }
  | .body error@(.unreadable _) | .body error@.aborted => {
      verdict := .reject readFailed channel
      log := content.log ++ [.readFailed route error]
      observations := Observation.ofBuffering "read_error" none }
  | failure => { verdict := .fail failure channel, log := content.log }

def settle (mode : Mode) (route : String) (body : Bytes) (check : Check) (content : Solo Reader) :
    Passage :=
  let observations :=
    Observation.ofBuffering "buffered" (some (body.length : Int))
      ++ Observation.ofCheck check.verified (check.reason.map Reason.label)
        (content.request.cache.computed.map Algorithm.name)
  let log :=
    if check.verified then content.log
    else content.log ++ [.checkFailed route ((check.reason.map Reason.label).getD "") mode.name]
  if check.verified || mode = .advisory then
    let channel := .replaying (content.request.replay body) content.request.limits.chunk
      content.source.channel
    { verdict := .forward (.checked check content) channel, log, observations }
  else { verdict := .reject (mismatch check.reason) content.source.channel, log, observations }

def examine (settings : Settings) (head : Head) (channel : Channel) : Passage :=
  match Limits.make settings.maximum settings.chunk with
  | .error e => { verdict := .fail (.fault e) channel }
  | .ok limits =>
    match bufferAndVerify head.lines { request := { limits }, source := { channel } } with
    | (.error e, content) => turnAway head.route content e
    | (.ok (body, check), content) => settle settings.mode head.route body check content

def passUnder (settings : Settings) (head : Head) (channel : Channel) : Passage :=
  if head.verb ∉ settings.methods then { verdict := .forward .unexamined channel }
  else if head.lines.hasIntegrity then examine settings head channel
  else if settings.mode = .require then {
    verdict := .reject digestRequired channel
    log := [.digestMissing head.route]
    observations := Observation.ofCheck false (some Reason.missing.label) [] }
  else { verdict := .forward (.undeclared .missing) channel }

/-- Forwards or rejects a request under the current environment. -/
def pass (g : Gate) (defaults : Defaults) (env : Environment) (scope : Scope)
    (channel : Channel) : Passage :=
  match Settings.load defaults env with
  | .error e => { verdict := .fail (.fault (.settings e)) channel }
  | .ok settings =>
    match scope.head with
    | .error e => { verdict := .fail (.fault e) channel }
    | .ok head => passUnder (g.apply settings) head channel

end Gate

end DigestGate
