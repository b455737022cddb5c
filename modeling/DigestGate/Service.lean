import DigestGate.Metrics.Exposition
import DigestGate.Service.Echo
import DigestGate.Service.Page

namespace DigestGate

/-- The application behind the gate, with its start-up settings and its metrics. -/
structure Service where
  defaults : Defaults
  metrics : Metrics := {}

structure Served where
  outcome : Except ServiceFailure Response
  log : List Log.Entry
  channel : Channel

namespace Service

def start (env : Environment) : Except SettingsError Service :=
  (Defaults.load env).map fun defaults => { defaults }

def answerWith (gated : Bool) (metrics : Metrics) (scope : Scope) (clearance : Clearance)
    (channel : Channel) (page : Page) : Answer :=
  if scope.query.isNone then refuse (.missingField "query_string") channel
  else
    match scope.header with
    | .error e => refuse e channel
    | .ok _ =>
      match page with
      | .health => (.ok health, [], channel)
      | .metrics =>
        (.ok { status := 200, contentType := some Metrics.contentType, body := metrics.exposition },
          [], channel)
      | .echo => echo gated clearance channel

/-- Redirects a request without a page to the path with or without a final slash. -/
def answerElsewhere (scope : Scope) (channel : Channel) (sought path : List Char) : Answer :=
  let other := { scope with path := some (.text (String.ofList (Page.otherSlash sought path))) }
  match other.sought with
  | .error e => refuse e channel
  | .ok (target, _) =>
    if sought != ['/'] && Page.isPath target then
      match scope.soughtMethod with
      | .error e => refuse e channel
      | .ok _ =>
        match other.url with
        | .error e => refuse e channel
        | .ok url => (.ok (redirect url), [], channel)
    else (.ok notFound, [], channel)

def route (gated : Bool) (metrics : Metrics) (scope : Scope) (clearance : Clearance)
    (channel : Channel) : Answer :=
  match scope.sought with
  | .error e => refuse e channel
  | .ok (sought, path) =>
    match Page.ofPath? sought with
    | none => answerElsewhere scope channel sought path
    | some page =>
      match scope.soughtMethod with
      | .error e => refuse e channel
      | .ok method =>
        if method = .text page.method then answerWith gated metrics scope clearance channel page
        else (.ok (notAllowed page.method), [], channel)

def respond (s : Service) (env : Environment) (scope : Scope) (channel : Channel) :
    Served × Service :=
  let gated := s.defaults.enabled
  let passage : Passage :=
    if gated then ({} : Gate).pass s.defaults env scope channel
    else { verdict := .forward .unexamined channel }
  let metrics := s.metrics.add passage.observations
  let s := { s with metrics }
  match passage.verdict with
  | .reject response channel => ({ outcome := .ok response, log := passage.log, channel }, s)
  | .fail e channel => ({ outcome := .error (.failure e), log := passage.log, channel }, s)
  | .forward clearance channel =>
    let (outcome, log, channel) := route gated metrics scope clearance channel
    ({ outcome, log := passage.log ++ log, channel }, s)

def serve (s : Service) (env : Environment) (scope : Scope) (channel : Channel) :
    Served × Service :=
  match scope.requireRequest with
  | .error e => ({ outcome := .error (.failure (.fault e)), log := [], channel }, s)
  | .ok () => s.respond env scope channel

end Service

end DigestGate
