import DigestGate.Session.Attribute

namespace DigestGate.Session

variable {ρ : Type} [ClientSource ρ]

inductive Call where
  | ensure
  | digestNamed (name : Datum)
  | digest (algorithm : Algorithm)
  | computed
  | verify
  | openStream
  | wrap (maximum chunk : Int)
  | lookUp (name : String)
  | lookUpBare (name : String)
  | limits
deriving DecidableEq, Repr

inductive Step where
  | request (k : Nat) (call : Call)
  | stream (handle : Nat) (call : StreamCall)
deriving DecidableEq, Repr

inductive Answer where
  | body (bytes : Bytes)
  | digest (digest : Option Bytes)
  | algorithms (list : List Algorithm)
  | check (check : Check)
  | opened (handle : Nat) (feed : Feed)
  | wrapped (k : Nat)
  | value (value : Attribute)
  | limits (maximum : Nat) (overClient : Bool)
  | stream (answer : StreamAnswer)
deriving DecidableEq, Repr

def answer {α : Type} (wrap : α → Answer) :
    Except Failure α × Session ρ → Except Failure Answer × Session ρ
  | (.ok a, s) => (.ok (wrap a), s)
  | (.error e, s) => (.error e, s)

def call (k : Nat) (layer : Layer) (s : Session ρ) : Call → Except Failure Answer × Session ρ
  | .ensure => answer .body ((host k).ensure s)
  | .digestNamed name => answer .digest ((host k).digestNamed name s)
  | .digest a => answer .digest ((host k).digest a s)
  | .computed => (.ok (.algorithms layer.request.cache.computed), s)
  | .verify =>
    match s.headers k with
    | .error e => (.error (.fault e), s)
    | .ok lines => answer .check ((host k).verify lines s)
  | .openStream => answer (fun (handle, feed) => .opened handle feed) (s.openStream k)
  | .wrap maximum chunk => answer .wrapped (s.wrap k maximum chunk)
  | .lookUp name => (((s.lookUp k name).map .value).mapError .fault, s)
  | .lookUpBare name =>
    match Layer.members.lookup name with
    | none => (.error (.fault (.unbuiltAttribute name)), s)
    | some value => (.ok (.value value), s)
  | .limits => (.ok (.limits layer.request.limits.maximum layer.under.isNone), s)

def streamAnswer : Except Failure StreamAnswer → Except Failure Answer
  | .ok a => .ok (.stream a)
  | .error e => .error e

def callStream (feed : Feed) (call : StreamCall) (s : Session ρ) :
    Option (Except Failure Answer × Session ρ) :=
  match feed, call with
  | .client, .next walk =>
    (s.table.next walk).map fun (a, table) => (streamAnswer a, { s with table })
  | .client, .read size =>
    some (answer (fun p => .stream (.ofPiece p)) (s.readFeed .client size))
  | .client, call =>
    let (a, source) := ClientSource.perform call s.source
    some (streamAnswer a, { s with source })
  | .replay i, call =>
    (s.table.perform i call).map fun (a, table) => (streamAnswer a, { s with table })

/-- A step, or none if the request, stream or walk that it names does not exist. -/
def step (s : Session ρ) : Step → Option (Except Failure Answer × Session ρ)
  | .request k c => (s.layers[k]?).map fun layer => s.call k layer c
  | .stream handle c => (s.handles[handle]?).bind fun feed => s.callStream feed c

end DigestGate.Session
