import DigestGate.Body.StreamCall
import DigestGate.Request.Exchange

namespace DigestGate

/-- What a request reads: the source of the client or a replay stream. -/
inductive Feed where
  | client
  | replay (stream : Nat)
deriving DecidableEq, Repr

/-- A request with its feed and the request that it was made from. -/
structure Layer where
  request : Request
  feed : Feed
  under : Option Nat
deriving DecidableEq, Repr

/-- A plain value, header fields, or an object known by its kind. -/
inductive Attribute where
  | value (value : Datum)
  | fields (kind : String) (lines : FieldLines)
  | object (kind : String)
deriving DecidableEq, Repr

structure Client where
  kind : String
  attributes : List (String × Except Fault Attribute)

class ClientSource (ρ : Type) extends BodySource ρ where
  perform : StreamCall → ρ → Except Failure StreamAnswer × ρ

instance : ClientSource Source where
  perform := Source.perform

instance : ClientSource Reader where
  perform := Reader.perform

/-- Requests stacked over the source of one client, with the streams that they opened. -/
structure Session (ρ : Type) where
  client : Client
  source : ρ
  layers : List Layer
  table : StreamTable := {}
  handles : List Feed := []
  log : List Log.Entry := []

namespace Session

variable {ρ : Type}

def blank : Request :=
  { limits := ⟨0, 1, Nat.one_pos⟩ }

def request (s : Session ρ) (k : Nat) : Request :=
  match s.layers[k]? with
  | some layer => layer.request
  | none => blank

def feed (s : Session ρ) (k : Nat) : Feed :=
  match s.layers[k]? with
  | some layer => layer.feed
  | none => .client

/-- Request `k` during the use of its source. It is not fresh, so the source is not used again. -/
def bare (k : Nat) : Host (Session ρ) where
  request s := s.request k
  setRequest r s := { s with layers := s.layers.modify k fun layer => { layer with request := r } }
  read _ s := (.ok .nothing, s)
  close s := (.done, s)
  note entry s := { s with log := s.log ++ [entry] }

variable [BodySource ρ]

def converse {α : Type} (exchange : Exchange α ρ) (s : Session ρ) : α × Session ρ :=
  (bare 0).converse (fun source s => { s with source }) exchange s

def readFeed (feed : Feed) (size : Option Int) (s : Session ρ) :
    Except Failure Piece × Session ρ :=
  match feed with
  | .client => converse (BodySource.read size s.source) s
  | .replay i =>
    match s.table.streams[i]? with
    | none => (.ok .nothing, s)
    | some stream =>
      let (bytes, stream) := stream.read size
      (bytes.map .bytes,
        { s with table := { s.table with streams := s.table.streams.set i stream } })

def closeFeed (feed : Feed) (s : Session ρ) : Closing × Session ρ :=
  match feed with
  | .client => converse (BodySource.close s.source) s
  | .replay i =>
    match s.table.streams[i]? with
    | none => (.done, s)
    | some stream =>
      (.done, { s with table := { s.table with streams := s.table.streams.set i stream.close } })

def host (k : Nat) : Host (Session ρ) :=
  { bare k with
    read := fun size s => s.readFeed (s.feed k) (some (size : Int))
    close := fun s => s.closeFeed (s.feed k) }

def start (client : Client) (source : ρ) (limits : Limits) : Session ρ :=
  { client, source, layers := [{ request := { limits }, feed := .client, under := none }] }

/-- Opens the body of request `k`, adding a stream to the session for a replay. -/
def openFeed (k : Nat) (s : Session ρ) : Except Failure Feed × Session ρ :=
  match (host k).openBody s with
  | (.error e, s) => (.error e, s)
  | (.ok .source, s) => (.ok (s.feed k), s)
  | (.ok (.replay stream), s) =>
    let streams := s.table.streams ++ [stream]
    (.ok (.replay s.table.streams.length), { s with table := { s.table with streams } })

def openStream (k : Nat) (s : Session ρ) : Except Failure (Nat × Feed) × Session ρ :=
  match s.openFeed k with
  | (.error e, s) => (.error e, s)
  | (.ok feed, s) => (.ok (s.handles.length, feed), { s with handles := s.handles ++ [feed] })

/-- Makes a request that reads the body of request `k`, which is opened first. -/
def wrap (k : Nat) (maximum chunk : Int) (s : Session ρ) : Except Failure Nat × Session ρ :=
  match s.openFeed k with
  | (.error e, s) => (.error e, s)
  | (.ok feed, s) =>
    match Limits.make maximum chunk with
    | .error e => (.error (.fault e), s)
    | .ok limits =>
      let layer : Layer := { request := { limits }, feed, under := some k }
      (.ok s.layers.length, { s with layers := s.layers ++ [layer] })

end Session

end DigestGate
