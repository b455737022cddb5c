import DigestGate.Body.Source
import DigestGate.Body.Stream
import DigestGate.Channel.Reader

namespace DigestGate

inductive StreamCall where
  | read (size : Option Int)
  | readAll
  | readInto (buffer : Bytes)
  | readLine (limit : Option Int)
  | readLines (hint : Option Int)
  | pieces (size : Option Int)
  | walk (size : Option Int)
  | next (walk : Nat)
  | tell
  | remaining
  | isFinished
  | isReady
  | readable
  | seekable
  | writable
  | messages
  | flush
  | seek (position : Int)
  | close
  | isClosed
deriving DecidableEq, Repr

/-- The answer of a stream, `unknown` for operations it does not have. -/
inductive StreamAnswer where
  | nothing
  | bytes (bytes : Bytes)
  | filled (count : Nat) (buffer : Bytes)
  | list (pieces : List Bytes)
  | walk (index : Nat)
  | ended
  | count (count : Nat)
  | flag (value : Bool)
  | unknown
deriving DecidableEq, Repr

def StreamAnswer.ofPiece : Piece → StreamAnswer
  | .bytes b => .bytes b
  | .other .null => .nothing
  | .other value => .bytes (Bytes.ofString value.plain)

def answering {α σ : Type} (wrap : α → StreamAnswer) :
    Except Failure α × σ → Except Failure StreamAnswer × σ
  | (.ok a, s) => (.ok (wrap a), s)
  | (.error e, s) => (.error e, s)

def flushed {σ : Type} [Readable σ] (s : σ) : Except Failure StreamAnswer × σ :=
  if Readable.isClosed s then (.error (.fault (.stream .closedFile)), s) else (.ok .nothing, s)

def cannotSeek : Except Failure StreamAnswer :=
  .error (.fault (.stream (.unsupported "seek")))

def BodyStream.perform (call : StreamCall) (s : BodyStream) :
    Except Failure StreamAnswer × BodyStream :=
  match call with
  | .read size => answering .bytes (s.read size)
  | .readAll => answering .bytes s.readAll
  | .readInto buffer => answering (fun (n, b) => .filled n b) (s.readInto buffer)
  | .readLine limit => answering .bytes (Readable.readLine limit s)
  | .readLines hint => answering .list (Readable.readLines hint s)
  | .pieces size => answering .list (s.pieces size)
  | .tell => (.ok (.count s.position), s)
  | .remaining => answering .count (s.remaining, s)
  | .isFinished => answering .flag (s.isFinished, s)
  | .isReady | .readable => (.ok (.flag true), s)
  | .seekable | .writable => (.ok (.flag false), s)
  | .flush => flushed s
  | .seek _ => (cannotSeek, s)
  | .close => (.ok .nothing, s.close)
  | .isClosed => (.ok (.flag s.closed), s)
  | .walk _ | .next _ | .messages => (.ok .unknown, s)

def Reader.perform (call : StreamCall) (r : Reader) : Except Failure StreamAnswer × Reader :=
  match call with
  | .read size => answering .bytes (r.read size)
  | .readAll => answering .bytes r.readAll
  | .readInto buffer => answering (fun (n, b) => .filled n b) (r.readInto buffer)
  | .readLine limit => answering .bytes (Readable.readLine limit r)
  | .readLines hint => answering .list (Readable.readLines hint r)
  | .readable => (.ok (.flag true), r)
  | .seekable | .writable => (.ok (.flag false), r)
  | .messages => (.ok (.count r.messages), r)
  | .flush => flushed r
  | .tell | .seek _ => (cannotSeek, r)
  | .close => (.ok .nothing, r.close)
  | .isClosed => (.ok (.flag r.closed), r)
  | .pieces _ | .walk _ | .next _ | .remaining | .isFinished | .isReady => (.ok .unknown, r)

def MemoryFile.perform (call : StreamCall) (f : MemoryFile) :
    Except Failure StreamAnswer × MemoryFile :=
  match call with
  | .readLine limit => answering .bytes (f.readLine limit)
  | .readLines hint => answering .list (f.readLines hint)
  | .readInto buffer => answering (fun (n, b) => .filled n b) (f.readInto buffer)
  | .tell => answering .count (f.tell f.position)
  | .seek position => answering .count (f.seek position)
  | .readable | .seekable | .writable => answering .flag (f.tell true)
  | .flush => f.tell .nothing
  | .isClosed => (.ok (.flag f.closed), f)
  | _ => (.ok .unknown, f)

/-- The operations of a source besides reading. A script can only be closed. -/
def Source.perform (call : StreamCall) (s : Source) : Except Failure StreamAnswer × Source :=
  match call, s.supply with
  | .close, _ =>
    match s.close with
    | (.done, s) => (.ok .nothing, s)
    | (.failed message, s) => (.error (.fault (.source .system message)), s)
    | (.interrupted message, s) => (.error (.interrupted message), s)
  | call, .memory file =>
    let (answer, file) := file.perform call
    (answer, { s with supply := .memory file })
  | _, .script _ => (.ok .unknown, s)

structure StreamTable where
  streams : List BodyStream := []
  walks : List (Nat × PieceIterator) := []
deriving DecidableEq, Repr

namespace StreamTable

def next (walk : Nat) (t : StreamTable) : Option (Except Failure StreamAnswer × StreamTable) :=
  match t.walks[walk]? with
  | none => none
  | some (i, it) =>
    t.streams[i]?.map fun s =>
      let (answer, it, s) := s.nextPiece it
      let t := { streams := t.streams.set i s, walks := t.walks.set walk (i, it) }
      answering (fun
        | some piece => .bytes piece
        | none => .ended) (answer, t)

/-- A call to stream `i`, or none if the stream or the walk does not exist. -/
def perform (i : Nat) (call : StreamCall) (t : StreamTable) :
    Option (Except Failure StreamAnswer × StreamTable) :=
  t.streams[i]?.bind fun s =>
    match call with
    | .walk size =>
      some (.ok (.walk t.walks.length), { t with walks := t.walks ++ [(i, { size })] })
    | .next walk => t.next walk
    | call =>
      let (answer, s) := s.perform call
      some (answer, { t with streams := t.streams.set i s })

end StreamTable

end DigestGate
