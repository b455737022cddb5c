import DigestGate.Body.Cursor

namespace DigestGate

/-- A stream over a body in memory, with the default size of its pieces. -/
structure BodyStream extends Cursor where
  chunk : Int
  closed : Bool := false
deriving DecidableEq, Repr

structure PieceIterator where
  size : Option Int
  ended : Bool := false
deriving DecidableEq, Repr

namespace BodyStream

def advance (size : Option Int) (s : BodyStream) : Bytes × BodyStream :=
  ((s.toCursor.read size).1, { s with toCursor := (s.toCursor.read size).2 })

def read (size : Option Int) (s : BodyStream) : Except Failure Bytes × BodyStream :=
  if s.closed then (.error (.fault (.stream .closedBody)), s)
  else
    let (bytes, s) := s.advance size
    (.ok bytes, s)

instance : Readable BodyStream where
  read := read
  isClosed := closed
  available s := s.rest.length

def readInto (buffer : Bytes) (s : BodyStream) : Except Failure (Nat × Bytes) × BodyStream :=
  if s.closed then (.error (.fault (.stream .closedBody)), s)
  else
    let (bytes, s) := s.advance (some buffer.length)
    (.ok (bytes.length, bytes ++ buffer.drop bytes.length), s)

def readAll (s : BodyStream) : Except Failure Bytes × BodyStream :=
  s.read none

def remaining (s : BodyStream) : Except Failure Nat :=
  if s.closed then .error (.fault (.stream .released)) else .ok s.rest.length

def isFinished (s : BodyStream) : Except Failure Bool :=
  if s.closed then .error (.fault (.stream .released)) else .ok s.rest.isEmpty

/-- The size of pieces. Zero and none stand for the default. -/
def pieceSize (s : BodyStream) (size : Option Int) : Int :=
  match size with
  | none => s.chunk
  | some n => if n = 0 then s.chunk else n

def piecesBy (size : Int) (s : BodyStream) : List Bytes × BodyStream :=
  if _h : size = 0 ∨ s.rest = [] then ([], s)
  else
    let (pieces, last) := piecesBy size (s.advance (some size)).2
    ((s.advance (some size)).1 :: pieces, last)
termination_by s.rest.length
decreasing_by exact s.rest_read_lt (fun h => _h (.inl h)) (fun h => _h (.inr h))

def pieces (size : Option Int) (s : BodyStream) : Except Failure (List Bytes) × BodyStream :=
  if s.closed then (.error (.fault (.stream .released)), s)
  else
    let (pieces, s) := s.piecesBy (s.pieceSize size)
    (.ok pieces, s)

/-- The next piece of a walk, or none once it has ended or failed. -/
def nextPiece (walk : PieceIterator) (s : BodyStream) :
    Except Failure (Option Bytes) × PieceIterator × BodyStream :=
  if walk.ended then (.ok none, walk, s)
  else
    match s.isFinished with
    | .error e => (.error e, { walk with ended := true }, s)
    | .ok true => (.ok none, { walk with ended := true }, s)
    | .ok false =>
      let (piece, s) := s.advance (some (s.pieceSize walk.size))
      (.ok (some piece), walk, s)

def close (s : BodyStream) : BodyStream :=
  { s with closed := true }

end BodyStream

end DigestGate
