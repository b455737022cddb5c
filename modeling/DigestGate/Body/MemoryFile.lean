import DigestGate.Body.Cursor

namespace DigestGate

structure MemoryFile extends Cursor where
  closed : Bool := false
deriving DecidableEq, Repr

namespace MemoryFile

def whenOpen {α : Type} (f : MemoryFile) (outcome : Except Failure α × MemoryFile) :
    Except Failure α × MemoryFile :=
  if f.closed then (.error (.fault (.stream .closedFile)), f) else outcome

def whenFits {α : Type} (f : MemoryFile) (error : StreamError) (n : Option Int)
    (outcome : Except Failure α × MemoryFile) : Except Failure α × MemoryFile :=
  if n.all Readable.fitsWord then outcome else (.error (.fault (.stream error)), f)

def advance (n : Nat) (f : MemoryFile) : Bytes × MemoryFile :=
  ((f.take n).1, { f with toCursor := (f.take n).2 })

def read (size : Option Int) (f : MemoryFile) : Except Failure Bytes × MemoryFile :=
  let (bytes, next) := f.advance (f.span size)
  f.whenFits .sizeTooLarge size (f.whenOpen (.ok bytes, next))

/-- The number of bytes through the next line feed, or one more than there are. -/
def lineLength (f : MemoryFile) : Nat :=
  (f.rest.takeWhile (· != 0x0A)).length + 1

def readLine (limit : Option Int) (f : MemoryFile) : Except Failure Bytes × MemoryFile :=
  let (bytes, next) := f.advance (min f.lineLength (f.span limit))
  f.whenFits .sizeTooLarge limit (f.whenOpen (.ok bytes, next))

/-- Takes lines until the end, or until a positive `hint` is reached from `total` bytes on. -/
def takeLines (hint : Option Nat) (total : Nat) (f : MemoryFile) : List Bytes × MemoryFile :=
  if _h : f.rest = [] then ([], f)
  else
    let total := total + (f.advance f.lineLength).1.length
    if hint.any fun n => 0 < n && n ≤ total then
      ([(f.advance f.lineLength).1], (f.advance f.lineLength).2)
    else
      let (lines, last) := takeLines hint total (f.advance f.lineLength).2
      ((f.advance f.lineLength).1 :: lines, last)
termination_by f.rest.length
decreasing_by
  have := List.length_pos_iff.2 _h
  simp only [advance, Cursor.rest_take, List.length_drop, lineLength]
  omega

def readLines (hint : Option Int) (f : MemoryFile) : Except Failure (List Bytes) × MemoryFile :=
  let (lines, next) := f.takeLines (Readable.bound hint) 0
  f.whenOpen (f.whenFits .offsetTooLarge hint (.ok lines, next))

def readInto (buffer : Bytes) (f : MemoryFile) : Except Failure (Nat × Bytes) × MemoryFile :=
  let (bytes, next) := f.advance buffer.length
  f.whenOpen (.ok (bytes.length, bytes ++ buffer.drop bytes.length), next)

def seek (position : Int) (f : MemoryFile) : Except Failure Nat × MemoryFile :=
  f.whenFits .offsetTooLarge (some position) (f.whenOpen
    (if position < 0 then (.error (.fault (.stream (.negativePosition position))), f)
    else (.ok position.toNat, { f with toCursor := f.goTo position.toNat })))

def tell {α : Type} (fact : α) (f : MemoryFile) : Except Failure α × MemoryFile :=
  f.whenOpen (.ok fact, f)

def close (f : MemoryFile) : MemoryFile :=
  { f with closed := true }

end MemoryFile

end DigestGate
