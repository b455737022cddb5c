import DigestGate.Body.MemoryFile
import DigestGate.Request.Operation

namespace DigestGate

/-- The result of a reading, which should be bytes. -/
inductive Piece where
  | bytes (bytes : Bytes)
  | other (value : Datum)
deriving DecidableEq, Repr

namespace Piece

def nothing : Piece := .other .null

def text (value : String) : Piece := .other (.text value)

end Piece

/-- One reading of a scripted source. A rescue replaces the refusal of a callback. -/
inductive SourceEvent where
  | piece (piece : Piece)
  | failure (failure : Failure)
  | reenter (operation : Operation) (rescue : Option Bytes)
deriving DecidableEq, Repr

def SourceEvent.resume {α : Type} (rescue : Option Bytes) : Except Failure α → Except Failure Piece
  | .ok _ => .ok (.bytes (rescue.getD []))
  | .error (.body e) =>
    match rescue with
    | some bytes => .ok (.bytes bytes)
    | none => .error (.body e)
  | .error e => .error e

def SourceEvent.ofBytes : Except Failure Bytes → SourceEvent
  | .ok bytes => .piece (.bytes bytes)
  | .error e => .failure e

/-- The outcome of closing a source. -/
inductive Closing where
  | done
  | failed (message : String)
  | interrupted (message : String)
deriving DecidableEq, Repr

/-- The failure raised by closing, which ordinary failures are not. -/
def Closing.raised : Closing → Except Failure Unit
  | .interrupted message => .error (.interrupted message)
  | _ => .ok ()

inductive Supply where
  | memory (file : MemoryFile)
  | script (events : List SourceEvent)
deriving DecidableEq, Repr

structure Source where
  supply : Supply
  closeFailure : Option String := none
  sizes : List (Option Int) := []
  closes : Nat := 0
deriving DecidableEq, Repr

namespace Source

def readSizes (s : Source) : List (Option Int) :=
  s.sizes.reverse

/-- Reads once. A script ignores the size and whether the source is closed. -/
def read (size : Option Int) (s : Source) : SourceEvent × Source :=
  let s := { s with sizes := size :: s.sizes }
  match s.supply with
  | .memory file =>
    let (bytes, file) := file.read size
    (.ofBytes bytes, { s with supply := .memory file })
  | .script [] => (.piece (.bytes []), s)
  | .script (event :: events) => (event, { s with supply := .script events })

def close (s : Source) : Closing × Source :=
  let s := { s with closes := s.closes + 1 }
  match s.closeFailure, s.supply with
  | some message, _ => (.failed message, s)
  | none, .memory file => (.done, { s with supply := .memory file.close })
  | none, .script _ => (.done, s)

end Source

end DigestGate
