import DigestGate.Body.Gather
import DigestGate.Request.Basic

namespace DigestGate

/-- Access to a request, its source and its log within a larger state. -/
structure Host (σ : Type) where
  request : σ → Request
  setRequest : Request → σ → σ
  read : Nat → σ → Except Failure Piece × σ
  close : σ → Closing × σ
  note : Log.Entry → σ → σ

inductive Opened where
  | source
  | replay (stream : BodyStream)
deriving DecidableEq, Repr

namespace Host

variable {σ : Type}

def setPhase (h : Host σ) (phase : Phase) (s : σ) : σ :=
  h.setRequest ((h.request s).enter phase) s

/-- Closes the source. Ordinary failures are logged, interruptions are raised. -/
def release (h : Host σ) (s : σ) : Except Failure Unit × σ :=
  match h.close s with
  | (.failed message, s) => (.ok (), h.note (.closeIgnored message) s)
  | (closing, s) => (closing.raised, s)

/-- Closes the source after the last reading. An interruption replaces any other outcome. -/
def conclude (h : Host σ) : Except Shortfall Bytes × σ → Except Failure Bytes × σ
  | (.error e, s) =>
    let s := h.note (.bufferingFailed e.remembered) (h.setPhase (.failed e.remembered) s)
    let (released, s) := h.release s
    (released.bind fun _ => .error e.reported, s)
  | (.ok body, s) =>
    match h.release s with
    | (.error e, s) => (.error e, s)
    | (.ok (), s) =>
      let entry := .buffered body.length (h.request s).limits.maximum
      (.ok body, h.note entry (h.setPhase (.buffered body) s))

def buffer (h : Host σ) (s : σ) : Except Failure Bytes × σ :=
  let limits := (h.request s).limits
  h.conclude (gather (h.read limits.chunk) limits.maximum 0 (h.setPhase .buffering s))

def ensure (h : Host σ) (s : σ) : Except Failure Bytes × σ :=
  match (h.request s).phase.settled? with
  | some (.ok body) => (.ok body, s)
  | some (.error e) => (.error (.body e), s)
  | none => h.buffer s

/-- The digest of the body, computed once, or none for an empty body. -/
def digest (h : Host σ) (a : Algorithm) (s : σ) : Except Failure (Option Bytes) × σ :=
  if (h.request s).phase = .handedOut then (.error (.body .handedOut), s)
  else
    match (h.request s).cache.get? a with
    | some digest => (.ok (some digest), h.note (.digestReused a) s)
    | none =>
      match h.ensure s with
      | (.error e, s) => (.error e, s)
      | (.ok [], s) => (.ok none, s)
      | (.ok body, s) =>
        let digest := a.compute body
        let r := h.request s
        (.ok (some digest), h.setRequest { r with cache := r.cache.set digest a } s)

def digestNamed (h : Host σ) (name : Datum) (s : σ) : Except Failure (Option Bytes) × σ :=
  if (h.request s).phase = .handedOut then (.error (.body .handedOut), s)
  else
    match Algorithm.resolve name with
    | .error e => (.error (.fault (.field e)), s)
    | .ok a => h.digest a s

/-- A stream over a buffered body, or the source itself, which can then not be buffered. -/
def openBody (h : Host σ) (s : σ) : Except Failure Opened × σ :=
  match (h.request s).phase with
  | .fresh | .handedOut => (.ok .source, h.setPhase .handedOut s)
  | .buffering => (.error (.body .stillBuffering), s)
  | .buffered body => (.ok (.replay ((h.request s).replay body)), s)
  | .failed e => (.error (.body e), s)

end Host

end DigestGate
