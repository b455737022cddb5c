import DigestGate.Channel.Reader
import DigestGate.Check.Verify

namespace DigestGate

inductive Reply where
  | body (bytes : Bytes)
  | opened (opened : Opened)
  | digest (digest : Option Bytes)
  | algorithms (list : List Algorithm)
  | check (check : Check)
deriving DecidableEq, Repr

/-- The use of a source, which may perform operations on its request before it is done. -/
inductive Exchange (α ρ : Type) where
  | done (outcome : α) (source : ρ)
  | ask (operation : Operation) (next : Except Failure Reply → Exchange α ρ)

/-- A source that a request can read. -/
class BodySource (ρ : Type) where
  read : Option Int → ρ → Exchange (Except Failure Piece) ρ
  close : ρ → Exchange Closing ρ

def SourceEvent.exchange (s : Source) : SourceEvent → Exchange (Except Failure Piece) Source
  | .piece p => .done (.ok p) s
  | .failure e => .done (.error e) s
  | .reenter operation rescue => .ask operation fun answer => .done (resume rescue answer) s

instance : BodySource Source where
  read size s := (s.read size).1.exchange (s.read size).2
  close s := .done s.close.1 s.close.2

instance : BodySource Reader where
  read size r := .done ((r.read size).1.map .bytes) (r.read size).2
  close r := .done .done r.close

namespace Host

variable {σ ρ : Type}

def replying {α : Type} (wrap : α → Reply) (outcome : Except Failure α × σ) :
    Except Failure Reply × σ :=
  (outcome.1.map wrap, outcome.2)

def perform (h : Host σ) (operation : Operation) (s : σ) : Except Failure Reply × σ :=
  match operation with
  | .ensure => replying .body (h.ensure s)
  | .openStream => replying .opened (h.openBody s)
  | .digest name => replying .digest (h.digestNamed name s)
  | .computed => (.ok (.algorithms (h.request s).cache.computed), s)
  | .verify lines => replying .check (h.verify lines s)

/-- Runs an exchange. The source is put back at the end. -/
def converse {α : Type} (h : Host σ) (put : ρ → σ → σ) : Exchange α ρ → σ → α × σ
  | .done outcome source, s => (outcome, put source s)
  | .ask operation next, s =>
    let (answer, s) := h.perform operation s
    h.converse put (next answer) s

/-- A host with the source at `get`. While it is used, its operations run on the host without it,
as the request is not fresh then. -/
def withSource [BodySource ρ] (h : Host σ) (get : σ → ρ) (put : ρ → σ → σ) : Host σ :=
  { h with
    read := fun size s => h.converse put (BodySource.read (some (size : Int)) (get s)) s
    close := fun s => h.converse put (BodySource.close (get s)) s }

end Host

structure Solo (ρ : Type) where
  request : Request
  source : ρ
  log : List Log.Entry := []

namespace Solo

variable {ρ : Type}

def bare : Host (Solo ρ) where
  request := request
  setRequest r s := { s with request := r }
  read _ s := (.ok .nothing, s)
  close s := (.done, s)
  note entry s := { s with log := s.log ++ [entry] }

def host [BodySource ρ] : Host (Solo ρ) :=
  bare.withSource source fun source s => { s with source }

end Solo

end DigestGate
