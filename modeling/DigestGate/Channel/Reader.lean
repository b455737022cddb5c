import DigestGate.Channel.Basic

namespace DigestGate

/-- The body of a request as a stream over its channel. -/
structure Reader where
  channel : Channel
  pending : Bytes := []
  ended : Bool := false
  messages : Nat := 0
  closed : Bool := false
deriving DecidableEq, Repr

namespace Reader

/-- Takes in one message, which ends the body if it is the last part or a disconnect. -/
def pull (r : Reader) : Except Failure Unit × Reader :=
  match r.channel.receive with
  | (.error e, channel) => (.error e, { r with channel })
  | (.ok m, channel) =>
    let r := { r with channel, messages := r.messages + 1 }
    if m.isDisconnect then (.error (.fault .disconnected), { r with ended := true })
    else if m.isPart then
      (.ok (), { r with pending := r.pending ++ m.payload, ended := r.ended || !m.hasMore })
    else (.error (.fault (.unexpectedMessage m.type)), r)

theorem supply_pull {r r' : Reader} (hr : r.channel.Flows) (h : r.pull = (.ok (), r')) :
    r'.channel.supply < r.channel.supply := by
  simp only [pull] at h
  split at h
  · simp at h
  · next m channel hm =>
    have := Channel.supply_receive hr hm
    split at h
    · simp at h
    · next hd =>
      split at h
      · simp only [Prod.mk.injEq, true_and] at h
        subst h
        exact this.resolve_left hd
      · simp at h

/-- Takes in messages until the body has ended or, unless `all`, bytes are pending. The supply of a
channel that flows decreases. -/
def fill (all : Bool) (r : Reader) : Except Failure Unit × Reader :=
  if r.ended || (!all && !r.pending.isEmpty) then (.ok (), r)
  else
    match r.pull with
    | (.error e, r) => (.error e, r)
    | (.ok (), next) =>
      if next.channel.supply < r.channel.supply then fill all next else (.ok (), next)
termination_by r.channel.supply

def read (size : Option Int) (r : Reader) : Except Failure Bytes × Reader :=
  if r.closed then (.error (.fault (.stream .closedRequest)), r)
  else
    match Readable.bound size with
    | none =>
      match r.fill true with
      | (.error e, r) => (.error e, r)
      | (.ok (), r) => (.ok r.pending, { r with pending := [] })
    | some n =>
      match r.fill false with
      | (.error e, r) => (.error e, r)
      | (.ok (), r) => (.ok (r.pending.take n), { r with pending := r.pending.drop n })

instance : Readable Reader where
  read := read
  isClosed := closed
  available r := r.pending.length + r.channel.bytesLeft

def readInto (buffer : Bytes) (r : Reader) : Except Failure (Nat × Bytes) × Reader :=
  match r.read (some buffer.length) with
  | (.error e, r) => (.error e, r)
  | (.ok bytes, r) => (.ok (bytes.length, bytes ++ buffer.drop bytes.length), r)

def drainSize : Int := 8192

def readAll (r : Reader) : Except Failure Bytes × Reader :=
  Readable.drainBy drainSize (Readable.available r + 1) r

def close (r : Reader) : Reader :=
  { r with closed := true }

end Reader

end DigestGate
