import DigestGate.Body.Stream
import DigestGate.Field.DigestMap
import DigestGate.Log.Entry

namespace DigestGate

structure Limits where
  maximum : Nat
  chunk : Nat
  chunk_pos : 0 < chunk
deriving DecidableEq, Repr

def Limits.make (maximum chunk : Int) : Except Fault Limits :=
  if maximum < 0 then .error .negativeLimit
  else if h : 0 < chunk then .ok ⟨maximum.toNat, chunk.toNat, by omega⟩
  else .error .emptyChunk

inductive BufferState where
  | unbuffered
  | buffering
  | buffered
  | failed
deriving DecidableEq, Repr

def BufferState.name : BufferState → String
  | .unbuffered => "Unbuffered"
  | .buffering => "Buffering"
  | .buffered => "Buffered"
  | .failed => "Failed"

structure DigestCache where
  md5 : Option Bytes := none
  sha1 : Option Bytes := none
  sha256 : Option Bytes := none
deriving DecidableEq, Repr

namespace DigestCache

def get? (c : DigestCache) : Algorithm → Option Bytes
  | .md5 => c.md5
  | .sha1 => c.sha1
  | .sha256 => c.sha256

def set (c : DigestCache) (digest : Bytes) : Algorithm → DigestCache
  | .md5 => { c with md5 := some digest }
  | .sha1 => { c with sha1 := some digest }
  | .sha256 => { c with sha256 := some digest }

def computed (c : DigestCache) : List Algorithm :=
  Algorithm.all.filter fun a => (c.get? a).isSome

@[simp] theorem get?_empty (a : Algorithm) : ({} : DigestCache).get? a = none := by
  cases a <;> rfl

@[simp] theorem get?_set (c : DigestCache) (digest : Bytes) (a b : Algorithm) :
    (c.set digest a).get? b = if a = b then some digest else c.get? b := by
  cases a <;> cases b <;> rfl

theorem of_get?_set {c : DigestCache} {digest found : Bytes} {a b : Algorithm}
    (h : (c.set digest a).get? b = some found) :
    (b = a ∧ found = digest) ∨ c.get? b = some found := by
  rw [get?_set] at h
  by_cases hab : a = b
  · rw [if_pos hab, Option.some.injEq] at h
    exact .inl ⟨hab.symm, h.symm⟩
  · rw [if_neg hab] at h
    exact .inr h

end DigestCache

/-- A request whose body is read once, stored and digested on demand. -/
structure Request where
  limits : Limits
  state : BufferState := .unbuffered
  body : Option Bytes := none
  error : Option BodyError := none
  handedOut : Bool := false
  cache : DigestCache := {}
deriving DecidableEq, Repr

/-- The fields that describe the body, taken together. -/
inductive Phase where
  | fresh
  | handedOut
  | buffering
  | buffered (body : Bytes)
  | failed (error : BodyError)
deriving DecidableEq, Repr

/-- The result of demanding the body, unless the source must be read. -/
def Phase.settled? : Phase → Option (Except BodyError Bytes)
  | .fresh => none
  | .handedOut => some (.error .handedOut)
  | .buffering => some (.error .alreadyBuffering)
  | .buffered body => some (.ok body)
  | .failed error => some (.error error)

namespace Request

def phase (r : Request) : Phase :=
  match r.state with
  | .unbuffered => if r.handedOut then .handedOut else .fresh
  | .buffering => .buffering
  | .buffered => .buffered (r.body.getD [])
  | .failed => .failed (r.error.getD .aborted)

def enter (r : Request) : Phase → Request
  | .fresh => { r with state := .unbuffered, handedOut := false }
  | .handedOut => { r with state := .unbuffered, handedOut := true }
  | .buffering => { r with state := .buffering }
  | .buffered body => { r with state := .buffered, body := some body }
  | .failed error => { r with state := .failed, error := some error }

@[simp] theorem phase_enter (r : Request) (p : Phase) : (r.enter p).phase = p := by
  cases p <;> rfl

@[simp] theorem limits_enter (r : Request) (p : Phase) : (r.enter p).limits = r.limits := by
  cases p <;> rfl

@[simp] theorem cache_enter (r : Request) (p : Phase) : (r.enter p).cache = r.cache := by
  cases p <;> rfl

@[simp] theorem phase_store (r : Request) (cache : DigestCache) :
    { r with cache }.phase = r.phase :=
  rfl

def replay (r : Request) (body : Bytes) : BodyStream :=
  { content := body, chunk := r.limits.chunk }

end Request

end DigestGate
