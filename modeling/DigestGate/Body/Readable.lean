import DigestGate.Failure

namespace DigestGate

/-- A stream of bytes, at most `available` of which follow. -/
class Readable (σ : Type) where
  read : Option Int → σ → Except Failure Bytes × σ
  isClosed : σ → Bool
  available : σ → Nat

namespace Readable

variable {σ : Type} [Readable σ]

/-- The bound of a reading. No size and negative sizes stand for no bound. -/
def bound (size : Option Int) : Option Nat :=
  match size with
  | some (.ofNat n) => some n
  | _ => none

def fitsWord (n : Int) : Bool :=
  -(Int.pow 2 63) ≤ n && n < Int.pow 2 63

def lineWithin : Nat → Option Nat → σ → Except Failure Bytes × σ
  | 0, _, s => (.ok [], s)
  | fuel + 1, limit, s =>
    if limit = some 0 then (.ok [], s)
    else
      match read (some 1) s with
      | (.error e, s) => (.error e, s)
      | (.ok [], s) => (.ok [], s)
      | (.ok (b :: bs), s) =>
        if b = 0x0A then (.ok (b :: bs), s)
        else
          match lineWithin fuel (limit.map (· - 1)) s with
          | (.ok line, s) => (.ok (b :: bs ++ line), s)
          | (.error e, s) => (.error e, s)

def readLine (limit : Option Int) (s : σ) : Except Failure Bytes × σ :=
  if limit.all fitsWord then lineWithin (available s + 1) (bound limit) s
  else (.error (.fault (.stream .sizeTooLarge)), s)

/-- Reads lines of at most `longest` bytes until the end, or until `hint` bytes are exceeded. -/
def linesWithin (longest : Nat) : Nat → Option Nat → Nat → σ → Except Failure (List Bytes) × σ
  | 0, _, _, s => (.ok [], s)
  | fuel + 1, hint, total, s =>
    match lineWithin longest none s with
    | (.error e, s) => (.error e, s)
    | (.ok [], s) => (.ok [], s)
    | (.ok line, s) =>
      let total := total + line.length
      if hint.any fun h => 0 < h && h < total then (.ok [line], s)
      else
        match linesWithin longest fuel hint total s with
        | (.ok lines, s) => (.ok (line :: lines), s)
        | (.error e, s) => (.error e, s)

def readLines (hint : Option Int) (s : σ) : Except Failure (List Bytes) × σ :=
  if !hint.all fitsWord then (.error (.fault (.stream .sizeTooLarge)), s)
  else if isClosed s then (.error (.fault (.stream .closedFile)), s)
  else
    let bytes := available s + 1
    linesWithin bytes bytes (bound hint) 0 s

def drainBy (size : Int) : Nat → σ → Except Failure Bytes × σ
  | 0, s => (.ok [], s)
  | fuel + 1, s =>
    match read (some size) s with
    | (.error e, s) => (.error e, s)
    | (.ok [], s) => (.ok [], s)
    | (.ok piece, s) =>
      match drainBy size fuel s with
      | (.ok rest, s) => (.ok (piece ++ rest), s)
      | (.error e, s) => (.error e, s)

end Readable

end DigestGate
