import DigestGate.Body.Source

namespace DigestGate

/-- Why no body is gathered. -/
inductive Shortfall where
  | unread (failure : Failure)
  | notBytes (kind : String)
  | tooLarge (limit observed : Nat)
deriving DecidableEq, Repr

namespace Shortfall

def remembered : Shortfall → BodyError
  | .unread (.fault cause) => .unreadable cause
  | .unread (.body error) => error
  | .unread (.interrupted _) => .aborted
  | .notBytes _ => .aborted
  | .tooLarge limit observed => .tooLarge limit observed

/-- The error reported for a shortfall. Only ordinary faults are wrapped. -/
def reported : Shortfall → Failure
  | .unread (.fault cause) => .body (.unreadable cause)
  | .unread failure => failure
  | .notBytes kind => .fault (.notBytes kind)
  | .tooLarge limit observed => .body (.tooLarge limit observed)

end Shortfall

variable {σ : Type}

/-- Reads until a piece is empty or the total, counted from `total`, exceeds `limit`. -/
def gather (read : σ → Except Failure Piece × σ) (limit total : Nat) (s : σ) :
    Except Shortfall Bytes × σ :=
  match read s with
  | (.error e, s) => (.error (.unread e), s)
  | (.ok (.other value), s) =>
    if value.holds then (.error (.notBytes value.kind), s) else (.ok [], s)
  | (.ok (.bytes []), s) => (.ok [], s)
  | (.ok (.bytes (b :: bs)), s) =>
    let total := total + (b :: bs).length
    if _h : limit < total then (.error (.tooLarge limit total), s)
    else
      match gather read limit total s with
      | (.ok rest, s) => (.ok (b :: bs ++ rest), s)
      | (.error e, s) => (.error e, s)
termination_by limit + 1 - total
decreasing_by
  simp only [List.length_cons] at *
  omega

end DigestGate
