import DigestGate.Channel.Basic
import DigestGate.Proofs.Body.Decision
import Mathlib.Data.Set.Operations
import Mathlib.Order.Bounds.Defs

namespace DigestGate

def Receipt.part : Receipt → Except Failure (Bytes × Bool)
  | .failure e => .error e
  | .message m =>
    if m.isDisconnect then .error (.fault .disconnected)
    else if m.isPart then .ok (m.payload, m.hasMore)
    else .error (.fault (.unexpectedMessage m.type))

theorem Receipt.exists_message_of_part {receipt : Receipt} {part : Bytes} {more : Bool}
    (h : receipt.part = .ok (part, more)) :
    ∃ m : Message, receipt = .message m ∧ ¬ m.isDisconnect ∧ m.isPart ∧ m.payload = part ∧
      m.hasMore = more := by
  cases receipt with
  | failure e => cases h
  | message m =>
    rw [Receipt.part] at h
    by_cases hd : m.isDisconnect
    · rw [if_pos hd] at h
      cases h
    · rw [if_neg hd] at h
      by_cases hp : m.isPart
      · rw [if_pos hp] at h
        cases h
        exact ⟨m, rfl, hd, hp, rfl, rfl⟩
      · rw [if_neg hp] at h
        cases h

/-- The parts of a body as they arrive, and the failure that cuts it short, if any. -/
structure Arrival where
  parts : List Bytes
  broken : Option Failure

namespace Arrival

def after (part : Bytes) (a : Arrival) : Arrival :=
  { a with parts := part :: a.parts }

/-- The arrival given by the receipts through the first that announces no further part. -/
def ofReceipts : List Receipt → Arrival
  | [] => { parts := [], broken := some (.fault .disconnected) }
  | receipt :: coming =>
    match receipt.part with
    | .error e => { parts := [], broken := some e }
    | .ok (part, false) => { parts := [part], broken := none }
    | .ok (part, true) => (ofReceipts coming).after part

def total (a : Arrival) : Nat :=
  a.parts.flatten.length

/-- The number of receipts that an arrival consumes. -/
def received (a : Arrival) : Nat :=
  match a.broken with
  | none => a.parts.length
  | some _ => a.parts.length + 1

/-- `k` is the least number of parts that exceed the limit after `held` bytes. -/
def Exceeds (a : Arrival) (limit held k : Nat) : Prop :=
  IsLeast {j | limit < held + (a.parts.take j).flatten.length} k

/-- The outcome of gathering the parts after `held` bytes, and the receipts consumed. -/
def Gathers (a : Arrival) (limit chunk held : Nat) (outcome : Except Shortfall Bytes)
    (pulled : Nat) : Prop :=
  if limit < held + a.total then
    a.Exceeds limit held pulled ∧ ∃ observed, limit < observed ∧ observed ≤ limit + chunk ∧
      outcome = .error (.tooLarge limit observed)
  else
    pulled = a.received ∧
      outcome = match a.broken with
        | none => .ok a.parts.flatten
        | some e => .error (.unread e)

variable {a : Arrival} {part : Bytes} {limit chunk held pulled k : Nat}
  {outcome : Except Shortfall Bytes}

theorem ofReceipts_part {receipt : Receipt} {more : Bool} (coming : List Receipt)
    (hpart : receipt.part = .ok (part, more)) :
    ∃ a, ofReceipts (receipt :: coming) = after part a := by
  rw [ofReceipts, hpart]
  cases more with
  | false => exact ⟨{ parts := [], broken := none }, rfl⟩
  | true => exact ⟨ofReceipts coming, rfl⟩

theorem total_after (part : Bytes) (a : Arrival) :
    (a.after part).total = part.length + a.total := by
  rw [total, after, List.flatten_cons, List.length_append, total]

theorem exceeds_first (hheld : held ≤ limit) (hpart : limit < held + part.length) :
    (a.after part).Exceeds limit held 1 := by
  refine ⟨?_, fun k hk => ?_⟩
  · rw [Set.mem_ofPred_eq, after, List.take_succ_cons, List.flatten_cons, List.length_append]
    omega
  · cases k with
    | zero => exact absurd hk (Nat.not_lt.2 hheld)
    | succ k => exact Nat.succ_pos k

theorem Exceeds.after (hpart : held + part.length ≤ limit)
    (h : a.Exceeds limit (held + part.length) k) : (a.after part).Exceeds limit held (k + 1) := by
  have hshift (j : Nat) : held + ((a.after part).parts.take (j + 1)).flatten.length =
      held + part.length + (a.parts.take j).flatten.length := by
    rw [Arrival.after, List.take_succ_cons, List.flatten_cons, List.length_append, Nat.add_assoc]
  refine ⟨?_, fun j hj => ?_⟩
  · rw [Set.mem_ofPred_eq, hshift]
    exact h.1
  · cases j with
    | zero => exact absurd hj (Nat.not_lt.2 (Nat.le_trans (Nat.le_add_right _ _) hpart))
    | succ j =>
      rw [Set.mem_ofPred_eq, hshift] at hj
      exact Nat.succ_le_succ (h.2 hj)

theorem gathers_tooLarge {observed : Nat} (hheld : held ≤ limit)
    (hpart : limit < held + part.length) (hlt : limit < observed) (hle : observed ≤ limit + chunk) :
    (a.after part).Gathers limit chunk held (.error (.tooLarge limit observed)) 1 := by
  have htotal : limit < held + (a.after part).total := by
    rw [total_after]
    omega
  rw [Gathers, if_pos htotal]
  exact ⟨exceeds_first hheld hpart, observed, hlt, hle, rfl⟩

theorem gathers_broken {e : Failure} (hheld : held ≤ limit) :
    Gathers { parts := [], broken := some e } limit chunk held (.error (.unread e)) 1 := by
  have htotal : ¬ limit < held + total { parts := [], broken := some e } := Nat.not_lt.2 hheld
  rw [Gathers, if_neg htotal]
  exact ⟨rfl, rfl⟩

theorem gathers_last (hpart : held + part.length ≤ limit) :
    Gathers { parts := [part], broken := none } limit chunk held (.ok part) 1 := by
  have htotal : total { parts := [part], broken := none } = part.length := by
    rw [total, List.flatten_singleton]
  rw [Gathers, htotal, if_neg (Nat.not_lt.2 hpart), List.flatten_singleton]
  exact ⟨rfl, rfl⟩

theorem Gathers.after (hpart : held + part.length ≤ limit)
    (h : a.Gathers limit chunk (held + part.length) outcome pulled) :
    (a.after part).Gathers limit chunk held (prepend part outcome) (pulled + 1) := by
  rw [Gathers, Nat.add_assoc, ← total_after] at h
  rw [Gathers]
  by_cases htotal : limit < held + (a.after part).total
  · rw [if_pos htotal] at h ⊢
    obtain ⟨hleast, observed, hlt, hle, rfl⟩ := h
    exact ⟨hleast.after hpart, observed, hlt, hle, rfl⟩
  · rw [if_neg htotal] at h ⊢
    obtain ⟨rfl, rfl⟩ := h
    obtain ⟨parts, broken⟩ := a
    cases broken with
    | none => exact ⟨rfl, rfl⟩
    | some e => exact ⟨rfl, rfl⟩

end Arrival

end DigestGate
