import DigestGate.Body.Readable

namespace DigestGate

namespace Bytes

/-- The bytes through the next line feed, cut at an optional limit. -/
def line : Option Nat → Bytes → Bytes
  | _, [] => []
  | limit, b :: bs =>
    if limit = some 0 then []
    else if b = 0x0A then [b]
    else b :: line (limit.map (· - 1)) bs

theorem line_none_ne_nil {bytes : Bytes} (h : bytes ≠ []) : line none bytes ≠ [] := by
  obtain ⟨b, bs, rfl⟩ := List.exists_cons_of_ne_nil h
  rw [line, if_neg (Option.some_ne_none 0).symm]
  by_cases hfeed : b = 0x0A
  · rw [if_pos hfeed]
    exact List.cons_ne_nil b []
  · rw [if_neg hfeed]
    exact List.cons_ne_nil b _

theorem length_drop_line {bytes : Bytes} (h : bytes ≠ []) :
    (bytes.drop (line none bytes).length).length < bytes.length := by
  have hline := List.length_pos_iff.2 (line_none_ne_nil h)
  have hbytes := List.length_pos_iff.2 h
  rw [List.length_drop]
  omega

/-- The lines through the first one that brings their total above a positive `hint`. -/
def lines (hint : Option Nat) (total : Nat) (bytes : Bytes) : List Bytes :=
  if _h : bytes = [] then []
  else if hint.any fun h => 0 < h && h < total + (line none bytes).length then [line none bytes]
  else
    line none bytes ::
      lines hint (total + (line none bytes).length) (bytes.drop (line none bytes).length)
termination_by bytes.length
decreasing_by exact length_drop_line _h

end Bytes

namespace Readable

variable {σ : Type} [Readable σ] {P : σ → Bytes → Prop} {s : σ} {bytes : Bytes} {fuel : Nat}

/-- In a state with `P s bytes`, the stream is open and its readings are prefixes of `bytes`. -/
structure Serves (P : σ → Bytes → Prop) : Prop where
  isClosed_eq : ∀ {s bytes}, P s bytes → isClosed s = false
  length_le : ∀ {s bytes}, P s bytes → bytes.length ≤ available s
  read_all : ∀ {s bytes size}, P s bytes → bound size = none →
    ∃ next, read size s = (.ok bytes, next) ∧ P next []
  read_some : ∀ {s bytes} {n : Nat}, P s bytes → 0 < n →
    ∃ piece rest next, read (some (n : Int)) s = (.ok piece, next) ∧ piece ++ rest = bytes ∧
      piece.length ≤ n ∧ (piece = [] → rest = []) ∧ P next rest

namespace Serves

theorem read_one (h : Serves P) (hs : P s bytes) :
    ∃ next, read (some 1) s = (.ok (bytes.take 1), next) ∧ P next (bytes.drop 1) := by
  obtain ⟨piece, rest, next, hread, rfl, hlength, hnothing, hnext⟩ := h.read_some hs Nat.one_pos
  cases piece with
  | nil =>
    obtain rfl := hnothing rfl
    exact ⟨next, hread, hnext⟩
  | cons b bs =>
    obtain rfl : bs = [] := List.length_eq_zero_iff.1 (by rw [List.length_cons] at hlength; omega)
    exact ⟨next, hread, hnext⟩

theorem lineWithin (h : Serves P) (limit : Option Nat) (hs : P s bytes)
    (hfuel : bytes.length < fuel) :
    ∃ next, Readable.lineWithin fuel limit s = (.ok (Bytes.line limit bytes), next) ∧
      P next (bytes.drop (Bytes.line limit bytes).length) := by
  induction fuel generalizing limit s bytes with
  | zero => exact absurd hfuel (Nat.not_lt_zero _)
  | succ fuel ih =>
    rw [Readable.lineWithin]
    by_cases hlimit : limit = some 0
    · have hline : Bytes.line limit bytes = [] := by
        cases bytes with
        | nil => rfl
        | cons b bs => rw [Bytes.line, if_pos hlimit]
      rw [if_pos hlimit, hline]
      exact ⟨s, rfl, hs⟩
    · obtain ⟨next, hread, hnext⟩ := h.read_one hs
      rw [if_neg hlimit, hread]
      cases bytes with
      | nil => exact ⟨next, rfl, hnext⟩
      | cons b bs =>
        simp only [List.take_succ_cons, List.take_zero, Bytes.line, if_neg hlimit]
        by_cases hfeed : b = 0x0A
        · rw [if_pos hfeed, if_pos hfeed]
          exact ⟨next, rfl, hnext⟩
        · rw [if_neg hfeed, if_neg hfeed]
          obtain ⟨last, hline, hlast⟩ :=
            ih (limit.map (· - 1)) hnext (Nat.lt_of_succ_lt_succ hfuel)
          have hline' : Readable.lineWithin fuel (limit.map (· - 1)) next =
              (.ok (Bytes.line (limit.map (· - 1)) bs), last) := hline
          rw [hline']
          exact ⟨last, rfl, hlast⟩

theorem linesWithin (h : Serves P) {longest : Nat} (hint : Option Nat) (total : Nat)
    (hs : P s bytes) (hlongest : bytes.length < longest) (hfuel : bytes.length < fuel) :
    ∃ next, Readable.linesWithin longest fuel hint total s =
        (.ok (Bytes.lines hint total bytes), next) ∧
      P next (bytes.drop (Bytes.lines hint total bytes).flatten.length) := by
  induction fuel generalizing total s bytes with
  | zero => exact absurd hfuel (Nat.not_lt_zero _)
  | succ fuel ih =>
    obtain ⟨next, hline, hnext⟩ := h.lineWithin none hs hlongest
    rw [Readable.linesWithin, hline, Bytes.lines]
    by_cases hbytes : bytes = []
    · subst hbytes
      exact ⟨next, rfl, hnext⟩
    · have hshorter := Bytes.length_drop_line hbytes
      obtain ⟨b, bs, hcons⟩ := List.exists_cons_of_ne_nil (Bytes.line_none_ne_nil hbytes)
      rw [dif_neg hbytes]
      rw [hcons] at hnext hshorter ⊢
      simp only
      split
      · rw [List.flatten_singleton]
        exact ⟨next, rfl, hnext⟩
      · obtain ⟨last, hlines, hlast⟩ := ih (total + (b :: bs).length) hnext
          (Nat.lt_trans hshorter hlongest) (by omega)
        rw [hlines]
        rw [List.drop_drop, ← List.length_append, ← List.flatten_cons] at hlast
        exact ⟨last, rfl, hlast⟩

/-- Pieces of one size, up to the first empty one, are all of the rest. -/
theorem drainBy (h : Serves P) {size : Nat} (hsize : 0 < size) (hs : P s bytes)
    (hfuel : bytes.length < fuel) :
    ∃ next, Readable.drainBy size fuel s = (.ok bytes, next) ∧ P next [] := by
  induction fuel generalizing s bytes with
  | zero => exact absurd hfuel (Nat.not_lt_zero _)
  | succ fuel ih =>
    obtain ⟨piece, rest, next, hread, rfl, -, hnothing, hnext⟩ := h.read_some hs hsize
    rw [Readable.drainBy, hread]
    cases piece with
    | nil =>
      obtain rfl := hnothing rfl
      exact ⟨next, rfl, hnext⟩
    | cons b bs =>
      rw [List.length_append, List.length_cons] at hfuel
      obtain ⟨last, hdrain, hlast⟩ := ih hnext (by omega)
      simp only [hdrain]
      exact ⟨last, rfl, hlast⟩

end Serves

end Readable

end DigestGate
