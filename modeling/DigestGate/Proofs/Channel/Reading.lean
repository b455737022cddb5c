import DigestGate.Proofs.Channel.Arrival
import DigestGate.Proofs.Request.Buffering

namespace DigestGate.Reader

variable {r r' : Reader} {e : Failure} {receipt : Receipt} {part : Bytes} {more : Bool}
  {n limit held : Nat}

/-- A reader over a client, with nothing pending. -/
def waiting (coming : List Receipt) (pulled messages : Nat) : Reader :=
  { channel := .client coming pulled, messages }

theorem pull_error (hpart : receipt.part = .error e) (coming : List Receipt)
    (pulled messages : Nat) :
    ∃ r', (waiting (receipt :: coming) pulled messages).pull = (.error e, r') ∧
      r'.channel = .client coming (pulled + 1) := by
  cases receipt with
  | failure e' =>
    cases hpart
    exact ⟨_, rfl, rfl⟩
  | message m =>
    simp only [Receipt.part] at hpart
    simp only [waiting, pull, Channel.receive]
    by_cases hd : m.isDisconnect
    · rw [if_pos hd] at hpart ⊢
      cases hpart
      exact ⟨_, rfl, rfl⟩
    · rw [if_neg hd] at hpart ⊢
      by_cases hp : m.isPart
      · rw [if_pos hp] at hpart
        cases hpart
      · rw [if_neg hp] at hpart ⊢
        cases hpart
        exact ⟨_, rfl, rfl⟩

theorem pull_part (hpart : receipt.part = .ok (part, more)) (coming : List Receipt)
    (pulled messages : Nat) :
    (waiting (receipt :: coming) pulled messages).pull =
      (.ok (), {
        channel := .client coming (pulled + 1)
        pending := part
        ended := !more
        messages := messages + 1 }) := by
  obtain ⟨m, rfl, hd, hp, rfl, rfl⟩ := Receipt.exists_message_of_part hpart
  simp only [waiting, pull, Channel.receive]
  rw [if_neg hd, if_pos hp]
  rfl

theorem read_some (hr : r.closed = false) (n : Nat) :
    r.read (some (n : Int)) =
      match r.fill false with
      | (.error e, r) => (.error e, r)
      | (.ok (), r) => (.ok (r.pending.take n), { r with pending := r.pending.drop n }) := by
  simp only [read, hr]
  rfl

theorem read_pending (hr : r.closed = false) (hp : r.pending ≠ []) (n : Nat) :
    r.read (some (n : Int)) =
      (.ok (r.pending.take n), { r with pending := r.pending.drop n }) := by
  rw [read_some hr, fill, if_pos (by simp [hp])]

theorem read_ended (hr : r.closed = false) (hp : r.pending = []) (he : r.ended = true) (n : Nat) :
    r.read (some (n : Int)) = (.ok [], { r with pending := [] }) := by
  rw [read_some hr, fill, if_pos (by simp [he])]
  simp only [hp, List.take_nil, List.drop_nil]

theorem read_pull (hr : r.closed = false) (hp : r.pending = []) (he : r.ended = false)
    (hpull : r.pull = (.ok (), r')) (hr' : r'.closed = false)
    (hsupply : r'.channel.supply < r.channel.supply) (n : Nat) :
    r.read (some (n : Int)) = r'.read (some (n : Int)) := by
  rw [read_some hr, fill, if_neg (by simp [hp, he]), hpull]
  simp only [if_pos hsupply]
  rw [read_some hr']

theorem read_pull_error (hr : r.closed = false) (hp : r.pending = []) (he : r.ended = false)
    (hpull : r.pull = (.error e, r')) (n : Nat) :
    r.read (some (n : Int)) = (.error e, r') := by
  rw [read_some hr, fill, if_neg (by simp [hp, he]), hpull]

theorem draw_eq (n : Nat) (r : Reader) :
    BodySource.draw n r = ((r.read (some (n : Int))).1.map .bytes, (r.read (some (n : Int))).2) :=
  rfl

theorem draw_pending (hr : r.closed = false) (hp : r.pending ≠ []) (n : Nat) :
    BodySource.draw n r =
      (.ok (.bytes (r.pending.take n)), { r with pending := r.pending.drop n }) := by
  rw [draw_eq, read_pending hr hp]
  rfl

theorem draw_ended (hr : r.closed = false) (hp : r.pending = []) (he : r.ended = true) (n : Nat) :
    BodySource.draw n r = (.ok (.bytes []), { r with pending := [] }) := by
  rw [draw_eq, read_ended hr hp he]
  rfl

theorem draw_pull_error (hr : r.closed = false) (hp : r.pending = []) (he : r.ended = false)
    (hpull : r.pull = (.error e, r')) (n : Nat) : BodySource.draw n r = (.error e, r') := by
  rw [draw_eq, read_pull_error hr hp he hpull]
  rfl

theorem draw_pull (hr : r.closed = false) (hp : r.pending = []) (he : r.ended = false)
    (hpull : r.pull = (.ok (), r')) (hr' : r'.closed = false)
    (hsupply : r'.channel.supply < r.channel.supply) (n : Nat) :
    BodySource.draw n r = BodySource.draw n r' := by
  rw [draw_eq, draw_eq, read_pull hr hp he hpull hr' hsupply]

theorem gather_congr {read : Reader → Except Failure Piece × Reader} (h : read r = read r') :
    gather read limit held r = gather read limit held r' := by
  rw [gather, h, ← gather]

theorem gather_pending (hn : 0 < n) (r : Reader) (held : Nat) (hr : r.closed = false)
    (hle : held + r.pending.length ≤ limit) :
    let rest := gather (BodySource.draw n) limit (held + r.pending.length) { r with pending := [] }
    gather (BodySource.draw n) limit held r = (prepend r.pending rest.1, rest.2) := by
  intro rest
  by_cases hp : r.pending = []
  · have hrest : rest = gather (BodySource.draw n) limit held r := by
      simp only [rest, hp, List.length_nil, Nat.add_zero]
      rw [← hp]
    rw [hrest, hp, prepend_nil]
  · have hpos := List.length_pos_iff.2 hp
    have hpiece : r.pending.take n ≠ [] := by
      rw [← List.length_pos_iff, List.length_take]
      omega
    have hsplit : (r.pending.take n).length + (r.pending.drop n).length = r.pending.length := by
      rw [← List.length_append, List.take_append_drop]
    have hlater := gather_later (draw_pending hr hp n)
      (not_decisive_bytes.2 ⟨hpiece, show held + (r.pending.take n).length ≤ limit by omega⟩)
    rw [hlater, gather_pending hn { r with pending := r.pending.drop n }
      (held + (r.pending.take n).length) hr (by simp only; omega)]
    simp only [prepend_append, List.take_append_drop, Nat.add_assoc, hsplit]
    rfl
termination_by r.pending.length
decreasing_by
  simp only [List.length_drop]
  omega

/-- Pending bytes that exceed the limit end the gathering. -/
theorem gather_overflow (hn : 0 < n) (r : Reader) (held : Nat) (hr : r.closed = false)
    (hheld : held ≤ limit) (hlt : limit < held + r.pending.length) :
    ∃ observed rest, limit < observed ∧ observed ≤ limit + n ∧
      gather (BodySource.draw n) limit held r =
        (.error (.tooLarge limit observed), { r with pending := rest }) := by
  have hp : r.pending ≠ [] := by
    rw [← List.length_pos_iff]
    omega
  have hpiece : r.pending.take n ≠ [] := by
    rw [← List.length_pos_iff, List.length_take]
    omega
  have hlength : (r.pending.take n).length ≤ n := List.length_take_le n _
  have hsplit : (r.pending.take n).length + (r.pending.drop n).length = r.pending.length := by
    rw [← List.length_append, List.take_append_drop]
  by_cases hover : limit < held + (r.pending.take n).length
  · have hstop := gather_decisive (draw_pending hr hp n) (.inr hover)
    refine ⟨held + (r.pending.take n).length, r.pending.drop n, hover, by omega, ?_⟩
    obtain ⟨b, bs, hbytes⟩ := List.exists_cons_of_ne_nil hpiece
    rw [hstop, hbytes]
    rfl
  · have hlater := gather_later (draw_pending hr hp n)
      (not_decisive_bytes.2 ⟨hpiece, Nat.not_lt.1 hover⟩)
    obtain ⟨observed, rest, hlimit, hle, hrest⟩ :=
      gather_overflow hn { r with pending := r.pending.drop n } (held + (r.pending.take n).length)
        hr (Nat.not_lt.1 hover) (by simp only; omega)
    refine ⟨observed, rest, hlimit, hle, ?_⟩
    rw [hlater, hrest]
    rfl
termination_by r.pending.length
decreasing_by
  simp only [List.length_drop]
  omega

end DigestGate.Reader
