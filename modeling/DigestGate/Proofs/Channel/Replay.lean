import DigestGate.Proofs.Channel.Delivery
import DigestGate.Request.Exchange
import Mathlib.Data.List.Basic

namespace DigestGate

namespace Replay

variable {body : Bytes} {size i : Nat}

/-- The `i`-th piece of a body divided into pieces of `size` bytes. -/
def piece (body : Bytes) (size i : Nat) : Bytes :=
  body.extract (i * size) ((i + 1) * size)

/-- The number of messages that replay a body, one for an empty body. -/
def count (body : Bytes) (size : Nat) : Nat :=
  max 1 ((body.length + size - 1) / size)

theorem piece_eq (body : Bytes) (size i : Nat) :
    piece body size i = (body.drop (i * size)).take size := by
  rw [piece, List.extract_eq_take_drop, Nat.succ_mul, Nat.add_sub_cancel_left]

theorem drop_succ_mul (body : Bytes) (size i : Nat) :
    (body.drop (i * size)).drop size = body.drop ((i + 1) * size) := by
  rw [List.drop_drop, Nat.succ_mul]

theorem count_pos (body : Bytes) (size : Nat) : 0 < count body size :=
  Nat.lt_of_lt_of_le Nat.one_pos (Nat.le_max_left 1 _)

theorem succ_lt_count_iff (hsize : 0 < size) :
    i + 1 < count body size ↔ (i + 1) * size < body.length := by
  have hquotient := Nat.div_le_iff_le_mul_add_pred (a := body.length + size - 1) (c := i + 1) hsize
  rw [Nat.mul_comm] at hquotient
  rw [count]
  omega

theorem isEmpty_drop (hsize : 0 < size) (body : Bytes) (i : Nat) :
    (body.drop ((i + 1) * size)).isEmpty = !decide (i + 1 < count body size) := by
  rw [Bool.eq_iff_iff, List.isEmpty_iff, List.drop_eq_nil_iff, Bool.not_eq_true',
    decide_eq_false_iff_not, succ_lt_count_iff hsize, Nat.not_lt]

theorem flatten_pieces (body : Bytes) (size n : Nat) :
    ((List.range n).map (piece body size)).flatten = body.take (n * size) := by
  induction n with
  | zero => rw [Nat.zero_mul]; rfl
  | succ n ih =>
    rw [List.range_succ, List.map_append, List.flatten_append, ih, List.map_singleton,
      List.flatten_singleton, piece_eq, Nat.succ_mul, List.take_add]

theorem flatten_all (hsize : 0 < size) :
    ((List.range (count body size)).map (piece body size)).flatten = body := by
  have hcover : body.length ≤ count body size * size := by
    obtain ⟨n, hn⟩ := Nat.exists_eq_add_one.2 (count_pos body size)
    have hend : ¬ n + 1 < count body size := by omega
    rwa [succ_lt_count_iff hsize, ← hn, Nat.not_lt] at hend
  rw [flatten_pieces, List.take_of_length_le hcover]

theorem piece_ne_nil (hsize : 0 < size) (hi : i + 1 < count body size) :
    piece body size i ≠ [] := by
  rw [succ_lt_count_iff hsize, Nat.succ_mul] at hi
  rw [← List.length_pos_iff, piece_eq, List.length_take, List.length_drop]
  omega

theorem piece_nil (size i : Nat) : piece [] size i = [] := by
  rw [piece_eq, List.drop_nil, List.take_nil]

theorem count_nil (hsize : 0 < size) : count [] size = 1 := by
  have hquotient : (0 + size - 1) / size = 0 := Nat.div_eq_of_lt (by omega)
  rw [count, List.length_nil, hquotient]
  rfl

end Replay

namespace Channel

variable {body : Bytes} {size i : Nat}

/-- The channel after so many receipts. -/
def left : Nat → Channel → Channel
  | 0, c => c
  | count + 1, c => (left count c).receive.2

def beneath? : Channel → Option Channel
  | .client _ _ => none
  | .replay _ _ _ beneath => some beneath

section Replaying

variable {stream : BodyStream} (hopen : stream.closed = false)
include hopen

/-- A receipt takes one piece off the stream. -/
theorem receive_take (size : Nat) (beneath : Channel) :
    ∃ next : BodyStream, next.closed = false ∧ next.rest = stream.rest.drop size ∧
      (replaying stream size beneath).receive =
        (.ok (.part (stream.rest.take size) !next.rest.isEmpty),
          replay next size next.rest.isEmpty beneath) :=
  ⟨(stream.advance (some (size : Int))).2, hopen, rfl, receive_replay hopen size beneath⟩

theorem receive_piece (hsize : 0 < size) (hrest : stream.rest = body.drop (i * size))
    (beneath : Channel) :
    ∃ next : BodyStream, next.closed = false ∧ next.rest = body.drop ((i + 1) * size) ∧
      (replaying stream size beneath).receive =
        (.ok (.part (Replay.piece body size i) (decide (i + 1 < Replay.count body size))),
          replay next size (!decide (i + 1 < Replay.count body size)) beneath) := by
  obtain ⟨next, hnext, hdrop, hreceive⟩ := receive_take hopen size beneath
  rw [hrest, Replay.drop_succ_mul] at hdrop
  rw [hdrop, Replay.isEmpty_drop hsize, hrest, ← Replay.piece_eq, Bool.not_not] at hreceive
  exact ⟨next, hnext, hdrop, hreceive⟩

theorem left_replay (hsize : 0 < size) (hrest : stream.rest = body) (beneath : Channel)
    (hi : i < Replay.count body size) :
    ∃ now : BodyStream, now.closed = false ∧ now.rest = body.drop (i * size) ∧
      (replaying stream size beneath).left i = replaying now size beneath := by
  induction i with
  | zero => exact ⟨stream, hopen, by rw [hrest, Nat.zero_mul]; rfl, rfl⟩
  | succ i ih =>
    obtain ⟨now, hnow, hrest, hleft⟩ := ih (Nat.lt_of_succ_lt hi)
    obtain ⟨next, hnext, hdrop, hreceive⟩ := receive_piece hnow hsize hrest beneath
    refine ⟨next, hnext, hdrop, ?_⟩
    rw [left, hleft, hreceive, decide_eq_true hi]
    rfl

theorem receive_left_replay (hsize : 0 < size) (hrest : stream.rest = body) (beneath : Channel)
    (hi : i < Replay.count body size) :
    ∃ next : BodyStream, ((replaying stream size beneath).left i).receive =
      (.ok (.part (Replay.piece body size i) (decide (i + 1 < Replay.count body size))),
        replay next size (!decide (i + 1 < Replay.count body size)) beneath) := by
  obtain ⟨now, hnow, hrest, hleft⟩ := left_replay hopen hsize hrest beneath hi
  obtain ⟨next, _, _, hreceive⟩ := receive_piece hnow hsize hrest beneath
  rw [hleft]
  exact ⟨next, hreceive⟩

/-- After its last piece, a replay continues as the channel beneath. -/
theorem left_replay_add (hsize : 0 < size) (hrest : stream.rest = body) (beneath : Channel) :
    ∃ last : BodyStream, ∀ k,
      (replaying stream size beneath).left (Replay.count body size + k) =
        replay last size true (beneath.left k) := by
  obtain ⟨n, hn⟩ := Nat.exists_eq_add_one.2 (Replay.count_pos body size)
  obtain ⟨last, hreceive⟩ := receive_left_replay hopen hsize hrest beneath
    (by rw [hn]; exact Nat.lt_succ_self n)
  rw [← hn, decide_eq_false (Nat.lt_irrefl _)] at hreceive
  refine ⟨last, fun k => ?_⟩
  induction k with
  | zero =>
    rw [hn]
    show ((replaying stream size beneath).left n).receive.2 = _
    rw [hreceive]
    rfl
  | succ k ih =>
    rw [← Nat.add_assoc, left, ih]
    rfl

end Replaying

/-- The channel delivers `body` in pieces of `size` bytes and continues as `beneath`. -/
structure Replays (c : Channel) (body : Bytes) (size : Nat) (beneath : Channel) : Prop where
  receive_eq : ∀ i < Replay.count body size, (c.left i).receive.1 =
    .ok (.part (Replay.piece body size i) (decide (i + 1 < Replay.count body size)))
  untouched : ∀ i < Replay.count body size, (c.left (i + 1)).beneath? = some beneath
  later : ∀ k, (c.left (Replay.count body size + k)).receive.1 = (beneath.left k).receive.1
  beneath_later : ∀ k, (c.left (Replay.count body size + k)).beneath? = some (beneath.left k)
  flatten_eq : ((List.range (Replay.count body size)).map (Replay.piece body size)).flatten = body
  final : ∃! i, i < Replay.count body size ∧
    ∃ m, (c.left i).receive.1 = .ok m ∧ m.isPart ∧ ¬ m.hasMore
  piece_ne : ∀ i, i + 1 < Replay.count body size → Replay.piece body size i ≠ []
  empty : body = [] → Replay.count body size = 1 ∧ c.receive.1 = .ok (.part [] false)

theorem replays_replaying {stream : BodyStream} (hopen : stream.closed = false)
    (hrest : stream.rest = body) (hsize : 0 < size) (beneath : Channel) :
    (replaying stream size beneath).Replays body size beneath := by
  have hpos := Replay.count_pos body size
  have hpiece {i : Nat} (hi : i < Replay.count body size) :=
    receive_left_replay hopen hsize hrest beneath hi
  obtain ⟨last, hlater⟩ := left_replay_add hopen hsize hrest beneath
  refine ⟨fun i hi => ?_, fun i hi => ?_, fun k => ?_, fun k => ?_, Replay.flatten_all hsize, ?_,
    fun i hi => Replay.piece_ne_nil hsize hi, ?_⟩
  · obtain ⟨next, hreceive⟩ := hpiece hi
    rw [hreceive]
  · obtain ⟨next, hreceive⟩ := hpiece hi
    rw [left, hreceive]
    rfl
  · rw [hlater k]
    rfl
  · rw [hlater k]
    rfl
  · have hlast := Nat.sub_lt hpos Nat.one_pos
    refine ⟨Replay.count body size - 1, ⟨hlast, ?_⟩, ?_⟩
    · obtain ⟨next, hreceive⟩ := hpiece hlast
      rw [Nat.sub_add_cancel hpos, decide_eq_false (Nat.lt_irrefl _)] at hreceive
      exact ⟨_, congrArg Prod.fst hreceive, rfl, Bool.noConfusion⟩
    · rintro i ⟨hi, m, hm, _, hmore⟩
      obtain ⟨next, hreceive⟩ := hpiece hi
      rw [hreceive] at hm
      cases hm
      have hend : ¬ i + 1 < Replay.count body size := mt decide_eq_true hmore
      omega
  · rintro rfl
    obtain ⟨next, hreceive⟩ := hpiece hpos
    rw [Replay.count_nil hsize, Replay.piece_nil] at hreceive
    exact ⟨Replay.count_nil hsize, congrArg Prod.fst hreceive⟩

end Channel

namespace Host

variable {σ : Type}

/-- The body of a buffered request is replayed in pieces over any channel. -/
theorem openBody_replays (h : Host σ) (s : σ) (body : Bytes)
    (hbody : (h.request s).phase = .buffered body) (size : Nat) (hsize : 0 < size)
    (beneath : Channel) :
    ∃ stream : BodyStream, h.openBody s = (.ok (.replay stream), s) ∧
      (Channel.replaying stream size beneath).Replays body size beneath := by
  refine ⟨(h.request s).replay body, by rw [openBody, hbody], ?_⟩
  exact Channel.replays_replaying rfl rfl hsize beneath

theorem openBody_replays_pairs :
    let s : Solo Reader := {
      request := { limits := ⟨10, 4, by decide⟩, state := .buffered, body := some [1, 2, 3] }
      source := { channel := .ofClient [] } }
    ∃ stream : BodyStream, Solo.host.openBody s = (.ok (.replay stream), s) ∧
      let c := Channel.replaying stream 2 (.ofClient [])
      c.receive.1 = .ok (.part [1, 2] true) ∧ (c.left 1).receive.1 = .ok (.part [3] false) ∧
        (c.left 2).beneath? = some (.ofClient []) ∧ (c.left 2).receive.1 = .ok .disconnect := by
  intro s
  obtain ⟨stream, hopen, hreplays⟩ :=
    openBody_replays Solo.host s [1, 2, 3] rfl 2 (by decide) (.ofClient [])
  exact ⟨stream, hopen, hreplays.receive_eq 0 (by decide), hreplays.receive_eq 1 (by decide),
    hreplays.untouched 1 (by decide), hreplays.later 0⟩

end Host

end DigestGate
