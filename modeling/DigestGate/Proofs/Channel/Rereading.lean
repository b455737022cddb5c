import DigestGate.Proofs.Channel.Reading
import DigestGate.Proofs.Channel.Replay

namespace DigestGate

variable {stream : BodyStream} {size limit n : Nat}

namespace Reader

/-- A reader over a replay, with nothing pending. -/
def rereading (stream : BodyStream) (size : Nat) (beneath : Channel) (messages : Nat) : Reader :=
  { channel := .replaying stream size beneath, messages }

def fed (next : BodyStream) (size : Nat) (beneath : Channel) (piece : Bytes) (messages : Nat) :
    Reader where
  channel := .replay next size next.rest.isEmpty beneath
  pending := piece
  ended := next.rest.isEmpty
  messages := messages + 1

theorem draw_rereading (hopen : stream.closed = false) (hsize : 0 < size) (beneath : Channel)
    (messages n : Nat) :
    ∃ next : BodyStream, next.closed = false ∧ next.rest = stream.rest.drop size ∧
      BodySource.draw n (rereading stream size beneath messages) =
        BodySource.draw n (fed next size beneath (stream.rest.take size) messages) := by
  obtain ⟨next, hnext, hdrop, hreceive⟩ := Channel.receive_take hopen size beneath
  refine ⟨next, hnext, hdrop, ?_⟩
  have hpull : (rereading stream size beneath messages).pull =
      (.ok (), fed next size beneath (stream.rest.take size) messages) := by
    simp only [rereading, pull, hreceive, fed]
    cases next.rest.isEmpty <;> rfl
  refine draw_pull rfl rfl rfl hpull rfl ?_ n
  show (Channel.replay next size next.rest.isEmpty beneath).supply <
    stream.rest.length + 1 + beneath.supply
  cases hrest : next.rest with
  | nil =>
    show beneath.supply < _
    omega
  | cons b bs =>
    have hlength := congrArg List.length (hrest.symm.trans hdrop)
    rw [List.length_cons, List.length_drop] at hlength
    show next.rest.length + 1 + beneath.supply < _
    rw [hrest, List.length_cons]
    omega

/-- Gathering from a replay depends on the rest of its stream only. -/
theorem gather_rereading (hn : 0 < n) (hsize : 0 < size) (stream : BodyStream)
    (hopen : stream.closed = false) (beneath : Channel) (messages held : Nat)
    (hheld : held ≤ limit) :
    ∃ outcome last,
      gather (BodySource.draw n) limit held (rereading stream size beneath messages) =
        (outcome, last) ∧ last.channel.beneath? = some beneath ∧
      (held + stream.rest.length ≤ limit → outcome = .ok stream.rest) ∧
      (limit < held + stream.rest.length → ∃ observed, limit < observed ∧ observed ≤ limit + n ∧
        outcome = .error (.tooLarge limit observed)) := by
  obtain ⟨next, hnext, hdrop, hdraw⟩ := draw_rereading hopen hsize beneath messages n
  have hsplit : stream.rest.take size ++ next.rest = stream.rest := by
    rw [hdrop, List.take_append_drop]
  have hlength : (stream.rest.take size).length + next.rest.length = stream.rest.length := by
    rw [← List.length_append, hsplit]
  rw [gather_congr hdraw]
  by_cases hover : limit < held + (stream.rest.take size).length
  · obtain ⟨observed, rest, hlt, hle, hstop⟩ := gather_overflow hn
      (fed next size beneath (stream.rest.take size) messages) held rfl hheld hover
    refine ⟨_, _, hstop, rfl, fun hwithin => ?_, fun _ => ⟨observed, hlt, hle, rfl⟩⟩
    omega
  · have hwithin := Nat.not_lt.1 hover
    rw [gather_pending hn _ held rfl hwithin]
    simp only [fed]
    by_cases hrest : next.rest = []
    · rw [hrest, List.append_nil] at hsplit
      rw [gather_decisive (draw_ended rfl rfl (List.isEmpty_iff.2 hrest) n) (.inl rfl), hsplit]
      refine ⟨_, _, rfl, rfl, fun _ => congrArg Except.ok (List.append_nil _), fun hlt => ?_⟩
      rw [hsplit] at hwithin
      omega
    · have hpos := List.length_pos_iff.2 hrest
      have hlt : next.rest.length < stream.rest.length := by
        rw [hdrop, List.length_drop] at hpos ⊢
        omega
      obtain ⟨outcome, last, hgather, hbeneath, hwhole, htooLarge⟩ :=
        gather_rereading hn hsize next hnext beneath (messages + 1) _ hwithin
      rw [rereading, Channel.replaying] at hgather
      rw [List.isEmpty_eq_false_iff.2 hrest, hgather]
      refine ⟨_, _, rfl, hbeneath, fun hle => ?_, fun hover => ?_⟩
      · rw [hwhole (by omega)]
        exact congrArg Except.ok hsplit
      · obtain ⟨observed, hlimit, hle, rfl⟩ := htooLarge (by omega)
        exact ⟨observed, hlimit, hle, rfl⟩
termination_by stream.rest.length

end Reader

end DigestGate
