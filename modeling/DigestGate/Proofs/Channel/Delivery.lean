import DigestGate.Proofs.Channel.Arrival

namespace DigestGate

namespace Channel

/-- The channel delivers the parts of a body and continues as the last argument. -/
inductive Delivers : Channel → Bytes → Channel → Prop where
  | last {c left : Channel} {m : Message} :
      c.receive = (.ok m, left) → m.isPart → ¬ m.hasMore → Delivers c m.payload left
  | more {c next left : Channel} {m : Message} {body : Bytes} :
      c.receive = (.ok m, next) → m.isPart → m.hasMore → Delivers next body left →
      Delivers c (m.payload ++ body) left

def answers : Nat → Channel → List (Except Failure Message)
  | 0, _ => []
  | count + 1, c => c.receive.1 :: answers count c.receive.2

/-- The channel delivers `body` and then answers as `rest` does. -/
def Conveys (c : Channel) (body : Bytes) (rest : Channel) : Prop :=
  ∃ left, c.Delivers body left ∧ left.pulled = rest.pulled ∧
    ∀ count, left.answers count = rest.answers count

variable {c left left' : Channel} {body body' : Bytes}

theorem Delivers.unique (h : c.Delivers body left) (h' : c.Delivers body' left') :
    body = body' ∧ left = left' := by
  induction h generalizing body' with
  | last hreceive hpart hlast =>
    cases h' with
    | last hreceive' =>
      cases hreceive.symm.trans hreceive'
      exact ⟨rfl, rfl⟩
    | more hreceive' _ hmore =>
      cases hreceive.symm.trans hreceive'
      exact absurd hmore hlast
  | more hreceive hpart hmore _ ih =>
    cases h' with
    | last hreceive' _ hlast =>
      cases hreceive.symm.trans hreceive'
      exact absurd hmore hlast
    | more hreceive' _ _ hrest =>
      cases hreceive.symm.trans hreceive'
      obtain ⟨rfl, rfl⟩ := ih hrest
      exact ⟨rfl, rfl⟩

/-- A client delivers an arrival that is not cut short. -/
theorem delivers_client (coming : List Receipt) (pulled : Nat)
    (hwhole : (Arrival.ofReceipts coming).broken = none) :
    (client coming pulled).Delivers (Arrival.ofReceipts coming).parts.flatten
      (client (coming.drop (Arrival.ofReceipts coming).parts.length)
        (pulled + (Arrival.ofReceipts coming).parts.length)) := by
  induction coming generalizing pulled with
  | nil => cases hwhole
  | cons receipt coming ih =>
    cases hpart : receipt.part with
    | error e =>
      rw [Arrival.ofReceipts, hpart] at hwhole
      cases hwhole
    | ok brought =>
      obtain ⟨part, more⟩ := brought
      obtain ⟨m, rfl, _, hm, rfl, rfl⟩ := Receipt.exists_message_of_part hpart
      cases hmore : m.hasMore with
      | false =>
        rw [hmore] at hpart
        rw [Arrival.ofReceipts, hpart, List.flatten_singleton]
        exact .last rfl hm (by rw [hmore]; exact Bool.noConfusion)
      | true =>
        rw [hmore] at hpart
        rw [Arrival.ofReceipts, hpart] at hwhole ⊢
        have hlater := ih (pulled + 1) hwhole
        rw [Nat.add_right_comm] at hlater
        exact .more rfl hm hmore hlater

theorem answers_replay (stream : BodyStream) (chunk : Int) (beneath : Channel) (count : Nat) :
    (replay stream chunk true beneath).answers count = beneath.answers count := by
  induction count generalizing beneath with
  | zero => rfl
  | succ count ih => exact congrArg (beneath.receive.1 :: ·) (ih beneath.receive.2)

theorem receive_replay {stream : BodyStream} (hopen : stream.closed = false) (chunk : Int)
    (beneath : Channel) :
    let next := (stream.advance (some chunk)).2
    (replaying stream chunk beneath).receive =
      (.ok (.part (stream.advance (some chunk)).1 !next.rest.isEmpty),
        replay next chunk next.rest.isEmpty beneath) := by
  intro next
  rw [replaying, receive, BodyStream.read, hopen]
  rfl

/-- A replay delivers the rest of its stream and continues as the channel beneath. -/
theorem delivers_replay (stream : BodyStream) (hopen : stream.closed = false) {chunk : Int}
    (hchunk : chunk ≠ 0) (beneath : Channel) :
    ∃ last, (replaying stream chunk beneath).Delivers stream.rest
      (replay last chunk true beneath) := by
  let next := (stream.advance (some chunk)).2
  have hsplit : (stream.advance (some chunk)).1 ++ next.rest = stream.rest :=
    stream.take_append_rest _
  have hreceive : (replaying stream chunk beneath).receive =
      (.ok (.part (stream.advance (some chunk)).1 !next.rest.isEmpty),
        replay next chunk next.rest.isEmpty beneath) :=
    receive_replay hopen chunk beneath
  by_cases hrest : next.rest = []
  · have hpiece : (stream.advance (some chunk)).1 = stream.rest := by
      rw [← hsplit, hrest, List.append_nil]
    rw [hrest] at hreceive
    refine ⟨next, ?_⟩
    rw [← hpiece]
    exact .last hreceive rfl Bool.noConfusion
  · have hne : stream.rest ≠ [] := by
      intro hnil
      rw [hnil] at hsplit
      exact hrest (List.append_eq_nil_iff.1 hsplit).2
    have hlt : next.rest.length < stream.rest.length := stream.rest_read_lt hchunk hne
    obtain ⟨last, hlater⟩ := delivers_replay next hopen hchunk beneath
    rw [List.isEmpty_eq_false_iff.2 hrest] at hreceive
    refine ⟨last, ?_⟩
    rw [← hsplit]
    exact .more hreceive rfl rfl hlater
termination_by stream.rest.length

theorem Delivers.conveys (h : c.Delivers body left) : c.Conveys body left :=
  ⟨left, h, rfl, fun _ => rfl⟩

theorem conveys_replay (stream : BodyStream) (hopen : stream.closed = false) {chunk : Int}
    (hchunk : chunk ≠ 0) (beneath : Channel) :
    (replaying stream chunk beneath).Conveys stream.rest beneath := by
  obtain ⟨last, hdelivers⟩ := delivers_replay stream hopen hchunk beneath
  exact ⟨_, hdelivers, rfl, answers_replay last chunk beneath⟩

end Channel

end DigestGate
