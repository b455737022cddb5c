import DigestGate.Body.Stream

namespace DigestGate

inductive Receipt where
  | message (message : Message)
  | failure (failure : Failure)
deriving DecidableEq, Repr

/-- A client, whose messages are followed by disconnects, or a replay above another channel. -/
inductive Channel where
  | client (coming : List Receipt) (pulled : Nat)
  | replay (stream : BodyStream) (chunk : Int) (done : Bool) (beneath : Channel)
deriving DecidableEq, Repr

namespace Channel

def ofClient (coming : List Receipt) : Channel :=
  .client coming 0

/-- The replay of a stream in pieces of `size` bytes, before the channel beneath. -/
def replaying (stream : BodyStream) (chunk : Int) (beneath : Channel) : Channel :=
  .replay stream chunk false beneath

def pulled : Channel → Nat
  | .client _ pulled => pulled
  | .replay _ _ _ beneath => beneath.pulled

def receive : Channel → Except Failure Message × Channel
  | .client [] pulled => (.ok .disconnect, .client [] (pulled + 1))
  | .client (.message m :: coming) pulled => (.ok m, .client coming (pulled + 1))
  | .client (.failure e :: coming) pulled => (.error e, .client coming (pulled + 1))
  | .replay stream chunk true beneath =>
    let (answer, beneath) := beneath.receive
    (answer, .replay stream chunk true beneath)
  | .replay stream chunk false beneath =>
    match stream.read (some chunk) with
    | (.error e, stream) => (.error e, .replay stream chunk false beneath)
    | (.ok piece, stream) =>
      let done := stream.rest.isEmpty
      (.ok (.part piece !done), .replay stream chunk done beneath)

/-- An upper bound on the messages before the disconnects. -/
def supply : Channel → Nat
  | .client coming _ => coming.length
  | .replay _ _ true beneath => beneath.supply
  | .replay stream _ false beneath => stream.rest.length + 1 + beneath.supply

/-- An upper bound on the bytes in the messages left. -/
def bytesLeft : Channel → Nat
  | .client coming _ =>
    (coming.map fun
      | .message m => m.payload.length
      | .failure _ => 0).sum
  | .replay _ _ true beneath => beneath.bytesLeft
  | .replay stream _ false beneath => stream.rest.length + beneath.bytesLeft

/-- No replay in the channel has pieces of size zero. -/
def Flows : Channel → Prop
  | .client _ _ => True
  | .replay _ chunk _ beneath => chunk ≠ 0 ∧ beneath.Flows

theorem supply_receive {c c' : Channel} {m : Message} (hc : c.Flows) (h : c.receive = (.ok m, c')) :
    m.isDisconnect = true ∨ c'.supply < c.supply := by
  induction c generalizing c' with
  | client coming pulled =>
    match coming with
    | [] => cases h; exact .inl rfl
    | .message _ :: _ => cases h; exact .inr (by simp [supply])
    | .failure _ :: _ => simp [receive] at h
  | replay stream chunk done beneath ih =>
    cases done with
    | true =>
      simp only [receive, Prod.mk.injEq] at h
      obtain ⟨hm, rfl⟩ := h
      have hreceive : beneath.receive = (.ok m, beneath.receive.2) := Prod.ext hm rfl
      show m.isDisconnect = true ∨ beneath.receive.2.supply < beneath.supply
      exact ih hc.2 hreceive
    | false =>
      simp only [receive, BodyStream.read] at h
      split at h
      · simp at h
      · next heq =>
        split at heq
        · simp at heq
        · simp only [Prod.mk.injEq, BodyStream.advance] at heq h
          obtain ⟨-, rfl⟩ := heq
          obtain ⟨-, rfl⟩ := h
          refine .inr ?_
          generalize hlast : List.isEmpty _ = last
          have hle := stream.length_rest_read_le (some chunk)
          cases last with
          | true =>
            simp only [supply]
            omega
          | false =>
            have hrest : stream.rest ≠ [] := fun h => by
              rw [h] at hle
              simp_all
            have := stream.rest_read_lt hc.1 hrest
            simp only [supply]
            omega

theorem Flows.receive {c c' : Channel} {a : Except Failure Message} (hc : c.Flows)
    (h : c.receive = (a, c')) : c'.Flows := by
  induction c generalizing c' with
  | client coming pulled =>
    match coming with
    | [] => cases h; trivial
    | .message _ :: _ => cases h; trivial
    | .failure _ :: _ => cases h; trivial
  | replay stream chunk done beneath ih =>
    cases done with
    | true =>
      simp only [Channel.receive, Prod.mk.injEq] at h
      obtain ⟨rfl, rfl⟩ := h
      exact ⟨hc.1, ih hc.2 rfl⟩
    | false =>
      simp only [Channel.receive] at h
      split at h <;> cases h <;> exact hc

end Channel

end DigestGate
