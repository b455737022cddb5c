import DigestGate.Proofs.Body.Progress
import DigestGate.Proofs.Channel.Receiving

namespace DigestGate

namespace StreamCall

/-- Calls that make a single reading. -/
def ReadsOnce : StreamCall → Prop
  | .read _ | .readInto _ => True
  | _ => False

def Reads : StreamCall → Prop
  | .read _ | .readInto _ | .readAll => True
  | _ => False

theorem ReadsOnce.reads {call : StreamCall} (h : call.ReadsOnce) : call.Reads := by
  cases call with
  | read | readInto => trivial
  | _ => exact h.elim

/-- The answer shows that the body has ended. -/
def Concludes : StreamCall → Except Failure StreamAnswer → Prop
  | .read size, .ok (.bytes bytes) => ShowsEnd size bytes
  | .readInto buffer, .ok (.filled count _) => 0 < buffer.length ∧ count = 0
  | .readAll, .ok _ => True
  | _, _ => False

end StreamCall

namespace Reader

variable {r : Reader} {c : Channel} {m : Message} {taken : Bytes} {n : Nat}

/-- A call that reads once preserves the account. -/
theorem Accounts.perform {call : StreamCall} (h : r.Accounts c n taken) (hcall : call.ReadsOnce) :
    ∃ k, Tells c n (r.perform call).1 k ∧
      (r.perform call).2.Accounts c k (taken ++ StreamAnswer.delivered (r.perform call).1) ∧
      (call.Concludes (r.perform call).1 →
        (r.perform call).2.ended = true ∧ (r.perform call).2.pending = []) := by
  cases call with
  | read size =>
    obtain ⟨k, htells, hread, hends⟩ := h.read size
    rw [Reader.perform]
    generalize r.read size = outcome at htells hread hends ⊢
    obtain ⟨e | bytes, next⟩ := outcome
    · exact ⟨k, htells.of_error, hread, False.elim⟩
    · exact ⟨k, htells.of_ok, hread, hends bytes rfl⟩
  | readInto buffer =>
    obtain ⟨k, htells, hread, hends⟩ := h.read (some buffer.length)
    rw [Reader.perform, readInto]
    generalize r.read (some buffer.length) = outcome at htells hread hends ⊢
    obtain ⟨e | bytes, next⟩ := outcome
    · exact ⟨k, htells.of_error, hread, False.elim⟩
    · refine ⟨k, htells.of_ok, ?_, ?_⟩
      · show Accounts c k (taken ++ (StreamAnswer.filled _ _).content) next
        rw [BodyStream.content_filled]
        exact hread
      · rintro ⟨hpos, hcount⟩
        refine hends bytes rfl fun m hm => ?_
        cases hm
        exact ⟨hpos, List.length_eq_zero_iff.1 hcount⟩
  | _ => exact hcall.elim

def performAll : List StreamCall → Reader → List (Except Failure StreamAnswer) × Reader
  | [], r => ([], r)
  | call :: calls, r =>
    let (answer, r) := r.perform call
    let (answers, r) := performAll calls r
    (answer :: answers, r)

theorem Accounts.performAll {calls : List StreamCall} (h : r.Accounts c n taken)
    (hcalls : ∀ call ∈ calls, call.ReadsOnce) :
    ∃ k, n ≤ k ∧ (r.performAll calls).2.Accounts c k
      (taken ++ (r.performAll calls).1.flatMap StreamAnswer.delivered) := by
  induction calls generalizing r n taken with
  | nil =>
    refine ⟨n, Nat.le_refl n, ?_⟩
    rw [Reader.performAll, List.flatMap_nil, List.append_nil]
    exact h
  | cons call calls ih =>
    obtain ⟨hcall, hcalls⟩ := List.forall_mem_cons.1 hcalls
    obtain ⟨k, htells, hperform, -⟩ := h.perform hcall
    obtain ⟨l, hle, hlast⟩ := ih hperform hcalls
    refine ⟨l, Nat.le_trans htells.le hle, ?_⟩
    rw [List.append_assoc] at hlast
    exact hlast

theorem drainBy_of_ended (hr : r.closed = false) (hended : r.ended = true) (size : Int)
    (fuel : Nat) :
    ∃ bytes rest, Readable.drainBy size fuel r = (.ok bytes, { r with pending := rest }) := by
  induction fuel generalizing r with
  | zero => exact ⟨[], r.pending, rfl⟩
  | succ fuel ih =>
    obtain ⟨bytes, rest, hread⟩ := read_of_ended hr hended (some size)
    have hread' : Readable.read (some size) r = (.ok bytes, { r with pending := rest }) := hread
    rw [Readable.drainBy, hread']
    cases bytes with
    | nil => exact ⟨[], rest, rfl⟩
    | cons b bs =>
      obtain ⟨bytes', rest', hlater⟩ := ih (r := { r with pending := rest }) hr hended
      simp only [hlater]
      exact ⟨b :: bs ++ bytes', rest', rfl⟩

theorem perform_of_ended {call : StreamCall} (hr : r.closed = false) (hended : r.ended = true)
    (hcall : call.Reads) :
    ∃ answer rest, r.perform call = (.ok answer, { r with pending := rest }) := by
  cases call with
  | read size =>
    obtain ⟨bytes, rest, hread⟩ := read_of_ended hr hended size
    rw [Reader.perform, hread]
    exact ⟨_, rest, rfl⟩
  | readInto buffer =>
    obtain ⟨bytes, rest, hread⟩ := read_of_ended hr hended (some buffer.length)
    rw [Reader.perform, readInto, hread]
    exact ⟨_, rest, rfl⟩
  | readAll =>
    obtain ⟨bytes, rest, hdrain⟩ := drainBy_of_ended hr hended drainSize (Readable.available r + 1)
    rw [Reader.perform, readAll, hdrain]
    exact ⟨_, rest, rfl⟩
  | _ => exact hcall.elim

theorem performAll_of_ended {calls : List StreamCall} (hr : r.closed = false)
    (hended : r.ended = true) (hcalls : ∀ call ∈ calls, call.Reads) :
    ∃ rest, (r.performAll calls).2 = { r with pending := rest } := by
  induction calls generalizing r with
  | nil => exact ⟨r.pending, rfl⟩
  | cons call calls ih =>
    obtain ⟨hcall, hcalls⟩ := List.forall_mem_cons.1 hcalls
    obtain ⟨answer, rest, hperform⟩ := perform_of_ended hr hended hcall
    obtain ⟨rest', hlater⟩ := ih (r := { r with pending := rest }) hr hended hcalls
    refine ⟨rest', ?_⟩
    rw [performAll, hperform]
    exact hlater

theorem Accounts.eq_pulled {coming : List Receipt} (h : r.Accounts (.ofClient coming) n taken) :
    r.channel.pulled = n := by
  rw [h.channel_eq, Channel.ofClient, Channel.left_client, Channel.pulled, Nat.zero_add]

theorem Accounts.exists_of_ended (h : r.Accounts c n taken) (hended : r.ended = true) :
    ∃ m ∈ c.received n, m.isFinal ∨ m.isDisconnect := by
  obtain ⟨m, hm, hfinal⟩ | ⟨m, hm, hdisconnect⟩ := h.ended_iff.1 hended
  · exact ⟨m, hm, .inl hfinal⟩
  · exact ⟨m, hm, .inr hdisconnect⟩

theorem Accounts.ended_of_mem (h : r.Accounts c n taken) (hm : m ∈ c.received n)
    (hends : m.isFinal ∨ m.isDisconnect) : r.ended = true :=
  h.ended_iff.2 (hends.imp (⟨m, hm, ·⟩) (⟨m, hm, ·⟩))

theorem Accounts.pending_prefix {call : StreamCall} (h : r.Accounts c n taken)
    (hcall : call.ReadsOnce) :
    r.pending <+: StreamAnswer.delivered (r.perform call).1 ++ (r.perform call).2.pending := by
  obtain ⟨k, htells, hnext, -⟩ := h.perform hcall
  obtain ⟨brought, hbrought⟩ := c.received_prefix htells.le
  have hbytes := hnext.bytes_eq
  rw [← hbrought, List.flatMap_append, ← h.bytes_eq, List.append_assoc, List.append_assoc] at hbytes
  exact ⟨_, (List.append_cancel_left hbytes).symm⟩

/-- The bytes returned and pending are those received, and nothing is received after the end. -/
theorem reads_account (coming : List Receipt) (calls : List StreamCall)
    (hcalls : ∀ call ∈ calls, call.ReadsOnce) :
    let c := Channel.ofClient coming
    let answers := (performAll calls { channel := c }).1
    let r := (performAll calls { channel := c }).2
    let received := c.received r.channel.pulled
    r.channel = c.left r.channel.pulled ∧
      answers.flatMap StreamAnswer.delivered ++ r.pending =
        received.flatMap Message.contribution ∧
      r.messages = received.length ∧
      (∀ call e next, call.ReadsOnce → r.perform call = (.error e, next) →
        r.pending <+: next.pending) ∧
      ((∃ m ∈ received, m.isFinal ∨ m.isDisconnect) →
        ∀ later : List StreamCall, (∀ call ∈ later, call.ReadsOnce) →
          (r.performAll later).2.channel = r.channel) ∧
      ∀ (size : Int) next, 0 < size → r.perform (.read (some size)) = (.ok (.bytes []), next) →
        r.pending = [] ∧ ∃ m ∈ c.received next.channel.pulled, m.isFinal ∨ m.isDisconnect := by
  intro c answers r received
  obtain ⟨n, -, haccounts⟩ := (accounts_start (c := c) trivial).performAll hcalls
  have hpulled : r.channel.pulled = n := haccounts.eq_pulled
  have hreceived : received = c.received n := congrArg (Channel.received · c) hpulled
  rw [hreceived, hpulled]
  refine ⟨haccounts.channel_eq, haccounts.bytes_eq, haccounts.messages_eq, ?_, ?_, ?_⟩
  · intro call e next hcall hperform
    have hprefix := haccounts.pending_prefix hcall
    rwa [hperform] at hprefix
  · rintro ⟨m, hm, hends⟩ later hlater
    obtain ⟨rest, hlast⟩ := performAll_of_ended haccounts.closed_eq
      (haccounts.ended_of_mem hm hends) fun call hcall => (hlater call hcall).reads
    rw [hlast]
  · intro size next hsize hperform
    have hcall : (StreamCall.read (some size)).ReadsOnce := trivial
    obtain ⟨k, -, hnext, hends⟩ := haccounts.perform hcall
    have hprefix := haccounts.pending_prefix hcall
    rw [hperform] at hnext hends hprefix
    obtain ⟨hended, hpending⟩ := hends (showsEnd_of_pos hsize)
    rw [hnext.eq_pulled]
    rw [hpending] at hprefix
    exact ⟨List.prefix_nil.1 hprefix, hnext.exists_of_ended hended⟩

def interrupted : Channel :=
  .ofClient [.message (.part [7, 8] true), .failure (.fault (.source .system "lost"))]

theorem performAll_interrupted :
    performAll [.read (some 1)] { channel := interrupted } =
      ([.ok (.bytes [7])], { channel := interrupted.left 1, pending := [8], messages := 1 }) := by
  have hpull := pull_of_part (r := { channel := interrupted }) rfl rfl
  have hread : Reader.read (some 1) { channel := interrupted } =
      (.ok [7], { channel := interrupted.left 1, pending := [8], messages := 1 }) :=
    (read_pull rfl rfl rfl hpull rfl (by decide) 1).trans (read_pending rfl (by decide) 1)
  rw [performAll, Reader.perform, hread]
  rfl

theorem reads_account_interrupted :
    (∀ call ∈ [StreamCall.read (some 1)], call.ReadsOnce) ∧
      ∀ e next, Reader.perform (.read none) (performAll [.read (some 1)]
        { channel := interrupted }).2 = (.error e, next) → [8] <+: next.pending := by
  have hcalls : ∀ call ∈ [StreamCall.read (some 1)], call.ReadsOnce :=
    List.forall_mem_singleton.2 trivial
  obtain ⟨-, -, -, hkeeps, -⟩ := reads_account
    [.message (.part [7, 8] true), .failure (.fault (.source .system "lost"))] _ hcalls
  refine ⟨hcalls, fun e next hperform => ?_⟩
  have hpending := hkeeps (.read none) e next trivial hperform
  have hrun := performAll_interrupted
  rw [interrupted] at hrun
  rwa [hrun] at hpending

end Reader

end DigestGate
