import DigestGate.Proofs.Channel.Accounting

namespace DigestGate

namespace Channel

def brings : Except Failure Message → Nat
  | .ok m => m.payload.length
  | .error _ => 0

theorem bytesLeft_message (m : Message) (coming : List Receipt) (pulled : Nat) :
    (client (.message m :: coming) pulled).bytesLeft =
      m.payload.length + (client coming (pulled + 1)).bytesLeft :=
  rfl

theorem bytesLeft_failure (e : Failure) (coming : List Receipt) (pulled : Nat) :
    (client (.failure e :: coming) pulled).bytesLeft = (client coming (pulled + 1)).bytesLeft :=
  Nat.zero_add _

theorem bytesLeft_receive (c : Channel) :
    brings c.receive.1 + c.receive.2.bytesLeft ≤ c.bytesLeft := by
  induction c with
  | client coming pulled =>
    rcases coming with _ | ⟨m | e, coming⟩
    · exact Nat.le_refl 0
    · exact Nat.le_of_eq (bytesLeft_message m coming pulled).symm
    · rw [bytesLeft_failure]
      exact Nat.le_of_eq (Nat.zero_add _)
  | replay stream chunk done beneath ih =>
    cases done with
    | true => exact ih
    | false =>
      cases hclosed : stream.closed with
      | true =>
        rw [receive, BodyStream.read_closed hclosed]
        exact Nat.le_of_eq (Nat.zero_add _)
      | false =>
        have hlength : stream.rest.length = _ :=
          congrArg List.length (stream.yields_advance (some chunk)).rest_eq
        rw [List.length_append] at hlength
        have hreceive := receive_replay hclosed chunk beneath
        rw [replaying] at hreceive
        generalize stream.advance (some chunk) = advanced at hlength hreceive
        obtain ⟨piece, next⟩ := advanced
        have hlength : stream.rest.length = piece.length + next.rest.length := hlength
        rw [hreceive]
        show piece.length + bytesLeft (.replay next chunk next.rest.isEmpty beneath) ≤
          stream.rest.length + beneath.bytesLeft
        have hleft : bytesLeft (.replay next chunk next.rest.isEmpty beneath) ≤
            next.rest.length + beneath.bytesLeft := by
          cases next.rest.isEmpty with
          | true => exact Nat.le_add_left _ _
          | false => exact Nat.le_refl _
        omega

end Channel

theorem StreamCall.Concludes.exists_ok {call : StreamCall} {answer : Except Failure StreamAnswer}
    (h : call.Concludes answer) : ∃ a, answer = .ok a := by
  cases answer with
  | ok a => exact ⟨a, rfl⟩
  | error e => cases call <;> exact h.elim

namespace Reader

variable {r : Reader} {c : Channel} {taken : Bytes} {n : Nat}

theorem available_eq (r : Reader) :
    Readable.available r = r.pending.length + r.channel.bytesLeft :=
  rfl

/-- The bytes pending after a pull came from the channel. -/
theorem available_pull (r : Reader) : Readable.available r.pull.2 ≤ Readable.available r := by
  have hbytes := r.channel.bytesLeft_receive
  rcases hreceive : r.channel.receive with ⟨e | m, next⟩
  · rw [hreceive] at hbytes
    have hleft : 0 + next.bytesLeft ≤ r.channel.bytesLeft := hbytes
    rw [pull_of_failure hreceive, available_eq, available_eq]
    simp only
    omega
  · rw [hreceive] at hbytes
    have hleft : m.payload.length + next.bytesLeft ≤ r.channel.bytesLeft := hbytes
    by_cases hd : m.isDisconnect
    · rw [pull_of_disconnect hreceive hd, available_eq, available_eq]
      simp only
      omega
    · by_cases hm : m.isPart
      · rw [pull_of_part hreceive hm, available_eq, available_eq]
        simp only [List.length_append]
        omega
      · rw [pull_of_other hreceive hd hm, available_eq, available_eq]
        simp only
        omega

theorem available_fill (all : Bool) (r : Reader) :
    Readable.available (r.fill all).2 ≤ Readable.available r := by
  have hpull : ∀ r' : Reader, Readable.available r' ≤ Readable.available r →
      Readable.available r'.pull.2 ≤ Readable.available r :=
    fun r' hle => Nat.le_trans (available_pull r') hle
  exact keeps_fill hpull all (Nat.le_refl _)

theorem available_read (hr : r.closed = false) (size : Option Int) :
    (bytesOf (r.read size).1).length + Readable.available (r.read size).2 ≤
      Readable.available r := by
  obtain ⟨all, filled, hcases⟩ := read_cases hr size
  have hle := available_fill all r
  obtain ⟨e, hfill, hread⟩ | ⟨bytes, rest, hfill, hsplit, hread, -⟩ := hcases
  · rw [hfill] at hle
    rw [hread]
    exact Nat.le_trans (Nat.le_of_eq (Nat.zero_add _)) hle
  · rw [hfill, available_eq, ← hsplit, List.length_append] at hle
    rw [hread, available_eq]
    simp only [bytesOf] at hle ⊢
    omega

theorem Accounts.drainBy {size : Int} (hsize : 0 < size) (fuel : Nat) (h : r.Accounts c n taken) :
    ∃ k taken', Tells c n (Readable.drainBy size fuel r).1 k ∧
      (Readable.drainBy size fuel r).2.Accounts c k taken' ∧
      (∀ bytes, (Readable.drainBy size fuel r).1 = .ok bytes → Readable.available r < fuel →
        (Readable.drainBy size fuel r).2.ended = true) := by
  induction fuel generalizing r n taken with
  | zero => exact ⟨n, taken, .refl c n _, h, fun _ _ hlt => absurd hlt (Nat.not_lt_zero _)⟩
  | succ fuel ih =>
    obtain ⟨k, htells, hread, hends⟩ := h.read (some size)
    have hle := available_read h.closed_eq (some size)
    have hread_eq : Readable.read (some size) r = r.read (some size) := rfl
    rw [Readable.drainBy, hread_eq]
    generalize r.read (some size) = outcome at htells hread hends hle ⊢
    obtain ⟨e | ⟨_ | ⟨b, bs⟩⟩, next⟩ := outcome
    · exact ⟨k, _, htells, hread, fun _ hok => by cases hok⟩
    · refine ⟨k, _, htells, hread, fun _ _ _ => ?_⟩
      exact (hends [] rfl (showsEnd_of_pos hsize)).1
    · obtain ⟨l, taken', hlater, hlast, hends'⟩ := ih hread
      simp only
      generalize Readable.drainBy size fuel next = drained at hlater hlast hends' ⊢
      obtain ⟨e | rest, last⟩ := drained
      · exact ⟨l, taken', htells.trans hlater, hlast, fun _ hok => by cases hok⟩
      · refine ⟨l, taken', htells.trans hlater.of_ok, hlast, ?_⟩
        intro _ _ hlt
        have hle : bs.length + 1 + Readable.available next ≤ Readable.available r := hle
        have hleft : Readable.available next < fuel := by omega
        exact hends' rest rfl hleft

theorem Accounts.ask {call : StreamCall} (h : r.Accounts c n taken) (hcall : call.Reads) :
    ∃ k taken', Tells c n (r.perform call).1 k ∧ (r.perform call).2.Accounts c k taken' ∧
      (call.Concludes (r.perform call).1 → (r.perform call).2.ended = true) := by
  cases call with
  | readAll =>
    have hsize : 0 < drainSize := by decide
    obtain ⟨k, taken', htells, hdrain, hends⟩ := h.drainBy hsize (Readable.available r + 1)
    rw [Reader.perform, readAll]
    generalize Readable.drainBy drainSize (Readable.available r + 1) r = outcome at *
    obtain ⟨e | bytes, next⟩ := outcome
    · exact ⟨k, taken', htells.of_error, hdrain, False.elim⟩
    · exact ⟨k, taken', htells.of_ok, hdrain, fun _ => hends bytes rfl (Nat.lt_succ_self _)⟩
  | read size =>
    have honce : (StreamCall.read size).ReadsOnce := trivial
    obtain ⟨k, htells, hread, hends⟩ := h.perform honce
    exact ⟨k, _, htells, hread, fun hconcludes => (hends hconcludes).1⟩
  | readInto buffer =>
    have honce : (StreamCall.readInto buffer).ReadsOnce := trivial
    obtain ⟨k, htells, hread, hends⟩ := h.perform honce
    exact ⟨k, _, htells, hread, fun hconcludes => (hends hconcludes).1⟩
  | _ => exact hcall.elim

theorem Accounts.askAll {calls : List StreamCall} (h : r.Accounts c n taken)
    (hcalls : ∀ call ∈ calls, call.Reads) :
    ∃ k taken', (r.performAll calls).2.Accounts c k taken' ∧
      (c.HungUp k → c.HungUp n ∨ .error (.fault .disconnected) ∈ (r.performAll calls).1) := by
  induction calls generalizing r n taken with
  | nil => exact ⟨n, taken, h, .inl⟩
  | cons call calls ih =>
    obtain ⟨hcall, hcalls⟩ := List.forall_mem_cons.1 hcalls
    obtain ⟨k, taken', htells, hask, -⟩ := h.ask hcall
    obtain ⟨l, taken'', hlast, hlater⟩ := ih hask hcalls
    refine ⟨l, taken'', hlast, fun hup => ?_⟩
    obtain hearlier | hmem := hlater hup
    · exact (htells.told hearlier).imp_right fun herror => List.mem_cons.2 (.inl herror.symm)
    · exact .inr (List.mem_cons_of_mem _ hmem)

/-- An answer that ends the body follows its last part or a reported disconnect. -/
theorem concludes_completed_or_told (coming : List Receipt) (calls : List StreamCall)
    (call : StreamCall) (hcalls : ∀ call ∈ calls, call.Reads) (hcall : call.Reads) :
    let c := Channel.ofClient coming
    let answers := (performAll calls { channel := c }).1
    let r := (performAll calls { channel := c }).2
    let answer := (r.perform call).1
    let next := (r.perform call).2
    (call.Concludes answer → c.Completed next.channel.pulled ∨
        c.HungUp r.channel.pulled ∧ .error (.fault .disconnected) ∈ answers) ∧
      (c.HungUp r.channel.pulled → .error (.fault .disconnected) ∈ answers ∧
        ¬ c.Completed next.channel.pulled ∧ ∃ a, answer = .ok a) := by
  intro c answers r answer next
  obtain ⟨n, taken, haccounts, htold⟩ := (accounts_start (c := c) trivial).askAll hcalls
  obtain ⟨k, taken', htells, hnext, hends⟩ := haccounts.ask hcall
  have hpulled : r.channel.pulled = n := haccounts.eq_pulled
  have hpulled' : next.channel.pulled = k := hnext.eq_pulled
  have hstart : ¬ c.HungUp 0 := by simp [Channel.HungUp, Channel.received]
  rw [hpulled, hpulled']
  refine ⟨fun hconcludes => ?_, fun hup => ?_⟩
  · obtain hdone | hup := hnext.ended_iff.1 (hends hconcludes)
    · exact .inl hdone
    · obtain ⟨a, ha⟩ := hconcludes.exists_ok
      have hearlier : c.HungUp n := (htells.told hup).resolve_right fun herror => by
        cases ha.symm.trans herror
      exact .inr ⟨hearlier, (htold hearlier).resolve_left hstart⟩
  · obtain ⟨a, rest, hperform⟩ :=
      perform_of_ended haccounts.closed_eq (haccounts.ended_iff.2 (.inr hup)) hcall
    refine ⟨(htold hup).resolve_left hstart, fun hdone => ?_, a, congrArg Prod.fst hperform⟩
    exact hnext.exclusive hdone (hup.mono htells.le)

def brokenOff : Channel :=
  .ofClient [.message (.part [97, 98] true)]

theorem read_brokenOff :
    Reader.read (some 4) { channel := brokenOff } =
      (.ok [97, 98], { channel := brokenOff.left 1, messages := 1 }) := by
  have hpull := pull_of_part (r := { channel := brokenOff }) rfl rfl
  exact (read_pull rfl rfl rfl hpull rfl (by decide) 4).trans (read_pending rfl (by decide) 4)

theorem read_brokenOff_later :
    Reader.read (some 4) { channel := brokenOff.left 1, messages := 1 } =
      (.error (.fault .disconnected),
        { channel := brokenOff.left 2, messages := 2, ended := true }) :=
  read_pull_error rfl rfl rfl (pull_of_disconnect rfl rfl) 4

theorem performAll_brokenOff :
    performAll [.read (some 4), .read (some 4)] { channel := brokenOff } =
      ([.ok (.bytes [97, 98]), .error (.fault .disconnected)],
        { channel := brokenOff.left 2, messages := 2, ended := true }) := by
  rw [performAll, Reader.perform, read_brokenOff, answering]
  simp only
  rw [performAll, Reader.perform, read_brokenOff_later]
  rfl

theorem perform_brokenOff :
    Reader.perform (.read (some 4)) (performAll [.read (some 4), .read (some 4)]
      { channel := brokenOff }).2 =
      (.ok (.bytes []), { channel := brokenOff.left 2, messages := 2, ended := true }) := by
  have hread : Reader.read (some 4) { channel := brokenOff.left 2, messages := 2, ended := true } =
      (.ok [], { channel := brokenOff.left 2, messages := 2, ended := true }) :=
    read_ended rfl rfl rfl 4
  rw [performAll_brokenOff, Reader.perform, hread]
  rfl

theorem concludes_completed_or_told_brokenOff :
    (∀ call ∈ [StreamCall.read (some 4), .read (some 4)], call.Reads) ∧
      StreamCall.Reads (.read (some 4)) ∧
      ¬ brokenOff.Completed (Reader.perform (.read (some 4)) (performAll
        [.read (some 4), .read (some 4)] { channel := brokenOff }).2).2.channel.pulled := by
  have hcalls : ∀ call ∈ [StreamCall.read (some 4), .read (some 4)], call.Reads :=
    List.forall_mem_cons.2 ⟨trivial, List.forall_mem_singleton.2 trivial⟩
  have hup : brokenOff.HungUp 2 := ⟨.disconnect, by decide, rfl⟩
  refine ⟨hcalls, trivial, ?_⟩
  obtain ⟨-, hgone⟩ := concludes_completed_or_told [.message (.part [97, 98] true)] _
    (.read (some 4)) hcalls trivial
  have hrun := performAll_brokenOff
  rw [brokenOff] at hrun hup ⊢
  exact (hgone (by rw [hrun]; exact hup)).2.1

/-- After a reported disconnect, an incomplete body reads as ended. -/
theorem concludes_incomplete :
    StreamCall.Concludes (.read (some 4)) (Reader.perform (.read (some 4))
        (performAll [.read (some 4), .read (some 4)] { channel := brokenOff }).2).1 ∧
      ¬ brokenOff.Completed (Reader.perform (.read (some 4)) (performAll
        [.read (some 4), .read (some 4)] { channel := brokenOff }).2).2.channel.pulled := by
  rw [perform_brokenOff]
  have hnone : ∀ m ∈ brokenOff.received 2, ¬ m.isFinal := by decide
  refine ⟨showsEnd_of_pos (by decide), ?_⟩
  rintro ⟨m, hm, hfinal⟩
  exact hnone m hm hfinal

end Reader

end DigestGate
