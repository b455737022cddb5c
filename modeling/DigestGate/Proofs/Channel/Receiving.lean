import DigestGate.Proofs.Channel.Reading
import DigestGate.Proofs.Channel.Replay

namespace DigestGate

namespace Message

def contribution (m : Message) : Bytes :=
  if m.isPart then m.payload else []

def isFinal (m : Message) : Bool :=
  m.isPart && !m.hasMore

theorem not_isPart_of_isDisconnect {m : Message} (h : m.isDisconnect) : ¬ m.isPart := by
  rw [isDisconnect, beq_iff_eq] at h
  rw [isPart, h]
  decide

end Message

namespace Channel

variable {c : Channel} {n k : Nat} {m : Message} {e : Failure}

/-- The messages among the next receipts. -/
def received : Nat → Channel → List Message
  | 0, _ => []
  | n + 1, c => received n c ++ ((c.left n).receive.1.toOption).toList

def Completed (n : Nat) (c : Channel) : Prop :=
  ∃ m ∈ c.received n, m.isFinal

def HungUp (n : Nat) (c : Channel) : Prop :=
  ∃ m ∈ c.received n, m.isDisconnect

theorem received_succ_of_ok (h : (c.left n).receive.1 = .ok m) :
    c.received (n + 1) = c.received n ++ [m] := by
  rw [received, h]
  rfl

theorem received_succ_of_error (h : (c.left n).receive.1 = .error e) :
    c.received (n + 1) = c.received n := by
  rw [received, h]
  exact List.append_nil _

theorem received_prefix (c : Channel) (h : n ≤ k) : c.received n <+: c.received k := by
  induction h with
  | refl => exact List.prefix_refl _
  | step _ ih => exact ih.trans (List.prefix_append _ _)

theorem HungUp.mono (h : c.HungUp n) (hle : n ≤ k) : c.HungUp k :=
  h.imp fun _ hm => ⟨(c.received_prefix hle).mem hm.1, hm.2⟩

theorem completed_succ (h : (c.left n).receive.1 = .ok m) :
    c.Completed (n + 1) ↔ c.Completed n ∨ m.isFinal := by
  simp only [Completed, received_succ_of_ok h, List.mem_append, List.mem_singleton, or_and_right,
    exists_or, exists_eq_left]

theorem hungUp_succ (h : (c.left n).receive.1 = .ok m) :
    c.HungUp (n + 1) ↔ c.HungUp n ∨ m.isDisconnect := by
  simp only [HungUp, received_succ_of_ok h, List.mem_append, List.mem_singleton, or_and_right,
    exists_or, exists_eq_left]

theorem left_client (coming : List Receipt) (pulled n : Nat) :
    (client coming pulled).left n = client (coming.drop n) (pulled + n) := by
  induction n with
  | zero => rfl
  | succ n ih =>
    rw [left, ih, ← List.tail_drop]
    rcases coming.drop n with _ | ⟨_ | _, _⟩ <;> rfl

end Channel

/-- A reading that is unbounded, or of positive size and empty. -/
def ShowsEnd (size : Option Int) (bytes : Bytes) : Prop :=
  ∀ n, Readable.bound size = some n → 0 < n ∧ bytes = []

theorem showsEnd_of_pos {size : Int} (hsize : 0 < size) : ShowsEnd (some size) [] := by
  intro n hn
  cases size with
  | ofNat size =>
    cases hn
    exact ⟨Int.natCast_pos.1 hsize, rfl⟩
  | negSucc size => cases hn

namespace Reader

variable {r : Reader} {c next : Channel} {m : Message} {e : Failure} {taken : Bytes} {n : Nat}

theorem pull_of_failure (h : r.channel.receive = (.error e, next)) :
    r.pull = (.error e, { r with channel := next }) := by
  rw [pull, h]

theorem pull_of_disconnect (h : r.channel.receive = (.ok m, next)) (hm : m.isDisconnect) :
    r.pull = (.error (.fault .disconnected),
      { r with channel := next, messages := r.messages + 1, ended := true }) := by
  rw [pull, h]
  simp only [if_pos hm]

theorem pull_of_part (h : r.channel.receive = (.ok m, next)) (hm : m.isPart) :
    r.pull = (.ok (), { r with
      channel := next
      messages := r.messages + 1
      pending := r.pending ++ m.payload
      ended := r.ended || !m.hasMore }) := by
  rw [pull, h]
  simp only [if_neg (mt Message.not_isPart_of_isDisconnect (not_not_intro hm)), if_pos hm]

theorem pull_of_other (h : r.channel.receive = (.ok m, next)) (hd : ¬ m.isDisconnect)
    (hm : ¬ m.isPart) :
    r.pull = (.error (.fault (.unexpectedMessage m.type)),
      { r with channel := next, messages := r.messages + 1 }) := by
  rw [pull, h]
  simp only [if_neg hd, if_neg hm]

/-- The bytes taken from the reader and those pending are the bytes of the first `n` receipts. -/
structure Accounts (c : Channel) (n : Nat) (taken : Bytes) (r : Reader) : Prop where
  channel_eq : r.channel = c.left n
  flows : r.channel.Flows
  closed_eq : r.closed = false
  messages_eq : r.messages = (c.received n).length
  bytes_eq : taken ++ r.pending = (c.received n).flatMap Message.contribution
  ended_iff : r.ended = true ↔ c.Completed n ∨ c.HungUp n
  exclusive : c.Completed n → ¬ c.HungUp n

theorem accounts_start (hc : c.Flows) : Accounts c 0 [] { channel := c } where
  channel_eq := rfl
  flows := hc
  closed_eq := rfl
  messages_eq := rfl
  bytes_eq := rfl
  ended_iff := by simp [Channel.Completed, Channel.HungUp, Channel.received]
  exclusive := by simp [Channel.Completed, Channel.received]

theorem Accounts.not_hungUp (h : r.Accounts c n taken) (hended : r.ended = false) :
    ¬ c.HungUp n := by
  intro hup
  rw [h.ended_iff.2 (.inr hup)] at hended
  cases hended

theorem Accounts.not_completed (h : r.Accounts c n taken) (hended : r.ended = false) :
    ¬ c.Completed n := by
  intro hdone
  rw [h.ended_iff.2 (.inl hdone)] at hended
  cases hended

theorem Accounts.receive (h : r.Accounts c n taken) (hended : r.ended = false)
    (hreceive : r.channel.receive = (.ok m, next)) :
    Accounts c (n + 1) taken { r with
      channel := next
      messages := r.messages + 1
      pending := r.pending ++ m.contribution
      ended := m.isFinal || m.isDisconnect } := by
  have hflows : next.Flows := h.flows.receive hreceive
  rw [h.channel_eq] at hreceive
  have hm : (c.left n).receive.1 = .ok m := congrArg Prod.fst hreceive
  refine ⟨congrArg Prod.snd hreceive.symm, hflows, h.closed_eq, ?_, ?_, ?_, ?_⟩
  · rw [Channel.received_succ_of_ok hm, List.length_append, h.messages_eq]
    rfl
  · rw [Channel.received_succ_of_ok hm, List.flatMap_append, List.flatMap_singleton, ← h.bytes_eq,
      List.append_assoc]
  · rw [Channel.completed_succ hm, Channel.hungUp_succ hm]
    simp only [h.not_completed hended, h.not_hungUp hended, false_or, Bool.or_eq_true]
  · rw [Channel.completed_succ hm, Channel.hungUp_succ hm]
    rintro (hdone | hfinal) (hup | hdisconnect)
    · exact h.not_completed hended hdone
    · exact h.not_completed hended hdone
    · exact h.not_hungUp hended hup
    · rw [Message.isFinal, Bool.and_eq_true] at hfinal
      exact Message.not_isPart_of_isDisconnect hdisconnect hfinal.1

theorem Accounts.failure (h : r.Accounts c n taken)
    (hreceive : r.channel.receive = (.error e, next)) :
    Accounts c (n + 1) taken { r with channel := next } := by
  have hflows : next.Flows := h.flows.receive hreceive
  rw [h.channel_eq] at hreceive
  have hm : (c.left n).receive.1 = .error e := congrArg Prod.fst hreceive
  have hreceived := Channel.received_succ_of_error hm
  refine ⟨congrArg Prod.snd hreceive.symm, hflows, h.closed_eq, ?_, ?_, ?_, ?_⟩
  · rw [hreceived]
    exact h.messages_eq
  · rw [hreceived]
    exact h.bytes_eq
  · rw [Channel.Completed, Channel.HungUp, hreceived]
    exact h.ended_iff
  · rw [Channel.Completed, Channel.HungUp, hreceived]
    exact h.exclusive

/-- A disconnect among the receipts from `n` to `k` is reported by the outcome. -/
structure Tells {α : Type} (c : Channel) (n : Nat) (outcome : Except Failure α) (k : Nat) :
    Prop where
  le : n ≤ k
  told : c.HungUp k → c.HungUp n ∨ outcome = .error (.fault .disconnected)

section Tells

variable {α β : Type} {k l : Nat}

theorem Tells.refl (c : Channel) (n : Nat) (outcome : Except Failure α) : Tells c n outcome n :=
  ⟨Nat.le_refl n, .inl⟩

theorem Tells.of_ok {a : α} {b : β} (h : Tells c n (.ok a) k) : Tells c n (.ok b) k where
  le := h.le
  told hup := by
    obtain hearlier | herror := h.told hup
    · exact .inl hearlier
    · cases herror

theorem Tells.of_error (h : Tells c n (.error e : Except Failure α) k) :
    Tells c n (.error e : Except Failure β) k where
  le := h.le
  told hup := by
    obtain hearlier | herror := h.told hup
    · exact .inl hearlier
    · cases herror
      exact .inr rfl

theorem Tells.trans {a : α} {outcome : Except Failure β} (h : Tells c n (.ok a) k)
    (hlater : Tells c k outcome l) : Tells c n outcome l where
  le := Nat.le_trans h.le hlater.le
  told hup := by
    obtain hearlier | herror := hlater.told hup
    · obtain hstart | hok := h.told hearlier
      · exact .inl hstart
      · cases hok
    · exact .inr herror

end Tells

/-- A pull extends the account by one receipt. -/
theorem Accounts.pull (h : r.Accounts c n taken) (hended : r.ended = false) :
    Tells c n r.pull.1 (n + 1) ∧ r.pull.2.Accounts c (n + 1) taken := by
  rcases hreceive : r.channel.receive with ⟨answer, next⟩
  cases answer with
  | error e =>
    rw [pull_of_failure hreceive]
    refine ⟨⟨Nat.le_succ n, fun hup => .inl ?_⟩, h.failure hreceive⟩
    rw [h.channel_eq] at hreceive
    rwa [Channel.HungUp, Channel.received_succ_of_error (congrArg Prod.fst hreceive)] at hup
  | ok m =>
    have htook := h.receive hended hreceive
    by_cases hd : m.isDisconnect
    · rw [pull_of_disconnect hreceive hd]
      refine ⟨⟨Nat.le_succ n, fun _ => .inr rfl⟩, ?_⟩
      simpa [Message.contribution, Message.not_isPart_of_isDisconnect hd, hd] using htook
    · have hstays : c.HungUp (n + 1) → c.HungUp n := by
        rw [h.channel_eq] at hreceive
        rw [Channel.hungUp_succ (congrArg Prod.fst hreceive)]
        exact fun hup => hup.resolve_right hd
      refine ⟨⟨Nat.le_succ n, fun hup => .inl (hstays hup)⟩, ?_⟩
      by_cases hm : m.isPart
      · rw [pull_of_part hreceive hm]
        simpa [Message.contribution, Message.isFinal, hm, hd, hended] using htook
      · rw [pull_of_other hreceive hd hm]
        simpa [Message.contribution, Message.isFinal, hm, hd, hended] using htook

theorem not_ended_of_fill {all : Bool} (hgo : ¬ (r.ended || (!all && !r.pending.isEmpty)) = true) :
    r.ended = false := by
  simp only [Bool.or_eq_true, not_or, Bool.not_eq_true] at hgo
  exact hgo.1

/-- A property preserved by each message is preserved by filling. -/
theorem keeps_fill {P : Reader → Prop} (hpull : ∀ r, P r → P r.pull.2) (all : Bool) (hr : P r) :
    P (r.fill all).2 := by
  induction r using fill.induct all with
  | case1 r hstop =>
    rw [Reader.fill, if_pos hstop]
    exact hr
  | case2 r hgo e next hnext =>
    have hkept := hpull r hr
    rw [hnext] at hkept
    rw [Reader.fill, if_neg hgo, hnext]
    exact hkept
  | case3 r hgo next hnext hlt ih =>
    have hkept := hpull r hr
    rw [hnext] at hkept
    rw [Reader.fill, if_neg hgo, hnext]
    simp only [if_pos hlt]
    exact ih hkept
  | case4 r hgo next hnext hge =>
    have hkept := hpull r hr
    rw [hnext] at hkept
    rw [Reader.fill, if_neg hgo, hnext]
    simp only [if_neg hge]
    exact hkept

theorem Accounts.fill (h : r.Accounts c n taken) (all : Bool) :
    ∃ k, Tells c n (r.fill all).1 k ∧ (r.fill all).2.Accounts c k taken ∧
      ((r.fill all).1 = .ok () →
        (r.fill all).2.ended = true ∨ all = false ∧ (r.fill all).2.pending ≠ []) := by
  induction r using fill.induct all generalizing n with
  | case1 r hstop =>
    rw [Reader.fill, if_pos hstop]
    refine ⟨n, .refl c n _, h, fun _ => ?_⟩
    simpa using hstop
  | case2 r hgo e r' hpull =>
    obtain ⟨htells, hnext⟩ := h.pull (not_ended_of_fill hgo)
    rw [hpull] at htells hnext
    rw [Reader.fill, if_neg hgo, hpull]
    exact ⟨n + 1, htells, hnext, fun hok => by cases hok⟩
  | case3 r hgo next hpull hlt ih =>
    obtain ⟨htells, hnext⟩ := h.pull (not_ended_of_fill hgo)
    rw [hpull] at htells hnext
    obtain ⟨k, hlater, hlast, hfilled⟩ := ih hnext
    rw [Reader.fill, if_neg hgo, hpull]
    simp only [if_pos hlt]
    exact ⟨k, htells.trans hlater, hlast, hfilled⟩
  | case4 r hgo next hpull hle => exact absurd (supply_pull h.flows hpull) hle

def bytesOf : Except Failure Bytes → Bytes
  | .ok bytes => bytes
  | .error _ => []

theorem Accounts.give {bytes rest : Bytes} (h : r.Accounts c n taken)
    (hsplit : bytes ++ rest = r.pending) :
    Accounts c n (taken ++ bytes) { r with pending := rest } :=
  { h with bytes_eq := by rw [List.append_assoc, hsplit, h.bytes_eq] }

/-- Inversion of a reading: filling fails, or a prefix of the pending bytes is returned. -/
theorem read_cases (hr : r.closed = false) (size : Option Int) :
    ∃ all filled,
      (∃ e, r.fill all = (.error e, filled) ∧ r.read size = (.error e, filled)) ∨
      ∃ bytes rest, r.fill all = (.ok (), filled) ∧ bytes ++ rest = filled.pending ∧
        r.read size = (.ok bytes, { filled with pending := rest }) ∧
        (ShowsEnd size bytes → rest = [] ∧ (all = false → filled.pending = [])) := by
  cases hsize : Readable.bound size with
  | none =>
    rcases hfill : r.fill true with ⟨e | ⟨⟩, filled⟩
    · refine ⟨true, filled, .inl ⟨e, hfill, ?_⟩⟩
      simp only [read, hr, hsize, hfill]
      rfl
    · refine ⟨true, filled, .inr ⟨filled.pending, [], hfill, List.append_nil _, ?_, ?_⟩⟩
      · simp only [read, hr, hsize, hfill]
        rfl
      · exact fun _ => ⟨rfl, fun hall => by cases hall⟩
  | some m =>
    rcases hfill : r.fill false with ⟨e | ⟨⟩, filled⟩
    · refine ⟨false, filled, .inl ⟨e, hfill, ?_⟩⟩
      simp only [read, hr, hsize, hfill]
      rfl
    · refine ⟨false, filled, .inr ⟨filled.pending.take m, filled.pending.drop m, hfill,
        List.take_append_drop m _, ?_, ?_⟩⟩
      · simp only [read, hr, hsize, hfill]
        rfl
      · intro hshows
        obtain ⟨hpos, hnothing⟩ := hshows m hsize
        have hpending : filled.pending = [] :=
          (List.take_eq_nil_iff.1 hnothing).resolve_left (Nat.ne_of_gt hpos)
        exact ⟨by rw [hpending, List.drop_nil], fun _ => hpending⟩

theorem Accounts.read (h : r.Accounts c n taken) (size : Option Int) :
    ∃ k, Tells c n (r.read size).1 k ∧
      (r.read size).2.Accounts c k (taken ++ bytesOf (r.read size).1) ∧
      (∀ bytes, (r.read size).1 = .ok bytes → ShowsEnd size bytes →
        (r.read size).2.ended = true ∧ (r.read size).2.pending = []) := by
  obtain ⟨all, filled, hcases⟩ := read_cases h.closed_eq size
  obtain ⟨k, htells, hfilled, hends⟩ := h.fill all
  obtain ⟨e, hfill, hread⟩ | ⟨bytes, rest, hfill, hsplit, hread, hshows⟩ := hcases
  · rw [hfill] at htells hfilled
    rw [hread, bytesOf, List.append_nil]
    exact ⟨k, htells.of_error, hfilled, fun _ hok => by cases hok⟩
  · rw [hfill] at htells hfilled hends
    rw [hread]
    refine ⟨k, htells.of_ok, hfilled.give hsplit, ?_⟩
    rintro _ ⟨⟩ hlast
    obtain ⟨hrest, hnothing⟩ := hshows hlast
    obtain hended | ⟨hall, hsome⟩ := hends rfl
    · exact ⟨hended, hrest⟩
    · exact absurd (hnothing hall) hsome

theorem read_of_ended (hr : r.closed = false) (hended : r.ended = true) (size : Option Int) :
    ∃ bytes rest, r.read size = (.ok bytes, { r with pending := rest }) := by
  have hstays : ∀ all, r.fill all = (.ok (), r) := by
    intro all
    rw [fill, if_pos (by simp [hended])]
  obtain ⟨all, filled, ⟨e, hfill, -⟩ | ⟨bytes, rest, hfill, -, hread, -⟩⟩ := read_cases hr size
  · cases (hstays all).symm.trans hfill
  · cases (hstays all).symm.trans hfill
    exact ⟨bytes, rest, hread⟩

end Reader

end DigestGate
