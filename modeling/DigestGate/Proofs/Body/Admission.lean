import DigestGate.Proofs.Body.Decision
import DigestGate.Request.Basic

namespace DigestGate

/-- The outcome of buffering `body` by readings of `chunk` bytes. -/
def Limits.accept (limits : Limits) (body : Bytes) : Except BodyError Bytes :=
  if body.length ≤ limits.maximum then .ok body
  else .error (.tooLarge limits.maximum
    (min body.length (limits.chunk * (limits.maximum / limits.chunk + 1))))

section Cutting

variable {σ : Type} {read : σ → Except Failure Piece × σ} {Left : σ → Bytes → Prop}
  {chunk limit : Nat}

/-- Each reading takes `chunk` bytes off the rest, or all of it if there are fewer. -/
def Cuts (chunk : Nat) (read : σ → Except Failure Piece × σ) (Left : σ → Bytes → Prop) : Prop :=
  ∀ s rest, Left s rest →
    ∃ next, read s = (.ok (.bytes (rest.take chunk)), next) ∧ Left next (rest.drop chunk)

theorem Cuts.decided {total : Nat} {s last : σ} {rest : Bytes} {chunks : List Bytes}
    {event : Except Failure Piece} (h : Cuts chunk read Left) (hs : Left s rest)
    (hd : Decided read limit total s chunks event last) :
    (∀ i < chunks.length, i * chunk < rest.length) ∧
      chunks.flatten = rest.take (chunks.length * chunk) ∧
      event = .ok (.bytes ((rest.drop (chunks.length * chunk)).take chunk)) ∧
      Left last (rest.drop ((chunks.length + 1) * chunk)) := by
  induction hd generalizing rest with
  | here hread =>
    obtain ⟨next, hcut, hnext⟩ := h _ rest hs
    cases hread.symm.trans hcut
    rw [List.length_nil, Nat.zero_mul, Nat.zero_add, Nat.one_mul]
    exact ⟨nofun, rfl, rfl, hnext⟩
  | @later total s next last piece chunks event hread hpiece _ ih =>
    obtain ⟨next', hcut, hnext⟩ := h _ rest hs
    cases hread.symm.trans hcut
    obtain ⟨hshort, hflatten, hevent, hlast⟩ := ih hnext
    have hrest : 0 < rest.length := by
      have hpos := List.length_pos_iff.2 (not_decisive_bytes.1 hpiece).1
      rw [List.length_take] at hpos
      omega
    refine ⟨fun i hi => ?_, ?_, ?_, ?_⟩
    · cases i with
      | zero => rwa [Nat.zero_mul]
      | succ i =>
        have hi' := hshort i (Nat.lt_of_succ_lt_succ hi)
        rw [List.length_drop] at hi'
        rw [Nat.succ_mul]
        omega
    · rw [List.flatten_cons, hflatten, List.length_cons, Nat.succ_mul, Nat.add_comm, List.take_add]
    · rw [hevent, List.drop_drop, List.length_cons, Nat.succ_mul, Nat.add_comm]
    · rwa [List.drop_drop, Nat.add_comm, ← Nat.succ_mul] at hlast

section Limited

variable {s last : σ} {rest : Bytes} {chunks : List Bytes} {event : Except Failure Piece}

theorem Cuts.decided_of_le (h : Cuts chunk read Left) (hchunk : 0 < chunk) (hs : Left s rest)
    (hd : Decided read limit 0 s chunks event last) (hle : rest.length ≤ limit) :
    chunks.flatten = rest ∧ event = .ok (.bytes []) ∧
      chunks.length = (rest.length + chunk - 1) / chunk := by
  obtain ⟨hshort, hflatten, rfl, -⟩ := h.decided hs hd
  have hdecisive := hd.decisive
  rw [hflatten] at hdecisive
  have hend : (rest.drop (chunks.length * chunk)).take chunk = [] := by
    apply hdecisive.resolve_right
    rw [List.length_take, List.length_take, List.length_drop]
    omega
  have hcover : rest.length ≤ chunks.length * chunk :=
    List.drop_eq_nil_iff.1 ((List.take_eq_nil_iff.1 hend).resolve_left (Nat.ne_of_gt hchunk))
  refine ⟨hflatten.trans (List.take_of_length_le hcover), congrArg _ (congrArg _ hend), ?_⟩
  symm
  rw [Nat.div_eq_iff hchunk]
  cases hcount : chunks.length with
  | zero =>
    rw [hcount] at hcover
    omega
  | succ n =>
    have hlast := hshort n (by omega)
    rw [hcount, Nat.succ_mul] at hcover
    rw [Nat.succ_mul]
    omega

theorem Cuts.decided_of_lt (h : Cuts chunk read Left) (hchunk : 0 < chunk) (hs : Left s rest)
    (hd : Decided read limit 0 s chunks event last) (hlt : limit < rest.length) :
    let observed := min rest.length (chunk * (limit / chunk + 1))
    chunks.length = limit / chunk ∧
      (∃ b bs, event = .ok (.bytes (b :: bs)) ∧ chunks.flatten ++ b :: bs = rest.take observed) ∧
      Left last (rest.drop observed) := by
  intro observed
  obtain ⟨-, hflatten, rfl, hlast⟩ := h.decided hs hd
  have hheld := hd.length_le (Nat.zero_le limit)
  have hdecisive := hd.decisive
  rw [hflatten, List.length_take] at hheld hdecisive
  have hpiece : (rest.drop (chunks.length * chunk)).take chunk ≠ [] := by
    rw [ne_eq, List.take_eq_nil_iff, List.drop_eq_nil_iff]
    omega
  have hover := hdecisive.resolve_left hpiece
  rw [List.length_take, List.length_drop] at hover
  have hcount : chunks.length = limit / chunk := by
    symm
    apply Nat.div_eq_of_lt_le
    · omega
    · rw [Nat.succ_mul]
      omega
  have hobserved : observed = min ((chunks.length + 1) * chunk) rest.length := by
    rw [hcount, Nat.mul_comm, Nat.min_comm]
  obtain ⟨b, bs, hbytes⟩ := List.exists_cons_of_ne_nil hpiece
  refine ⟨hcount, ⟨b, bs, by rw [hbytes], ?_⟩, ?_⟩
  · rw [← hbytes, hflatten, ← List.take_add, hobserved, ← List.take_eq_take_min, Nat.succ_mul]
  · rwa [hobserved, ← List.drop_eq_drop_min]

end Limited

/-- Gathering from the start has the outcome `Limits.accept`. -/
theorem Cuts.gather_accept {limits : Limits} {s : σ} {rest : Bytes}
    (h : Cuts limits.chunk read Left) (hs : Left s rest) :
    (gather read limits.maximum 0 s).1.mapError Shortfall.remembered = limits.accept rest ∧
      (gather read limits.maximum 0 s).1.mapError Shortfall.reported =
        (limits.accept rest).mapError Failure.body := by
  obtain ⟨chunks, event, last, hd⟩ := exists_decided read limits.maximum 0 s
  rw [hd.gather_eq, Limits.accept]
  by_cases hle : rest.length ≤ limits.maximum
  · obtain ⟨hflatten, rfl, -⟩ := h.decided_of_le limits.chunk_pos hs hd hle
    rw [if_pos hle, hflatten]
    exact ⟨rfl, rfl⟩
  · obtain ⟨-, ⟨b, bs, rfl, hflatten⟩, -⟩ :=
      h.decided_of_lt limits.chunk_pos hs hd (Nat.not_le.1 hle)
    have hobserved : 0 + (chunks.flatten ++ b :: bs).length =
        min rest.length (limits.chunk * (limits.maximum / limits.chunk + 1)) := by
      rw [hflatten, List.length_take_of_le (Nat.min_le_left _ _), Nat.zero_add]
    rw [if_neg hle, ← hobserved]
    exact ⟨rfl, rfl⟩

end Cutting

end DigestGate
