import DigestGate.Request.Basic

namespace DigestGate

def Phase.state : Phase → BufferState
  | .fresh => .unbuffered
  | .handedOut => .unbuffered
  | .buffering => .buffering
  | .buffered _ => .buffered
  | .failed _ => .failed

namespace Request

structure Valid (r : Request) : Prop where
  body_iff : r.body.isSome ↔ r.state = .buffered
  error_iff : r.error.isSome ↔ r.state = .failed
  length_le : ∀ body, r.body = some body → body.length ≤ r.limits.maximum
  computed : ∀ a digest, r.cache.get? a = some digest →
    ∃ body, r.body = some body ∧ body ≠ [] ∧ digest = a.compute body

inductive Moves (r : Request) : Request → Prop where
  | begin : r.phase = .fresh → Moves r (r.enter .buffering)
  | keep {body : Bytes} : r.phase = .buffering → body.length ≤ r.limits.maximum →
      Moves r (r.enter (.buffered body))
  | lose (e : BodyError) : r.phase = .buffering → Moves r (r.enter (.failed e))
  | handOut : r.phase = .fresh ∨ r.phase = .handedOut → Moves r (r.enter .handedOut)
  | store {body : Bytes} (a : Algorithm) : r.phase = .buffered body → body ≠ [] →
      Moves r { r with cache := r.cache.set (a.compute body) a }

/-- The successive states of a request, from a new one to the last. -/
inductive History (limits : Limits) : List Request → Request → Prop where
  | start : History limits [{ limits }] { limits }
  | move {history : List Request} {r r' : Request} :
      History limits history r → Moves r r' → History limits (history ++ [r']) r'

variable {r r' : Request} {limits : Limits} {history : List Request} {body : Bytes}
  {p : Phase}

theorem state_eq (r : Request) : r.state = r.phase.state := by
  rw [phase]
  cases hstate : r.state with
  | unbuffered => cases r.handedOut <;> rfl
  | buffering | buffered | failed => rfl

theorem state_of_phase (hp : r.phase = p) : r.state = p.state := by
  rw [state_eq, hp]

theorem phase_eq_buffering_iff : r.phase = .buffering ↔ r.state = .buffering := by
  rw [state_eq]
  cases r.phase <;> simp [Phase.state]

theorem Valid.phase_eq_iff (h : r.Valid) : r.phase = .buffered body ↔ r.body = some body := by
  constructor
  · intro hp
    obtain ⟨held, hheld⟩ := Option.isSome_iff_exists.1 (h.body_iff.2 (state_of_phase hp))
    rw [phase, state_of_phase hp, Phase.state, hheld] at hp
    cases hp
    exact hheld
  · intro hbody
    have hstate := h.body_iff.1 (Option.isSome_of_eq_some hbody)
    rw [phase, hstate, hbody]
    rfl

theorem Valid.cache_eq (h : r.Valid) (hp : ∀ body, r.phase ≠ .buffered body) : r.cache = {} := by
  have hnone (a : Algorithm) : r.cache.get? a = none := by
    cases hdigest : r.cache.get? a with
    | none => rfl
    | some digest =>
      obtain ⟨body, hbody, -⟩ := h.computed a digest hdigest
      exact absurd (h.phase_eq_iff.2 hbody) (hp body)
  have hmd5 := hnone .md5
  have hsha1 := hnone .sha1
  have hsha256 := hnone .sha256
  generalize r.cache = cache at hmd5 hsha1 hsha256
  obtain ⟨md5, sha1, sha256⟩ := cache
  simp only [DigestCache.get?] at hmd5 hsha1 hsha256
  rw [hmd5, hsha1, hsha256]

theorem valid_start (limits : Limits) : Valid { limits } where
  body_iff := ⟨Bool.noConfusion, BufferState.noConfusion⟩
  error_iff := ⟨Bool.noConfusion, BufferState.noConfusion⟩
  length_le _ h := nomatch h
  computed a _ h := by cases a <;> cases h

theorem Valid.enter (h : r.Valid) (hstate : r.state = .unbuffered ∨ r.state = .buffering)
    (hle : ∀ body, p = .buffered body → body.length ≤ r.limits.maximum) : (r.enter p).Valid := by
  have hbody : r.body = none := by
    apply Option.not_isSome_iff_eq_none.1
    rw [h.body_iff]
    rcases hstate with hstate | hstate <;> simp [hstate]
  have herror : r.error = none := by
    apply Option.not_isSome_iff_eq_none.1
    rw [h.error_iff]
    rcases hstate with hstate | hstate <;> simp [hstate]
  have hcache : r.cache = {} := by
    refine h.cache_eq fun body hp => ?_
    rw [h.phase_eq_iff.1 hp] at hbody
    cases hbody
  refine ⟨?_, ?_, ?_, ?_⟩
  · cases p <;> simp [Request.enter, hbody]
  · cases p <;> simp [Request.enter, herror]
  · intro body hheld
    rw [limits_enter]
    cases p with
    | buffered held =>
      cases hheld
      exact hle body rfl
    | fresh | handedOut | buffering | failed => cases hbody.symm.trans hheld
  · intro a digest hdigest
    rw [cache_enter, hcache, DigestCache.get?_empty] at hdigest
    cases hdigest

theorem Moves.valid (h : Moves r r') (hr : r.Valid) : r'.Valid := by
  cases h with
  | begin hp => exact hr.enter (.inl (state_of_phase hp)) nofun
  | keep hp hle =>
    refine hr.enter (.inr (state_of_phase hp)) fun body hbody => ?_
    cases hbody
    exact hle
  | lose e hp => exact hr.enter (.inr (state_of_phase hp)) nofun
  | handOut hp => exact hr.enter (.inl (hp.elim state_of_phase state_of_phase)) nofun
  | @store body a hp hne =>
    refine ⟨hr.body_iff, hr.error_iff, hr.length_le, fun b digest hdigest => ?_⟩
    obtain ⟨rfl, rfl⟩ | hdigest := DigestCache.of_get?_set hdigest
    · exact ⟨body, hr.phase_eq_iff.1 hp, hne, rfl⟩
    · exact hr.computed b digest hdigest

theorem Moves.limits_eq (h : Moves r r') : r'.limits = r.limits := by
  cases h <;> rfl

theorem History.mem (h : History limits history r) : r ∈ history := by
  cases h with
  | start => exact List.mem_singleton_self _
  | move => exact List.mem_append_right _ (List.mem_singleton_self _)

theorem History.valid (h : History limits history r) : ∀ q ∈ history, q.Valid := by
  induction h with
  | start =>
    intro q hq
    rw [List.mem_singleton.1 hq]
    exact valid_start limits
  | move h hm ih =>
    intro q hq
    rcases List.mem_append.1 hq with hq | hq
    · exact ih q hq
    · rw [List.mem_singleton.1 hq]
      exact hm.valid (ih _ h.mem)

theorem History.limits_eq (h : History limits history r) : r.limits = limits := by
  induction h with
  | start => rfl
  | move _ hm ih => exact hm.limits_eq.trans ih

end Request

end DigestGate
