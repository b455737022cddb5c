import DigestGate.Proofs.Check.Reference
import DigestGate.Proofs.Request.SinglePass

namespace DigestGate

variable {ρ : Type} {body : Bytes}

theorem Request.holds_of_cache_eq {r : Request} (hp : r.phase = .buffered body)
    (hc : r.cache = {}) : r.Holds body where
  phase := hp
  computed a digest hdigest := by
    rw [hc, DigestCache.get?_empty] at hdigest
    cases hdigest

theorem Request.Valid.holds {r : Request} (h : r.Valid) (hp : r.phase = .buffered body) :
    r.Holds body where
  phase := hp
  computed a digest hdigest := by
    obtain ⟨held, hheld, _, rfl⟩ := h.computed a digest hdigest
    cases hheld.symm.trans (h.phase_eq_iff.1 hp)
    rfl

namespace Host

variable {σ : Type} {h : Host σ} {P : σ → Prop} {s s' : σ}

theorem digest_of_ensure (hs : (h.request s).Valid) (hp : (h.request s).phase ≠ .handedOut)
    (hbody : (h.ensure s).1 = .ok body) (a : Algorithm) :
    (h.digest a s).1 = .ok (if body = [] then none else some (a.compute body)) := by
  rw [digest, if_neg hp]
  cases hcached : (h.request s).cache.get? a with
  | some digest =>
    obtain ⟨held, hheld, hne, rfl⟩ := hs.computed a digest hcached
    rw [ensure, hs.phase_eq_iff.2 hheld] at hbody
    cases hbody
    rw [if_neg hne]
  | none =>
    generalize h.ensure s = outcome at hbody
    obtain ⟨_, next⟩ := outcome
    cases hbody
    cases body with
    | nil => rfl
    | cons b bs => rfl

theorem digestNamed_of_ensure (hs : (h.request s).Valid) (hp : (h.request s).phase ≠ .handedOut)
    (hbody : (h.ensure s).1 = .ok body) (name : Datum) :
    (h.digestNamed name s).1 =
      match Algorithm.resolve name with
      | .error e => .error (.fault (.field e))
      | .ok a => .ok (if body = [] then none else some (a.compute body)) := by
  rw [digestNamed, if_neg hp]
  cases Algorithm.resolve name with
  | error e => rfl
  | ok a => exact digest_of_ensure hs hp hbody a

theorem verify_of_buffer (hs : h.Fresh s) (hbuffer : h.buffer s = (.ok body, s')) (hk : h.Keeps P)
    (hP : ∀ {s}, P s → (h.request s).Holds body) (hs' : P s') (lines : FieldLines) :
    (h.verify lines s).1 = .ok (lines.check body) := by
  rw [verify, FieldLines.check]
  cases lines.integrityFields with
  | nil => rfl
  | cons f fields =>
    rcases lines.declared with _ | (_ | ⟨d, rest⟩)
    · rfl
    · rfl
    · have hfollows := hs.compareWith (f :: fields) [] d rest
      rw [Follows, hbuffer] at hfollows
      simp only at hfollows ⊢
      rw [hfollows]
      exact compareWith_holds hk hP hs' [] (d :: rest)

end Host

namespace Solo

variable [BodySource ρ] {s : Solo ρ} {limits : Limits}

theorem verify_of_holds (hs : s.request.Holds body) (lines : FieldLines) :
    (host.verify lines s).1 = .ok (lines.check body) :=
  Host.verify_holds rests_keeps Rests.holds ⟨hs, rfl, rfl⟩ lines

theorem verify_of_fresh (hp : s.request.phase = .fresh) (hc : s.request.cache = {})
    (hbody : (host.ensure s).1 = .ok body) (lines : FieldLines) :
    (host.verify lines s).1 = .ok (lines.check body) := by
  have hfresh := fresh_of_phase hp hc
  have hensure : host.ensure s = host.buffer s := Host.ensure_of_fresh hp
  rcases hbuffer : host.buffer s with ⟨e | held, s'⟩
  · rw [hensure, hbuffer] at hbody
    cases hbody
  · rw [hensure, hbuffer] at hbody
    cases hbody
    obtain ⟨hphase, hcache⟩ := hfresh.buffered hbuffer
    have hholds : s'.request.Holds body := Request.holds_of_cache_eq hphase hcache
    exact Host.verify_of_buffer hfresh hbuffer rests_keeps Rests.holds ⟨hholds, rfl, rfl⟩ lines

/-- A request that obtains its body returns the reference check. -/
theorem verify_of_ensure (hs : s.request.Valid) (hbody : (host.ensure s).1 = .ok body)
    (lines : FieldLines) : (host.verify lines s).1 = .ok (lines.check body) := by
  rcases Host.phase_of_ensure_ok hbody with hp | hp
  · have hphase : s.request.phase = .fresh := hp
    exact verify_of_fresh hphase (hs.cache_eq (by rw [hphase]; nofun)) hbody lines
  · exact verify_of_holds (hs.holds hp) lines

theorem ensure_of_brings [QuietSource ρ] {source : ρ}
    (hsource : Brings (BodySource.draw limits.chunk) source body)
    (hsize : body.length ≤ limits.maximum) :
    (host.ensure (start limits source)).1 = .ok body := by
  have hle : 0 + body.length ≤ limits.maximum := (Nat.zero_add body.length).symm ▸ hsize
  obtain ⟨last, hgather⟩ := hsource.exists_gather_eq hle
  have houtcome := ensure_outcome limits source []
  rw [hgather] at houtcome
  exact houtcome

end Solo

end DigestGate
