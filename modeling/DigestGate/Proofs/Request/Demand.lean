import DigestGate.Proofs.Request.Keeping
import DigestGate.Proofs.Request.Reentry

namespace DigestGate.Host

variable {σ : Type} {h : Host σ} {s s' : σ}

def digestOf (h : Host σ) (a : Algorithm) :
    Except Failure Bytes × σ → Except Failure (Option Bytes) × σ
  | (.error e, s) => (.error e, s)
  | (.ok [], s) => (.ok none, s)
  | (.ok body, s) =>
    let r := h.request s
    (.ok (some (a.compute body)), h.setRequest { r with cache := r.cache.set (a.compute body) a } s)

theorem digest_uncached (hp : (h.request s).phase ≠ .handedOut) (hc : (h.request s).cache = {})
    (a : Algorithm) : h.digest a s = h.digestOf a (h.ensure s) := by
  rw [digest, if_neg hp, hc, DigestCache.get?_empty]
  generalize h.ensure s = outcome
  rcases outcome with ⟨_ | (_ | ⟨_, _⟩), _⟩
  · rfl
  · rfl
  · rfl

theorem digestNamed_of_resolve {name : Datum} {a : Algorithm}
    (hname : Algorithm.resolve name = .ok a) (s : σ) :
    h.digestNamed name s = h.digest a s := by
  rw [digestNamed, hname]
  by_cases hp : (h.request s).phase = .handedOut
  · rw [if_pos hp, digest, if_pos hp]
  · rw [if_neg hp]

/-- The demand fails as buffering does, or proceeds from the state after it. -/
def Follows {α : Type} (h : Host σ) (demand : σ → Except Failure α × σ) (s : σ) : Prop :=
  match h.buffer s with
  | (.error e, s') => demand s = (.error e, s')
  | (.ok _, s') => demand s = demand s'

structure Fresh (h : Host σ) (s : σ) : Prop where
  phase_eq : (h.request s).phase = .fresh
  cache_eq : (h.request s).cache = {}
  buffered : ∀ {body s'}, h.buffer s = (.ok body, s') →
    (h.request s').phase = .buffered body ∧ (h.request s').cache = {}

namespace Fresh

theorem ensure (hs : h.Fresh s) : h.Follows h.ensure s := by
  rw [Follows, ensure_of_fresh hs.phase_eq]
  rcases hbuffer : h.buffer s with ⟨e | body, s'⟩
  · rfl
  · simp only
    rw [Host.ensure, (hs.buffered hbuffer).1]
    rfl

theorem digest (hs : h.Fresh s) (a : Algorithm) : h.Follows (h.digest a) s := by
  have hhere := digest_uncached (h := h) (s := s) (by rw [hs.phase_eq]; nofun) hs.cache_eq a
  have hensure := hs.ensure
  rw [Follows] at hensure ⊢
  rcases hbuffer : h.buffer s with ⟨e | body, s'⟩
  · rw [hbuffer] at hensure
    simp only at hensure ⊢
    rw [hhere, hensure]
    rfl
  · obtain ⟨hphase, hcache⟩ := hs.buffered hbuffer
    rw [hbuffer] at hensure
    simp only at hensure ⊢
    rw [hhere, hensure, digest_uncached (by rw [hphase]; nofun) hcache]

theorem compareWith (hs : h.Fresh s) (fields : List IntegrityField) (seen : List Algorithm)
    (d : Declaration) (rest : List Declaration) :
    h.Follows (h.compareWith fields seen (d :: rest)) s := by
  have hdigest := hs.digest d.algorithm
  rw [Follows] at hdigest ⊢
  rcases hbuffer : h.buffer s with ⟨e | body, s'⟩
  · rw [hbuffer] at hdigest
    simp only at hdigest ⊢
    rw [Host.compareWith, hdigest]
  · rw [hbuffer] at hdigest
    simp only at hdigest ⊢
    rw [Host.compareWith, Host.compareWith, hdigest]

end Fresh

theorem Follows.replying {α : Type} {demand : σ → Except Failure α × σ} (wrap : α → Reply)
    (hf : h.Follows demand s) : h.Follows (fun s => replying wrap (demand s)) s := by
  rw [Follows] at hf ⊢
  rcases hbuffer : h.buffer s with ⟨e | body, s'⟩
  · rw [hbuffer] at hf
    simp only at hf ⊢
    rw [hf]
    rfl
  · rw [hbuffer] at hf
    simp only at hf ⊢
    rw [hf]

theorem Fresh.digestNamed (hs : h.Fresh s) (name : Datum) :
    (h.digestNamed name s).2 = s ∨ h.Follows (h.digestNamed name) s := by
  cases hname : Algorithm.resolve name with
  | error e =>
    refine .inl ?_
    rw [Host.digestNamed, if_neg (by rw [hs.phase_eq]; exact Phase.noConfusion), hname]
  | ok a =>
    have hdigest : h.digestNamed name = h.digest a := funext (digestNamed_of_resolve hname)
    rw [hdigest]
    exact .inr (hs.digest a)

theorem Fresh.verify (hs : h.Fresh s) (lines : FieldLines) :
    (h.verify lines s).2 = s ∨ h.Follows (h.verify lines) s := by
  cases hfields : lines.integrityFields with
  | nil =>
    refine .inl ?_
    rw [Host.verify, hfields]
  | cons f fields =>
    rcases hdeclared : lines.declared with _ | (_ | ⟨d, rest⟩)
    · refine .inl ?_
      rw [Host.verify, hfields, hdeclared]
    · refine .inl ?_
      rw [Host.verify, hfields, hdeclared]
    · have hverify : h.verify lines = h.compareWith (f :: fields) [] (d :: rest) := by
        funext s
        rw [Host.verify, hfields, hdeclared]
      rw [hverify]
      exact .inr (hs.compareWith (f :: fields) [] d rest)

/-- An operation has no effect on a fresh request, hands out its source or demands its body. -/
theorem Fresh.perform (hs : h.Fresh s) (operation : Operation) :
    (h.perform operation s).2 = s ∨ (h.perform operation s).2 = h.setPhase .handedOut s ∨
      h.Follows (h.perform operation) s := by
  cases operation with
  | ensure => exact .inr (.inr (hs.ensure.replying .body))
  | openStream =>
    refine .inr (.inl ?_)
    rw [Host.perform, openBody, hs.phase_eq]
    rfl
  | digest name =>
    rcases hs.digestNamed name with hsame | hfollows
    · exact .inl hsame
    · exact .inr (.inr (hfollows.replying .digest))
  | computed => exact .inl rfl
  | verify lines =>
    rcases hs.verify lines with hsame | hfollows
    · exact .inl hsame
    · exact .inr (.inr (hfollows.replying .check))

end DigestGate.Host
