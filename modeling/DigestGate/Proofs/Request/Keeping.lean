import DigestGate.Request.Exchange

namespace DigestGate

namespace Host

variable {σ : Type}

def run (h : Host σ) (operations : List Operation) (s : σ) : σ :=
  operations.foldl (fun s operation => (h.perform operation s).2) s

/-- The property is preserved by each part of an operation. -/
structure Keeps (h : Host σ) (P : σ → Prop) : Prop where
  note : ∀ {s}, P s → ∀ entry, P (h.note entry s)
  buffer : ∀ {s}, P s → (h.request s).phase = .fresh → P (h.buffer s).2
  buffered : ∀ {s body}, P s → (h.request s).phase = .fresh → (h.buffer s).1 = .ok body →
    (h.request (h.buffer s).2).phase = .buffered body
  store : ∀ {s body}, P s → (h.request s).phase = .buffered body → body ≠ [] → ∀ a,
    P (h.setRequest { h.request s with cache := (h.request s).cache.set (a.compute body) a } s)
  handOut : ∀ {s}, P s → (h.request s).phase = .fresh ∨ (h.request s).phase = .handedOut →
    P (h.setPhase .handedOut s)

variable {h : Host σ} {P : σ → Prop} {s : σ} {body : Bytes}

theorem ensure_of_fresh (hp : (h.request s).phase = .fresh) : h.ensure s = h.buffer s := by
  rw [ensure, hp]
  rfl

theorem phase_of_ensure_ok (hbody : (h.ensure s).1 = .ok body) :
    (h.request s).phase = .fresh ∨ (h.request s).phase = .buffered body := by
  rw [ensure] at hbody
  cases hp : (h.request s).phase with
  | fresh => exact .inl rfl
  | handedOut => rw [hp] at hbody; cases hbody
  | buffering => rw [hp] at hbody; cases hbody
  | buffered held => rw [hp] at hbody; cases hbody; exact .inr rfl
  | failed e => rw [hp] at hbody; cases hbody

theorem release_fst (h : Host σ) (s : σ) : (h.release s).1 = (h.close s).1.raised := by
  rw [release]
  rcases h.close s with ⟨_ | message | message, s'⟩ <;> rfl

theorem conclude_of_release {last : σ} (hrelease : (h.release last).1 = .ok ()) :
    (h.conclude (.ok body, last)).1 = .ok body := by
  rw [conclude]
  generalize h.release last = released at hrelease ⊢
  obtain ⟨_, released⟩ := released
  cases hrelease
  rfl

theorem conclude_eq_ok {gathered : Except Shortfall Bytes × σ}
    (hbody : (h.conclude gathered).1 = .ok body) :
    ∃ last, gathered = (.ok body, last) ∧ (h.release last).1 = .ok () ∧
      (h.conclude gathered).2 =
        h.note (.buffered body.length (h.request (h.release last).2).limits.maximum)
          (h.setPhase (.buffered body) (h.release last).2) := by
  rcases gathered with ⟨e | gathered, last⟩
  · simp only [conclude] at hbody
    generalize (h.release _).1 = released at hbody
    cases released with
    | error e' => cases hbody
    | ok => cases hbody
  · rw [conclude] at hbody ⊢
    rcases hrelease : h.release last with ⟨_ | _, released⟩
    · rw [hrelease] at hbody
      cases hbody
    · rw [hrelease] at hbody
      cases hbody
      exact ⟨last, rfl, congrArg Prod.fst hrelease, by rw [hrelease]⟩

namespace Keeps

theorem ensure (hk : h.Keeps P) (hs : P s) : P (h.ensure s).2 := by
  rw [Host.ensure]
  cases hp : (h.request s).phase with
  | fresh => exact hk.buffer hs hp
  | handedOut => exact hs
  | buffering => exact hs
  | buffered body => exact hs
  | failed e => exact hs

theorem phase_of_ensure (hk : h.Keeps P) (hs : P s) (hbody : (h.ensure s).1 = .ok body) :
    (h.request (h.ensure s).2).phase = .buffered body := by
  rcases phase_of_ensure_ok hbody with hp | hp
  · rw [ensure_of_fresh hp] at hbody ⊢
    exact hk.buffered hs hp hbody
  · rw [Host.ensure, hp]
    exact hp

theorem digest (hk : h.Keeps P) (a : Algorithm) (hs : P s) : P (h.digest a s).2 := by
  rw [Host.digest]
  by_cases hp : (h.request s).phase = .handedOut
  · rw [if_pos hp]
    exact hs
  · rw [if_neg hp]
    cases (h.request s).cache.get? a with
    | some digest => exact hk.note hs _
    | none =>
      have hensure := hk.ensure hs
      have hphase (body : Bytes) : (h.ensure s).1 = .ok body → _ := hk.phase_of_ensure hs
      generalize h.ensure s = outcome at hensure hphase ⊢
      match outcome with
      | (.error _, _) => exact hensure
      | (.ok [], _) => exact hensure
      | (.ok (b :: bs), _) => exact hk.store hensure (hphase _ rfl) (List.cons_ne_nil b bs) a

theorem digestNamed (hk : h.Keeps P) (name : Datum) (hs : P s) : P (h.digestNamed name s).2 := by
  rw [Host.digestNamed]
  by_cases hp : (h.request s).phase = .handedOut
  · rw [if_pos hp]
    exact hs
  · rw [if_neg hp]
    cases Algorithm.resolve name with
    | error e => exact hs
    | ok a => exact hk.digest a hs

theorem openBody (hk : h.Keeps P) (hs : P s) : P (h.openBody s).2 := by
  rw [Host.openBody]
  cases hp : (h.request s).phase with
  | fresh => exact hk.handOut hs (.inl hp)
  | handedOut => exact hk.handOut hs (.inr hp)
  | buffering => exact hs
  | buffered body => exact hs
  | failed e => exact hs

theorem compareWith (hk : h.Keeps P) (fields : List IntegrityField) (seen : List Algorithm)
    (declarations : List Declaration) (hs : P s) :
    P (h.compareWith fields seen declarations s).2 := by
  induction declarations generalizing seen s with
  | nil => exact hs
  | cons d rest ih =>
    have hdigest := hk.digest d.algorithm hs
    rw [Host.compareWith]
    generalize h.digest d.algorithm s = outcome at hdigest ⊢
    rcases outcome with ⟨e | digest, s'⟩
    · exact hdigest
    · by_cases hsame : sameDigest (digest.getD (d.algorithm.compute [])) d.digest
      · simp only [if_pos hsame]
        exact ih _ hdigest
      · simp only [if_neg hsame]
        exact hdigest

theorem verify (hk : h.Keeps P) (lines : FieldLines) (hs : P s) : P (h.verify lines s).2 := by
  rw [Host.verify]
  cases lines.integrityFields with
  | nil => exact hs
  | cons f fields =>
    match lines.declared with
    | .error _ => exact hs
    | .ok [] => exact hs
    | .ok (d :: rest) => exact hk.compareWith _ _ _ hs

theorem perform (hk : h.Keeps P) (operation : Operation) (hs : P s) :
    P (h.perform operation s).2 := by
  cases operation with
  | ensure => exact hk.ensure hs
  | openStream => exact hk.openBody hs
  | digest name => exact hk.digestNamed name hs
  | computed => exact hs
  | verify lines => exact hk.verify lines hs

theorem run (hk : h.Keeps P) (operations : List Operation) (hs : P s) :
    P (h.run operations s) := by
  induction operations generalizing s with
  | nil => exact hs
  | cons operation operations ih => exact ih (hk.perform operation hs)

end Keeps

end Host

namespace Solo

variable {ρ : Type} [BodySource ρ] {s : Solo ρ} {body : Bytes}

theorem phase_of_buffer (hbody : (host.buffer s).1 = .ok body) :
    (host.buffer s).2.request.phase = .buffered body := by
  rw [Host.buffer] at hbody ⊢
  obtain ⟨last, -, -, hstate⟩ := Host.conclude_eq_ok hbody
  rw [hstate]
  rfl

theorem phase_of_ensure (hbody : (host.ensure s).1 = .ok body) :
    (host.ensure s).2.request.phase = .buffered body := by
  have hk : host.Keeps fun _ : Solo ρ => True := {
    note := fun _ _ => trivial
    buffer := fun _ _ => trivial
    buffered := fun _ _ => phase_of_buffer
    store := fun _ _ _ _ => trivial
    handOut := fun _ _ => trivial }
  exact hk.phase_of_ensure trivial hbody

theorem buffered_keeps : host.Keeps fun s : Solo ρ => s.request.phase = .buffered body where
  note hs _ := hs
  buffer hs hp := nomatch hs.symm.trans hp
  buffered hs hp := nomatch hs.symm.trans hp
  store hs _ _ _ := hs
  handOut hs hp := by
    rcases hp with hp | hp
    · exact nomatch hs.symm.trans hp
    · exact nomatch hs.symm.trans hp

end Solo

end DigestGate
