import DigestGate.Proofs.Body.Decision
import DigestGate.Proofs.Request.Keeping

namespace DigestGate.Host

variable {σ τ ρ α : Type}

/-- `f` commutes with the operations of the two hosts. -/
structure Maps (h' : Host τ) (h : Host σ) (f : τ → σ) : Prop where
  request : ∀ t, h.request (f t) = h'.request t
  setRequest : ∀ r t, h.setRequest r (f t) = f (h'.setRequest r t)
  read : ∀ size t, h.read size (f t) = Prod.map id f (h'.read size t)
  close : ∀ t, h.close (f t) = Prod.map id f (h'.close t)
  note : ∀ entry t, h.note entry (f t) = f (h'.note entry t)

namespace Maps

variable {h' : Host τ} {h : Host σ} {f : τ → σ}

theorem setPhase (hm : h'.Maps h f) (p : Phase) (t : τ) :
    h.setPhase p (f t) = f (h'.setPhase p t) := by
  rw [Host.setPhase, Host.setPhase, hm.request, hm.setRequest]

theorem release (hm : h'.Maps h f) (t : τ) :
    h.release (f t) = Prod.map id f (h'.release t) := by
  rw [Host.release, Host.release, hm.close]
  rcases h'.close t with ⟨_ | message | message, t'⟩
  · rfl
  · exact congrArg (Prod.mk _) (hm.note _ _)
  · rfl

theorem conclude (hm : h'.Maps h f) (gathered : Except Shortfall Bytes × τ) :
    h.conclude (Prod.map id f gathered) = Prod.map id f (h'.conclude gathered) := by
  rcases gathered with ⟨e | body, t⟩
  · simp only [Host.conclude, Prod.map, id, hm.setPhase, hm.note, hm.release]
  · simp only [Host.conclude, Prod.map, id, hm.release]
    rcases h'.release t with ⟨e | _, t'⟩
    · rfl
    · simp only [hm.setPhase, hm.note, hm.request]

theorem buffer (hm : h'.Maps h f) (t : τ) : h.buffer (f t) = Prod.map id f (h'.buffer t) := by
  rw [Host.buffer, Host.buffer, hm.request, hm.setPhase]
  simp only [gather_map (hm.read (h'.request t).limits.chunk)]
  exact hm.conclude _

theorem ensure (hm : h'.Maps h f) (t : τ) : h.ensure (f t) = Prod.map id f (h'.ensure t) := by
  rw [Host.ensure, Host.ensure, hm.request]
  cases (h'.request t).phase with
  | fresh => exact hm.buffer t
  | handedOut => rfl
  | buffering => rfl
  | buffered body => rfl
  | failed e => rfl

theorem digest (hm : h'.Maps h f) (a : Algorithm) (t : τ) :
    h.digest a (f t) = Prod.map id f (h'.digest a t) := by
  rw [Host.digest, Host.digest, hm.request, hm.ensure]
  by_cases hp : (h'.request t).phase = .handedOut
  · rw [if_pos hp, if_pos hp]
    rfl
  · rw [if_neg hp, if_neg hp]
    cases (h'.request t).cache.get? a with
    | some digest => exact congrArg (Prod.mk _) (hm.note _ t)
    | none =>
      rcases h'.ensure t with ⟨_ | (_ | ⟨_, _⟩), t'⟩
      · rfl
      · rfl
      · simp only [Prod.map, id, hm.request, hm.setRequest]

theorem digestNamed (hm : h'.Maps h f) (name : Datum) (t : τ) :
    h.digestNamed name (f t) = Prod.map id f (h'.digestNamed name t) := by
  rw [Host.digestNamed, Host.digestNamed, hm.request]
  by_cases hp : (h'.request t).phase = .handedOut
  · rw [if_pos hp, if_pos hp]
    rfl
  · rw [if_neg hp, if_neg hp]
    cases Algorithm.resolve name with
    | error e => rfl
    | ok a => exact hm.digest a t

theorem openBody (hm : h'.Maps h f) (t : τ) :
    h.openBody (f t) = Prod.map id f (h'.openBody t) := by
  rw [Host.openBody, Host.openBody, hm.request]
  cases (h'.request t).phase with
  | fresh => exact congrArg (Prod.mk _) (hm.setPhase _ t)
  | handedOut => exact congrArg (Prod.mk _) (hm.setPhase _ t)
  | buffering => rfl
  | buffered body => rfl
  | failed e => rfl

theorem compareWith (hm : h'.Maps h f) (fields : List IntegrityField) (seen : List Algorithm)
    (declarations : List Declaration) (t : τ) :
    h.compareWith fields seen declarations (f t) =
      Prod.map id f (h'.compareWith fields seen declarations t) := by
  induction declarations generalizing seen t with
  | nil => rfl
  | cons d rest ih =>
    rw [Host.compareWith, Host.compareWith, hm.digest]
    rcases h'.digest d.algorithm t with ⟨e | digest, t'⟩
    · rfl
    · by_cases hsame : sameDigest (digest.getD (d.algorithm.compute [])) d.digest
      · simp only [Prod.map, id, if_pos hsame]
        exact ih _ _
      · simp only [Prod.map, id, if_neg hsame]

theorem verify (hm : h'.Maps h f) (lines : FieldLines) (t : τ) :
    h.verify lines (f t) = Prod.map id f (h'.verify lines t) := by
  rw [Host.verify, Host.verify]
  cases lines.integrityFields with
  | nil => rfl
  | cons field fields =>
    rcases lines.declared with _ | (_ | ⟨d, rest⟩)
    · rfl
    · rfl
    · exact hm.compareWith _ _ _ t

theorem replying {β : Type} (wrap : β → Reply) (outcome : Except Failure β × τ) :
    Host.replying wrap (Prod.map id f outcome) = Prod.map id f (Host.replying wrap outcome) :=
  rfl

theorem perform (hm : h'.Maps h f) (operation : Operation) (t : τ) :
    h.perform operation (f t) = Prod.map id f (h'.perform operation t) := by
  cases operation with
  | ensure => rw [Host.perform, hm.ensure, replying]; rfl
  | openStream => rw [Host.perform, hm.openBody, replying]; rfl
  | digest name => rw [Host.perform, hm.digestNamed, replying]; rfl
  | computed => rw [Host.perform, hm.request]; rfl
  | verify lines => rw [Host.perform, hm.verify, replying]; rfl

theorem run (hm : h'.Maps h f) (operations : List Operation) (t : τ) :
    h.run operations (f t) = f (h'.run operations t) := by
  induction operations generalizing t with
  | nil => rfl
  | cons operation operations ih =>
    rw [Host.run, Host.run, List.foldl_cons, List.foldl_cons, hm.perform]
    exact ih _

theorem converse (hm : h'.Maps h f) {put' : ρ → τ → τ} {put : ρ → σ → σ}
    (hput : ∀ x t, put x (f t) = f (put' x t)) (exchange : Exchange α ρ) (t : τ) :
    h.converse put exchange (f t) = Prod.map id f (h'.converse put' exchange t) := by
  induction exchange generalizing t with
  | done outcome source => exact congrArg (Prod.mk _) (hput _ t)
  | ask operation next ih =>
    rw [Host.converse, Host.converse, hm.perform]
    exact ih _ _

theorem withSource [BodySource ρ] (hm : h'.Maps h f) {get' : τ → ρ} {put' : ρ → τ → τ} {get : σ → ρ}
    {put : ρ → σ → σ} (hget : ∀ t, get (f t) = get' t) (hput : ∀ x t, put x (f t) = f (put' x t)) :
    (h'.withSource get' put').Maps (h.withSource get put) f where
  request := hm.request
  setRequest := hm.setRequest
  read size t := by
    simp only [Host.withSource, hget]
    exact hm.converse hput _ t
  close t := by
    simp only [Host.withSource, hget]
    exact hm.converse hput _ t
  note := hm.note

end Maps

end DigestGate.Host
