import DigestGate.Request.Exchange

namespace DigestGate

variable {σ ρ α : Type} {denial refusal : BodyError}

/-- The body cannot be had, with the errors for buffering and for opening it. -/
inductive Phase.Withholds : Phase → BodyError → BodyError → Prop where
  | buffering : Withholds .buffering .alreadyBuffering .stillBuffering
  | failed (e : BodyError) : Withholds (.failed e) e e

/-- The answer of a request that withholds its body and has no digests. -/
def Operation.withheld (denial refusal : BodyError) : Operation → Except Failure Reply
  | .ensure => .error (.body denial)
  | .openStream => .error (.body refusal)
  | .digest name =>
    match Algorithm.resolve name with
    | .error e => .error (.fault (.field e))
    | .ok _ => .error (.body denial)
  | .computed => .ok (.algorithms [])
  | .verify lines =>
    match lines.integrityFields with
    | [] => .ok (.check .missing)
    | fields =>
      match lines.declared with
      | .error f => .ok (.check (.failed fields [] (.malformed f)))
      | .ok [] => .ok (.check (.failed fields [] .unsupported))
      | .ok (_ :: _) => .error (.body denial)

/-- The outcome of an exchange whose questions are answered by `answer`. -/
def Exchange.settle (answer : Operation → Except Failure Reply) : Exchange α ρ → α × ρ
  | .done outcome source => (outcome, source)
  | .ask operation next => (next (answer operation)).settle answer

namespace Phase.Withholds

variable {p : Phase}

theorem settled (h : p.Withholds denial refusal) : p.settled? = some (.error denial) := by
  cases h <;> rfl

theorem ne_handedOut (h : p.Withholds denial refusal) : p ≠ .handedOut := by
  cases h <;> exact Phase.noConfusion

theorem ne_buffered (h : p.Withholds denial refusal) (body : Bytes) : p ≠ .buffered body := by
  cases h <;> exact Phase.noConfusion

end Phase.Withholds

namespace Host

variable {h : Host σ} {s : σ}

theorem ensure_withheld (hp : (h.request s).phase.Withholds denial refusal) :
    h.ensure s = (.error (.body denial), s) := by
  rw [ensure, hp.settled]

theorem openBody_withheld (hp : (h.request s).phase.Withholds denial refusal) :
    h.openBody s = (.error (.body refusal), s) := by
  rw [openBody]
  generalize (h.request s).phase = p at hp
  cases hp <;> rfl

theorem digest_withheld (hp : (h.request s).phase.Withholds denial refusal)
    (hc : (h.request s).cache = {}) (a : Algorithm) :
    h.digest a s = (.error (.body denial), s) := by
  rw [digest, if_neg hp.ne_handedOut, hc, DigestCache.get?_empty, ensure_withheld hp]

theorem digestNamed_withheld (hp : (h.request s).phase.Withholds denial refusal)
    (hc : (h.request s).cache = {}) (name : Datum) :
    replying .digest (h.digestNamed name s) =
      ((Operation.digest name).withheld denial refusal, s) := by
  rw [digestNamed, if_neg hp.ne_handedOut]
  simp only [Operation.withheld]
  cases Algorithm.resolve name with
  | error e => rfl
  | ok a =>
    simp only [digest_withheld hp hc]
    rfl

theorem verify_withheld (hp : (h.request s).phase.Withholds denial refusal)
    (hc : (h.request s).cache = {}) (lines : FieldLines) :
    replying .check (h.verify lines s) = ((Operation.verify lines).withheld denial refusal, s) := by
  simp only [verify, Operation.withheld]
  cases lines.integrityFields with
  | nil => rfl
  | cons f fields =>
    rcases lines.declared with _ | (_ | ⟨d, rest⟩)
    · rfl
    · rfl
    · simp only [compareWith, digest_withheld hp hc]
      rfl

theorem perform_withheld (hp : (h.request s).phase.Withholds denial refusal)
    (hc : (h.request s).cache = {}) (operation : Operation) :
    h.perform operation s = (operation.withheld denial refusal, s) := by
  cases operation with
  | ensure => rw [perform, ensure_withheld hp]; rfl
  | openStream => rw [perform, openBody_withheld hp]; rfl
  | digest name => exact digestNamed_withheld hp hc name
  | computed => rw [perform, hc]; rfl
  | verify lines => exact verify_withheld hp hc lines

/-- An exchange with a request that withholds its body changes the source only. -/
theorem converse_withheld (hp : (h.request s).phase.Withholds denial refusal)
    (hc : (h.request s).cache = {}) (put : ρ → σ → σ) (exchange : Exchange α ρ) :
    h.converse put exchange s =
      ((exchange.settle (Operation.withheld denial refusal)).1,
        put (exchange.settle (Operation.withheld denial refusal)).2 s) := by
  induction exchange with
  | done => rfl
  | ask operation next ih =>
    simp only [converse, Exchange.settle, perform_withheld hp hc, ih]

end Host

end DigestGate
