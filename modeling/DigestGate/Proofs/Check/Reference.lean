import DigestGate.Check.Verify
import DigestGate.Proofs.Request.Keeping

namespace DigestGate

variable {σ : Type} {body : Bytes} {lines : FieldLines} {fields : List IntegrityField}
  {seen : List Algorithm}

theorem sameDigest_iff {a b : Bytes} : sameDigest a b ↔ a = b := by
  induction a generalizing b with
  | nil => cases b <;> simp [sameDigest]
  | cons x xs ih =>
    cases b with
    | nil => simp [sameDigest]
    | cons y ys =>
      have hsplit : sameDigest (x :: xs) (y :: ys) = (x == y && sameDigest xs ys) := by
        simp only [sameDigest, List.length_cons, List.zip_cons_cons, List.all_cons]
        cases x == y <;> simp
      rw [hsplit, Bool.and_eq_true, ih, beq_iff_eq, List.cons.injEq]

def Check.compare (body : Bytes) (fields : List IntegrityField) :
    List Algorithm → List Declaration → Check
  | seen, [] => .passed fields seen
  | seen, d :: rest =>
    let seen := if d.algorithm ∈ seen then seen else seen ++ [d.algorithm]
    if d.algorithm.compute body = d.digest then compare body fields seen rest
    else .failed fields seen (.mismatch d.field)

/-- The check of `body` as a function of the header. -/
def FieldLines.check (lines : FieldLines) (body : Bytes) : Check :=
  match lines.integrityFields with
  | [] => .missing
  | fields =>
    match lines.declared with
    | .error f => .failed fields [] (.malformed f)
    | .ok [] => .failed fields [] .unsupported
    | .ok declarations => Check.compare body fields [] declarations

theorem Check.verified_compare_iff (seen : List Algorithm) (declarations : List Declaration) :
    (Check.compare body fields seen declarations).verified ↔
      ∀ d ∈ declarations, d.algorithm.compute body = d.digest := by
  induction declarations generalizing seen with
  | nil => exact ⟨fun _ _ hd => absurd hd List.not_mem_nil, fun _ => rfl⟩
  | cons d rest ih =>
    rw [Check.compare, List.forall_mem_cons]
    by_cases hd : d.algorithm.compute body = d.digest
    · rw [if_pos hd, ih]
      exact ⟨fun h => ⟨hd, h⟩, And.right⟩
    · rw [if_neg hd]
      exact ⟨fun h => Bool.noConfusion h, fun h => absurd h.1 hd⟩

theorem FieldLines.verified_check_iff :
    (lines.check body).verified ↔ lines.integrityFields ≠ [] ∧
      ∃ declarations, lines.declared = .ok declarations ∧ declarations ≠ [] ∧
        ∀ d ∈ declarations, d.algorithm.compute body = d.digest := by
  rw [check]
  cases lines.integrityFields with
  | nil => exact ⟨fun h => Bool.noConfusion h, fun h => absurd rfl h.1⟩
  | cons f fields =>
    have hfields : f :: fields ≠ [] := List.cons_ne_nil f fields
    match lines.declared with
    | .error _ => exact ⟨fun h => Bool.noConfusion h, fun ⟨_, _, h, _⟩ => by cases h⟩
    | .ok [] =>
      refine ⟨fun h => Bool.noConfusion h, fun ⟨_, _, h, hne, _⟩ => ?_⟩
      cases h
      exact absurd rfl hne
    | .ok (d :: rest) =>
      refine (Check.verified_compare_iff [] (d :: rest)).trans
        ⟨fun h => ?_, fun ⟨_, _, h, _, hall⟩ => ?_⟩
      · exact ⟨hfields, d :: rest, rfl, List.cons_ne_nil d rest, h⟩
      · cases h
        exact hall

/-- The request is buffered with `body`, and its cached digests are those of `body`. -/
structure Request.Holds (r : Request) (body : Bytes) : Prop where
  phase : r.phase = .buffered body
  computed : ∀ a digest, r.cache.get? a = some digest → digest = a.compute body

theorem Request.Holds.store {r : Request} (h : r.Holds body) (a : Algorithm) :
    Request.Holds { r with cache := r.cache.set (a.compute body) a } body where
  phase := h.phase
  computed b digest hdigest := by
    rcases DigestCache.of_get?_set hdigest with ⟨rfl, rfl⟩ | hdigest
    · rfl
    · exact h.computed b digest hdigest

namespace Host

variable {h : Host σ} {P : σ → Prop} {s : σ}

theorem ensure_holds (hs : (h.request s).Holds body) : h.ensure s = (.ok body, s) := by
  rw [ensure, hs.phase]
  rfl

theorem digest_holds (hs : (h.request s).Holds body) (a : Algorithm) :
    ∃ digest, (h.digest a s).1 = .ok digest ∧ digest.getD (a.compute []) = a.compute body := by
  rw [digest, if_neg (by rw [hs.phase]; exact Phase.noConfusion), ensure_holds hs]
  cases hdigest : (h.request s).cache.get? a with
  | some digest => exact ⟨some digest, rfl, hs.computed a digest hdigest⟩
  | none =>
    cases body with
    | nil => exact ⟨none, rfl, rfl⟩
    | cons b bs => exact ⟨some (a.compute (b :: bs)), rfl, rfl⟩

theorem compareWith_holds (hk : h.Keeps P) (hP : ∀ {s}, P s → (h.request s).Holds body)
    (hs : P s) (seen : List Algorithm) (declarations : List Declaration) :
    (h.compareWith fields seen declarations s).1 =
      .ok (.compare body fields seen declarations) := by
  induction declarations generalizing seen s with
  | nil => rfl
  | cons d rest ih =>
    obtain ⟨digest, hdigest, hbody⟩ := digest_holds (hP hs) d.algorithm
    have hnext := hk.digest d.algorithm hs
    rw [compareWith, Check.compare]
    generalize h.digest d.algorithm s = outcome at hdigest hnext ⊢
    obtain ⟨_, s'⟩ := outcome
    cases hdigest
    simp only [hbody, sameDigest_iff]
    by_cases hd : d.algorithm.compute body = d.digest
    · simp only [if_pos hd]
      exact ih hnext _
    · simp only [if_neg hd]

/-- A request that holds a body returns the reference check. -/
theorem verify_holds (hk : h.Keeps P) (hP : ∀ {s}, P s → (h.request s).Holds body) (hs : P s)
    (lines : FieldLines) : (h.verify lines s).1 = .ok (lines.check body) := by
  rw [verify, FieldLines.check]
  cases lines.integrityFields with
  | nil => rfl
  | cons f fields =>
    rcases lines.declared with _ | (_ | ⟨d, rest⟩)
    · rfl
    · rfl
    · exact compareWith_holds hk hP hs [] (d :: rest)

end Host

namespace Solo

variable {ρ : Type} {limits : Limits}

structure Rests (limits : Limits) (body : Bytes) (source : ρ) (s : Solo ρ) : Prop where
  holds : s.request.Holds body
  limits_eq : s.request.limits = limits
  source_eq : s.source = source

theorem rests_keeps [BodySource ρ] {source : ρ} : host.Keeps (Rests limits body source) where
  note hs _ := ⟨hs.holds, hs.limits_eq, hs.source_eq⟩
  buffer hs hp := nomatch hs.holds.phase.symm.trans hp
  buffered hs hp := nomatch hs.holds.phase.symm.trans hp
  store {s held} hs hp _ a := by
    have hphase : Phase.buffered body = .buffered held := hs.holds.phase.symm.trans hp
    cases hphase
    exact ⟨hs.holds.store a, hs.limits_eq, hs.source_eq⟩
  handOut hs hp := by
    rcases hp with hp | hp
    · exact nomatch hs.holds.phase.symm.trans hp
    · exact nomatch hs.holds.phase.symm.trans hp

end Solo

end DigestGate
