import DigestGate.Proofs.Check.Computed
import DigestGate.Proofs.Check.Settled

namespace DigestGate.Solo

variable {ρ : Type} {s s' : Solo ρ} {body : Bytes} {lines : FieldLines}
  {check : Check} {d : Declaration} {rest : List Declaration} {limits : Limits} {source : ρ}
  {steps : List Step}

structure Checked (lines : FieldLines) (body : Bytes) (s : Solo ρ) : Prop where
  holds : s.request.Holds body
  covers : s.request.cache.Covers body (lines.check body).algorithms

theorem Checked.cache_eq (hs : Checked lines body s) (hs' : Checked lines body s') :
    s.request.cache = s'.request.cache :=
  hs.covers.cache_eq hs'.covers (fun _ => Iff.rfl) hs.holds.computed hs'.holds.computed

variable [BodySource ρ]

theorem checked_of_verify (hs : s.request.Holds body) (hc : s.request.cache = {})
    (lines : FieldLines) : Checked lines body (host.verify lines s).2 where
  holds := (rests_keeps.verify lines
    (⟨hs, rfl, rfl⟩ : Rests s.request.limits body s.source s)).holds
  covers := by
    apply covers_verify hs
    rw [hc]
    exact DigestCache.covers_empty body

theorem Checked.verify (hs : Checked lines body s) :
    Checked lines body (host.verify lines s).2 where
  holds := (rests_keeps.verify lines
    (⟨hs.holds, rfl, rfl⟩ : Rests s.request.limits body s.source s)).holds
  covers := (covers_verify_named hs.holds hs.covers lines).congr fun a => by
    rw [List.mem_append, or_self]

theorem after_append (limits : Limits) (source : ρ) (steps later : List Step) :
    after limits source (steps ++ later) = later.foldl step (after limits source steps) :=
  List.foldl_append

theorem uses_append (hp : (after limits source steps).request.phase ≠ .fresh) (later : List Step) :
    Deed.uses (journal limits source (steps ++ later)) =
      Deed.uses (journal limits source steps) := by
  obtain ⟨used, _, hstands⟩ := (orderly_watched limits source steps).stands
  rw [watched_fst] at hstands
  have hlater := hstands.foldl_step hp later
  rw [← watched_append] at hlater
  exact hlater.uses_eq.trans hstands.uses_eq.symm

def checks (lines : FieldLines) (n : Nat) : List Step :=
  List.replicate n (.ask (.verify lines))

theorem after_checks_succ (limits : Limits) (source : ρ) (steps : List Step) (lines : FieldLines)
    (n : Nat) :
    after limits source (steps ++ checks lines (n + 1)) =
      (host.verify lines (after limits source (steps ++ checks lines n))).2 := by
  rw [checks, List.replicate_succ', ← List.append_assoc, after_append]
  rfl

theorem after_check (limits : Limits) (source : ρ) (steps : List Step) (lines : FieldLines) :
    after limits source (steps ++ checks lines 1) =
      (host.verify lines (after limits source steps)).2 := by
  have hsucc := after_checks_succ limits source steps lines 0
  rwa [show steps ++ checks lines 0 = steps from List.append_nil steps] at hsucc

theorem after_checks_of_settles (hsettles : lines.Settles check) (n : Nat) :
    after limits source (steps ++ checks lines n) = after limits source steps := by
  induction n with
  | zero => rw [checks, List.replicate_zero, List.append_nil]
  | succ n ih => rw [after_checks_succ, hsettles.verify_eq, ih]

/-- A check that needs the body of a fresh request buffers it first. -/
theorem verify_of_unread (hp : s.request.phase = .fresh) (hc : s.request.cache = {})
    (hdeclared : lines.declared = .ok (d :: rest)) :
    match host.ensure s with
    | (.error e, s') => host.verify lines s = (.error e, s')
    | (.ok body, _) => (host.verify lines s).1 = .ok (lines.check body) ∧
        Checked lines body (host.verify lines s).2 := by
  have hfresh := fresh_of_phase hp hc
  have hfollows := hfresh.compareWith lines.integrityFields [] d rest
  rw [Host.Follows, ← FieldLines.verify_of_declared hdeclared] at hfollows
  rw [Host.ensure_of_fresh hfresh.phase_eq]
  rcases hbuffer : host.buffer s with ⟨e | body, s'⟩
  · rw [hbuffer] at hfollows
    exact hfollows
  · rw [hbuffer] at hfollows
    have hverify : host.verify lines s = host.verify lines s' := by
      rw [FieldLines.verify_of_declared hdeclared host s']
      exact hfollows
    obtain ⟨hphase, hcache⟩ := hfresh.buffered hbuffer
    have hholds : s'.request.Holds body := Request.holds_of_cache_eq hphase hcache
    simp only
    rw [hverify]
    exact ⟨verify_of_holds hholds lines, checked_of_verify hholds hcache lines⟩

theorem cache_of_fresh (hp : (after limits source steps).request.phase = .fresh) :
    (after limits source steps).request.cache = {} := by
  obtain ⟨used, _, hstands⟩ := (orderly_watched limits source steps).stands
  rw [watched_fst, hp] at hstands
  have hcache := hstands.cache_eq fun _ => Phase.noConfusion
  rwa [watched_fst] at hcache

/-- Further checks return `check` without use of the source or computation of digests. -/
structure Stays (limits : Limits) (source : ρ) (steps : List Step) (lines : FieldLines)
    (check : Check) : Prop where
  computed : ∀ a, a ∈ (after limits source (steps ++ checks lines 1)).request.cache.computed ↔
    a ∈ check.algorithms ∧
      (after limits source (steps ++ checks lines 1)).request.body ≠ some []
  again : ∀ n,
    (host.verify lines (after limits source (steps ++ checks lines (n + 1)))).1 = .ok check
  unused : ∀ n, Deed.uses (journal limits source (steps ++ checks lines (n + 1))) =
    Deed.uses (journal limits source (steps ++ checks lines 1))
  cached : ∀ n, (after limits source (steps ++ checks lines (n + 1))).request.cache =
    (after limits source (steps ++ checks lines 1)).request.cache

theorem uses_checks_of_settles (hp : (after limits source steps).request.phase = .fresh)
    (hsettles : lines.Settles check) (n : Nat) :
    Deed.uses (journal limits source (steps ++ checks lines n)) = [] := by
  apply (orderly_watched limits source (steps ++ checks lines n)).uses_eq_nil
  rw [watched_fst, after_checks_of_settles hsettles]
  exact Request.state_of_phase hp

theorem stays_of_settles (hp : (after limits source steps).request.phase = .fresh)
    (hsettles : lines.Settles check) : Stays limits source steps lines check where
  computed a := by
    rw [after_checks_of_settles hsettles, cache_of_fresh hp, DigestCache.mem_computed,
      DigestCache.get?_empty, hsettles.algorithms_eq]
    exact ⟨fun h => Bool.noConfusion h, fun h => absurd h.1 List.not_mem_nil⟩
  again n := by rw [hsettles.verify_eq]
  unused n := by rw [uses_checks_of_settles hp hsettles, uses_checks_of_settles hp hsettles]
  cached n := by rw [after_checks_of_settles hsettles, after_checks_of_settles hsettles]

theorem stays_of_checked (h : Checked lines body (after limits source (steps ++ checks lines 1))) :
    Stays limits source steps lines (lines.check body) := by
  have hchecked (n : Nat) :
      Checked lines body (after limits source (steps ++ checks lines (n + 1))) := by
    induction n with
    | zero => exact h
    | succ n ih =>
      rw [after_checks_succ]
      exact ih.verify
  have hopen : (after limits source (steps ++ checks lines 1)).request.phase ≠ .fresh := by
    rw [h.holds.phase]
    exact Phase.noConfusion
  refine ⟨fun a => ?_, fun n => verify_of_holds (hchecked n).holds lines, fun n => ?_,
    fun n => (hchecked n).cache_eq h⟩
  · have hbody := (valid_after limits source (steps ++ checks lines 1)).phase_eq_iff.1 h.holds.phase
    rw [DigestCache.mem_computed, h.covers a, hbody, and_comm]
    refine and_congr_right fun _ => not_congr ?_
    exact ⟨congrArg some, Option.some.inj⟩
  · have hsplit : checks lines (n + 1) = checks lines 1 ++ checks lines n := by
      rw [checks, checks, checks, List.replicate_append_replicate, Nat.add_comm]
    rw [hsplit, ← List.append_assoc]
    exact uses_append hopen _

/-- A check buffers the body only if the header does not decide it, and is repeatable. -/
theorem verify_effects (limits : Limits) (source : ρ) (steps : List Step) (lines : FieldLines)
    (hfresh : (after limits source steps).request.phase = .fresh) :
    let enough := (∀ (f : IntegrityField) value, ¬ f.Says lines value) ∨
      (∃ f : IntegrityField, ¬ f.Readable lines) ∨ ∀ d : Declaration, ¬ d.MadeBy lines
    let s := after limits source steps
    let s' := after limits source (steps ++ checks lines 1)
    (enough → (∃ check, host.verify lines s = (.ok check, s)) ∧ s' = s ∧
      s'.request.state = .unbuffered ∧
        Deed.uses (journal limits source (steps ++ checks lines 1)) = []) ∧
    (¬ enough →
      (∀ body, (host.ensure s).1 = .ok body →
        (host.verify lines s).1 = .ok (lines.check body) ∧ s'.request.state = .buffered ∧
          s'.request.body = some body) ∧
      ∀ e, (host.ensure s).1 = .error e → host.verify lines s = (.error e, (host.ensure s).2)) ∧
    ∀ check, (host.verify lines s).1 = .ok check → Stays limits source steps lines check := by
  intro enough s s'
  have hcheck : s' = (host.verify lines s).2 := after_check limits source steps lines
  rcases FieldLines.settles_or_declared lines with ⟨check, hsettles⟩ | ⟨d, rest, hdeclared⟩
  · have hverify := hsettles.verify_eq host s
    have hsame : s' = s := after_checks_of_settles hsettles 1
    refine ⟨fun _ => ⟨⟨check, hverify⟩, hsame, ?_, uses_checks_of_settles hfresh hsettles 1⟩,
      fun h => absurd (FieldLines.exists_settles_iff.1 ⟨check, hsettles⟩) h, ?_⟩
    · rw [hsame]
      exact Request.state_of_phase hfresh
    · intro check' hreturned
      rw [hverify] at hreturned
      cases hreturned
      exact stays_of_settles hfresh hsettles
  · have hunread := verify_of_unread hfresh (cache_of_fresh hfresh) hdeclared
    have hscarce : ¬ enough := fun h => by
      obtain ⟨check, hsettles⟩ := FieldLines.exists_settles_iff.2 h
      exact FieldLines.not_settles_of_declared hdeclared hsettles
    rcases hensure : host.ensure s with ⟨e | body, last⟩
    · rw [hensure] at hunread
      refine ⟨fun h => absurd h hscarce, fun _ => ⟨fun body hbody => ?_, fun e' he' => ?_⟩, ?_⟩
      · cases hbody
      · cases he'
        exact hunread
      · intro check hreturned
        rw [show host.verify lines s = _ from hunread] at hreturned
        cases hreturned
    · rw [hensure] at hunread
      obtain ⟨hverify, hchecked⟩ := hunread
      rw [← hcheck] at hchecked
      refine ⟨fun h => absurd h hscarce, fun _ => ⟨fun body' hbody => ?_, fun e he => ?_⟩, ?_⟩
      · cases hbody
        exact ⟨hverify, Request.state_of_phase hchecked.holds.phase,
          (valid_after limits source _).phase_eq_iff.1 hchecked.holds.phase⟩
      · cases he
      · intro check hreturned
        rw [hverify] at hreturned
        cases hreturned
        exact stays_of_checked hchecked

theorem verify_effects_stopped :
    let source : Source := { supply := .script [.piece (.bytes [1, 2]), .piece .nothing] }
    let lines : FieldLines := [("digest", "sha=AA==, md5=AA==")]
    Stays tightLimits source [] lines (lines.check [1, 2]) := by
  intro source lines
  have hsource : Brings (BodySource.draw tightLimits.chunk) source ([1, 2] ++ []) :=
    .more rfl (by decide) (.absent rfl (by decide))
  have hverify : (host.verify lines (after tightLimits source [])).1 = .ok (lines.check [1, 2]) :=
    verify_of_ensure (valid_run tightLimits source [])
      (ensure_of_brings hsource (by decide)) lines
  exact (verify_effects tightLimits source [] lines rfl).2.2 _ hverify

end DigestGate.Solo
