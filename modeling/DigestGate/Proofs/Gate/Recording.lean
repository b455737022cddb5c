import DigestGate.Proofs.Gate.Forwarding

namespace DigestGate

def Check.digested (check : Check) (body : Bytes) : List Algorithm :=
  if body = [] then [] else Algorithm.all.filter (· ∈ check.algorithms)

def Observation.ofBody (body : Bytes) (check : Check) : List Observation :=
  ofBuffering "buffered" (some (body.length : Int)) ++
    ofCheck check.verified (check.reason.map Reason.label)
      ((check.digested body).map Algorithm.name)

/-- The failure is raised and not answered. -/
def Failure.escapes : Failure → Bool
  | .fault _ => false
  | .body (.tooLarge _ _) => false
  | .body (.unreadable _) => false
  | .body .aborted => false
  | .body _ => true
  | .interrupted _ => true

/-- The body of a complete arrival within the limit, with its check. -/
def Arrival.kept (a : Arrival) (maximum : Int) (lines : FieldLines) : Option (Bytes × Check) :=
  if a.broken.isNone ∧ a.total ≤ maximum then some (a.parts.flatten, lines.check a.parts.flatten)
  else none

namespace Gate

variable {settings : Settings} {limits : Limits} {mode : Mode} {head : Head}
  {coming : List Receipt} {passage : Passage}

/-- The observations recorded at each exit. -/
inductive Recorded : Bool → Option (Bytes × Check) → Exit → List Observation → Prop where
  | unexamined : Recorded false none .unexamined []
  | undeclared : Recorded false none .undeclared []
  | required :
      Recorded false none .required (Observation.ofCheck false (some Reason.missing.label) [])
  | raised (asked : Bool) : Recorded asked none .raised []
  | tooLarge : Recorded true none .tooLarge (Observation.ofBuffering "too_large" none)
  | unreadable : Recorded true none .unreadable (Observation.ofBuffering "read_error" none)
  | checked (body : Bytes) (check : Check) :
      Recorded true (some (body, check)) .checked (Observation.ofBody body check)
  | mismatch (body : Bytes) (check : Check) :
      Recorded true (some (body, check)) .mismatch (Observation.ofBody body check)

theorem turnAway_recorded {a : Arrival} {e raised : Failure} (he : a.broken = some e)
    (hraised : a.outcome = .error raised) (route : String) (content : Solo Reader) :
    let p := turnAway route content raised
    Recorded true none p.verdict.exit p.observations ∧ (p.verdict.exit = .raised ↔ e.escapes) := by
  rw [Arrival.outcome, he] at hraised
  rcases e with cause | error | message
  · cases hraised
    exact ⟨.unreadable, iff_of_false Exit.noConfusion Bool.noConfusion⟩
  · cases hraised
    cases error with
    | tooLarge limit observed =>
      exact ⟨.tooLarge, iff_of_false Exit.noConfusion Bool.noConfusion⟩
    | unreadable cause => exact ⟨.unreadable, iff_of_false Exit.noConfusion Bool.noConfusion⟩
    | aborted => exact ⟨.unreadable, iff_of_false Exit.noConfusion Bool.noConfusion⟩
    | refused message => exact ⟨.raised true, iff_of_true rfl rfl⟩
    | alreadyBuffering => exact ⟨.raised true, iff_of_true rfl rfl⟩
    | stillBuffering => exact ⟨.raised true, iff_of_true rfl rfl⟩
    | handedOut => exact ⟨.raised true, iff_of_true rfl rfl⟩
  · cases hraised
    exact ⟨.raised true, iff_of_true rfl rfl⟩

theorem settle_recorded {body : Bytes} {check : Check} {content : Solo Reader}
    (h : content.request.cache.Covers body check.algorithms) (mode : Mode) (route : String) :
    let p := settle mode route body check content
    Recorded true (some (body, check)) p.verdict.exit p.observations ∧
      p.verdict.exit ≠ .raised := by
  intro p
  have hobserved : p.observations = Observation.ofBody body check := by
    rw [Observation.ofBody, Check.digested, ← h.computed_eq]
    exact settle_observations mode route body check content
  rw [hobserved]
  by_cases hlet : (check.verified || decide (mode = .advisory)) = true
  · have hverdict : p.verdict = .forward (.checked check content)
        (.replaying (content.request.replay body) content.request.limits.chunk
          content.source.channel) :=
      congrArg Passage.verdict (if_pos hlet)
    rw [hverdict]
    exact ⟨.checked body check, Exit.noConfusion⟩
  · have hverdict : p.verdict = .reject (mismatch check.reason) content.source.channel :=
      congrArg Passage.verdict (if_neg hlet)
    rw [hverdict, exit_mismatch]
    exact ⟨.mismatch body check, Exit.noConfusion⟩

/-- Each case of an examination records the observations of its exit. -/
theorem Examination.recorded (h : Examination mode limits head coming passage) :
    let a := Arrival.ofReceipts coming
    let kept := a.kept limits.maximum head.lines
    Recorded true kept passage.verdict.exit passage.observations ∧
      (passage.verdict.exit = .raised ↔
        a.total ≤ limits.maximum ∧ ∃ e, a.broken = some e ∧ e.escapes) ∧
      ∀ body check, kept = some (body, check) →
        ∃ left, Checked mode limits body check left passage.verdict := by
  intro a kept
  have hkept : kept = if a.broken.isNone ∧ (a.total : Int) ≤ limits.maximum then _ else _ := rfl
  cases h with
  | oversized k observed content htotal hexceeds hchannel =>
    have htotal' : ¬ a.total ≤ limits.maximum := Nat.not_le.2 htotal
    rw [if_neg fun h => htotal' (Int.ofNat_le.1 h.2)] at hkept
    rw [hkept]
    exact ⟨.tooLarge, iff_of_false Exit.noConfusion fun h => htotal' h.1,
      fun body check hsome => by cases hsome⟩
  | broken e raised content htotal hbroken hraised hchannel =>
    rw [if_neg fun h => by rw [hbroken] at h; exact Bool.noConfusion h.1] at hkept
    rw [hkept]
    obtain ⟨hrecorded, hexit⟩ := turnAway_recorded hbroken hraised head.route content
    refine ⟨hrecorded, hexit.trans ⟨fun h => ⟨Nat.not_lt.1 htotal, e, hbroken, h⟩, ?_⟩,
      fun body check hsome => by cases hsome⟩
    rintro ⟨_, e', hbroken', he'⟩
    cases hbroken.symm.trans hbroken'
    exact he'
  | whole content htotal hbroken hrests hchannel hcovers =>
    rw [if_pos ⟨by rw [hbroken]; rfl, Int.ofNat_le.2 (Nat.not_lt.1 htotal)⟩] at hkept
    rw [hkept]
    obtain ⟨hrecorded, hexit⟩ := settle_recorded hcovers mode head.route
    refine ⟨hrecorded, iff_of_false hexit ?_, fun body check hsome => ?_⟩
    · rintro ⟨_, e, hbroken', _⟩
      cases hbroken.symm.trans hbroken'
    · cases hsome
      exact ⟨_, settle_checked hrests mode head.route _⟩

end Gate

end DigestGate
