import DigestGate.Proofs.Gate.Transparency

namespace DigestGate

variable {body : Bytes} {coming : List Receipt} {clearance : Clearance} {channel : Channel}
  {content : Solo Reader} {scope : Scope} {env : Environment}

def Verdict.Forwards (v : Verdict) : Prop :=
  ∃ clearance channel, v = .forward clearance channel

/-- A checked request holds `body` and the digests named by its check. -/
def Clearance.Keeps (body : Bytes) : Clearance → Prop
  | .checked check content =>
    content.request.Holds body ∧ content.request.cache.Covers body check.algorithms
  | _ => True

namespace Gate

variable {g : Gate} {defaults : Defaults} {settings : Settings} {mode : Mode}
  {limits : Limits} {head : Head} {passage : Passage} {v : Verdict}

theorem Onward.flows (h : Onward coming clearance channel) : channel.Flows := by
  cases h with
  | unexamined => trivial
  | undeclared => trivial
  | checked check content chunk _ hchunk =>
    exact ⟨Int.natCast_ne_zero.2 (Nat.ne_of_gt hchunk), trivial⟩

theorem turnAway_ne_forward (route : String) (failure : Failure) :
    (turnAway route content failure).verdict ≠ .forward clearance channel := by
  intro h
  rcases failure with _ | error | _
  · cases h
  · cases error <;> cases h
  · cases h

theorem settle_forward {check : Check}
    (h : (settle mode head.route body check content).verdict = .forward clearance channel) :
    clearance = .checked check content := by
  rw [settle] at h
  by_cases hlet : (check.verified || decide (mode = .advisory)) = true
  · rw [if_pos hlet] at h
    cases h
    rfl
  · rw [if_neg hlet] at h
    cases h

theorem Examination.keeps (h : Examination mode limits head coming passage)
    (hv : passage.verdict = .forward clearance channel) :
    clearance.Keeps (Arrival.ofReceipts coming).parts.flatten := by
  cases h with
  | oversized => exact absurd hv (turnAway_ne_forward _ _)
  | broken => exact absurd hv (turnAway_ne_forward _ _)
  | whole content _ _ hrests _ hcovers =>
    rw [settle_forward hv]
    exact ⟨hrests.holds, hcovers⟩

theorem pass_keeps
    (h : (g.pass defaults env scope (.ofClient coming)).verdict = .forward clearance channel) :
    clearance.Keeps (Arrival.ofReceipts coming).parts.flatten := by
  obtain ⟨loaded, head, hforward⟩ := exists_passUnder_of_pass h
  cases passUnder_forwarded hforward with
  | unexamined => trivial
  | undeclared => trivial
  | examined hlimits hexamined => exact (examination hlimits head coming).keeps hexamined

/-- The settings load with valid limits, and the head of the request is readable. -/
def Ready (g : Gate) (defaults : Defaults) (env : Environment) (scope : Scope) : Prop :=
  ∃ loaded head, Settings.load defaults env = .ok loaded ∧ 0 ≤ (g.apply loaded).maximum ∧
    0 < (g.apply loaded).chunk ∧ scope.head = .ok head

theorem Passed.exit_ne_raised (h : Passed settings limits head coming v)
    (hwhole : (Arrival.ofReceipts coming).broken = none) : v.exit ≠ .raised := by
  by_cases hverb : head.verb ∈ settings.methods
  · by_cases hdeclares : head.lines.Declares
    · rw [(h.examined hverb hdeclares).exit_eq (by rw [hwhole]; nofun)]
      simp only [hwhole]
      split
      · exact Exit.noConfusion
      · split <;> exact Exit.noConfusion
    · rw [h.undeclared hverb hdeclares]
      split
      · rw [exit_digestRequired]
        exact Exit.noConfusion
      · exact Exit.noConfusion
  · rw [h.unexamined hverb]
    exact Exit.noConfusion

/-- A ready gate does not fail on a complete body. -/
theorem pass_ne_fail (h : g.Ready defaults env scope)
    (hwhole : (Arrival.ofReceipts coming).broken = none) (e : Failure) (left : Channel) :
    (g.pass defaults env scope (.ofClient coming)).verdict ≠ .fail e left := by
  obtain ⟨loaded, head, hload, hmaximum, hchunk, hhead⟩ := h
  have hpassed := passUnder_passed (Limits.make_of_pos hmaximum hchunk) head coming
  have hexit := hpassed.exit_ne_raised hwhole
  rw [pass_of_load hload, hhead]
  intro hfail
  exact hexit (congrArg Verdict.exit hfail)

end Gate

end DigestGate
