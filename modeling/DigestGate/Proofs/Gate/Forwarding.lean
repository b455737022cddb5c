import DigestGate.Proofs.Gate.Classification

namespace DigestGate

variable {limits : Limits} {settings : Settings} {mode : Mode} {lines : FieldLines}
  {coming : List Receipt} {clearance : Clearance} {channel : Channel} {v : Verdict}

def Arrival.rest (coming : List Receipt) : Channel :=
  .client (coming.drop (ofReceipts coming).received) (ofReceipts coming).received

namespace Gate

/-- The channel of the application: the client itself, or a replay above the rest of it. -/
inductive Onward (coming : List Receipt) : Clearance → Channel → Prop where
  | unexamined : Onward coming .unexamined (.ofClient coming)
  | undeclared (check : Check) : Onward coming (.undeclared check) (.ofClient coming)
  | checked (check : Check) (content : Solo Reader) (chunk : Nat) :
      content.request.phase = .buffered (Arrival.ofReceipts coming).parts.flatten → 0 < chunk →
      Onward coming (.checked check content)
        (.replay { content := (Arrival.ofReceipts coming).parts.flatten, chunk } chunk false
          (Arrival.rest coming))

theorem Examined.of_forward (h : Examined mode limits lines coming (.forward clearance channel)) :
    ((lines.check (Arrival.ofReceipts coming).parts.flatten).verified ∨ mode = .advisory) ∧
      Onward coming clearance channel := by
  rw [Examined] at h
  by_cases htotal : limits.maximum < (Arrival.ofReceipts coming).total
  · rw [if_pos htotal] at h
    obtain ⟨k, _, hv⟩ := h
    cases hv
  · rw [if_neg htotal] at h
    cases hbroken : (Arrival.ofReceipts coming).broken with
    | some e =>
      rw [hbroken] at h
      cases e with
      | fault _ => cases h
      | body error => cases error <;> cases h
      | interrupted _ => cases h
    | none =>
      rw [hbroken, Checked] at h
      by_cases hlet :
          (lines.check (Arrival.ofReceipts coming).parts.flatten).verified ∨ mode = .advisory
      · rw [if_pos hlet] at h
        obtain ⟨content, hphase, hv⟩ := h
        cases hv
        exact ⟨hlet, .checked _ content limits.chunk hphase limits.chunk_pos⟩
      · rw [if_neg hlet] at h
        cases h

inductive Forwarded (settings : Settings) (head : Head) (channel : Channel) :
    Clearance → Channel → Prop where
  | unexamined : head.verb ∉ settings.methods →
      Forwarded settings head channel .unexamined channel
  | undeclared : ¬ head.lines.hasIntegrity →
      Forwarded settings head channel (.undeclared .missing) channel
  | examined {limits : Limits} {clearance : Clearance} {onward : Channel} :
      Limits.make settings.maximum settings.chunk = .ok limits →
      (examine settings head channel).verdict = .forward clearance onward →
      Forwarded settings head channel clearance onward

theorem passUnder_forwarded {head : Head} {onward : Channel}
    (h : (passUnder settings head channel).verdict = .forward clearance onward) :
    Forwarded settings head channel clearance onward := by
  rw [passUnder] at h
  by_cases hverb : head.verb ∉ settings.methods
  · rw [if_pos hverb] at h
    cases h
    exact .unexamined hverb
  · rw [if_neg hverb] at h
    by_cases hdeclares : head.lines.hasIntegrity
    · rw [if_pos hdeclares] at h
      cases hlimits : Limits.make settings.maximum settings.chunk with
      | error e =>
        rw [examine, hlimits] at h
        cases h
      | ok limits => exact .examined hlimits h
    · rw [if_neg hdeclares] at h
      by_cases hmode : settings.mode = .require
      · rw [if_pos hmode] at h
        cases h
      · rw [if_neg hmode] at h
        cases h
        exact .undeclared hdeclares

theorem passUnder_forward {head : Head}
    (h : (passUnder settings head (.ofClient coming)).verdict = .forward clearance channel) :
    Onward coming clearance channel ∧
      (head.verb ∈ settings.methods → head.lines.Declares →
        (head.lines.check (Arrival.ofReceipts coming).parts.flatten).verified ∨
          settings.mode = .advisory) := by
  cases passUnder_forwarded h with
  | unexamined hverb => exact ⟨.unexamined, fun hverb' => absurd hverb' hverb⟩
  | undeclared hdeclares =>
    refine ⟨.undeclared .missing, fun _ hdeclares' => ?_⟩
    exact absurd (FieldLines.hasIntegrity_iff.2 hdeclares') hdeclares
  | examined hlimits hforward =>
    have hexamined := examine_examined hlimits head coming
    rw [hforward] at hexamined
    obtain ⟨hlet, honward⟩ := hexamined.of_forward
    exact ⟨honward, fun _ _ => hlet⟩

/-- The condition under which a complete body within the limit is forwarded. -/
theorem Passed.forward_iff {head : Head} (h : Passed settings limits head coming v)
    (hwhole : (Arrival.ofReceipts coming).broken = none)
    (hsize : (Arrival.ofReceipts coming).total ≤ limits.maximum) :
    (∃ clearance channel, v = .forward clearance channel) ↔
      (head.verb ∈ settings.methods →
        (head.lines.Declares →
          (head.lines.check (Arrival.ofReceipts coming).parts.flatten).verified ∨
            settings.mode = .advisory) ∧
        (¬ head.lines.Declares → settings.mode ≠ .require)) := by
  by_cases hverb : head.verb ∈ settings.methods
  · by_cases hdeclares : head.lines.Declares
    · have hexamined := h.examined hverb hdeclares
      rw [Examined, if_neg (Nat.not_lt.2 hsize), hwhole] at hexamined
      simp only [Checked] at hexamined
      by_cases hlet : (head.lines.check (Arrival.ofReceipts coming).parts.flatten).verified ∨
          settings.mode = .advisory
      · rw [if_pos hlet] at hexamined
        obtain ⟨content, _, hv⟩ := hexamined
        constructor
        · intro _ _
          exact ⟨fun _ => hlet, fun hsilent => absurd hdeclares hsilent⟩
        · intro _
          exact ⟨_, _, hv⟩
      · rw [if_neg hlet] at hexamined
        constructor
        · rintro ⟨_, _, hv⟩
          cases hexamined.symm.trans hv
        · intro hpass
          exact absurd ((hpass hverb).1 hdeclares) hlet
    · have hundeclared := h.undeclared hverb hdeclares
      by_cases hmode : settings.mode = .require
      · rw [if_pos hmode] at hundeclared
        constructor
        · rintro ⟨_, _, hv⟩
          cases hundeclared.symm.trans hv
        · intro hpass
          exact absurd hmode ((hpass hverb).2 hdeclares)
      · rw [if_neg hmode] at hundeclared
        constructor
        · intro _ _
          exact ⟨fun hdeclared => absurd hdeclared hdeclares, fun _ => hmode⟩
        · intro _
          exact ⟨_, _, hundeclared⟩
  · constructor
    · intro _ hverb'
      exact absurd hverb' hverb
    · intro _
      exact ⟨_, _, h.unexamined hverb⟩

theorem pass_of_load {g : Gate} {defaults : Defaults} {env : Environment} {loaded : Settings}
    (hload : Settings.load defaults env = .ok loaded) (scope : Scope) (channel : Channel) :
    g.pass defaults env scope channel =
      match scope.head with
      | .error e => { verdict := .fail (.fault e) channel }
      | .ok head => passUnder (g.apply loaded) head channel := by
  cases hhead : scope.head with
  | error e => simp only [pass, hload, hhead]
  | ok head => simp only [pass, hload, hhead]

theorem exists_passUnder_of_pass {g : Gate} {defaults : Defaults} {env : Environment}
    {scope : Scope} {onward : Channel}
    (h : (g.pass defaults env scope channel).verdict = .forward clearance onward) :
    ∃ loaded head, (passUnder (g.apply loaded) head channel).verdict =
      .forward clearance onward := by
  cases hload : Settings.load defaults env with
  | error e =>
    rw [pass, hload] at h
    cases h
  | ok loaded =>
    rw [pass_of_load hload] at h
    cases hhead : scope.head with
    | error e =>
      rw [hhead] at h
      cases h
    | ok head =>
      rw [hhead] at h
      exact ⟨loaded, head, h⟩

end Gate

end DigestGate
