import DigestGate.Proofs.Check.Settled
import DigestGate.Proofs.Gate.Classification

namespace DigestGate

variable {σ : Type} {lines : FieldLines} {check : Check} {result reason : String}

/-- The checks that are possible for a header. -/
inductive FieldLines.Allows (lines : FieldLines) : Check → Prop
  | settled {check : Check} (h : lines.Settles check) : Allows lines check
  | passed {algorithms : List Algorithm} (hfields : lines.integrityFields ≠ [])
    (h : algorithms.Nodup) : Allows lines (.passed lines.integrityFields algorithms)
  | mismatch {algorithms : List Algorithm} {f : IntegrityField} (hf : f ∈ lines.integrityFields)
    (h : algorithms.Nodup) :
    Allows lines (.failed lines.integrityFields algorithms (.mismatch f))

theorem Check.nodup_told {seen : List Algorithm} (h : seen.Nodup) (a : Algorithm) :
    (if a ∈ seen then seen else seen ++ [a]).Nodup := by
  by_cases ha : a ∈ seen
  · rw [if_pos ha]
    exact h
  · rw [if_neg ha, ← List.concat_eq_append, List.nodup_concat]
    exact ⟨ha, h⟩

namespace Host

theorem compareWith_allows (h : Host σ) {s : σ} {seen : List Algorithm}
    {declarations : List Declaration} (hsome : lines.integrityFields ≠ [])
    (hfields : ∀ d ∈ declarations, d.field ∈ lines.integrityFields) (hseen : seen.Nodup)
    (hcheck : (h.compareWith lines.integrityFields seen declarations s).1 = .ok check) :
    lines.Allows check := by
  induction declarations generalizing seen s with
  | nil =>
    cases hcheck
    exact .passed hsome hseen
  | cons d rest ih =>
    obtain ⟨hd, hrest⟩ := List.forall_mem_cons.1 hfields
    have htold := Check.nodup_told hseen d.algorithm
    rw [compareWith] at hcheck
    generalize h.digest d.algorithm s = outcome at hcheck
    rcases outcome with ⟨e | digest, s'⟩
    · cases hcheck
    · by_cases hsame : sameDigest (digest.getD (d.algorithm.compute [])) d.digest
      · simp only [if_pos hsame] at hcheck
        exact ih hrest htold hcheck
      · simp only [if_neg hsame] at hcheck
        cases hcheck
        exact .mismatch hd htold

/-- Every check returned is possible for the header. -/
theorem verify_allows (h : Host σ) {s : σ} (hcheck : (h.verify lines s).1 = .ok check) :
    lines.Allows check := by
  rcases FieldLines.settles_or_declared lines with ⟨settled, hsettles⟩ | ⟨d, rest, hdeclared⟩
  · rw [hsettles.verify_eq] at hcheck
    cases hcheck
    exact .settled hsettles
  · rw [FieldLines.verify_of_declared hdeclared] at hcheck
    refine compareWith_allows h (FieldLines.integrityFields_ne_nil_of_declared hdeclared) ?_
      List.nodup_nil hcheck
    intro e he
    obtain ⟨value, _, hsaid, _⟩ := (((FieldLines.declaredIn_ok hdeclared).2 e).1 he).2
    exact FieldLines.mem_integrityFields_iff.2 ⟨value, hsaid⟩

end Host

/-- The fields of a check are consistent with each other and with the header. -/
structure Check.WellFormed (check : Check) (lines : FieldLines) : Prop where
  verified : check.verified ↔ check.reason = none
  present : check.present ↔ check.fields ≠ []
  names : check.fields.map IntegrityField.name =
    ["content-digest", "digest", "content-md5"].filter fun name =>
      (lines.first? name).any (· ≠ "")
  nodup : check.algorithms.Nodup
  idle : ∀ reason, check.reason = some reason → reason.label = "missing_digest" ∨
    reason.label = "unsupported_algorithm" ∨ "malformed_".toList <+: reason.label.toList →
      check.algorithms = []
  faulty : ∀ reason f, check.reason = some reason →
    reason.label = "malformed_" ++ f.label ∨ reason.label = f.label ++ "_mismatch" →
      f ∈ check.fields

namespace Reason

def all : List Reason :=
  [.missing, .unchecked, .unsupported] ++ IntegrityField.all.map .malformed ++
    IntegrityField.all.map .mismatch

theorem mem_all (r : Reason) : r ∈ all := by
  cases r with
  | missing => decide
  | unchecked => decide
  | unsupported => decide
  | malformed f => cases f <;> decide
  | mismatch f => cases f <;> decide

theorem label_injective {r r' : Reason} (h : r.label = r'.label) : r = r' := by
  have hall : ∀ r ∈ all, ∀ r' ∈ all, r.label = r'.label → r = r' := by decide
  exact hall r r.mem_all r' r'.mem_all h

end Reason

namespace FieldLines

theorem names_integrityFields (lines : FieldLines) :
    lines.integrityFields.map IntegrityField.name =
      ["content-digest", "digest", "content-md5"].filter fun name =>
        (lines.first? name).any (· ≠ "") := by
  have hall : ["content-digest", "digest", "content-md5"] =
      IntegrityField.all.map IntegrityField.name := rfl
  rw [hall, List.filter_map, integrityFields]
  refine congrArg (List.map IntegrityField.name) (List.filter_congr fun f _ => ?_)
  rw [IntegrityField.value?, Function.comp_apply]
  cases lines.first? f.name with
  | none => rfl
  | some value =>
    rw [Option.filter_some, Option.any_some]
    by_cases hvalue : value = ""
    · simp [hvalue]
    · simp [hvalue]

namespace Allows

theorem fields_eq (h : lines.Allows check) : check.fields = lines.integrityFields := by
  cases h with
  | settled h =>
    cases h with
    | missing h => exact h.symm
    | malformed => rfl
    | unsupported => rfl
  | passed => rfl
  | mismatch => rfl

theorem reason_cases {r : Reason} (h : lines.Allows check) (hr : check.reason = some r) :
    ((r = .missing ∨ r = .unsupported ∨ ∃ f ∈ check.fields, r = .malformed f) ∧
      check.algorithms = []) ∨ ∃ f ∈ check.fields, r = .mismatch f := by
  cases h with
  | settled h =>
    refine .inl ⟨?_, h.algorithms_eq⟩
    cases h with
    | missing => cases hr; exact .inl rfl
    | malformed h => cases hr; exact .inr (.inr ⟨_, mem_integrityFields_of_declared h, rfl⟩)
    | unsupported => cases hr; exact .inr (.inl rfl)
  | passed => cases hr
  | mismatch hf => cases hr; exact .inr ⟨_, hf, rfl⟩

theorem verified_iff (h : lines.Allows check) : check.verified ↔ check.reason = none := by
  have hfailed {r : Reason} : false = true ↔ some r = none :=
    ⟨fun h => Bool.noConfusion h, fun h => absurd h (Option.some_ne_none r)⟩
  cases h with
  | settled h =>
    cases h with
    | missing => exact hfailed
    | malformed => exact hfailed
    | unsupported => exact hfailed
  | passed => exact ⟨fun _ => rfl, fun _ => rfl⟩
  | mismatch => exact hfailed

theorem present_iff (h : lines.Allows check) : check.present ↔ check.fields ≠ [] := by
  cases h with
  | settled h =>
    cases h with
    | missing => exact ⟨fun h => Bool.noConfusion h, fun h => absurd rfl h⟩
    | malformed h =>
      exact ⟨fun _ => List.ne_nil_of_mem (mem_integrityFields_of_declared h), fun _ => rfl⟩
    | unsupported hfields => exact ⟨fun _ => hfields, fun _ => rfl⟩
  | passed hfields => exact ⟨fun _ => hfields, fun _ => rfl⟩
  | mismatch hf => exact ⟨fun _ => List.ne_nil_of_mem hf, fun _ => rfl⟩

theorem nodup (h : lines.Allows check) : check.algorithms.Nodup := by
  cases h with
  | settled h => rw [h.algorithms_eq]; exact List.nodup_nil
  | passed _ h => exact h
  | mismatch _ h => exact h

theorem wellFormed (h : lines.Allows check) : check.WellFormed lines where
  verified := h.verified_iff
  present := h.present_iff
  names := by rw [h.fields_eq, names_integrityFields]
  nodup := h.nodup
  idle r hr hlabel := by
    rcases h.reason_cases hr with ⟨_, hnone⟩ | ⟨f, _, rfl⟩
    · exact hnone
    · have hother : ∀ f ∈ IntegrityField.all, ¬ ((Reason.mismatch f).label = "missing_digest" ∨
          (Reason.mismatch f).label = "unsupported_algorithm" ∨
          "malformed_".toList <+: (Reason.mismatch f).label.toList) := by decide
      exact absurd hlabel (hother f f.mem_all)
  faulty r f hr hlabel := by
    have hfault : r = .malformed f ∨ r = .mismatch f :=
      hlabel.imp (fun h => Reason.label_injective h) fun h => Reason.label_injective h
    rcases h.reason_cases hr with ⟨rfl | rfl | ⟨g, hg, rfl⟩, _⟩ | ⟨g, hg, rfl⟩
    · rcases hfault with h | h <;> cases h
    · rcases hfault with h | h <;> cases h
    · rcases hfault with h | h <;> cases h
      exact hg
    · rcases hfault with h | h <;> cases h
      exact hg

end Allows

end FieldLines

/-- The pairs of result and reason under which checks are counted. -/
def Check.outcomes : List (String × String) := [
  ("verified", "ok"), ("failed", "missing_digest"), ("failed", "unsupported_algorithm"),
  ("failed", "malformed_content_digest"), ("failed", "malformed_digest"),
  ("failed", "malformed_content_md5"), ("failed", "content_digest_mismatch"),
  ("failed", "digest_mismatch"), ("failed", "content_md5_mismatch")]

theorem Observation.check_mem_ofCheck {verified : Bool} {fault : Option String}
    {computed : List String} (h : .check result reason ∈ ofCheck verified fault computed) :
    result = (if verified then "verified" else "failed") ∧
      reason = (fault.filter (· ≠ "")).getD "ok" := by
  rcases List.mem_cons.1 h with h | h
  · cases h
    refine ⟨rfl, ?_⟩
    cases fault with
    | none => rfl
    | some text =>
      by_cases htext : text = ""
      · simp [htext, Option.filter_some]
      · simp [htext, Option.filter_some]
  · obtain ⟨_, _, h⟩ := List.mem_map.1 h
    cases h

theorem Observation.check_not_mem_ofBuffering (outcome : String) (size : Option Int) :
    .check result reason ∉ ofBuffering outcome size := by
  intro h
  rcases List.mem_cons.1 h with h | h
  · cases h
  · cases size with
    | none => exact absurd h List.not_mem_nil
    | some n => cases List.mem_singleton.1 h

theorem FieldLines.Allows.mem_outcomes (hallows : lines.Allows check) {computed : List String}
    (h : .check result reason ∈
      Observation.ofCheck check.verified (check.reason.map Reason.label) computed) :
    (result, reason) ∈ Check.outcomes := by
  obtain ⟨rfl, rfl⟩ := Observation.check_mem_ofCheck h
  cases hreason : check.reason with
  | none =>
    rw [if_pos (hallows.verified_iff.2 hreason)]
    decide
  | some r =>
    have hfailed : ¬ check.verified := fun h => by
      rw [hallows.verified_iff, hreason] at h
      cases h
    rw [if_neg hfailed]
    have hfaults : ∀ f ∈ IntegrityField.all, ∀ r ∈ [Reason.malformed f, .mismatch f],
        ("failed", ((some r.label).filter (· ≠ "")).getD "ok") ∈ Check.outcomes := by decide
    rcases hallows.reason_cases hreason with ⟨rfl | rfl | ⟨f, _, rfl⟩, _⟩ | ⟨f, _, rfl⟩
    · decide
    · decide
    · exact hfaults f f.mem_all _ List.mem_cons_self
    · exact hfaults f f.mem_all _ (List.mem_cons_of_mem _ List.mem_cons_self)

namespace Gate

variable {settings : Settings} {head : Head} {channel : Channel}

theorem turnAway_unchecked (route : String) (content : Solo Reader) (failure : Failure) :
    .check result reason ∉ (turnAway route content failure).observations := by
  cases failure with
  | fault cause => exact List.not_mem_nil
  | body error =>
    cases error with
    | tooLarge => exact Observation.check_not_mem_ofBuffering _ _
    | unreadable => exact Observation.check_not_mem_ofBuffering _ _
    | aborted => exact Observation.check_not_mem_ofBuffering _ _
    | refused => exact List.not_mem_nil
    | alreadyBuffering => exact List.not_mem_nil
    | stillBuffering => exact List.not_mem_nil
    | handedOut => exact List.not_mem_nil
  | interrupted message => exact List.not_mem_nil

theorem settle_outcomes {mode : Mode} {route : String} {body : Bytes} {content : Solo Reader}
    (hallows : lines.Allows check)
    (h : .check result reason ∈ (settle mode route body check content).observations) :
    (result, reason) ∈ Check.outcomes := by
  rw [settle_observations] at h
  rcases List.mem_append.1 h with h | h
  · exact absurd h (Observation.check_not_mem_ofBuffering _ _)
  · exact hallows.mem_outcomes h

theorem bufferAndVerify_allows {content left : Solo Reader} {body : Bytes}
    (h : bufferAndVerify lines content = (.ok (body, check), left)) : lines.Allows check := by
  rw [bufferAndVerify] at h
  rcases hensure : Solo.host.ensure content with ⟨e | held, content'⟩
  · rw [hensure] at h
    cases h
  · rw [hensure] at h
    simp only at h
    rcases hverify : Solo.host.verify lines content' with ⟨e | check', left'⟩
    · rw [hverify] at h
      cases h
    · rw [hverify] at h
      cases h
      exact Host.verify_allows Solo.host (congrArg Prod.fst hverify)

theorem examine_outcomes (h : .check result reason ∈ (examine settings head channel).observations) :
    (result, reason) ∈ Check.outcomes := by
  rw [examine] at h
  cases hlimits : Limits.make settings.maximum settings.chunk with
  | error e =>
    rw [hlimits] at h
    exact absurd h List.not_mem_nil
  | ok limits =>
    rw [hlimits] at h
    simp only at h
    rcases hverify : bufferAndVerify head.lines { request := { limits }, source := { channel } }
      with ⟨e | ⟨body, check⟩, content⟩
    · rw [hverify] at h
      exact absurd h (turnAway_unchecked _ _ _)
    · rw [hverify] at h
      exact settle_outcomes (bufferAndVerify_allows hverify) h

theorem passUnder_outcomes
    (h : .check result reason ∈ (passUnder settings head channel).observations) :
    (result, reason) ∈ Check.outcomes := by
  rw [passUnder] at h
  by_cases hverb : head.verb ∈ settings.methods
  · rw [if_neg (not_not_intro hverb)] at h
    by_cases hdeclares : head.lines.hasIntegrity
    · rw [if_pos hdeclares] at h
      exact examine_outcomes h
    · rw [if_neg hdeclares] at h
      by_cases hmode : settings.mode = .require
      · rw [if_pos hmode] at h
        change _ ∈ Observation.ofCheck false (some Reason.missing.label) [] at h
        obtain ⟨rfl, rfl⟩ := Observation.check_mem_ofCheck h
        decide
      · rw [if_neg hmode] at h
        exact absurd h List.not_mem_nil
  · rw [if_pos hverb] at h
    exact absurd h List.not_mem_nil

theorem pass_outcomes {g : Gate} {defaults : Defaults} {env : Environment} {scope : Scope}
    (h : .check result reason ∈ (g.pass defaults env scope channel).observations) :
    (result, reason) ∈ Check.outcomes := by
  rw [pass] at h
  cases hload : Settings.load defaults env with
  | error e =>
    rw [hload] at h
    exact absurd h List.not_mem_nil
  | ok settings =>
    rw [hload] at h
    cases hhead : scope.head with
    | error e =>
      rw [hhead] at h
      exact absurd h List.not_mem_nil
    | ok head =>
      rw [hhead] at h
      exact passUnder_outcomes h

/-- Every check is well-formed, and its labels are from a fixed list. -/
theorem checks_well_formed :
    (∀ {σ : Type} (h : Host σ) (s : σ) (lines : FieldLines) (check : Check),
      (h.verify lines s).1 = .ok check → check.WellFormed lines) ∧
    (∀ f : IntegrityField, f.label.toList =
      f.name.toList.map fun c => if c = '-' then '_' else c) ∧
    ∀ (g : Gate) (defaults : Defaults) (env : Environment) (scope : Scope) (channel : Channel)
      (result reason : String),
      .check result reason ∈ (g.pass defaults env scope channel).observations →
        (result, reason) ∈ Check.outcomes := by
  refine ⟨fun h s lines check hcheck => (h.verify_allows hcheck).wellFormed, fun f => ?_,
    fun g defaults env scope channel result reason h => pass_outcomes h⟩
  cases f <;> decide

theorem checks_well_formed_rejected :
    let lines : FieldLines := [("digest", "md5=?"), ("content-digest", "")]
    let check := Check.failed [.digest] [] (.malformed .digest)
    check.WellFormed lines ∧ ("failed", "missing_digest") ∈ Check.outcomes := by
  intro lines check
  obtain ⟨hchecks, _, hlabels⟩ := checks_well_formed
  have hcheck :
      (Solo.host.verify lines (Solo.start Solo.tightLimits Solo.interruptedSource)).1 = .ok check :=
    rfl
  have hlabel : .check "failed" "missing_digest" ∈
      ({ strictGate with mode := some .require }.pass plainDefaults []
        { postedScope with lines := some [] } (.ofClient [])).observations := List.mem_cons_self
  exact ⟨hchecks _ _ lines check hcheck, hlabels _ _ _ _ _ _ _ hlabel⟩

end Gate

end DigestGate
