import DigestGate.Proofs.Check.Precedence

namespace DigestGate.FieldLines

variable {σ : Type} {lines : FieldLines} {fields : List IntegrityField} {f : IntegrityField}
  {d : Declaration} {rest : List Declaration} {check : Check}

/-- The checks that are decided by the header alone. -/
inductive Settles (lines : FieldLines) : Check → Prop
  | missing (h : lines.integrityFields = []) : Settles lines .missing
  | malformed {f : IntegrityField} (h : lines.declared = .error f) :
    Settles lines (.failed lines.integrityFields [] (.malformed f))
  | unsupported (hfields : lines.integrityFields ≠ []) (h : lines.declared = .ok []) :
    Settles lines (.failed lines.integrityFields [] .unsupported)

theorem mem_integrityFields_iff : f ∈ lines.integrityFields ↔ ∃ value, f.Says lines value := by
  rw [integrityFields, List.mem_filter, Option.isSome_iff_exists]
  simp only [IntegrityField.value?_eq_some_iff]
  exact and_iff_right f.mem_all

theorem not_readable_of_declaredIn (h : lines.declaredIn fields = .error f) :
    ¬ f.Readable lines := by
  induction fields with
  | nil => cases h
  | cons g rest ih =>
    rw [declaredIn_cons] at h
    by_cases hg : g.Readable lines
    · rw [IntegrityField.contribution_of_readable hg] at h
      cases hlater : lines.declaredIn rest with
      | error e =>
        rw [hlater] at h
        cases h
        exact ih hlater
      | ok later =>
        rw [hlater] at h
        cases h
    · rw [IntegrityField.contribution_of_not_readable hg] at h
      cases h
      exact hg

theorem mem_integrityFields_of_declared (h : lines.declared = .error f) :
    f ∈ lines.integrityFields :=
  mem_integrityFields_iff.2 (IntegrityField.says_of_not_readable (not_readable_of_declaredIn h))

theorem exists_declared_error (h : ¬ f.Readable lines) : ∃ e, lines.declared = .error e := by
  cases hdeclared : lines.declared with
  | error e => exact ⟨e, rfl⟩
  | ok declarations => exact absurd ((declaredIn_ok hdeclared).1 f f.mem_all) h

theorem madeBy_of_declared (h : lines.declared = .ok (d :: rest)) :
    (∀ f : IntegrityField, f.Readable lines) ∧ d.MadeBy lines := by
  obtain ⟨hreadable, hmem⟩ := declaredIn_ok h
  exact ⟨fun f => hreadable f f.mem_all, ((hmem d).1 List.mem_cons_self).2⟩

theorem integrityFields_ne_nil_of_declared (h : lines.declared = .ok (d :: rest)) :
    lines.integrityFields ≠ [] := by
  obtain ⟨value, _, hsaid, _⟩ := (madeBy_of_declared h).2
  exact integrityFields_ne_nil hsaid

theorem settles_or_declared (lines : FieldLines) :
    (∃ check, lines.Settles check) ∨ ∃ d rest, lines.declared = .ok (d :: rest) := by
  by_cases hfields : lines.integrityFields = []
  · exact .inl ⟨_, .missing hfields⟩
  cases hdeclared : lines.declared with
  | error f => exact .inl ⟨_, .malformed hdeclared⟩
  | ok declarations =>
    cases declarations with
    | nil => exact .inl ⟨_, .unsupported hfields hdeclared⟩
    | cons d rest => exact .inr ⟨d, rest, rfl⟩

theorem not_settles_of_declared (h : lines.declared = .ok (d :: rest)) : ¬ lines.Settles check := by
  intro hsettles
  cases hsettles with
  | missing hnone => exact integrityFields_ne_nil_of_declared h hnone
  | malformed herror => rw [h] at herror; cases herror
  | unsupported _ hnothing => rw [h] at hnothing; cases hnothing

theorem exists_settles_iff :
    (∃ check, lines.Settles check) ↔
      (∀ (f : IntegrityField) value, ¬ f.Says lines value) ∨
        (∃ f : IntegrityField, ¬ f.Readable lines) ∨ ∀ d : Declaration, ¬ d.MadeBy lines := by
  constructor
  · rintro ⟨check, hsettles⟩
    cases hsettles with
    | missing h => exact .inl (integrityFields_eq_nil_iff.1 h)
    | malformed h => exact .inr (.inl ⟨_, not_readable_of_declaredIn h⟩)
    | unsupported _ h =>
      refine .inr (.inr fun d hd => ?_)
      exact absurd (((declaredIn_ok h).2 d).2 ⟨d.field.mem_all, hd⟩) List.not_mem_nil
  · intro h
    rcases settles_or_declared lines with hsettles | ⟨d, rest, hdeclared⟩
    · exact hsettles
    · obtain ⟨hreadable, hmade⟩ := madeBy_of_declared hdeclared
      rcases h with hsilent | ⟨f, hf⟩ | hnothing
      · obtain ⟨value, _, hsaid, _⟩ := hmade
        exact absurd hsaid (hsilent d.field value)
      · exact absurd (hreadable f) hf
      · exact absurd hmade (hnothing d)

theorem Settles.algorithms_eq (h : lines.Settles check) : check.algorithms = [] := by
  cases h <;> rfl

/-- A check decided by the header leaves the request unchanged. -/
theorem Settles.verify_eq (hsettles : lines.Settles check) (h : Host σ) (s : σ) :
    h.verify lines s = (.ok check, s) := by
  rw [Host.verify]
  cases hsettles with
  | missing hnone => rw [hnone]
  | malformed hdeclared =>
    obtain ⟨g, fields, hfields⟩ :=
      List.exists_cons_of_ne_nil (List.ne_nil_of_mem (mem_integrityFields_of_declared hdeclared))
    rw [hdeclared, hfields]
  | unsupported hsome hdeclared =>
    obtain ⟨g, fields, hfields⟩ := List.exists_cons_of_ne_nil hsome
    rw [hdeclared, hfields]

theorem verify_of_declared (hdeclared : lines.declared = .ok (d :: rest)) (h : Host σ) (s : σ) :
    h.verify lines s = h.compareWith lines.integrityFields [] (d :: rest) s := by
  obtain ⟨g, fields, hfields⟩ :=
    List.exists_cons_of_ne_nil (integrityFields_ne_nil_of_declared hdeclared)
  rw [Host.verify, hdeclared, hfields]

end DigestGate.FieldLines
