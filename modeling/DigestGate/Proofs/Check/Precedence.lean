import DigestGate.Proofs.Check.Buffered
import DigestGate.Proofs.Check.Declared
import DigestGate.Proofs.Field.Order

namespace DigestGate

variable {lines : FieldLines} {body : Bytes} {fields before after : List IntegrityField}
  {f : IntegrityField} {d : Declaration} {passed rest : List Declaration}

namespace IntegrityField

theorem contribution_of_not_readable (h : ¬ f.Readable lines) :
    f.contribution lines = .error f := by
  rw [contribution]
  cases hvalue : f.value? lines with
  | none =>
    refine absurd (fun value hsaid => ?_) h
    rw [value?_eq_some_iff.2 hsaid] at hvalue
    cases hvalue
  | some value =>
    simp only
    cases hparse : f.parse value with
    | error e => rfl
    | ok digests =>
      refine absurd (fun value' hsaid => ?_) h
      rw [← value?_eq_some_iff, hvalue] at hsaid
      cases hsaid
      exact ⟨digests, hparse⟩

theorem says_of_not_readable (h : ¬ f.Readable lines) : ∃ value, f.Says lines value := by
  by_contra hsilent
  exact h fun value hsaid => absurd ⟨value, hsaid⟩ hsilent

end IntegrityField

namespace FieldLines

theorem declaredIn_of_not_readable (hbefore : ∀ g ∈ before, g.Readable lines)
    (hf : ¬ f.Readable lines) (after : List IntegrityField) :
    lines.declaredIn (before ++ f :: after) = .error f := by
  induction before with
  | nil => rw [List.nil_append, declaredIn_cons, IntegrityField.contribution_of_not_readable hf]
  | cons g rest ih =>
    obtain ⟨hg, hrest⟩ := List.forall_mem_cons.1 hbefore
    rw [List.cons_append, declaredIn_cons, IntegrityField.contribution_of_readable hg, ih hrest]
    rfl

theorem integrityFields_eq_nil_iff :
    lines.integrityFields = [] ↔ ∀ (f : IntegrityField) value, ¬ f.Says lines value := by
  rw [integrityFields, List.filter_eq_nil_iff]
  constructor
  · intro h f value hsaid
    apply h f f.mem_all
    rw [IntegrityField.value?_eq_some_iff.2 hsaid]
    rfl
  · intro h f _ hvalue
    obtain ⟨value, hvalue⟩ := Option.isSome_iff_exists.1 hvalue
    exact h f value (IntegrityField.value?_eq_some_iff.1 hvalue)

end FieldLines

namespace Check

theorem compare_append (h : ∀ e ∈ passed, e.algorithm.compute body = e.digest)
    (fields : List IntegrityField) (earlier : List Algorithm) (rest : List Declaration) :
    compare body fields earlier.eraseDups (passed ++ rest) =
      compare body fields (earlier ++ passed.map Declaration.algorithm).eraseDups rest := by
  induction passed generalizing earlier with
  | nil => rw [List.nil_append, List.map_nil, List.append_nil]
  | cons e passed ih =>
    obtain ⟨he, hpassed⟩ := List.forall_mem_cons.1 h
    have hlater := ih hpassed (earlier ++ [e.algorithm])
    rw [List.append_assoc, List.singleton_append] at hlater
    rw [List.cons_append, compare, if_pos he, List.map_cons, ← hlater]
    by_cases hseen : e.algorithm ∈ earlier
    · rw [if_pos (List.mem_eraseDups.2 hseen), eraseDups_concat_of_mem hseen]
    · rw [if_neg (mt List.mem_eraseDups.1 hseen), eraseDups_concat_of_not_mem hseen]

theorem compare_passed (h : ∀ e ∈ passed, e.algorithm.compute body = e.digest)
    (fields : List IntegrityField) :
    compare body fields [] passed =
      .passed fields (passed.map Declaration.algorithm).eraseDups := by
  have hcompare := compare_append h fields [] []
  rw [List.append_nil] at hcompare
  exact hcompare

theorem compare_mismatch (h : ∀ e ∈ passed, e.algorithm.compute body = e.digest)
    (hd : d.algorithm.compute body ≠ d.digest) (fields : List IntegrityField)
    (rest : List Declaration) :
    compare body fields [] (passed ++ d :: rest) =
      .failed fields ((passed ++ [d]).map Declaration.algorithm).eraseDups
        (.mismatch d.field) := by
  have hcompare := compare_append h fields [] (d :: rest)
  rw [List.nil_append] at hcompare
  rw [show ([] : List Algorithm) = [].eraseDups from rfl, hcompare, compare, if_neg hd,
    List.map_append, List.map_singleton]
  by_cases hseen : d.algorithm ∈ passed.map Declaration.algorithm
  · rw [if_pos (List.mem_eraseDups.2 hseen), eraseDups_concat_of_mem hseen]
  · rw [if_neg (mt List.mem_eraseDups.1 hseen), eraseDups_concat_of_not_mem hseen]

end Check

namespace FieldLines

theorem check_missing (h : ∀ (f : IntegrityField) value, ¬ f.Says lines value) (body : Bytes) :
    lines.check body = .missing := by
  rw [check, integrityFields_eq_nil_iff.2 h]

theorem check_malformed (hall : IntegrityField.all = before ++ f :: after)
    (hbefore : ∀ g ∈ before, g.Readable lines) (hf : ¬ f.Readable lines) (body : Bytes) :
    lines.check body = .failed lines.integrityFields [] (.malformed f) := by
  obtain ⟨value, hsaid⟩ := IntegrityField.says_of_not_readable hf
  obtain ⟨g, fields, hfields⟩ :=
    List.exists_cons_of_ne_nil (integrityFields_ne_nil hsaid)
  rw [check, declared, hall, declaredIn_of_not_readable hbefore hf after, hfields]

theorem check_of_readable {value : String} (hsaid : f.Says lines value)
    (h : ∀ f : IntegrityField, f.Readable lines) (body : Bytes) :
    lines.check body =
      match lines.declarations with
      | [] => .failed lines.integrityFields [] .unsupported
      | d :: rest => Check.compare body lines.integrityFields [] (d :: rest) := by
  obtain ⟨g, fields, hfields⟩ :=
    List.exists_cons_of_ne_nil (integrityFields_ne_nil hsaid)
  have hdeclared : lines.declared = .ok lines.declarations :=
    declaredIn_of_readable fun f _ => h f
  rw [check, hdeclared, hfields]
  cases lines.declarations with
  | nil => rfl
  | cons d rest => rfl

theorem exists_says_of_mem_declarations (hd : d ∈ lines.declarations) :
    ∃ (f : IntegrityField) (value : String), f.Says lines value := by
  obtain ⟨f, _, hmem⟩ := List.mem_flatMap.1 hd
  rw [IntegrityField.declarations] at hmem
  cases hvalue : f.value? lines with
  | none =>
    rw [hvalue] at hmem
    exact absurd hmem List.not_mem_nil
  | some value => exact ⟨f, value, IntegrityField.value?_eq_some_iff.1 hvalue⟩

theorem check_compared (h : ∀ f : IntegrityField, f.Readable lines)
    (hd : d ∈ lines.declarations) (body : Bytes) :
    lines.check body = Check.compare body lines.integrityFields [] lines.declarations := by
  obtain ⟨f, value, hsaid⟩ := exists_says_of_mem_declarations hd
  obtain ⟨e, rest, hdeclarations⟩ := List.exists_cons_of_ne_nil (List.ne_nil_of_mem hd)
  rw [check_of_readable hsaid h, hdeclarations]

theorem mem_declarations (h : ∀ f : IntegrityField, f.Readable lines) :
    d ∈ lines.declarations ↔ d.MadeBy lines := by
  have hdeclared : lines.declared = .ok lines.declarations :=
    declaredIn_of_readable fun f _ => h f
  rw [(declaredIn_ok hdeclared).2]
  exact ⟨And.right, fun hd => ⟨d.field.mem_all, hd⟩⟩

/-- A check passes iff digests are declared and all of them hold. -/
theorem verified_check_iff_declarations :
    (lines.check body).verified ↔
      (∃ (f : IntegrityField) (value : String), f.Says lines value) ∧
        (∀ f : IntegrityField, f.Readable lines) ∧ lines.declarations ≠ [] ∧
          ∀ d ∈ lines.declarations, d.algorithm.compute body = d.digest := by
  rw [verified_check_iff_honest]
  constructor
  · intro h
    obtain ⟨d, hd⟩ := h.declares
    have hmem := (mem_declarations h.readable).2 hd
    exact ⟨exists_says_of_mem_declarations hmem, h.readable, List.ne_nil_of_mem hmem,
      fun e he => h.equal e ((mem_declarations h.readable).1 he)⟩
  · rintro ⟨_, hreadable, hne, hholds⟩
    obtain ⟨d, hd⟩ := List.exists_mem_of_ne_nil _ hne
    exact ⟨hreadable, ⟨d, (mem_declarations hreadable).1 hd⟩,
      fun e he => hholds e ((mem_declarations hreadable).2 he)⟩

end FieldLines

namespace Solo

variable {ρ : Type} [BodySource ρ]

/-- The check reports the first fault, and passes exactly if there is none. -/
theorem verify_first_fault (limits : Limits) (source : ρ) (operations : List Operation)
    (lines : FieldLines)
    (hbody : (host.ensure (host.run operations (start limits source))).1 = .ok body) :
    ∃ check : Check,
      (host.verify lines (host.run operations (start limits source))).1 = .ok check ∧
      (check.verified ↔
        (∃ (f : IntegrityField) (value : String), f.Says lines value) ∧
          (∀ f : IntegrityField, f.Readable lines) ∧ lines.declarations ≠ [] ∧
            ∀ d ∈ lines.declarations, d.algorithm.compute body = d.digest) ∧
      ((∀ (f : IntegrityField) value, ¬ f.Says lines value) →
        check.reason.map Reason.label = some "missing_digest") ∧
      (∀ before f after, IntegrityField.all = before ++ f :: after →
        (∀ g ∈ before, g.Readable lines) → ¬ f.Readable lines →
          check.reason.map Reason.label = some ("malformed_" ++ f.label)) ∧
      ((∃ (f : IntegrityField) (value : String), f.Says lines value) →
        (∀ f : IntegrityField, f.Readable lines) → lines.declarations = [] →
          check.reason.map Reason.label = some "unsupported_algorithm") ∧
      ((∀ f : IntegrityField, f.Readable lines) → ∀ passed d rest,
        lines.declarations = passed ++ d :: rest →
          (∀ e ∈ passed, e.algorithm.compute body = e.digest) →
            d.algorithm.compute body ≠ d.digest →
              check.reason.map Reason.label = some (d.field.label ++ "_mismatch") ∧
                check.algorithms =
                  ((passed ++ [d]).map Declaration.algorithm).eraseDups) ∧
      (check.verified → check.reason = none ∧
        check.algorithms = (lines.declarations.map Declaration.algorithm).eraseDups) ∧
      ∀ f : IntegrityField, f.label.toList =
        f.name.toList.map fun c => if c = '-' then '_' else c := by
  refine ⟨lines.check body, verify_of_ensure (valid_run limits source operations) hbody lines,
    FieldLines.verified_check_iff_declarations, ?_, ?_, ?_, ?_, ?_, ?_⟩
  · intro hsilent
    rw [FieldLines.check_missing hsilent]
    rfl
  · intro before f after hall hbefore hf
    rw [FieldLines.check_malformed hall hbefore hf]
    rfl
  · rintro ⟨f, value, hsaid⟩ hreadable hnone
    rw [FieldLines.check_of_readable hsaid hreadable, hnone]
    rfl
  · intro hreadable passed d rest hdeclarations hpassed hd
    have hmem : d ∈ lines.declarations := by
      rw [hdeclarations]
      exact List.mem_append_right passed List.mem_cons_self
    rw [FieldLines.check_compared hreadable hmem, hdeclarations,
      Check.compare_mismatch hpassed hd]
    exact ⟨rfl, rfl⟩
  · intro hverified
    obtain ⟨_, hreadable, hne, hholds⟩ := FieldLines.verified_check_iff_declarations.1 hverified
    obtain ⟨d, hd⟩ := List.exists_mem_of_ne_nil _ hne
    rw [FieldLines.check_compared hreadable hd, Check.compare_passed hholds]
    exact ⟨rfl, rfl⟩
  · intro f
    cases f <;> decide

theorem verify_first_fault_unreadable :
    let source : Source := { supply := .script [.piece (.bytes [1, 2]), .piece .nothing] }
    let lines : FieldLines := [("digest", "md5=?"), ("content-digest", "md5=:AA==:")]
    ∃ check : Check, (host.verify lines (start tightLimits source)).1 = .ok check ∧
      check.reason.map Reason.label = some "malformed_digest" := by
  intro source lines
  have hsource : Brings (BodySource.draw tightLimits.chunk) source ([1, 2] ++ []) :=
    .more rfl (by decide) (.absent rfl (by decide))
  have hreadable : IntegrityField.contentDigest.Readable lines := by
    intro value hsaid
    rw [← IntegrityField.value?_eq_some_iff] at hsaid
    cases hsaid
    exact ⟨[(.md5, [0])], rfl⟩
  have hunreadable : ¬ IntegrityField.digest.Readable lines := by
    intro h
    obtain ⟨digests, hparse⟩ := h "md5=?" (IntegrityField.value?_eq_some_iff.1 rfl)
    cases hparse
  obtain ⟨check, hverify, _, _, hmalformed, _⟩ := verify_first_fault tightLimits source [] lines
    (ensure_of_brings hsource (by decide))
  refine ⟨check, hverify, ?_⟩
  apply hmalformed [.contentDigest] .digest [.contentMD5] rfl
  · intro g hg
    rw [List.mem_singleton.1 hg]
    exact hreadable
  · exact hunreadable

end Solo

end DigestGate
