import DigestGate.Proofs.Check.Reference

namespace DigestGate

variable {σ : Type} {lines lines' : FieldLines} {fields : List IntegrityField} {body : Bytes}

theorem FieldLines.first?_eq_some_iff {name value : String} :
    lines.first? name = some value ↔
      ∃ before after, lines = before ++ (name, value) :: after ∧ name ∉ before.map Prod.fst := by
  have hbefore (before : FieldLines) :
      (∀ line ∈ before, (name != line.1) = true) ↔ name ∉ before.map Prod.fst := by
    constructor
    · intro h hname
      obtain ⟨line, hline, hfst⟩ := List.mem_map.1 hname
      exact bne_iff_ne.1 (h line hline) hfst.symm
    · intro h line hline
      rw [bne_iff_ne]
      intro hfst
      apply h
      rw [hfst]
      exact List.mem_map_of_mem hline
  simp only [first?, List.lookup_eq_some_iff, hbefore]

namespace IntegrityField

variable {f : IntegrityField} {value : String} {digests : DigestMap}

/-- `value` is the first line of the field and not empty. -/
def Says (f : IntegrityField) (lines : FieldLines) (value : String) : Prop :=
  value ≠ "" ∧
    ∃ before after, lines = before ++ (f.name, value) :: after ∧ f.name ∉ before.map Prod.fst

theorem value?_eq_some_iff : f.value? lines = some value ↔ f.Says lines value := by
  rw [value?, Option.filter_eq_some_iff, FieldLines.first?_eq_some_iff, Says, bne_iff_ne, and_comm]

theorem mem_all (f : IntegrityField) : f ∈ all := by
  cases f <;> decide

theorem eq_nil_of_parse_empty (h : f.parse "" = .ok digests) : digests = [] := by
  cases f with
  | contentDigest => cases h; rfl
  | digest => cases h; rfl
  | contentMD5 => cases h

end IntegrityField

/-- The declaration occurs in the value that the header gives its field. -/
def Declaration.MadeBy (d : Declaration) (lines : FieldLines) : Prop :=
  ∃ value digests, d.field.Says lines value ∧ d.field.parse value = .ok digests ∧
    (d.algorithm, d.digest) ∈ digests

namespace IntegrityField

variable {f : IntegrityField} {own : List Declaration}

def contribution (f : IntegrityField) (lines : FieldLines) :
    Except IntegrityField (List Declaration) :=
  match f.value? lines with
  | none => .ok []
  | some value =>
    match f.parse value with
    | .error _ => .error f
    | .ok digests => .ok (digests.map fun (a, d) => ⟨f, a, d⟩)

def Readable (f : IntegrityField) (lines : FieldLines) : Prop :=
  ∀ value, f.Says lines value → ∃ digests, f.parse value = .ok digests

theorem contribution_ok (h : f.contribution lines = .ok own) :
    f.Readable lines ∧ ∀ d, d ∈ own ↔ d.field = f ∧ d.MadeBy lines := by
  rw [contribution] at h
  cases hvalue : f.value? lines with
  | none =>
    have hsilent (value : String) : ¬ f.Says lines value := by
      rw [← value?_eq_some_iff, hvalue]
      nofun
    rw [hvalue] at h
    cases h
    refine ⟨fun value hsays => absurd hsays (hsilent value), fun d => ?_⟩
    constructor
    · intro hd
      exact absurd hd List.not_mem_nil
    · rintro ⟨hfield, value, _, hsays, _⟩
      rw [hfield] at hsays
      exact absurd hsays (hsilent value)
  | some value =>
    have hsays {value' : String} : f.Says lines value' ↔ value = value' := by
      rw [← value?_eq_some_iff, hvalue, Option.some.injEq]
    rw [hvalue] at h
    simp only at h
    cases hparse : f.parse value with
    | error e =>
      rw [hparse] at h
      cases h
    | ok digests =>
      rw [hparse] at h
      cases h
      refine ⟨fun value' hsays' => ⟨digests, hsays.1 hsays' ▸ hparse⟩, fun d => ?_⟩
      rw [List.mem_map]
      constructor
      · rintro ⟨entry, hentry, rfl⟩
        exact ⟨rfl, value, digests, hsays.2 rfl, hparse, hentry⟩
      · rintro ⟨hfield, value', digests', hsays', hparse', hd⟩
        rw [hfield] at hsays' hparse'
        cases hsays.1 hsays'
        cases hparse.symm.trans hparse'
        exact ⟨_, hd, by rw [← hfield]⟩

def declarations (f : IntegrityField) (lines : FieldLines) : List Declaration :=
  match f.value? lines with
  | none => []
  | some value =>
    match f.parse value with
    | .error _ => []
    | .ok digests => digests.map fun (a, d) => ⟨f, a, d⟩

theorem contribution_of_readable (h : f.Readable lines) :
    f.contribution lines = .ok (f.declarations lines) := by
  rw [contribution, declarations]
  cases hvalue : f.value? lines with
  | none => rfl
  | some value =>
    obtain ⟨digests, hparse⟩ := h value (value?_eq_some_iff.1 hvalue)
    simp only [hparse]

end IntegrityField

namespace FieldLines

theorem declaredIn_cons (f : IntegrityField) (rest : List IntegrityField) (lines : FieldLines) :
    lines.declaredIn (f :: rest) =
      match f.contribution lines with
      | .error f => .error f
      | .ok own => (lines.declaredIn rest).map (own ++ ·) := by
  rw [declaredIn, IntegrityField.contribution]
  cases f.value? lines with
  | none =>
    simp only
    cases lines.declaredIn rest with
    | error _ => rfl
    | ok later => rfl
  | some value =>
    simp only
    cases f.parse value with
    | error _ => rfl
    | ok digests => rfl

theorem declaredIn_ok {declarations : List Declaration}
    (h : lines.declaredIn fields = .ok declarations) :
    (∀ f ∈ fields, f.Readable lines) ∧
      ∀ d, d ∈ declarations ↔ d.field ∈ fields ∧ d.MadeBy lines := by
  induction fields generalizing declarations with
  | nil =>
    cases h
    refine ⟨fun f hf => absurd hf List.not_mem_nil, fun d => ?_⟩
    exact ⟨fun hd => absurd hd List.not_mem_nil, fun h => absurd h.1 List.not_mem_nil⟩
  | cons f rest ih =>
    rw [declaredIn_cons] at h
    cases hown : f.contribution lines with
    | error e =>
      rw [hown] at h
      cases h
    | ok own =>
      rw [hown] at h
      cases hlater : lines.declaredIn rest with
      | error e =>
        rw [hlater] at h
        cases h
      | ok later =>
        rw [hlater] at h
        cases h
        obtain ⟨hreadable, hmem⟩ := IntegrityField.contribution_ok hown
        obtain ⟨hreadable', hmem'⟩ := ih hlater
        refine ⟨List.forall_mem_cons.2 ⟨hreadable, hreadable'⟩, fun d => ?_⟩
        rw [List.mem_append, hmem, hmem', List.mem_cons, or_and_right]

def declarations (lines : FieldLines) : List Declaration :=
  IntegrityField.all.flatMap fun f => f.declarations lines

theorem declaredIn_of_readable (h : ∀ f ∈ fields, f.Readable lines) :
    lines.declaredIn fields = .ok (fields.flatMap fun f => f.declarations lines) := by
  induction fields with
  | nil => rfl
  | cons f rest ih =>
    obtain ⟨hf, hrest⟩ := List.forall_mem_cons.1 h
    rw [declaredIn_cons, IntegrityField.contribution_of_readable hf, ih hrest]
    rfl

/-- Every field is readable, and the digests declared, at least one, are those of `body`. -/
structure Honest (lines : FieldLines) (body : Bytes) : Prop where
  readable : ∀ f : IntegrityField, f.Readable lines
  declares : ∃ d : Declaration, d.MadeBy lines
  equal : ∀ d : Declaration, d.MadeBy lines → d.algorithm.compute body = d.digest

theorem integrityFields_ne_nil {f : IntegrityField} {value : String} (hsaid : f.Says lines value) :
    lines.integrityFields ≠ [] := by
  have hmem : f ∈ lines.integrityFields := by
    rw [integrityFields, List.mem_filter]
    refine ⟨f.mem_all, ?_⟩
    rw [IntegrityField.value?_eq_some_iff.2 hsaid]
    rfl
  exact List.ne_nil_of_mem hmem

/-- A check passes exactly for honest headers. -/
theorem verified_check_iff_honest : (lines.check body).verified ↔ lines.Honest body := by
  rw [verified_check_iff]
  constructor
  · rintro ⟨_, declarations, hdeclared, hne, hequal⟩
    obtain ⟨hreadable, hmem⟩ := declaredIn_ok hdeclared
    have hmade (d : Declaration) : d ∈ declarations ↔ d.MadeBy lines := by
      rw [hmem]
      exact ⟨And.right, fun h => ⟨d.field.mem_all, h⟩⟩
    obtain ⟨d, hd⟩ := List.exists_mem_of_ne_nil _ hne
    exact ⟨fun f => hreadable f f.mem_all, ⟨d, (hmade d).1 hd⟩,
      fun d hd => hequal d ((hmade d).2 hd)⟩
  · intro h
    have hdeclared : lines.declared = .ok lines.declarations :=
      declaredIn_of_readable fun f _ => h.readable f
    obtain ⟨_, hmem⟩ := declaredIn_ok hdeclared
    obtain ⟨d, hd⟩ := h.declares
    have ⟨_, _, hsaid, _⟩ := hd
    refine ⟨integrityFields_ne_nil hsaid, lines.declarations, hdeclared, ?_, fun d hd => ?_⟩
    · exact List.ne_nil_of_mem ((hmem d).2 ⟨d.field.mem_all, hd⟩)
    · exact h.equal d ((hmem d).1 hd).2

end FieldLines

section Agreement

variable (hsame : ∀ f : IntegrityField, lines'.first? f.name = lines.first? f.name)
include hsame

theorem IntegrityField.value?_congr (f : IntegrityField) : f.value? lines' = f.value? lines := by
  rw [value?, value?, hsame]

theorem FieldLines.integrityFields_congr : lines'.integrityFields = lines.integrityFields := by
  simp only [integrityFields, IntegrityField.value?_congr hsame]

theorem FieldLines.hasIntegrity_congr : lines'.hasIntegrity = lines.hasIntegrity := by
  simp only [hasIntegrity, IntegrityField.value?_congr hsame]

theorem FieldLines.declaredIn_congr (fields : List IntegrityField) :
    lines'.declaredIn fields = lines.declaredIn fields := by
  induction fields with
  | nil => rfl
  | cons f rest ih =>
    rw [declaredIn_cons, declaredIn_cons, ih, IntegrityField.contribution,
      IntegrityField.contribution, IntegrityField.value?_congr hsame]

/-- A check depends on the first line of each integrity field only. -/
theorem Host.verify_congr (h : Host σ) (s : σ) : h.verify lines' s = h.verify lines s := by
  rw [verify, verify, FieldLines.integrityFields_congr hsame, FieldLines.declared,
    FieldLines.declared, FieldLines.declaredIn_congr hsame]

end Agreement

end DigestGate
