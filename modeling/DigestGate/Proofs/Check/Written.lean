import DigestGate.Proofs.Check.Precedence
import DigestGate.Proofs.Field.Written

namespace DigestGate

/-- The digests that a sender declares in one field. -/
structure Writing where
  body : Bytes
  algorithms : List Algorithm

abbrev Sender := IntegrityField → Option Writing

variable {lines : FieldLines} {sender : Sender} {body : Bytes} {f : IntegrityField} {w : Writing}
  {a : Algorithm} {d : Declaration}

def Sender.named (sender : Sender) (f : IntegrityField) : List Algorithm :=
  match sender f with
  | none => []
  | some w => f.listed w.algorithms

/-- The integrity fields of the header are those of the sender, at least one. -/
structure Sender.Writes (sender : Sender) (lines : FieldLines) : Prop where
  first : ∀ f : IntegrityField,
    lines.first? f.name = (sender f).map fun w => f.declare w.body w.algorithms
  names : ∀ f w, sender f = some w → f.listed w.algorithms ≠ []
  chooses : ∃ f w, sender f = some w

theorem IntegrityField.declare_ne_empty {algorithms : List Algorithm}
    (h : f.listed algorithms ≠ []) (body : Bytes) : f.declare body algorithms ≠ "" := by
  intro hempty
  have hparse := f.parse_declare body algorithms
  rw [hempty] at hparse
  obtain ⟨a, ha⟩ := List.exists_mem_of_ne_nil _ h
  have hmem : (a, a.compute body) ∈
      DigestMap.tabulate (·.compute body) (f.listed algorithms).eraseDups :=
    List.mem_map_of_mem (List.mem_eraseDups.2 ha)
  rw [IntegrityField.eq_nil_of_parse_empty hparse] at hmem
  exact absurd hmem List.not_mem_nil

namespace Sender.Writes

variable (h : sender.Writes lines)
include h

theorem value?_eq (f : IntegrityField) :
    f.value? lines = (sender f).map fun w => f.declare w.body w.algorithms := by
  rw [IntegrityField.value?, h.first]
  cases hw : sender f with
  | none => rfl
  | some w =>
    rw [Option.map_some, Option.filter_some,
      if_pos (bne_iff_ne.2 (IntegrityField.declare_ne_empty (h.names f w hw) w.body))]

theorem readable (f : IntegrityField) : f.Readable lines := by
  intro value hsaid
  rw [← IntegrityField.value?_eq_some_iff, h.value?_eq] at hsaid
  obtain ⟨w, hw, rfl⟩ := Option.map_eq_some_iff.1 hsaid
  exact ⟨_, f.parse_declare w.body w.algorithms⟩

theorem field_declarations (hw : sender f = some w) :
    f.declarations lines =
      (f.listed w.algorithms).eraseDups.map fun a => ⟨f, a, a.compute w.body⟩ := by
  rw [IntegrityField.declarations, h.value?_eq, hw, Option.map_some]
  simp only
  rw [f.parse_declare]
  simp only
  rw [DigestMap.tabulate, List.map_map]
  rfl

theorem field_declarations_of_none (hw : sender f = none) : f.declarations lines = [] := by
  rw [IntegrityField.declarations, h.value?_eq, hw, Option.map_none]

theorem mem_declarations :
    d ∈ lines.declarations ↔ ∃ w, sender d.field = some w ∧
      d.algorithm ∈ d.field.listed w.algorithms ∧ d.algorithm.compute w.body = d.digest := by
  rw [FieldLines.declarations, List.mem_flatMap]
  constructor
  · rintro ⟨f, -, hd⟩
    cases hw : sender f with
    | none =>
      rw [h.field_declarations_of_none hw] at hd
      exact absurd hd List.not_mem_nil
    | some w =>
      rw [h.field_declarations hw] at hd
      obtain ⟨a, ha, rfl⟩ := List.mem_map.1 hd
      exact ⟨w, hw, List.mem_eraseDups.1 ha, rfl⟩
  · rintro ⟨w, hw, ha, hdigest⟩
    refine ⟨d.field, d.field.mem_all, ?_⟩
    rw [h.field_declarations hw, List.mem_map]
    refine ⟨d.algorithm, List.mem_eraseDups.2 ha, ?_⟩
    rw [hdigest]

theorem algorithms_eraseDups :
    (lines.declarations.map Declaration.algorithm).eraseDups =
      (IntegrityField.all.flatMap sender.named).eraseDups := by
  have hfield (f : IntegrityField) :
      (f.declarations lines).map Declaration.algorithm = (sender.named f).eraseDups := by
    rw [Sender.named]
    cases hw : sender f with
    | none =>
      rw [h.field_declarations_of_none hw]
      rfl
    | some w =>
      rw [h.field_declarations hw, List.map_map]
      exact List.map_id _
  rw [FieldLines.declarations, List.map_flatMap]
  simp only [hfield]
  exact eraseDups_flatMap sender.named IntegrityField.all

theorem declarations_ne_nil : lines.declarations ≠ [] := by
  obtain ⟨f, w, hw⟩ := h.chooses
  obtain ⟨a, ha⟩ := List.exists_mem_of_ne_nil _ (h.names f w hw)
  have hmem : (⟨f, a, a.compute w.body⟩ : Declaration) ∈ lines.declarations :=
    h.mem_declarations.2 ⟨w, hw, ha, rfl⟩
  exact List.ne_nil_of_mem hmem

theorem check_equal
    (hequal : ∀ f w, sender f = some w → ∀ a ∈ f.listed w.algorithms,
      a.compute w.body = a.compute body) :
    lines.check body =
      .passed lines.integrityFields (IntegrityField.all.flatMap sender.named).eraseDups := by
  have hholds : ∀ d ∈ lines.declarations, d.algorithm.compute body = d.digest := by
    intro d hd
    obtain ⟨w, hw, ha, hdigest⟩ := h.mem_declarations.1 hd
    rw [← hequal d.field w hw d.algorithm ha, hdigest]
  obtain ⟨d, hd⟩ := List.exists_mem_of_ne_nil _ h.declarations_ne_nil
  rw [FieldLines.check_compared h.readable hd, Check.compare_passed hholds,
    h.algorithms_eraseDups]

theorem check_differs (hw : sender f = some w) (ha : a ∈ f.listed w.algorithms)
    (hdiffers : a.compute w.body ≠ a.compute body) :
    ∃ (seen : List Algorithm) (g : IntegrityField) (v : Writing) (b : Algorithm),
      lines.check body = .failed lines.integrityFields seen (.mismatch g) ∧
        sender g = some v ∧ b ∈ g.listed v.algorithms ∧ b.compute v.body ≠ b.compute body := by
  have hd : (⟨f, a, a.compute w.body⟩ : Declaration) ∈ lines.declarations :=
    h.mem_declarations.2 ⟨w, hw, ha, rfl⟩
  have hfound : (lines.declarations.find? fun d => d.algorithm.compute body ≠ d.digest).isSome := by
    rw [List.find?_isSome]
    exact ⟨_, hd, decide_eq_true (Ne.symm hdiffers)⟩
  obtain ⟨e, he⟩ := Option.isSome_iff_exists.1 hfound
  obtain ⟨hwrong, passed, rest, hsplit, hpassed⟩ := List.find?_eq_some_iff_append.1 he
  have hholds : ∀ d ∈ passed, d.algorithm.compute body = d.digest := by
    intro d hd
    exact not_not.1 (of_decide_eq_false (Bool.not_eq_true' _ ▸ hpassed d hd))
  have hwrong : e.algorithm.compute body ≠ e.digest := of_decide_eq_true hwrong
  obtain ⟨v, hv, hb, hdigest⟩ := h.mem_declarations.1 (List.mem_of_find?_eq_some he)
  have hcheck := FieldLines.check_compared h.readable hd body
  rw [hsplit, Check.compare_mismatch hholds hwrong] at hcheck
  refine ⟨_, e.field, v, e.algorithm, hcheck, hv, hb, ?_⟩
  rw [hdigest]
  exact Ne.symm hwrong

end Sender.Writes

namespace Solo

variable {ρ : Type} [BodySource ρ] [QuietSource ρ]

/-- The digests that a sender writes pass with their body, and a different one mismatches. -/
theorem verify_written (limits : Limits) (source : ρ) (lines : FieldLines) (sender : Sender)
    (body : Bytes) (hsource : Brings (BodySource.draw limits.chunk) source body)
    (hsize : body.length ≤ limits.maximum) (hlines : sender.Writes lines) :
    ∃ check : Check, (host.verify lines (start limits source)).1 = .ok check ∧
      ((∀ f w, sender f = some w → w.body = body) →
        check.verified ∧ check.reason = none ∧
          check.algorithms = (IntegrityField.all.flatMap sender.named).eraseDups) ∧
      ∀ f w a, sender f = some w → a ∈ f.listed w.algorithms →
        a.compute w.body ≠ a.compute body →
          ¬ check.verified ∧ ∃ g v b,
            check.reason = some (.mismatch g) ∧
            check.reason.map Reason.label = some (g.label ++ "_mismatch") ∧
            sender g = some v ∧ b ∈ g.listed v.algorithms ∧ b.compute v.body ≠ b.compute body := by
  have hverify := verify_of_ensure (valid_run limits source [])
    (ensure_of_brings hsource hsize) lines
  refine ⟨lines.check body, hverify, ?_, ?_⟩
  · intro hbody
    have hcheck := hlines.check_equal fun f w hw a _ => by rw [hbody f w hw]
    rw [hcheck]
    exact ⟨rfl, rfl, rfl⟩
  · intro f w a hw ha hdiffers
    obtain ⟨seen, g, v, b, hcheck, hwrong⟩ := hlines.check_differs hw ha hdiffers
    rw [hcheck]
    exact ⟨Bool.noConfusion, g, v, b, rfl, rfl, hwrong⟩

theorem verify_written_repeated :
    let source : Source := { supply := .script [.piece (.bytes [1, 2]), .piece .nothing] }
    let sender (other : Bytes) : Sender := fun
      | .contentDigest => some ⟨[1, 2], [.sha256, .sha1, .sha256]⟩
      | .digest => some ⟨[1, 2], [.sha1]⟩
      | .contentMD5 => some ⟨other, []⟩
    let lines (other : Bytes) : FieldLines := IntegrityField.all.filterMap fun f =>
      (sender other f).map fun w => (f.name, f.declare w.body w.algorithms)
    (∃ check : Check, (host.verify (lines [1, 2]) (start tightLimits source)).1 = .ok check ∧
      check.verified ∧ check.algorithms = [.sha256, .sha1, .md5]) ∧
    ∃ check : Check, (host.verify (lines []) (start tightLimits source)).1 = .ok check ∧
      ¬ check.verified ∧ ∃ g, check.reason = some (.mismatch g) := by
  intro source sender lines
  have hsource : Brings (BodySource.draw tightLimits.chunk) source ([1, 2] ++ []) :=
    .more rfl (by decide) (.absent rfl (by decide))
  have hlines (other : Bytes) : (sender other).Writes (lines other) := by
    refine ⟨?_, ?_, ⟨.digest, _, rfl⟩⟩
    · intro f
      cases f <;> rfl
    · intro f w hw
      cases f <;> cases hw <;> exact List.cons_ne_nil _ _
  constructor
  · obtain ⟨check, hverify, hequal, _⟩ := verify_written tightLimits source (lines [1, 2])
      (sender [1, 2]) [1, 2] hsource (by decide) (hlines [1, 2])
    obtain ⟨hverified, _, halgorithms⟩ := hequal fun f w hw => by cases f <;> cases hw <;> rfl
    exact ⟨check, hverify, hverified, halgorithms.trans (by decide)⟩
  · obtain ⟨check, hverify, _, hdiffers⟩ := verify_written tightLimits source (lines [])
      (sender []) [1, 2] hsource (by decide) (hlines [])
    have hother : Algorithm.md5.compute [] ≠ Algorithm.md5.compute [1, 2] := by decide +kernel
    obtain ⟨hrefused, g, _, _, hreason, _⟩ :=
      hdiffers .contentMD5 _ .md5 rfl List.mem_cons_self hother
    exact ⟨check, hverify, hrefused, g, hreason⟩

end Solo

end DigestGate
