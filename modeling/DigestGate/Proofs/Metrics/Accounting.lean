import DigestGate.Proofs.Gate.Recording
import DigestGate.Proofs.Metrics.Counting

namespace DigestGate

/-- The name and the labels of the counter that an observation increments. -/
def Observation.mark? : Observation → Option (String × List (String × String))
  | .buffering result => some ("bodyseal_body_buffer_total", [("result", result)])
  | .bodySize _ => none
  | .check result reason =>
    some ("bodyseal_digest_checks_total", [("reason", reason), ("result", result)])
  | .computed algorithm => some ("bodyseal_digests_computed_total", [("alg", algorithm)])

namespace Metrics

theorem adds_eq (o : Observation) (name : String) (wanted : List (String × String)) :
    o.adds name wanted =
      (o.mark?.any fun mark => Counter.fits name wanted ⟨mark.1, mark.2, 0⟩).toNat := by
  generalize hfits : (o.mark?.any fun mark => Counter.fits name wanted ⟨mark.1, mark.2, 0⟩) = fits
  cases o <;> cases fits <;>
    simp_all [Observation.adds, families, Family.feeds, Observation.mark?]

theorem total_ofComputed (algorithms : List String) (name : String)
    (wanted : List (String × String)) :
    total { observations := algorithms.map .computed } name wanted =
      algorithms.countP fun a =>
        Counter.fits name wanted ⟨"bodyseal_digests_computed_total", [("alg", a)], 0⟩ := by
  rw [total_eq, List.map_map, ← sum_map_toNat]
  exact congrArg List.sum (List.map_congr_left fun a _ => adds_eq (.computed a) name wanted)

theorem total_ofCheck (verified : Bool) (reason : Option String) (algorithms : List String)
    (name : String) (wanted : List (String × String)) :
    ∃ label, total { observations := Observation.ofCheck verified reason algorithms } name wanted =
      (Counter.fits name wanted ⟨"bodyseal_digest_checks_total",
        [("reason", label), ("result", if verified then "verified" else "failed")], 0⟩).toNat +
      algorithms.countP fun a =>
        Counter.fits name wanted ⟨"bodyseal_digests_computed_total", [("alg", a)], 0⟩ := by
  obtain ⟨label, hobserved⟩ : ∃ label, Observation.ofCheck verified reason algorithms =
      .check (if verified then "verified" else "failed") label :: algorithms.map .computed :=
    ⟨_, rfl⟩
  refine ⟨label, ?_⟩
  rw [hobserved, total_cons, adds_eq, total_ofComputed]
  rfl

theorem total_ofBuffering (result : String) (size : Option Int) (name : String)
    (wanted : List (String × String)) :
    total { observations := Observation.ofBuffering result size } name wanted =
      (Counter.fits name wanted
        ⟨"bodyseal_body_buffer_total", [("result", result)], 0⟩).toNat := by
  have hsize :
      total { observations := (size.map Observation.bodySize).toList } name wanted = 0 := by
    cases size <;> rfl
  rw [Observation.ofBuffering, total_cons, hsize, adds_eq]
  rfl

theorem countP_digested (check : Check) (body : Bytes) (a : Algorithm) :
    (check.digested body).countP (fun b => Counter.fits "bodyseal_digests_computed_total"
      [("alg", a.name)] ⟨"bodyseal_digests_computed_total", [("alg", b.name)], 0⟩) =
      (decide (body ≠ [] ∧ a ∈ check.algorithms)).toNat := by
  have hfits (b : Algorithm) : Counter.fits "bodyseal_digests_computed_total" [("alg", a.name)]
      ⟨"bodyseal_digests_computed_total", [("alg", b.name)], 0⟩ = decide (b = a) := by
    cases a <;> cases b <;> decide
  simp only [hfits]
  rw [Check.digested]
  by_cases hbody : body = []
  · rw [if_pos hbody, decide_eq_false fun h => h.1 hbody]
    rfl
  · rw [if_neg hbody, List.countP_filter]
    by_cases ha : a ∈ check.algorithms
    · rw [decide_eq_true ⟨hbody, ha⟩]
      cases a <;> simp [Algorithm.all, ha]
    · rw [decide_eq_false fun h => ha h.2]
      cases a <;> simp [Algorithm.all, ha]

end Metrics

def Exit.buffering? : Exit → Option String
  | .tooLarge => some "too_large"
  | .unreadable => some "read_error"
  | .checked => some "buffered"
  | .mismatch => some "buffered"
  | _ => none

namespace Gate.Recorded

open Metrics

variable {asked : Bool} {kept : Option (Bytes × Check)} {exit : Exit} {os : List Observation}

theorem sizes_eq (h : Recorded asked kept exit os) :
    sizes { observations := os } = (kept.map fun k => (k.1.length : Int)).toList := by
  have hcheck (verified : Bool) (reason : Option String) (algorithms : List String) :
      sizes { observations := Observation.ofCheck verified reason algorithms } = [] := by
    rw [sizes, List.filterMap_eq_nil_iff]
    intro o ho
    rcases List.mem_cons.1 ho with rfl | ho
    · rfl
    · obtain ⟨a, _, rfl⟩ := List.mem_map.1 ho
      rfl
  cases h with
  | required => exact hcheck _ _ _
  | checked body check => exact congrArg ((body.length : Int) :: ·) (hcheck _ _ _)
  | mismatch body check => exact congrArg ((body.length : Int) :: ·) (hcheck _ _ _)
  | _ => rfl

/-- The counts that one request adds. -/
theorem total_observed (h : Recorded asked kept exit os) (name : String)
    (wanted : List (String × String)) :
    ∃ label, total { observations := os } name wanted =
      (exit.buffering?.any fun result =>
        Counter.fits name wanted ⟨"bodyseal_body_buffer_total", [("result", result)], 0⟩).toNat +
      ((if exit = .required then some false else kept.map fun k => k.2.verified).any fun verified =>
        Counter.fits name wanted ⟨"bodyseal_digest_checks_total",
          [("reason", label), ("result", if verified then "verified" else "failed")], 0⟩).toNat +
      ((kept.map fun k => k.2.digested k.1).getD []).countP fun a =>
        Counter.fits name wanted ⟨"bodyseal_digests_computed_total", [("alg", a.name)], 0⟩ := by
  have hbody (body : Bytes) (check : Check) :
      ∃ label, total { observations := Observation.ofBody body check } name wanted =
        (Counter.fits name wanted
          ⟨"bodyseal_body_buffer_total", [("result", "buffered")], 0⟩).toNat +
        (Counter.fits name wanted ⟨"bodyseal_digest_checks_total", [("reason", label),
          ("result", if check.verified then "verified" else "failed")], 0⟩).toNat +
        (check.digested body).countP fun a =>
          Counter.fits name wanted ⟨"bodyseal_digests_computed_total", [("alg", a.name)], 0⟩ := by
    obtain ⟨label, hcheck⟩ := total_ofCheck check.verified (check.reason.map Reason.label)
      ((check.digested body).map Algorithm.name) name wanted
    refine ⟨label, ?_⟩
    rw [Observation.ofBody, total_append, total_ofBuffering, hcheck, List.countP_map, Nat.add_assoc]
    rfl
  cases h with
  | required =>
    obtain ⟨label, hcheck⟩ :=
      total_ofCheck false (some Reason.missing.label) [] name wanted
    exact ⟨label, hcheck.trans (congrArg (· + 0) (Nat.zero_add _).symm)⟩
  | tooLarge => exact ⟨"", total_ofBuffering "too_large" none name wanted⟩
  | unreadable => exact ⟨"", total_ofBuffering "read_error" none name wanted⟩
  | checked body check => exact hbody body check
  | mismatch body check => exact hbody body check
  | _ => exact ⟨"", rfl⟩

theorem total_buffering (h : Recorded asked kept exit os) :
    let counted (wanted : List (String × String)) :=
      total { observations := os } "bodyseal_body_buffer_total" wanted
    counted [] = (decide (asked ∧ exit ≠ .raised)).toNat ∧
      counted [("result", "too_large")] = (decide (exit = .tooLarge)).toNat ∧
      counted [("result", "read_error")] = (decide (exit = .unreadable)).toNat ∧
      counted [("result", "buffered")] = kept.isSome.toNat := by
  intro counted
  have hcounted (wanted : List (String × String)) : counted wanted =
      (exit.buffering?.any fun result => wanted.all [("result", result)].contains).toNat := by
    obtain ⟨label, htotal⟩ := h.total_observed "bodyseal_body_buffer_total" wanted
    rw [show counted wanted = _ from htotal]
    simp [Counter.fits]
  simp only [hcounted]
  cases h <;> simp [Exit.buffering?]

theorem total_checks (h : Recorded asked kept exit os) :
    total { observations := os } "bodyseal_digest_checks_total" [] =
      kept.isSome.toNat + (decide (exit = .required)).toNat := by
  obtain ⟨label, htotal⟩ := h.total_observed "bodyseal_digest_checks_total" []
  rw [htotal]
  cases h <;> simp [Counter.fits]

theorem total_verified (h : Recorded asked kept exit os) :
    total { observations := os } "bodyseal_digest_checks_total" [("result", "verified")] =
      (kept.any fun k => k.2.verified).toNat := by
  obtain ⟨label, htotal⟩ := h.total_observed "bodyseal_digest_checks_total" [("result", "verified")]
  rw [htotal]
  cases h <;> simp [Counter.fits]

theorem total_computed (h : Recorded asked kept exit os) (a : Algorithm) :
    total { observations := os } "bodyseal_digests_computed_total" [("alg", a.name)] =
      (kept.any fun k => k.1 ≠ [] ∧ a ∈ k.2.algorithms).toNat := by
  obtain ⟨label, htotal⟩ := h.total_observed "bodyseal_digests_computed_total" [("alg", a.name)]
  rw [htotal]
  cases h with
  | checked body check => exact (Nat.zero_add _).trans (countP_digested check body a)
  | mismatch body check => exact (Nat.zero_add _).trans (countP_digested check body a)
  | _ => rfl

end Gate.Recorded

end DigestGate
