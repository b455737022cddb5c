import DigestGate.Proofs.Check.Reference

namespace DigestGate

variable {body : Bytes} {named others : List Algorithm} {a : Algorithm}

/-- The cached digests are those of the algorithms named, none for an empty body. -/
def DigestCache.Covers (c : DigestCache) (body : Bytes) (named : List Algorithm) : Prop :=
  ∀ a, (c.get? a).isSome ↔ body ≠ [] ∧ a ∈ named

namespace DigestCache

variable {c c' : DigestCache}

theorem covers_empty (body : Bytes) : Covers {} body [] := by
  intro a
  refine ⟨fun h => ?_, fun h => absurd h.2 List.not_mem_nil⟩
  cases a <;> cases h

theorem Covers.congr (h : c.Covers body named) (hsame : ∀ a, a ∈ named ↔ a ∈ others) :
    c.Covers body others := by
  intro a
  rw [h a, hsame a]

theorem Covers.set (h : c.Covers body named) (hbody : body ≠ []) (digest : Bytes)
    (a : Algorithm) : (c.set digest a).Covers body (named ++ [a]) := by
  intro b
  rw [get?_set, List.mem_append, List.mem_singleton]
  by_cases hab : a = b
  · rw [if_pos hab]
    exact ⟨fun _ => ⟨hbody, .inr hab.symm⟩, fun _ => rfl⟩
  · rw [if_neg hab, h b]
    exact and_congr_right fun _ => ⟨.inl, fun hb => hb.resolve_right (Ne.symm hab)⟩

theorem Covers.of_empty (h : c.Covers [] named) (others : List Algorithm) : c.Covers [] others := by
  intro b
  rw [h b]
  exact ⟨fun hb => absurd rfl hb.1, fun hb => absurd rfl hb.1⟩

theorem Covers.computed_eq (h : c.Covers body named) :
    c.computed = if body = [] then [] else Algorithm.all.filter (· ∈ named) := by
  rw [computed]
  by_cases hbody : body = []
  · rw [if_pos hbody, List.filter_eq_nil_iff]
    exact fun a _ ha => ((h a).1 ha).1 hbody
  · rw [if_neg hbody]
    refine List.filter_congr fun a _ => ?_
    rw [Bool.eq_iff_iff, h a, decide_eq_true_iff]
    exact and_iff_right hbody

theorem mem_computed : a ∈ c.computed ↔ (c.get? a).isSome := by
  rw [computed, List.mem_filter]
  refine and_iff_right ?_
  cases a <;> decide

theorem covers_computed (hbody : body = [] → c.computed = []) : c.Covers body c.computed := by
  intro a
  rw [mem_computed, iff_and_self]
  intro ha hempty
  have hmem := mem_computed.2 ha
  rw [hbody hempty] at hmem
  exact absurd hmem List.not_mem_nil

theorem ext (h : ∀ a, c.get? a = c'.get? a) : c = c' := by
  have hmd5 : c.md5 = c'.md5 := h .md5
  have hsha1 : c.sha1 = c'.sha1 := h .sha1
  have hsha256 : c.sha256 = c'.sha256 := h .sha256
  cases c
  cases c'
  cases hmd5
  cases hsha1
  cases hsha256
  rfl

/-- The algorithms computed determine the cache. -/
theorem Covers.cache_eq (hc : c.Covers body named) (hc' : c'.Covers body others)
    (hsame : ∀ a, a ∈ named ↔ a ∈ others)
    (h : ∀ a digest, c.get? a = some digest → digest = a.compute body)
    (h' : ∀ a digest, c'.get? a = some digest → digest = a.compute body) : c = c' := by
  apply ext
  intro a
  have hsome : (c.get? a).isSome ↔ (c'.get? a).isSome := (hc.congr hsame a).trans (hc' a).symm
  cases hget : c.get? a with
  | none =>
    rw [hget] at hsome
    cases hget' : c'.get? a with
    | none => rfl
    | some digest =>
      rw [hget'] at hsome
      exact absurd (hsome.2 rfl) Bool.false_ne_true
  | some digest =>
    rw [hget] at hsome
    obtain ⟨digest', hget'⟩ := Option.isSome_iff_exists.1 (hsome.1 rfl)
    rw [hget', h a digest hget, h' a digest' hget']

end DigestCache

namespace Check

variable {b : Algorithm} {seen : List Algorithm} {fields : List IntegrityField}

theorem mem_told : b ∈ (if a ∈ seen then seen else seen ++ [a]) ↔ b ∈ seen ∨ b = a := by
  by_cases ha : a ∈ seen
  · rw [if_pos ha, iff_self_or]
    rintro rfl
    exact ha
  · rw [if_neg ha, List.mem_append, List.mem_singleton]

theorem subset_algorithms_compare (seen : List Algorithm) (declarations : List Declaration) :
    seen ⊆ (compare body fields seen declarations).algorithms := by
  induction declarations generalizing seen with
  | nil => exact List.Subset.refl seen
  | cons d rest ih =>
    have htold : seen ⊆ if d.algorithm ∈ seen then seen else seen ++ [d.algorithm] :=
      fun b hb => mem_told.2 (.inl hb)
    rw [compare]
    by_cases hd : d.algorithm.compute body = d.digest
    · simp only [if_pos hd]
      exact List.Subset.trans htold (ih _)
    · simp only [if_neg hd]
      exact htold

end Check

namespace Solo

variable {ρ : Type} [BodySource ρ] {s : Solo ρ} {fields : List IntegrityField}
  {seen : List Algorithm}

theorem holds_digest (hs : s.request.Holds body) (a : Algorithm) :
    (host.digest a s).2.request.Holds body :=
  (rests_keeps.digest a (⟨hs, rfl, rfl⟩ : Rests s.request.limits body s.source s)).holds

theorem covers_digest (hs : s.request.Holds body) (hc : s.request.cache.Covers body seen)
    (a : Algorithm) :
    (host.digest a s).2.request.cache.Covers body
      (if a ∈ seen then seen else seen ++ [a]) := by
  have hopen : ¬ (host.request s).phase = .handedOut := by
    rw [show (host.request s).phase = .buffered body from hs.phase]
    exact Phase.noConfusion
  rw [Host.digest, if_neg hopen]
  cases hcached : (host.request s).cache.get? a with
  | some digest =>
    have ha : a ∈ seen := ((hc a).1 (by rw [show s.request.cache.get? a = _ from hcached]; rfl)).2
    rw [if_pos ha]
    exact hc
  | none =>
    rw [Host.ensure_holds (h := host) hs]
    cases body with
    | nil => exact hc.of_empty _
    | cons b bs =>
      have ha : a ∉ seen := fun ha => by
        have hsome := (hc a).2 ⟨List.cons_ne_nil b bs, ha⟩
        rw [show s.request.cache.get? a = none from hcached] at hsome
        exact Bool.false_ne_true hsome
      rw [if_neg ha]
      exact hc.set (List.cons_ne_nil b bs) _ a

theorem digest_covers (hs : s.request.Holds body) (hc : s.request.cache.Covers body seen)
    (a : Algorithm) :
    (host.digest a s).1 = .ok (if body = [] then none else some (a.compute body)) := by
  have hopen : ¬ (host.request s).phase = .handedOut := by
    rw [show (host.request s).phase = .buffered body from hs.phase]
    exact Phase.noConfusion
  rw [Host.digest, if_neg hopen]
  cases hcached : (host.request s).cache.get? a with
  | some digest =>
    have hsome : s.request.cache.get? a = some digest := hcached
    obtain ⟨hbody, -⟩ := (hc a).1 (by rw [hsome]; rfl)
    rw [if_neg hbody, hs.computed a digest hsome]
  | none =>
    rw [Host.ensure_holds (h := host) hs]
    cases body with
    | nil => rfl
    | cons b bs => rfl

theorem covers_digest_named (hs : s.request.Holds body) (hc : s.request.cache.Covers body named)
    (a : Algorithm) : (host.digest a s).2.request.cache.Covers body (named ++ [a]) := by
  refine (covers_digest hs hc a).congr fun b => ?_
  rw [Check.mem_told, List.mem_append, List.mem_singleton]

theorem covers_compareWith (hs : s.request.Holds body) (hc : s.request.cache.Covers body named)
    (hseen : seen ⊆ named) (declarations : List Declaration) :
    (host.compareWith fields seen declarations s).2.request.cache.Covers body
      (named ++ (Check.compare body fields seen declarations).algorithms) := by
  induction declarations generalizing named seen s with
  | nil =>
    refine hc.congr fun b => ?_
    rw [List.mem_append, iff_self_or]
    exact fun hb => hseen hb
  | cons d rest ih =>
    obtain ⟨digest, hdigest, hbody⟩ := Host.digest_holds (h := host) hs d.algorithm
    have hnext := holds_digest hs d.algorithm
    have hcovers := covers_digest_named hs hc d.algorithm
    have htold (b : Algorithm) :
        b ∈ (if d.algorithm ∈ seen then seen else seen ++ [d.algorithm]) ↔
          b ∈ seen ∨ b = d.algorithm := Check.mem_told
    rw [Host.compareWith, Check.compare]
    generalize host.digest d.algorithm s = outcome at hdigest hnext hcovers ⊢
    generalize (if d.algorithm ∈ seen then seen else seen ++ [d.algorithm]) = told at htold ⊢
    obtain ⟨_, s'⟩ := outcome
    cases hdigest
    simp only [hbody, sameDigest_iff]
    have hnamed (b : Algorithm) : b ∈ named ++ [d.algorithm] ↔ b ∈ named ∨ b ∈ told := by
      rw [List.mem_append, List.mem_singleton, htold b, ← or_assoc]
      exact or_congr_left (iff_self_or.2 fun hb => hseen hb)
    by_cases hd : d.algorithm.compute body = d.digest
    · simp only [if_pos hd]
      refine (ih hnext hcovers fun b hb => (hnamed b).2 (.inr hb)).congr fun b => ?_
      have hlater : told ⊆ (Check.compare body fields told rest).algorithms :=
        Check.subset_algorithms_compare told rest
      rw [List.mem_append, hnamed b, List.mem_append, or_assoc]
      exact or_congr_right (or_iff_right_of_imp fun hb => hlater hb)
    · simp only [if_neg hd]
      exact hcovers.congr fun b => by rw [hnamed b, List.mem_append]; rfl

/-- Checks compute the digests they name and no others. -/
theorem covers_verify_named (hs : s.request.Holds body) (hc : s.request.cache.Covers body named)
    (lines : FieldLines) :
    (host.verify lines s).2.request.cache.Covers body
      (named ++ (lines.check body).algorithms) := by
  have hsame : s.request.cache.Covers body (named ++ []) := by
    rw [List.append_nil]
    exact hc
  rw [Host.verify, FieldLines.check]
  cases lines.integrityFields with
  | nil => exact hsame
  | cons f fields =>
    rcases lines.declared with _ | (_ | ⟨d, rest⟩)
    · exact hsame
    · exact hsame
    · exact covers_compareWith hs hc (List.nil_subset named) (d :: rest)

theorem covers_verify (hs : s.request.Holds body) (hc : s.request.cache.Covers body [])
    (lines : FieldLines) :
    (host.verify lines s).2.request.cache.Covers body (lines.check body).algorithms :=
  covers_verify_named hs hc lines

end Solo

end DigestGate
