import DigestGate.Proofs.Text.Trimming
import DigestGate.Text.Case

namespace DigestGate.Text

theorem toNat_ofNat {n : Nat} (h : n.isValidChar) : (Char.ofNat n).toNat = n := by
  rw [Char.ofNat, dif_pos h]
  rfl

theorem toLower_of_not_capital {c : Char} (h : ¬ (65 ≤ c.toNat ∧ c.toNat ≤ 90)) :
    c.toLower = c := by
  apply dif_neg
  intro hval
  exact h ⟨UInt32.le_iff_toNat_le.1 hval.1, UInt32.le_iff_toNat_le.1 hval.2⟩

theorem apply_toLower {α : Type} {f : Char → α}
    (h : ∀ n < 26, f (Char.ofNat (97 + n)) = f (Char.ofNat (65 + n))) (c : Char) :
    f c.toLower = f c := by
  have hcapital : ∀ n < 26, (Char.ofNat (65 + n)).toLower = Char.ofNat (97 + n) := by decide
  by_cases hc : 65 ≤ c.toNat ∧ c.toNat ≤ 90
  · have hn : c.toNat - 65 < 26 := by omega
    have hself : Char.ofNat (65 + (c.toNat - 65)) = c := by
      rw [show 65 + (c.toNat - 65) = c.toNat by omega, Char.ofNat_toNat]
    have hlower := hcapital (c.toNat - 65) hn
    rw [hself] at hlower
    rw [hlower, h _ hn, hself]
  · rw [toLower_of_not_capital hc]

theorem isBlank_toLower (c : Char) : isBlank c.toLower = isBlank c :=
  apply_toLower (by decide) c

theorem not_within {ranges : List (Nat × Nat)} {low high : Nat} {c : Char}
    (h : ranges.all fun r => Nat.blt r.2 low || Nat.blt high r.1)
    (hlow : low ≤ c.toNat) (hhigh : c.toNat ≤ high) : within ranges c = false := by
  rw [within, List.any_eq_false]
  intro r hr
  have hapart := List.all_eq_true.1 h r hr
  simp only [Bool.or_eq_true, Nat.blt_eq] at hapart
  simp only [Bool.and_eq_true, decide_eq_true_eq, not_and]
  omega

theorem caseIgnorable_toLower (c : Char) :
    within caseIgnorable c.toLower = within caseIgnorable c := by
  have hsmall : caseIgnorable.all fun r => Nat.blt r.2 97 || Nat.blt 122 r.1 := by decide +kernel
  have hcapital : caseIgnorable.all fun r => Nat.blt r.2 65 || Nat.blt 90 r.1 := by decide +kernel
  apply apply_toLower (f := within caseIgnorable)
  intro n hn
  have hlower := toNat_ofNat (n := 97 + n) (.inl (by omega))
  have hupper := toNat_ofNat (n := 65 + n) (.inl (by omega))
  rw [not_within hsmall (by omega) (by omega), not_within hcapital (by omega) (by omega)]

theorem cased_toLower (c : Char) : within cased c.toLower = within cased c :=
  apply_toLower (by decide +kernel) c

theorem lowerChar_toLower (c : Char) : lowerChar c.toLower = lowerChar c :=
  apply_toLower (by decide +kernel) c

theorem eq_sigma_toLower (c : Char) : c.toLower = 'Σ' ↔ c = 'Σ' :=
  beq_eq_beq.1 (apply_toLower (f := (· == 'Σ')) (by decide) c)

theorem dropWhile_map_toLower {p : Char → Bool} (h : ∀ c : Char, p c.toLower = p c)
    (cs : List Char) : (cs.map Char.toLower).dropWhile p = (cs.dropWhile p).map Char.toLower := by
  rw [List.dropWhile_map]
  exact congrArg _ (congrArg (List.dropWhile · cs) (funext h))

theorem trim_map_toLower (cs : List Char) :
    trim (cs.map Char.toLower) = (trim cs).map Char.toLower := by
  rw [trim, trim, trimWhere, trimWhere, dropWhile_map_toLower isBlank_toLower, ← List.map_reverse,
    dropWhile_map_toLower isBlank_toLower, List.map_reverse]

theorem nearCased_map_toLower (cs : List Char) :
    nearCased (cs.map Char.toLower) = nearCased cs := by
  rw [nearCased, nearCased, dropWhile_map_toLower caseIgnorable_toLower, List.head?_map,
    Option.any_map]
  exact congrArg (Option.any · _) (funext cased_toLower)

theorem lowerAfter_map_toLower (before cs : List Char) :
    lowerAfter (before.map Char.toLower) (cs.map Char.toLower) = lowerAfter before cs := by
  induction cs generalizing before with
  | nil => rfl
  | cons c cs ih =>
    have hrest := ih (c :: before)
    rw [List.map_cons] at hrest
    rw [List.map_cons, lowerAfter, lowerAfter, hrest, nearCased_map_toLower, nearCased_map_toLower,
      lowerChar_toLower]
    simp only [eq_sigma_toLower]

theorem lower_map_toLower (cs : List Char) : lower (cs.map Char.toLower) = lower cs :=
  lowerAfter_map_toLower [] cs

theorem length_le_lower {cs : List Char} (h : ∀ c ∈ cs, lowerChar c ≠ []) :
    cs.length ≤ (lower cs).length := by
  have hafter (before : List Char) : cs.length ≤ (lowerAfter before cs).length := by
    induction cs generalizing before with
    | nil => exact Nat.le_refl 0
    | cons c cs ih =>
      obtain ⟨hc, hcs⟩ := List.forall_mem_cons.1 h
      have hrest := ih hcs (c :: before)
      have hfirst : 0 < (if c = 'Σ' then [if nearCased before && !nearCased cs then 'ς' else 'σ']
          else lowerChar c).length := by
        split
        · exact Nat.one_pos
        · exact List.length_pos_of_ne_nil hc
      rw [lowerAfter, List.length_append, List.length_cons]
      omega
  exact hafter []

theorem upperChar_ne_nil (c : Char) : upperChar c ≠ [] := by
  rw [upperChar, mapCase]
  split
  · exact List.cons_ne_nil _ _
  · split
    · next codes hlookup =>
      have htable : upperExpansions.all (fun e => !e.2.isEmpty) = true := rfl
      obtain ⟨before, after, hsplit, -⟩ := List.lookup_eq_some_iff.1 hlookup
      have hmem : (c.toNat, codes) ∈ upperExpansions := by
        rw [hsplit]
        exact List.mem_append_right _ List.mem_cons_self
      have hcodes := List.all_eq_true.1 htable _ hmem
      rintro hnil
      rw [List.map_eq_nil_iff.1 hnil] at hcodes
      cases hcodes
    · exact List.cons_ne_nil _ _

theorem upper_ne_nil {cs : List Char} (h : cs ≠ []) : upper cs ≠ [] := by
  obtain ⟨c, rest, rfl⟩ := List.exists_cons_of_ne_nil h
  rw [upper, List.flatMap_cons]
  exact List.append_ne_nil_of_left_ne_nil (upperChar_ne_nil c) _

end DigestGate.Text
