import DigestGate.Proofs.Text.LetterCase

namespace DigestGate.Text

namespace CaseRun

variable {r r' : CaseRun} {code : Nat}

def image (r : CaseRun) (code : Nat) : Nat :=
  (code + r.offset).toNat

/-- No letter of one run is the image of a letter of the other. -/
def apart (r r' : CaseRun) : Bool :=
  Nat.blt (r.image r.last) r'.first || Nat.blt r'.last (r.image r.first) ||
    (r'.stride == 2 && (r.stride == 2 || r.first == r.last) &&
      (r.image r.first + r'.first) % 2 == 1)

def inRange (r : CaseRun) : Bool :=
  0 ≤ r.first + r.offset &&
    (Nat.blt (r.image r.last) 0xD800 ||
      Nat.blt 0xDFFF (r.image r.first) && Nat.blt (r.image r.last) 0x110000)

theorem covers_iff : r.covers code ↔
    r.first ≤ code ∧ code ≤ r.last ∧ (code - r.first) % r.stride = 0 := by
  simp only [covers, Bool.and_eq_true, decide_eq_true_eq, beq_iff_eq, and_assoc]

theorem ne_of_uncovered {n : Nat} (h : covers ⟨n, n, 1, 0⟩ code = false) : code ≠ n := by
  rintro rfl
  exact Bool.eq_false_iff.1 h (covers_iff.2 ⟨Nat.le_refl _, Nat.le_refl _, Nat.mod_one _⟩)

theorem not_covers_image (hrange : r.inRange) (hapart : r.apart r') (h : r.covers code) :
    r'.covers (r.image code) = false := by
  simp only [apart, image, Bool.or_eq_true, Bool.and_eq_true, Nat.blt_eq, beq_iff_eq] at hapart
  simp only [inRange, Bool.and_eq_true, decide_eq_true_eq] at hrange
  obtain ⟨hfirst, hlast, hstride⟩ := covers_iff.1 h
  apply Bool.eq_false_iff.2
  intro hcovers
  obtain ⟨hfirst', hlast', hstride'⟩ := covers_iff.1 hcovers
  rw [image] at hfirst' hlast' hstride'
  rcases hapart with (hbefore | hbehind) | ⟨⟨htwo', htwo⟩, hodd⟩
  · omega
  · omega
  · rw [htwo'] at hstride'
    rcases htwo with htwo | hsingle
    · rw [htwo] at hstride
      omega
    · omega

theorem isValidChar_image (hrange : r.inRange) (h : r.covers code) :
    (r.image code).isValidChar := by
  simp only [inRange, image, Bool.and_eq_true, Bool.or_eq_true, decide_eq_true_eq, Nat.blt_eq]
    at hrange
  obtain ⟨hfirst, hlast, -⟩ := covers_iff.1 h
  rw [image, Nat.isValidChar]
  omega

end CaseRun

/-- The characters that lower case changes. -/
def capitals : List CaseRun :=
  ⟨0x3A3, 0x3A3, 1, 0⟩ :: ⟨0x41, 0x5A, 1, 0⟩ :: ⟨0x130, 0x130, 1, 0⟩ :: lowerRuns

theorem lowerRuns_apart : lowerRuns.all fun r => r.inRange && capitals.all r.apart := by
  decide +kernel

def IsSettled (c : Char) : Prop :=
  c ≠ 'Σ' ∧ lowerChar c = [c]

variable {c d : Char} {cs : List Char}

theorem lookup_lowerExpansions (h : c.toNat ≠ 0x130) : lowerExpansions.lookup c.toNat = none := by
  rw [lowerExpansions, List.lookup_cons, beq_false_of_ne h]
  rfl

theorem isSettled_of_uncovered (h : ∀ r ∈ capitals, r.covers c.toNat = false) : IsSettled c := by
  have hsigma := h ⟨0x3A3, 0x3A3, 1, 0⟩ List.mem_cons_self
  have hascii := h ⟨0x41, 0x5A, 1, 0⟩ (List.mem_cons_of_mem _ List.mem_cons_self)
  have hdotted := h ⟨0x130, 0x130, 1, 0⟩
    (List.mem_cons_of_mem _ (List.mem_cons_of_mem _ List.mem_cons_self))
  have hruns : ∀ r ∈ lowerRuns, r.covers c.toNat = false := fun r hr =>
    h r (List.mem_cons_of_mem _ (List.mem_cons_of_mem _ (List.mem_cons_of_mem _ hr)))
  constructor
  · rintro rfl
    exact CaseRun.ne_of_uncovered hsigma rfl
  · rw [lowerChar, mapCase]
    split
    · rw [toLower_of_not_capital]
      rintro ⟨hfirst, hlast⟩
      exact Bool.eq_false_iff.1 hascii (CaseRun.covers_iff.2 ⟨hfirst, hlast, Nat.mod_one _⟩)
    · have hfind : lowerRuns.find? (·.covers c.toNat) = none := by
        apply List.find?_eq_none.2
        intro r hr
        exact Bool.eq_false_iff.1 (hruns r hr)
      rw [lookup_lowerExpansions (CaseRun.ne_of_uncovered hdotted), counterpart, hfind]

theorem isSettled_counterpart {r : CaseRun} (hr : r ∈ lowerRuns) (h : r.covers c.toNat) :
    IsSettled (Char.ofNat (r.image c.toNat)) := by
  obtain ⟨hrange, hall⟩ := Bool.and_eq_true_iff.1 (List.all_eq_true.1 lowerRuns_apart r hr)
  have hapart := List.all_eq_true.1 hall
  apply isSettled_of_uncovered
  intro r' hr'
  rw [toNat_ofNat (CaseRun.isValidChar_image hrange h)]
  exact CaseRun.not_covers_image hrange (hapart r' hr') h

theorem isSettled_of_mem_lowerChar (hc : c ≠ 'Σ') (hd : d ∈ lowerChar c) : IsSettled d := by
  by_cases hascii : c.toNat < 128
  · have hlower : lowerChar c = [c.toLower] := if_pos hascii
    rw [hlower, List.mem_singleton] at hd
    rw [hd]
    exact ⟨mt (eq_sigma_toLower c).1 hc, (lowerChar_toLower c).trans hlower⟩
  · by_cases hdotted : c.toNat = 0x130
    · have hlower : lowerChar c = ['i', Char.ofNat 0x307] := by
        rw [lowerChar, mapCase, if_neg hascii, hdotted]
        rfl
      rw [hlower, List.mem_cons, List.mem_singleton] at hd
      rcases hd with rfl | rfl
      · exact ⟨by decide, rfl⟩
      · exact ⟨by decide, rfl⟩
    · have hlower : lowerChar c = [counterpart lowerRuns c] := by
        rw [lowerChar, mapCase, if_neg hascii, lookup_lowerExpansions hdotted]
      rw [hlower, List.mem_singleton] at hd
      cases hfind : lowerRuns.find? (·.covers c.toNat) with
      | none =>
        have hself : counterpart lowerRuns c = c := by rw [counterpart, hfind]
        rw [hd, hself]
        exact ⟨hc, hlower.trans (by rw [hself])⟩
      | some r =>
        have himage : counterpart lowerRuns c = Char.ofNat (r.image c.toNat) := by
          rw [counterpart, hfind]
          rfl
        have hcovers : r.covers c.toNat :=
          List.find?_some (p := fun r : CaseRun => r.covers c.toNat) hfind
        rw [hd, himage]
        exact isSettled_counterpart (List.mem_of_find?_eq_some hfind) hcovers

theorem isSettled_of_mem_lowerAfter {before : List Char} (hd : d ∈ lowerAfter before cs) :
    IsSettled d := by
  induction cs generalizing before with
  | nil => exact absurd hd List.not_mem_nil
  | cons c cs ih =>
    rw [lowerAfter, List.mem_append] at hd
    rcases hd with hd | hd
    · by_cases hc : c = 'Σ'
      · rw [if_pos hc, List.mem_singleton] at hd
        rw [hd]
        split
        · exact ⟨by decide, rfl⟩
        · exact ⟨by decide, rfl⟩
      · rw [if_neg hc] at hd
        exact isSettled_of_mem_lowerChar hc hd
    · exact ih hd

theorem lowerAfter_of_settled (h : ∀ c ∈ cs, IsSettled c) (before : List Char) :
    lowerAfter before cs = cs := by
  induction cs generalizing before with
  | nil => rfl
  | cons c cs ih =>
    obtain ⟨⟨hsigma, hlower⟩, hcs⟩ := List.forall_mem_cons.1 h
    rw [lowerAfter, if_neg hsigma, hlower, ih hcs]
    rfl

theorem lower_lower (cs : List Char) : lower (lower cs) = lower cs :=
  lowerAfter_of_settled (fun _ hd => isSettled_of_mem_lowerAfter hd) []

theorem lowerCase_lowerCase (s : String) : lowerCase (lowerCase s) = lowerCase s := by
  rw [lowerCase, lowerCase, String.toList_ofList, lower_lower]

end DigestGate.Text
