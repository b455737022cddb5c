import DigestGate.Proofs.Text.Pieces
import DigestGate.Proofs.Text.Trimming
import DigestGate.Text.Numeral

namespace DigestGate.Text

variable {c : Char} {cs : List Char} {digits : List Nat} {n : Nat}

theorem isDigit_iff : c.isDigit ↔ 48 ≤ c.toNat ∧ c.toNat ≤ 57 := by
  rw [Char.isDigit, Bool.and_eq_true, decide_eq_true_iff, decide_eq_true_iff]
  exact Iff.rfl

theorem of_isDigit {p : Char → Prop} (h : ∀ d < 10, p (Char.ofNat (48 + d))) (hc : c.isDigit) :
    p c := by
  obtain ⟨hlow, hhigh⟩ := isDigit_iff.1 hc
  have hp := h (c.toNat - 48) (by omega)
  rwa [show 48 + (c.toNat - 48) = c.toNat by omega, Char.ofNat_toNat] at hp

theorem digitValue?_of_isDigit (h : c.isDigit) : digitValue? c = some (c.toNat - '0'.toNat) :=
  of_isDigit (p := fun c => digitValue? c = some (c.toNat - '0'.toNat)) (by decide) h

theorem isNumeralBlank_of_isDigit (h : c.isDigit) : isNumeralBlank c = false :=
  of_isDigit (p := fun c => isNumeralBlank c = false) (by decide) h

theorem digitValue?_lt (h : digitValue? c = some n) : n < 10 := by
  obtain ⟨base, hbase, rfl⟩ := Option.map_eq_some_iff.1 h
  have hwithin := List.find?_some (p := fun base => base ≤ c.toNat && c.toNat < base + 10) hbase
  rw [Bool.and_eq_true, decide_eq_true_iff, decide_eq_true_iff] at hwithin
  omega

theorem foldl_digits_lt (h : ∀ d ∈ digits, d < 10) (start : Nat) :
    digits.foldl (fun value digit => 10 * value + digit) start <
      (start + 1) * Nat.pow 10 digits.length := by
  induction digits generalizing start with
  | nil =>
    show start < (start + 1) * 1
    omega
  | cons d digits ih =>
    obtain ⟨hd, hdigits⟩ := List.forall_mem_cons.1 h
    calc digits.foldl (fun value digit => 10 * value + digit) (10 * start + d)
        < (10 * start + d + 1) * Nat.pow 10 digits.length := ih hdigits _
      _ ≤ ((start + 1) * 10) * Nat.pow 10 digits.length := Nat.mul_le_mul_right _ (by omega)
      _ = (start + 1) * Nat.pow 10 (digits.length + 1) := by
        rw [Nat.mul_assoc, Nat.mul_comm 10]
        rfl

theorem foldl_digitValues (h : ∀ c ∈ cs, c.isDigit) (start : Nat) :
    (cs.filterMap digitValue?).foldl (fun value digit => 10 * value + digit) start =
      Nat.ofDigitChars 10 cs start := by
  induction cs generalizing start with
  | nil => rfl
  | cons c cs ih =>
    obtain ⟨hc, hcs⟩ := List.forall_mem_cons.1 h
    rw [List.filterMap_cons_some (digitValue?_of_isDigit hc), List.foldl_cons, ih hcs,
      Nat.ofDigitChars_cons]

theorem length_digitValues (h : ∀ c ∈ cs, c.isDigit) :
    (cs.filterMap digitValue?).length = cs.length := by
  induction cs with
  | nil => rfl
  | cons c cs ih =>
    obtain ⟨hc, hcs⟩ := List.forall_mem_cons.1 h
    rw [List.filterMap_cons_some (digitValue?_of_isDigit hc), List.length_cons, ih hcs,
      List.length_cons]

theorem isDigit_toDigits (n : Nat) : ∀ c ∈ Nat.toDigits 10 n, c.isDigit :=
  fun _ hc => Nat.isDigit_of_mem_toDigits (by decide) (by decide) hc

theorem magnitude?_toDigits (h : (Nat.toDigits 10 n).length ≤ maxDigits) :
    magnitude? (Nat.toDigits 10 n) = .ok n := by
  have hdigits := isDigit_toDigits n
  have hrun : (Nat.toDigits 10 n).takeWhile (fun c => (digitValue? c).isSome || c == '_') =
      Nat.toDigits 10 n := by
    apply List.takeWhile_eq_self_iff.2
    intro c hc
    rw [digitValue?_of_isDigit (hdigits c hc)]
    rfl
  have hgroups : (pieces '_' (Nat.toDigits 10 n)).any List.isEmpty = false := by
    rw [pieces_of_not_mem Nat.underscore_not_in_toDigits, List.any_cons, List.any_nil,
      Bool.or_false, List.isEmpty_eq_false_iff]
    exact Nat.toDigits_ne_nil
  rw [magnitude?, hrun, hgroups, length_digitValues hdigits, if_neg Bool.false_ne_true,
    if_neg (Nat.not_lt.2 h), if_neg (not_not_intro rfl), foldl_digitValues hdigits,
    Nat.ofDigitChars_ten_toDigits]

theorem length_toDigits_foldl_le {limit : Nat} (h : ∀ d ∈ digits, d < 10) (hpos : 0 < limit)
    (hlength : digits.length ≤ limit) :
    (Nat.toDigits 10 (digits.foldl (fun value digit => 10 * value + digit) 0)).length ≤ limit := by
  apply (Nat.length_toDigits_le_iff (by decide) hpos).2
  apply Nat.lt_of_lt_of_le (foldl_digits_lt h 0)
  rw [Nat.zero_add, Nat.one_mul]
  exact Nat.pow_le_pow_right (by decide) hlength

theorem length_toDigits_of_magnitude? (h : magnitude? cs = .ok n) :
    (Nat.toDigits 10 n).length ≤ maxDigits := by
  rw [magnitude?] at h
  split at h
  · cases h
  split at h
  · cases h
  split at h
  · cases h
  · next hcount _ =>
    cases h
    apply length_toDigits_foldl_le
    · intro d hd
      obtain ⟨c, _, hc⟩ := List.mem_filterMap.1 hd
      exact digitValue?_lt hc
    · decide
    · exact Nat.le_of_not_lt hcount

theorem splitSign_of_isDigit (h : ∀ c ∈ cs, c.isDigit) : splitSign cs = (false, cs) := by
  unfold splitSign
  split
  · exact absurd (h '-' List.mem_cons_self) (by decide)
  · exact absurd (h '+' List.mem_cons_self) (by decide)
  · rfl

theorem integer?_of_magnitude? {negative : Bool} {rest : List Char}
    (hsplit : splitSign (trimWhere isNumeralBlank cs) = (negative, rest))
    (h : magnitude? rest = .ok n) : integer? cs = .ok (if negative then -(n : Int) else n) := by
  rw [integer?, hsplit]
  simp only
  rw [h]
  rfl

theorem exists_magnitude? {n : Int} (h : integer? cs = .ok n) :
    ∃ rest, magnitude? rest = .ok n.natAbs := by
  cases hsplit : splitSign (trimWhere isNumeralBlank cs) with
  | mk negative rest =>
    cases hmagnitude : magnitude? rest with
    | error e =>
      rw [integer?, hsplit] at h
      simp only at h
      rw [hmagnitude] at h
      cases h
    | ok m =>
      rw [integer?_of_magnitude? hsplit hmagnitude] at h
      have habs : m = n.natAbs := by
        have hn := Except.ok.inj h
        split at hn
        · omega
        · omega
      exact ⟨rest, habs ▸ hmagnitude⟩

theorem isNumeralBlank_of_mem_decimal {n : Int} (h : c ∈ decimal n) : isNumeralBlank c = false := by
  have hdigit : c ∈ Nat.toDigits 10 n.natAbs → isNumeralBlank c = false := fun hc =>
    isNumeralBlank_of_isDigit (isDigit_toDigits n.natAbs c hc)
  rw [decimal] at h
  split at h
  · rcases List.mem_cons.1 h with rfl | h
    · decide
    · exact hdigit h
  · exact hdigit h

theorem splitSign_decimal (n : Int) :
    splitSign (decimal n) = (decide (n < 0), Nat.toDigits 10 n.natAbs) := by
  rw [decimal]
  by_cases hn : n < 0
  · rw [if_pos hn, decide_eq_true hn, splitSign]
  · rw [if_neg hn, decide_eq_false hn, splitSign_of_isDigit (isDigit_toDigits n.natAbs)]

/-- An integer that was read is read again from its decimal form. -/
theorem integer?_decimal {n : Int} (h : integer? cs = .ok n) : integer? (decimal n) = .ok n := by
  obtain ⟨rest, hrest⟩ := exists_magnitude? h
  have hmagnitude := magnitude?_toDigits (length_toDigits_of_magnitude? hrest)
  have htrim : trimWhere isNumeralBlank (decimal n) = decimal n :=
    trimWhere_of_not fun c hc => isNumeralBlank_of_mem_decimal hc
  rw [integer?_of_magnitude? (by rw [htrim, splitSign_decimal]) hmagnitude]
  congr 1
  by_cases hn : n < 0
  · rw [decide_eq_true hn, if_pos rfl]
    omega
  · rw [decide_eq_false hn, if_neg Bool.false_ne_true]
    omega

end DigestGate.Text
