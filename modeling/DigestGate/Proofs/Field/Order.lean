import Mathlib.Data.List.Induction
import Mathlib.Data.List.Nodup

namespace DigestGate

section FirstOccurrences

variable {α β : Type} [BEq α] [LawfulBEq α]

theorem eraseDups_concat_of_mem {a : α} {as : List α} (h : a ∈ as) :
    (as ++ [a]).eraseDups = as.eraseDups := by
  have hremoved : [a].removeAll as = [] := by
    rw [List.cons_removeAll, if_neg (by simpa using h), List.nil_removeAll]
  rw [List.eraseDups_append, hremoved, List.eraseDups_nil, List.append_nil]

theorem eraseDups_concat_of_not_mem {a : α} {as : List α} (h : a ∉ as) :
    (as ++ [a]).eraseDups = as.eraseDups ++ [a] := by
  have hkept : [a].removeAll as = [a] := by
    rw [List.cons_removeAll, if_pos (by simpa using h), List.nil_removeAll]
  rw [List.eraseDups_append, hkept]
  rfl

theorem eraseDups_append_congr {as bs : List α} (h : as.eraseDups = bs.eraseDups) (cs : List α) :
    (as ++ cs).eraseDups = (bs ++ cs).eraseDups := by
  induction cs using List.reverseRecOn with
  | nil => simpa only [List.append_nil] using h
  | append_singleton cs c ih =>
    have hmem : c ∈ as ++ cs ↔ c ∈ bs ++ cs := by
      rw [← List.mem_eraseDups, ih, List.mem_eraseDups]
    rw [← List.append_assoc, ← List.append_assoc]
    by_cases hc : c ∈ as ++ cs
    · rw [eraseDups_concat_of_mem hc, eraseDups_concat_of_mem (hmem.1 hc), ih]
    · rw [eraseDups_concat_of_not_mem hc, eraseDups_concat_of_not_mem (mt hmem.2 hc), ih]

theorem append_eraseDups (as bs : List α) :
    (as ++ bs.eraseDups).eraseDups = (as ++ bs).eraseDups := by
  induction bs using List.reverseRecOn with
  | nil => rfl
  | append_singleton bs b ih =>
    have hmem : b ∈ as ++ bs.eraseDups ↔ b ∈ as ++ bs := by
      rw [List.mem_append, List.mem_eraseDups, List.mem_append]
    by_cases hb : b ∈ bs
    · rw [eraseDups_concat_of_mem hb, ih, ← List.append_assoc,
        eraseDups_concat_of_mem (List.mem_append_right as hb)]
    · rw [eraseDups_concat_of_not_mem hb, ← List.append_assoc, ← List.append_assoc]
      by_cases hbs : b ∈ as ++ bs
      · rw [eraseDups_concat_of_mem hbs, eraseDups_concat_of_mem (hmem.2 hbs), ih]
      · rw [eraseDups_concat_of_not_mem hbs, eraseDups_concat_of_not_mem (mt hmem.1 hbs), ih]

theorem eraseDups_eraseDups (as : List α) : as.eraseDups.eraseDups = as.eraseDups :=
  append_eraseDups [] as

theorem nodup_eraseDups (as : List α) : as.eraseDups.Nodup := by
  induction as using List.reverseRecOn with
  | nil => exact List.nodup_nil
  | append_singleton as a ih =>
    by_cases ha : a ∈ as
    · rw [eraseDups_concat_of_mem ha]
      exact ih
    · rw [eraseDups_concat_of_not_mem ha, ← List.concat_eq_append, List.nodup_concat]
      exact ⟨fun hb => ha (List.mem_eraseDups.1 hb), ih⟩

theorem eraseDups_flatMap (named : β → List α) (bs : List β) :
    (bs.flatMap fun b => (named b).eraseDups).eraseDups = (bs.flatMap named).eraseDups := by
  induction bs with
  | nil => rfl
  | cons b bs ih =>
    rw [List.flatMap_cons, List.flatMap_cons, ← append_eraseDups, ih, append_eraseDups]
    exact eraseDups_append_congr (eraseDups_eraseDups (named b)) _

theorem eraseDups_of_nodup {as : List α} (h : as.Nodup) : as.eraseDups = as := by
  induction as using List.reverseRecOn with
  | nil => rfl
  | append_singleton as a ih =>
    rw [← List.concat_eq_append, List.nodup_concat] at h
    rw [eraseDups_concat_of_not_mem h.1, ih h.2]

theorem eraseDups_filter (p : α → Bool) (as : List α) :
    (as.filter p).eraseDups = as.eraseDups.filter p := by
  induction as using List.reverseRecOn with
  | nil => rfl
  | append_singleton as a ih =>
    by_cases ha : a ∈ as
    · rw [eraseDups_concat_of_mem ha, ← ih, List.filter_append]
      by_cases hp : p a
      · rw [List.filter_cons_of_pos hp, List.filter_nil,
          eraseDups_concat_of_mem (List.mem_filter.2 ⟨ha, hp⟩)]
      · rw [List.filter_cons_of_neg hp, List.filter_nil, List.append_nil]
    · rw [eraseDups_concat_of_not_mem ha, List.filter_append, List.filter_append, ← ih]
      by_cases hp : p a
      · rw [List.filter_cons_of_pos hp, List.filter_nil,
          eraseDups_concat_of_not_mem (mt (fun h => (List.mem_filter.1 h).1) ha)]
      · rw [List.filter_cons_of_neg hp, List.filter_nil, List.append_nil, List.append_nil]

end FirstOccurrences

end DigestGate
