import DigestGate.Text.Blank
import Mathlib.Data.List.DropRight

namespace DigestGate.Text

variable {c : Char} {cs left right text : List Char}

theorem trim_append (hleft : ∀ c ∈ left, isBlank c) (hright : ∀ c ∈ right, isBlank c)
    (text : List Char) : trim (left ++ text ++ right) = trim text := by
  have hblank : right.dropWhile isBlank = [] := List.dropWhile_eq_nil_iff.2 hright
  have hback : ∀ c ∈ right.reverse, isBlank c := fun c hc => hright c (List.mem_reverse.1 hc)
  rw [trim, trim, trimWhere, trimWhere, List.append_assoc, List.dropWhile_append_of_pos hleft,
    List.dropWhile_append]
  cases htext : text.dropWhile isBlank with
  | nil => rw [List.isEmpty_nil, if_pos rfl, hblank]
  | cons c cs =>
    rw [List.isEmpty_cons, if_neg Bool.false_ne_true, List.reverse_append,
      List.dropWhile_append_of_pos hback]

theorem trim_append_left (hleft : ∀ c ∈ left, isBlank c) (text : List Char) :
    trim (left ++ text) = trim text := by
  have h := trim_append hleft (fun c hc => absurd hc List.not_mem_nil) text
  rwa [List.append_nil] at h

theorem trim_append_right (hright : ∀ c ∈ right, isBlank c) (text : List Char) :
    trim (text ++ right) = trim text :=
  trim_append (fun _ hc => absurd hc List.not_mem_nil) hright text

theorem trim_cons_of_blank (hc : isBlank c) (cs : List Char) : trim (c :: cs) = trim cs :=
  trim_append_left (List.forall_mem_singleton.2 hc) cs

theorem trim_dropWhile (cs : List Char) : trim (cs.dropWhile isBlank) = trim cs := by
  have hfront : ∀ c ∈ cs.takeWhile isBlank, isBlank c := fun c hc => List.mem_takeWhile_imp hc
  have h := trim_append_left hfront (cs.dropWhile isBlank)
  rw [List.takeWhile_append_dropWhile] at h
  exact h.symm

theorem trimWhere_of_not {p : Char → Bool} (h : ∀ c ∈ cs, p c = false) : trimWhere p cs = cs := by
  have hdrop (cs : List Char) (h : ∀ c ∈ cs, p c = false) : cs.dropWhile p = cs := by
    cases cs with
    | nil => rfl
    | cons c cs =>
      have hc := h c List.mem_cons_self
      exact List.dropWhile_cons_of_neg (by rw [hc]; exact Bool.noConfusion)
  rw [trimWhere, hdrop cs h, hdrop cs.reverse fun c hc => h c (List.mem_reverse.1 hc),
    List.reverse_reverse]

theorem trim_of_not_blank (h : ∀ c ∈ cs, isBlank c = false) : trim cs = cs :=
  trimWhere_of_not h

theorem dropWhile_append_cons {p : Char → Bool} (hc : p c = false) (before after : List Char) :
    (before ++ c :: after).dropWhile p = before.dropWhile p ++ c :: after := by
  induction before with
  | nil => exact List.dropWhile_cons_of_neg (by rw [hc]; exact Bool.noConfusion)
  | cons d before ih =>
    by_cases hd : p d
    · rw [List.cons_append, List.dropWhile_cons_of_pos hd, List.dropWhile_cons_of_pos hd, ih]
    · rw [List.cons_append, List.dropWhile_cons_of_neg hd, List.dropWhile_cons_of_neg hd,
        List.cons_append]

theorem trim_append_cons (hc : isBlank c = false) (before after : List Char) :
    trim (before ++ c :: after) =
      before.dropWhile isBlank ++ c :: after.rdropWhile isBlank := by
  rw [trim, trimWhere, dropWhile_append_cons hc, List.reverse_append, List.reverse_cons,
    List.append_assoc, List.singleton_append, dropWhile_append_cons hc, List.reverse_append,
    List.reverse_cons, List.append_assoc, List.reverse_reverse, List.singleton_append,
    List.rdropWhile]

theorem mem_trim (hc : isBlank c = false) : c ∈ trim cs ↔ c ∈ cs := by
  constructor
  · intro h
    have hsub : c ∈ cs.dropWhile isBlank :=
      List.mem_reverse.1 ((List.dropWhile_sublist isBlank).subset (List.mem_reverse.1 h))
    exact (List.dropWhile_sublist isBlank).subset hsub
  · intro h
    obtain ⟨before, after, rfl⟩ := List.append_of_mem h
    rw [trim_append_cons hc]
    exact List.mem_append_right _ List.mem_cons_self

theorem trim_eq_nil_iff : trim cs = [] ↔ ∀ c ∈ cs, isBlank c := by
  constructor
  · intro h c hc
    by_contra hblank
    have hmem := (mem_trim (Bool.of_not_eq_true hblank)).2 hc
    rw [h] at hmem
    exact absurd hmem List.not_mem_nil
  · intro h
    have htrim := trim_append_left h []
    rwa [List.append_nil] at htrim

theorem trim_trim (cs : List Char) : trim (trim cs) = trim cs := by
  by_cases hblank : ∀ c ∈ cs, isBlank c
  · rw [trim_eq_nil_iff.2 hblank]
    rfl
  · simp only [not_forall, Bool.not_eq_true] at hblank
    obtain ⟨c, hmem, hc⟩ := hblank
    obtain ⟨before, after, rfl⟩ := List.append_of_mem hmem
    rw [trim_append_cons hc, trim_append_cons hc, List.dropWhile_idempotent,
      List.rdropWhile_idempotent]

theorem trim_takeWhile_rdropWhile {p : Char → Bool} (hp : ∀ c, isBlank c → p c) (cs : List Char) :
    trim ((cs.rdropWhile isBlank).takeWhile p) = trim (cs.takeWhile p) := by
  have hback : ∀ c ∈ cs.rtakeWhile isBlank, isBlank c := fun c hc => List.mem_rtakeWhile_imp hc
  have hall : ∀ c ∈ cs.rtakeWhile isBlank, p c := fun c hc => hp c (hback c hc)
  have hwhole : cs.takeWhile p = (cs.rdropWhile isBlank ++ cs.rtakeWhile isBlank).takeWhile p :=
    congrArg (List.takeWhile p) List.rdropWhile_append_rtakeWhile.symm
  rw [hwhole, List.takeWhile_append]
  split
  · next hlength =>
    have htaken := (List.takeWhile_prefix p).eq_of_length hlength
    rw [htaken, List.takeWhile_eq_self_iff.2 hall, trim_append_right hback]
  · rfl

end DigestGate.Text
