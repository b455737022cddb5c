import DigestGate.Text.Split
import Mathlib.Data.List.TakeWhile

namespace DigestGate.Text

variable {sep blank c : Char} {cs before : List Char} {texts : List (List Char)}

theorem pieces_cons_self (sep : Char) (cs : List Char) :
    pieces sep (sep :: cs) = [] :: pieces sep cs := by
  rw [pieces, if_pos rfl]

theorem pieces_cons {piece : List Char} {rest : List (List Char)} (hc : c ≠ sep)
    (h : pieces sep cs = piece :: rest) : pieces sep (c :: cs) = (c :: piece) :: rest := by
  rw [pieces, if_neg hc, h]

theorem pieces_of_not_mem (h : sep ∉ cs) : pieces sep cs = [cs] := by
  induction cs with
  | nil => rfl
  | cons c cs ih =>
    obtain ⟨hc, hcs⟩ := not_or.1 (mt List.mem_cons.2 h)
    exact pieces_cons (Ne.symm hc) (ih hcs)

theorem not_mem_of_mem_pieces {piece : List Char} (h : piece ∈ pieces sep cs) : sep ∉ piece := by
  induction cs generalizing piece with
  | nil =>
    rw [List.mem_singleton.1 h]
    exact List.not_mem_nil
  | cons c cs ih =>
    by_cases hc : c = sep
    · rw [hc, pieces_cons_self] at h
      rcases List.mem_cons.1 h with rfl | h
      · exact List.not_mem_nil
      · exact ih h
    · obtain ⟨first, rest, hpieces⟩ := List.exists_cons_of_ne_nil (pieces_ne_nil sep cs)
      rw [hpieces] at ih
      rw [pieces_cons hc hpieces] at h
      rcases List.mem_cons.1 h with rfl | h
      · exact List.not_mem_cons_of_ne_of_not_mem (Ne.symm hc) (ih List.mem_cons_self)
      · exact ih (List.mem_cons_of_mem first h)

theorem pieces_append_cons (sep : Char) (cs rest : List Char) :
    pieces sep (cs ++ sep :: rest) = pieces sep cs ++ pieces sep rest := by
  induction cs with
  | nil => exact pieces_cons_self sep rest
  | cons c cs ih =>
    by_cases hc : c = sep
    · rw [hc, List.cons_append, pieces_cons_self, ih, pieces_cons_self, List.cons_append]
    · obtain ⟨piece, later, hpieces⟩ := List.exists_cons_of_ne_nil (pieces_ne_nil sep cs)
      rw [hpieces, List.cons_append] at ih
      rw [List.cons_append, pieces_cons hc ih, pieces_cons hc hpieces, List.cons_append]

theorem pieces_append (h : sep ∉ cs) (rest : List Char) :
    pieces sep (cs ++ sep :: rest) = cs :: pieces sep rest := by
  rw [pieces_append_cons, pieces_of_not_mem h, List.singleton_append]

theorem pieces_intercalate (hblank : blank ≠ sep) (h : ∀ text ∈ texts, sep ∉ text)
    (hne : texts ≠ []) :
    pieces sep (blank :: [sep, blank].intercalate texts) = texts.map (blank :: ·) := by
  have hmem (text : List Char) (htext : sep ∉ text) : sep ∉ blank :: text := by
    rw [List.mem_cons, not_or]
    exact ⟨Ne.symm hblank, htext⟩
  induction texts with
  | nil => exact absurd rfl hne
  | cons text rest ih =>
    obtain ⟨htext, hrest⟩ := List.forall_mem_cons.1 h
    cases rest with
    | nil =>
      rw [List.intercalate_singleton]
      exact pieces_of_not_mem (hmem text htext)
    | cons next rest =>
      have hlater := ih hrest (List.cons_ne_nil next rest)
      have hsplit : blank :: [sep, blank].intercalate (text :: next :: rest) =
          (blank :: text) ++ sep :: blank :: [sep, blank].intercalate (next :: rest) := by
        rw [List.intercalate_cons_cons, List.append_assoc]
        rfl
      rw [hsplit, pieces_append (hmem text htext), hlater]
      rfl

theorem cut_append (h : sep ∉ before) (after : List Char) :
    cut sep (before ++ sep :: after) = some (before, after) := by
  induction before with
  | nil => rw [List.nil_append, cut, if_pos rfl]
  | cons c cs ih =>
    obtain ⟨hc, hcs⟩ := not_or.1 (mt List.mem_cons.2 h)
    rw [List.cons_append, cut, if_neg (Ne.symm hc), ih hcs]
    rfl

theorem eq_append_of_mem (h : sep ∈ cs) :
    cs = cs.takeWhile (· != sep) ++ sep :: (cs.dropWhile (· != sep)).tail := by
  induction cs with
  | nil => exact absurd h List.not_mem_nil
  | cons c cs ih =>
    by_cases hc : c = sep
    · simp [hc]
    · have hcs := ih ((List.mem_cons.1 h).resolve_left (Ne.symm hc))
      simpa [List.takeWhile_cons, List.dropWhile_cons, hc] using hcs

theorem not_mem_takeWhile (sep : Char) (cs : List Char) : sep ∉ cs.takeWhile (· != sep) :=
  fun h => by simpa using List.mem_takeWhile_imp h

theorem cut_of_mem (h : sep ∈ cs) :
    cut sep cs = some (cs.takeWhile (· != sep), (cs.dropWhile (· != sep)).tail) := by
  have hcut := cut_append (not_mem_takeWhile sep cs) (cs.dropWhile (· != sep)).tail
  rwa [← eq_append_of_mem h] at hcut

theorem bne_of_not_mem (h : sep ∉ cs) : ∀ c ∈ cs, (c != sep) = true := by
  intro c hc
  rw [bne_iff_ne]
  rintro rfl
  exact h hc

theorem takeWhile_append_cons (sep : Char) (cs rest : List Char) :
    (cs ++ sep :: rest).takeWhile (· != sep) = cs.takeWhile (· != sep) := by
  rw [List.takeWhile_append, List.takeWhile_cons_of_neg (by simp), List.append_nil]
  split
  · next hlength => exact ((List.takeWhile_prefix _).eq_of_length hlength).symm
  · rfl

end DigestGate.Text
