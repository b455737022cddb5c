import DigestGate.Field.DigestMap
import DigestGate.Proofs.Field.Order

namespace DigestGate.DigestMap

variable {a b : Algorithm} {digest x y : Bytes} {d e : DigestMap}

def algorithms (d : DigestMap) : List Algorithm :=
  d.map Prod.fst

theorem mem_algorithms : a ∈ d.algorithms ↔ ∃ digest, (a, digest) ∈ d := by
  rw [algorithms, List.mem_map]
  constructor
  · rintro ⟨⟨b, digest⟩, hmem, rfl⟩
    exact ⟨digest, hmem⟩
  · rintro ⟨digest, hmem⟩
    exact ⟨(a, digest), hmem, rfl⟩

theorem insert_of_not_mem (h : a ∉ d.algorithms) :
    insert a digest d = d ++ [(a, digest)] := by
  induction d with
  | nil => rfl
  | cons entry rest ih =>
    obtain ⟨b, x⟩ := entry
    obtain ⟨hb, hrest⟩ := not_or.1 (mt List.mem_cons.2 h)
    rw [insert, if_neg hb, ih hrest, List.cons_append]

theorem algorithms_insert_of_mem (h : a ∈ d.algorithms) :
    (insert a digest d).algorithms = d.algorithms := by
  induction d with
  | nil => exact absurd h List.not_mem_nil
  | cons entry rest ih =>
    obtain ⟨b, x⟩ := entry
    rw [insert]
    split
    · rfl
    · next hb => exact congrArg (b :: ·) (ih ((List.mem_cons.1 h).resolve_left hb))

theorem algorithms_insert (a : Algorithm) (digest : Bytes) (hd : d.algorithms.Nodup) :
    (insert a digest d).algorithms = (d.algorithms ++ [a]).eraseDups := by
  by_cases ha : a ∈ d.algorithms
  · rw [algorithms_insert_of_mem ha, eraseDups_concat_of_mem ha, eraseDups_of_nodup hd]
  · rw [insert_of_not_mem ha, eraseDups_concat_of_not_mem ha, eraseDups_of_nodup hd, algorithms,
      List.map_append]
    rfl

theorem of_mem_insert (hd : d.algorithms.Nodup) (h : (b, x) ∈ insert a digest d) :
    b = a ∧ x = digest ∨ b ≠ a ∧ (b, x) ∈ d := by
  induction d with
  | nil =>
    cases List.mem_singleton.1 h
    exact .inl ⟨rfl, rfl⟩
  | cons entry rest ih =>
    obtain ⟨c, y⟩ := entry
    obtain ⟨hc, hrest⟩ := List.nodup_cons.1 hd
    rw [insert] at h
    split at h
    · next hac =>
      rcases List.mem_cons.1 h with heq | hmem
      · cases heq
        exact .inl ⟨hac.symm, rfl⟩
      · refine .inr ⟨?_, List.mem_cons_of_mem _ hmem⟩
        rintro rfl
        exact hc (mem_algorithms.2 ⟨x, hac ▸ hmem⟩)
    · next hac =>
      rcases List.mem_cons.1 h with heq | hmem
      · cases heq
        exact .inr ⟨Ne.symm hac, List.mem_cons_self⟩
      · rcases ih hrest hmem with hset | ⟨hb, hmem⟩
        · exact .inl hset
        · exact .inr ⟨hb, List.mem_cons_of_mem _ hmem⟩

theorem lookup_eq_some_iff (hd : d.algorithms.Nodup) : d.lookup a = some x ↔ (a, x) ∈ d := by
  induction d with
  | nil => simp
  | cons entry rest ih =>
    obtain ⟨c, y⟩ := entry
    obtain ⟨hc, hrest⟩ := List.nodup_cons.1 hd
    by_cases hac : a = c
    · subst hac
      rw [List.lookup_cons_self, List.mem_cons]
      constructor
      · intro h
        cases h
        exact .inl rfl
      · rintro (h | h)
        · cases h
          rfl
        · exact absurd (mem_algorithms.2 ⟨x, h⟩) hc
    · have hne : (a, x) ≠ (c, y) := fun h => hac (congrArg Prod.fst h)
      rw [List.lookup_cons, beq_false_of_ne hac, List.mem_cons, or_iff_right hne]
      exact ih hrest

theorem lookup_eq_none_iff (hd : d.algorithms.Nodup) : d.lookup a = none ↔ a ∉ d.algorithms := by
  rw [Option.eq_none_iff_forall_ne_some, mem_algorithms, not_exists]
  exact forall_congr' fun x => not_congr (lookup_eq_some_iff hd)

theorem eq_of_mem (hd : d.algorithms.Nodup) (hx : (a, x) ∈ d) (hy : (a, y) ∈ d) : x = y :=
  Option.some.inj (((lookup_eq_some_iff hd).2 hx).symm.trans ((lookup_eq_some_iff hd).2 hy))

theorem ext (horder : d.algorithms = e.algorithms) (hd : d.algorithms.Nodup)
    (h : ∀ a x, (a, x) ∈ d → (a, x) ∈ e) : d = e := by
  induction d generalizing e with
  | nil => exact (List.map_eq_nil_iff.1 horder.symm).symm
  | cons entry rest ih =>
    obtain ⟨a, x⟩ := entry
    cases e with
    | nil => cases horder
    | cons entry' rest' =>
      obtain ⟨b, y⟩ := entry'
      obtain ⟨hab, hrest⟩ := List.cons.inj horder
      have hab : a = b := hab
      subst hab
      have he : DigestMap.algorithms ((a, y) :: rest') |>.Nodup := horder ▸ hd
      have hxy : x = y := eq_of_mem he (h a x List.mem_cons_self) List.mem_cons_self
      subst hxy
      obtain ⟨ha, hnodup⟩ := List.nodup_cons.1 hd
      refine congrArg _ (ih hrest hnodup fun b z hz => ?_)
      rcases List.mem_cons.1 (h b z (List.mem_cons_of_mem _ hz)) with heq | hmem
      · cases heq
        exact absurd (mem_algorithms.2 ⟨x, hz⟩) ha
      · exact hmem

theorem insert_of_mem (hd : d.algorithms.Nodup) (h : (a, digest) ∈ d) : insert a digest d = d := by
  have hsame := @algorithms_insert_of_mem a digest d (mem_algorithms.2 ⟨digest, h⟩)
  refine ext hsame (hsame ▸ hd) fun b x hmem => ?_
  rcases of_mem_insert hd hmem with ⟨rfl, rfl⟩ | ⟨_, hmem⟩
  · exact h
  · exact hmem

theorem ofList_concat (entries : List (Algorithm × Bytes)) (a : Algorithm) (digest : Bytes) :
    ofList (entries ++ [(a, digest)]) = (ofList entries).insert a digest := by
  rw [ofList, List.foldl_append]
  rfl

theorem ofList_of_nodup (h : d.algorithms.Nodup) : ofList d = d := by
  induction d using List.reverseRecOn with
  | nil => rfl
  | append_singleton rest entry ih =>
    obtain ⟨a, x⟩ := entry
    rw [algorithms, List.map_append] at h
    obtain ⟨hrest, _, hapart⟩ := List.nodup_append.1 h
    have ha : a ∉ algorithms rest := fun hmem => hapart a hmem a List.mem_cons_self rfl
    rw [ofList_concat, ih hrest, insert_of_not_mem ha]

def tabulate (digest : Algorithm → Bytes) (algorithms : List Algorithm) : DigestMap :=
  algorithms.map fun a => (a, digest a)

theorem algorithms_tabulate (digest : Algorithm → Bytes) (as : List Algorithm) :
    (tabulate digest as).algorithms = as := by
  rw [algorithms, tabulate, List.map_map]
  exact List.map_id as

theorem nodup_tabulate_eraseDups (digest : Algorithm → Bytes) (as : List Algorithm) :
    (tabulate digest as.eraseDups).algorithms.Nodup := by
  rw [algorithms_tabulate]
  exact nodup_eraseDups as

theorem tabulate_concat (digest : Algorithm → Bytes) (as : List Algorithm) (a : Algorithm) :
    tabulate digest (as ++ [a]) = tabulate digest as ++ [(a, digest a)] :=
  List.map_append

theorem ofList_tabulate (digest : Algorithm → Bytes) (as : List Algorithm) :
    ofList (tabulate digest as) = tabulate digest as.eraseDups := by
  induction as using List.reverseRecOn with
  | nil => rfl
  | append_singleton as a ih =>
    rw [tabulate_concat, ofList_concat, ih]
    by_cases ha : a ∈ as
    · have hmem : (a, digest a) ∈ tabulate digest as.eraseDups :=
        List.mem_map_of_mem (List.mem_eraseDups.2 ha)
      rw [eraseDups_concat_of_mem ha, insert_of_mem (nodup_tabulate_eraseDups digest as) hmem]
    · have hnot : a ∉ (tabulate digest as.eraseDups).algorithms := by
        rw [algorithms_tabulate]
        exact mt List.mem_eraseDups.1 ha
      rw [eraseDups_concat_of_not_mem ha, insert_of_not_mem hnot, tabulate_concat]

/-- The later map takes precedence, in the order of the earlier one followed by new entries. -/
def update (earlier later : DigestMap) : DigestMap :=
  earlier.map (fun entry => (entry.1, (later.lookup entry.1).getD entry.2)) ++
    later.filter fun entry => entry.1 ∉ earlier.algorithms

theorem algorithms_update (earlier later : DigestMap) :
    (earlier.update later).algorithms =
      earlier.algorithms ++ later.algorithms.filter (· ∉ earlier.algorithms) := by
  have hlater : (later.filter fun entry => entry.1 ∉ earlier.algorithms).map Prod.fst =
      later.algorithms.filter (· ∉ earlier.algorithms) := by
    rw [algorithms.eq_def later, List.filter_map]
    rfl
  rw [algorithms, update, List.map_append, hlater, List.map_map]
  rfl

theorem of_mem_update (he : e.algorithms.Nodup) (h : (a, x) ∈ d.update e) :
    (a, x) ∈ e ∨ a ∉ e.algorithms ∧ (a, x) ∈ d := by
  rw [update, List.mem_append] at h
  rcases h with h | h
  · obtain ⟨⟨b, y⟩, hmem, heq⟩ := List.mem_map.1 h
    simp only [Prod.mk.injEq] at heq
    obtain ⟨rfl, rfl⟩ := heq
    cases hlookup : e.lookup b with
    | none => exact .inr ⟨(lookup_eq_none_iff he).1 hlookup, hmem⟩
    | some z => exact .inl ((lookup_eq_some_iff he).1 hlookup)
  · exact .inl (List.mem_filter.1 h).1

end DigestGate.DigestMap
