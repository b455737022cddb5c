import DigestGate.Metrics.Registry
import DigestGate.Proofs.Field.Order
import Mathlib.Algebra.BigOperators.Group.List.Lemmas
import Mathlib.Algebra.GroupWithZero.Nat
import Mathlib.Algebra.Order.BigOperators.Group.List
import Mathlib.Algebra.Ring.Int.Defs

namespace DigestGate

section Counts

variable {α β : Type}

theorem sum_count_eraseDups [BEq α] [LawfulBEq α] (p : α → Bool) (as : List α) :
    ((as.eraseDups.filter p).map as.count).sum = as.countP p := by
  classical
  have hperm : as.eraseDups.Perm as.dedup :=
    (List.perm_ext_iff_of_nodup (nodup_eraseDups as) as.nodup_dedup).2 fun a => by
      rw [List.mem_eraseDups, List.mem_dedup]
  have hcount (a : α) : as.count a = as.countP fun b => decide (b = a) :=
    List.countP_congr fun b _ => by rw [beq_iff_eq, decide_eq_true_iff]
  rw [← List.sum_map_count_dedup_filter_eq_countP p as, ((hperm.filter p).map as.count).sum_eq]
  refine congrArg List.sum (List.map_congr_left fun a _ => (hcount a).trans ?_)
  exact List.countP_congr fun b _ => by simp

theorem sum_map_toNat (p : α → Bool) (as : List α) :
    (as.map fun a => (p a).toNat).sum = as.countP p := by
  induction as with
  | nil => rfl
  | cons a as ih =>
    rw [List.map_cons, List.sum_cons, ih, List.countP_cons, Nat.add_comm]
    cases p a <;> rfl

theorem sum_countP_comm (p : α → β → Bool) (as : List α) (bs : List β) :
    (as.map fun a => bs.countP (p a)).sum = (bs.map fun b => as.countP fun a => p a b).sum := by
  induction bs with
  | nil => simp
  | cons b bs ih =>
    have hcount (a : α) : (b :: bs).countP (p a) = (p a b).toNat + bs.countP (p a) := by
      rw [List.countP_cons, Nat.add_comm]
      cases p a b <;> rfl
    simp only [hcount, List.map_cons, List.sum_cons, List.sum_map_add, ih]
    rw [sum_map_toNat]

end Counts

namespace Metrics

structure Counter where
  name : String
  labels : List (String × String)
  count : Nat

namespace Counter

def sample (c : Counter) : Sample :=
  ⟨c.name, c.labels, .ofInt c.count⟩

def fits (name : String) (wanted : List (String × String)) (c : Counter) : Bool :=
  c.name = name && wanted.all c.labels.contains

end Counter

def countersOf (m : Metrics) (f : Family) : List Counter :=
  let labels := m.observations.filterMap f.labelled
  labels.eraseDups.map fun l => ⟨f.name, l, labels.count l⟩

def counters (m : Metrics) : List Counter :=
  families.flatMap m.countersOf

/-- The sum of the counters with the given name and labels. -/
def total (m : Metrics) (name : String) (wanted : List (String × String)) : Nat :=
  ((m.counters.filter (Counter.fits name wanted)).map Counter.count).sum

end Metrics

def Metrics.Family.feeds (name : String) (wanted : List (String × String)) (o : Observation)
    (f : Metrics.Family) : Bool :=
  (f.labelled o).any fun l => Metrics.Counter.fits name wanted ⟨f.name, l, 0⟩

def Observation.adds (name : String) (wanted : List (String × String)) (o : Observation) : Nat :=
  Metrics.families.countP (Metrics.Family.feeds name wanted o)

namespace Metrics

variable {m m' : Metrics} {name : String} {wanted : List (String × String)}

theorem samples_eq (m : Metrics) :
    m.samples = m.counters.map Counter.sample ++ m.histogramSamples := by
  have hfamily : m.counterSamples = fun f => (m.countersOf f).map Counter.sample := by
    funext f
    rw [countersOf, List.map_map]
    rfl
  rw [samples, counters, List.map_flatMap, hfamily]

theorem sum_countersOf (m : Metrics) (f : Family) (name : String)
    (wanted : List (String × String)) :
    (((m.countersOf f).filter (Counter.fits name wanted)).map Counter.count).sum =
      m.observations.countP fun o => f.feeds name wanted o := by
  let labels := m.observations.filterMap f.labelled
  have hsum := sum_count_eraseDups (fun l => Counter.fits name wanted ⟨f.name, l, 0⟩) labels
  rw [List.countP_filterMap] at hsum
  rw [countersOf, List.filter_map, List.map_map]
  refine hsum.trans (List.countP_congr fun o _ => ?_)
  rw [Family.feeds]
  cases f.labelled o <;> exact Iff.rfl

theorem total_eq (m : Metrics) (name : String) (wanted : List (String × String)) :
    m.total name wanted = (m.observations.map (Observation.adds name wanted)).sum := by
  have hfamilies (fs : List Family) :
      (((fs.flatMap m.countersOf).filter (Counter.fits name wanted)).map Counter.count).sum =
        (fs.map fun f => m.observations.countP fun o => f.feeds name wanted o).sum := by
    induction fs with
    | nil => rfl
    | cons f fs ih =>
      rw [List.flatMap_cons, List.filter_append, List.map_append, List.sum_append, ih,
        sum_countersOf, List.map_cons, List.sum_cons]
  rw [total, counters, hfamilies, sum_countP_comm]
  rfl

theorem total_cons (o : Observation) (os : List Observation) (name : String)
    (wanted : List (String × String)) :
    total { observations := o :: os } name wanted =
      o.adds name wanted + total { observations := os } name wanted := by
  rw [total_eq, total_eq, List.map_cons, List.sum_cons]

theorem total_append (os os' : List Observation) (name : String)
    (wanted : List (String × String)) :
    total { observations := os ++ os' } name wanted =
      total { observations := os } name wanted + total { observations := os' } name wanted := by
  rw [total_eq, total_eq, total_eq, List.map_append, List.sum_append]

section Order

variable (h : m.observations.Perm m'.observations)
include h

theorem countersOf_perm (f : Family) : (m.countersOf f).Perm (m'.countersOf f) := by
  have hlabels := h.filterMap f.labelled
  have hnames : (m.observations.filterMap f.labelled).eraseDups.Perm
      (m'.observations.filterMap f.labelled).eraseDups :=
    (List.perm_ext_iff_of_nodup (nodup_eraseDups _) (nodup_eraseDups _)).2 fun l => by
      rw [List.mem_eraseDups, List.mem_eraseDups, hlabels.mem_iff]
  rw [countersOf, countersOf]
  simp only [hlabels.count_eq]
  exact hnames.map _

theorem counters_perm : m.counters.Perm m'.counters :=
  List.Perm.flatMap_left _ fun f _ => countersOf_perm h f

theorem sizes_perm : m.sizes.Perm m'.sizes :=
  h.filterMap _

end Order

def sizeCounts (sizes : List Int) : List Sample :=
  bounds.map (fun b => ⟨histogramName ++ "_bucket", [("le", (Floating.ofInt b).written)],
      .ofInt (sizes.countP (· ≤ b))⟩)
    ++ [⟨histogramName ++ "_bucket", [("le", "+Inf")], .ofInt sizes.length⟩,
      ⟨histogramName ++ "_count", [], .ofInt sizes.length⟩]

def sumSample (m : Metrics) : Sample :=
  ⟨histogramName ++ "_sum", [], m.sizeSum⟩

theorem histogramSamples_eq (m : Metrics) :
    m.histogramSamples = sizeCounts m.sizes ++ [m.sumSample] := by
  rw [sizeCounts, List.append_assoc]
  rfl

theorem sizeCounts_perm {sizes sizes' : List Int} (h : sizes.Perm sizes') :
    sizeCounts sizes = sizeCounts sizes' := by
  simp only [sizeCounts, h.countP_eq, h.length_eq]

/-- The exponent is a variable, since its power is too large to evaluate. -/
theorem Floating.ofInt_of_lt {n : Int}
    (h : ∀ e, e = 1024 → (toFloating n).natAbs < Nat.pow 2 e) :
    ofInt n = .finite (toFloating n) :=
  if_pos (h _ rfl)

theorem Floating.ofInt_of_le {n : Int} (h : (toFloating n).natAbs ≤ Nat.pow 2 precision) :
    ofInt n = .finite (toFloating n) := by
  refine ofInt_of_lt fun e he => ?_
  have hprecision : precision < e := by
    rw [he]
    decide
  exact Nat.lt_of_le_of_lt h (Nat.pow_lt_pow_right Nat.one_lt_two hprecision)

theorem Floating.ofInt_eq {n : Int} (hn : 0 ≤ n) (hle : n ≤ Nat.pow 2 precision) :
    ofInt n = .finite n := by
  obtain ⟨k, rfl⟩ := Int.eq_ofNat_of_zero_le hn
  have hk : k ≤ Nat.pow 2 precision := Int.ofNat_le.1 hle
  have hround : toFloating (k : Int) = k := by
    show ((roundTo (spacing k) k : Nat) : Int) = k
    rcases Nat.lt_or_eq_of_le hk with hlt | rfl
    · have hspacing : spacing k = 1 := by
        have hlog : k.log2 + 1 - precision = 0 := by
          rcases Nat.eq_zero_or_pos k with rfl | hpos
          · rfl
          · have hlog : k.log2 < precision := (Nat.log2_lt (Nat.ne_of_gt hpos)).2 hlt
            rw [precision] at hlog ⊢
            omega
        rw [spacing, hlog]
      rw [hspacing, roundTo, Nat.mod_one, Nat.div_one, if_pos (by decide), Nat.mul_one]
    · decide
  have hfinite : (toFloating k).natAbs ≤ Nat.pow 2 precision := by rwa [hround]
  rw [ofInt_of_le hfinite, hround]

/-- The sum of the sizes is exact as long as it is representable. -/
theorem sizeSum_eq (hsizes : ∀ n ∈ m.sizes, 0 ≤ n) (hsum : m.sizes.sum ≤ Nat.pow 2 precision) :
    m.sizeSum = .finite m.sizes.sum := by
  have hfold (sizes : List Int) (held : Int) (hheld : 0 ≤ held) (hsizes : ∀ n ∈ sizes, 0 ≤ n)
      (hsum : held + sizes.sum ≤ Nat.pow 2 precision) :
      sizes.foldl (fun sum size => sum.add (.ofInt size)) (Floating.finite held) =
        .finite (held + sizes.sum) := by
    induction sizes generalizing held with
    | nil => rw [List.foldl_nil, List.sum_nil, Int.add_zero]
    | cons n sizes ih =>
      obtain ⟨hn, hrest⟩ := List.forall_mem_cons.1 hsizes
      have hpos : 0 ≤ sizes.sum := List.sum_nonneg hrest
      rw [List.sum_cons] at hsum
      have hadd : (Floating.finite held).add (.ofInt n) = .finite (held + n) := by
        rw [Floating.ofInt_eq hn (by omega)]
        exact Floating.ofInt_eq (by omega) (by omega)
      rw [List.foldl_cons, hadd, ih (held + n) (by omega) hrest (by omega), List.sum_cons,
        Int.add_assoc]
  have hall := hfold m.sizes 0 (Int.le_refl 0) hsizes (by rwa [Int.zero_add])
  rwa [Int.zero_add] at hall

/-- The samples do not depend on the order of the observations while the sum is exact. -/
theorem samples_perm {m m' : Metrics} (h : m.observations.Perm m'.observations)
    (hsizes : ∀ n ∈ m.sizes, 0 ≤ n) :
    m.samples.dropLast.Perm m'.samples.dropLast ∧ m.samples.getLast? = some m.sumSample ∧
      (m.sizes.sum ≤ Nat.pow 2 precision → m.samples.Perm m'.samples) := by
  have hsplit (m : Metrics) : m.samples =
      m.counters.map Counter.sample ++ sizeCounts m.sizes ++ [m.sumSample] := by
    rw [samples_eq, histogramSamples_eq, List.append_assoc]
  have hcounts : (m.counters.map Counter.sample ++ sizeCounts m.sizes).Perm
      (m'.counters.map Counter.sample ++ sizeCounts m'.sizes) := by
    rw [sizeCounts_perm (sizes_perm h)]
    exact ((counters_perm h).map _).append_right _
  rw [hsplit m, hsplit m', List.dropLast_concat, List.dropLast_concat]
  refine ⟨hcounts, List.getLast?_concat, fun hsum => ?_⟩
  have hperm := sizes_perm h
  have hsum' : m'.sizes.sum ≤ Nat.pow 2 precision := by rwa [← hperm.sum_eq]
  have hsame : m.sumSample = m'.sumSample := by
    rw [sumSample, sumSample, sizeSum_eq hsizes hsum,
      sizeSum_eq (fun n hn => hsizes n (hperm.mem_iff.2 hn)) hsum', hperm.sum_eq]
  rw [hsame]
  exact hcounts.append_right _

end Metrics

end DigestGate
