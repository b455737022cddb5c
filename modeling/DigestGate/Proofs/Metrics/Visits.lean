import DigestGate.Proofs.Metrics.Accounting

namespace DigestGate

/-- A request to a gate, with the environment at that moment. -/
structure Visit where
  gate : Gate
  defaults : Defaults
  env : Environment
  scope : Scope
  coming : List Receipt

namespace Visit

def passage (v : Visit) : Passage :=
  v.gate.pass v.defaults v.env v.scope (.ofClient v.coming)

def exit (v : Visit) : Exit :=
  v.passage.verdict.exit

def arrival (v : Visit) : Arrival :=
  .ofReceipts v.coming

/-- The settings and the head of a request in scope that has an integrity field. -/
def asked? (v : Visit) : Option (Settings × Head) :=
  match Settings.load v.defaults v.env, v.scope.head with
  | .ok loaded, .ok head =>
    let settings := v.gate.apply loaded
    if head.verb ∈ settings.methods ∧ head.lines.hasIntegrity then some (settings, head) else none
  | _, _ => none

def kept? (v : Visit) : Option (Bytes × Check) :=
  v.asked?.bind fun (settings, head) => v.arrival.kept settings.maximum head.lines

/-- The settings load with valid limits. -/
def Configured (v : Visit) : Prop :=
  ∃ loaded, Settings.load v.defaults v.env = .ok loaded ∧ 0 ≤ (v.gate.apply loaded).maximum ∧
    0 < (v.gate.apply loaded).chunk

variable {v : Visit}

theorem asked?_of_load {loaded : Settings} {head : Head}
    (hload : Settings.load v.defaults v.env = .ok loaded) (hhead : v.scope.head = .ok head)
    (hasks : head.verb ∈ (v.gate.apply loaded).methods ∧ head.lines.hasIntegrity) :
    v.asked? = some (v.gate.apply loaded, head) := by
  rw [asked?, hload, hhead]
  exact if_pos hasks

open Gate in
theorem recorded (h : v.Configured) :
    Recorded v.asked?.isSome v.kept? v.exit v.passage.observations ∧
      (∀ settings head, v.asked? = some (settings, head) →
        (v.exit = .raised ↔ v.arrival.total ≤ settings.maximum ∧
          ∃ e, v.arrival.broken = some e ∧ e.escapes)) ∧
      ∀ body check, v.kept? = some (body, check) →
        ∃ mode limits left, Checked mode limits body check left v.passage.verdict := by
  obtain ⟨loaded, hload, hmaximum, hchunk⟩ := h
  have hpassage : v.passage = _ := pass_of_load hload v.scope (.ofClient v.coming)
  rw [exit, hpassage, kept?, asked?, hload]
  cases v.scope.head with
  | error e =>
    refine ⟨.raised false, fun settings head hasked => ?_, fun body check hkept => ?_⟩
    · cases hasked
    · cases hkept
  | ok head =>
    simp only [passUnder]
    by_cases hasks : head.verb ∈ (v.gate.apply loaded).methods ∧ head.lines.hasIntegrity
    · obtain ⟨hrecorded, hraised, hchecked⟩ :=
        (examination (Limits.make_of_pos hmaximum hchunk) head v.coming).recorded
      simp only [Int.toNat_of_nonneg hmaximum] at hrecorded hchecked
      rw [if_neg (not_not_intro hasks.1), if_pos hasks.2, if_pos hasks]
      refine ⟨hrecorded, fun settings head hasked => ?_, fun body check hkept => ?_⟩
      · cases hasked
        exact hraised.trans (and_congr_left' (Int.le_toNat hmaximum))
      · exact ⟨_, _, hchecked body check hkept⟩
    · rw [if_neg hasks]
      refine ⟨?_, fun settings head hasked => ?_, fun body check hkept => ?_⟩
      · by_cases hverb : head.verb ∈ (v.gate.apply loaded).methods
        · rw [if_neg (not_not_intro hverb), if_neg fun h => hasks ⟨hverb, h⟩]
          by_cases hmode : (v.gate.apply loaded).mode = .require
          · rw [if_pos hmode, exit_digestRequired]
            exact .required
          · rw [if_neg hmode]
            exact .undeclared
        · rw [if_pos hverb]
          exact .unexamined
      · cases hasked
      · cases hkept

end Visit

namespace Metrics

/-- The registry after the visits, if it was empty before. -/
def ofVisits (visits : List Visit) : Metrics :=
  visits.foldl (fun m v => m.add v.passage.observations) {}

theorem observations_ofVisits (visits : List Visit) :
    (ofVisits visits).observations = visits.flatMap fun v => v.passage.observations := by
  have hfold (m : Metrics) :
      (visits.foldl (fun m v => m.add v.passage.observations) m).observations =
        m.observations ++ visits.flatMap fun v => v.passage.observations := by
    induction visits generalizing m with
    | nil => exact (List.append_nil _).symm
    | cons v visits ih =>
      rw [List.foldl_cons, ih, add, List.flatMap_cons, List.append_assoc]
  exact hfold {}

theorem total_ofVisits (visits : List Visit) (name : String) (wanted : List (String × String)) :
    (ofVisits visits).total name wanted =
      (visits.map fun v => total { observations := v.passage.observations } name wanted).sum := by
  rw [total_eq, observations_ofVisits]
  induction visits with
  | nil => rfl
  | cons v visits ih =>
    rw [List.flatMap_cons, List.map_append, List.sum_append, ih, List.map_cons, List.sum_cons,
      total_eq]

theorem total_ofVisits_eq_countP {visits : List Visit} {name : String}
    {wanted : List (String × String)} {p : Visit → Bool}
    (h : ∀ v ∈ visits,
      total { observations := v.passage.observations } name wanted = (p v).toNat) :
    (ofVisits visits).total name wanted = visits.countP p := by
  rw [total_ofVisits, ← sum_map_toNat]
  exact congrArg List.sum (List.map_congr_left h)

theorem sizes_ofVisits {visits : List Visit} (h : ∀ v ∈ visits, v.Configured) :
    (ofVisits visits).sizes =
      visits.filterMap fun v => v.kept?.map fun k => (k.1.length : Int) := by
  rw [sizes, observations_ofVisits, List.filterMap_flatMap, List.filterMap_eq_flatMap_toList]
  exact congrArg List.flatten (List.map_congr_left fun v hv => (Visit.recorded (h v hv)).1.sizes_eq)

/-- The counters of a registry, in terms of the visits. -/
structure Accounts (m : Metrics) (visits : List Visit) : Prop where
  samples : m.samples = m.counters.map Counter.sample ++ m.histogramSamples
  attempts : m.total "bodyseal_body_buffer_total" [] =
    visits.countP fun v => v.asked?.isSome ∧ v.exit ≠ .raised
  tooLarge : m.total "bodyseal_body_buffer_total" [("result", "too_large")] =
    visits.countP fun v => v.exit = .tooLarge
  unreadable : m.total "bodyseal_body_buffer_total" [("result", "read_error")] =
    visits.countP fun v => v.exit = .unreadable
  buffered : m.total "bodyseal_body_buffer_total" [("result", "buffered")] =
    visits.countP fun v => v.kept?.isSome
  histogram : ⟨"bodyseal_body_bytes_count", [],
    .ofInt (m.total "bodyseal_body_buffer_total" [("result", "buffered")])⟩ ∈ m.histogramSamples
  checks : m.total "bodyseal_digest_checks_total" [] =
    m.total "bodyseal_body_buffer_total" [("result", "buffered")] +
      visits.countP fun v => v.exit = .required
  verified : m.total "bodyseal_digest_checks_total" [("result", "verified")] =
    visits.countP fun v => v.kept?.any fun k => k.2.verified
  computed : ∀ a : Algorithm, m.total "bodyseal_digests_computed_total" [("alg", a.name)] =
    visits.countP fun v => v.kept?.any fun k => k.1 ≠ [] ∧ a ∈ k.2.algorithms

theorem accounts_of_configured {visits : List Visit} (h : ∀ v ∈ visits, v.Configured) :
    (ofVisits visits).Accounts visits := by
  have hrecorded (v : Visit) (hv : v ∈ visits) := (Visit.recorded (h v hv)).1
  have hbuffered : (ofVisits visits).total "bodyseal_body_buffer_total" [("result", "buffered")] =
      visits.countP fun v => v.kept?.isSome := by
    refine total_ofVisits_eq_countP fun v hv => ?_
    obtain ⟨-, -, -, htotal⟩ := (hrecorded v hv).total_buffering
    exact htotal
  have hsizes : (ofVisits visits).sizes.length = visits.countP fun v => v.kept?.isSome := by
    rw [sizes_ofVisits h, List.length_filterMap_eq_countP]
    exact List.countP_congr fun v _ => by rw [Option.isSome_map]
  constructor
  · exact samples_eq _
  · refine total_ofVisits_eq_countP fun v hv => ?_
    obtain ⟨htotal, -⟩ := (hrecorded v hv).total_buffering
    exact htotal
  · refine total_ofVisits_eq_countP fun v hv => ?_
    obtain ⟨-, htotal, -⟩ := (hrecorded v hv).total_buffering
    exact htotal
  · refine total_ofVisits_eq_countP fun v hv => ?_
    obtain ⟨-, -, htotal, -⟩ := (hrecorded v hv).total_buffering
    exact htotal
  · exact hbuffered
  · rw [hbuffered, ← hsizes]
    exact List.mem_append_right _ (.tail _ (.head _))
  · rw [hbuffered, total_ofVisits, ← sum_map_toNat, ← sum_map_toNat, ← List.sum_map_add]
    exact congrArg List.sum (List.map_congr_left fun v hv => (hrecorded v hv).total_checks)
  · exact total_ofVisits_eq_countP fun v hv => (hrecorded v hv).total_verified
  · exact fun a => total_ofVisits_eq_countP fun v hv => (hrecorded v hv).total_computed a

/-- The counters agree with the visits that raised no failure, in any order. -/
theorem ofVisits_accounts (visits : List Visit) (h : ∀ v ∈ visits, v.Configured) :
    let m := ofVisits visits
    m.Accounts visits ∧
      (∀ v ∈ visits,
        (∀ settings head, v.asked? = some (settings, head) →
          (v.exit = .raised ↔ v.arrival.total ≤ settings.maximum ∧
            ∃ e, v.arrival.broken = some e ∧ e.escapes)) ∧
        ∀ body check, v.kept? = some (body, check) →
          ∃ mode limits left, Gate.Checked mode limits body check left v.passage.verdict) ∧
      ∀ visits', visits.Perm visits' →
        let m' := ofVisits visits'
        m.samples.dropLast.Perm m'.samples.dropLast ∧ m.samples.getLast? = some m.sumSample ∧
          (m.sizes.sum ≤ Nat.pow 2 precision → m.samples.Perm m'.samples) := by
  intro m
  refine ⟨accounts_of_configured h, fun v hv => (Visit.recorded (h v hv)).2, ?_⟩
  intro visits' hvisits
  have hobservations : m.observations.Perm (ofVisits visits').observations := by
    rw [observations_ofVisits, observations_ofVisits]
    exact hvisits.flatMap_right _
  refine samples_perm hobservations fun n hn => ?_
  rw [sizes_ofVisits h, List.mem_filterMap] at hn
  obtain ⟨v, _, hv⟩ := hn
  obtain ⟨k, _, rfl⟩ := Option.map_eq_some_iff.1 hv
  exact Int.natCast_nonneg _

def rejectedVisits : List Visit := [
  { gate := Gate.strictGate
    defaults := Gate.plainDefaults
    env := []
    scope := Gate.postedScope
    coming := [.message (.part [1, 2] true), .message (.part [3] false)] },
  { gate := { Gate.strictGate with mode := some .require }
    defaults := Gate.plainDefaults
    env := []
    scope := { Gate.postedScope with lines := some [] }
    coming := [] }]

theorem ofVisits_accounts_rejected :
    (∀ v ∈ rejectedVisits, v.Configured) ∧
      (ofVisits rejectedVisits).total "bodyseal_body_buffer_total" [] = 1 ∧
      (ofVisits rejectedVisits).total "bodyseal_digest_checks_total" [] = 1 := by
  have hconfigured : ∀ v ∈ rejectedVisits, v.Configured := by
    rw [rejectedVisits, List.forall_mem_cons, List.forall_mem_singleton]
    exact ⟨⟨_, Gate.load_plain, by decide, by decide⟩, ⟨_, Gate.load_plain, by decide, by decide⟩⟩
  obtain ⟨haccounts, hvisits, _⟩ := ofVisits_accounts rejectedVisits hconfigured
  refine ⟨hconfigured, ?_, ?_⟩
  · have hasked := Visit.asked?_of_load (v := rejectedVisits[0]) Gate.load_plain
      Gate.postedScope_head (by decide)
    have hlarge := (hvisits _ (.head _)).1 _ _ hasked
    have hraised : ¬ (rejectedVisits[0]).exit = .raised := fun h =>
      absurd (hlarge.1 h).1 (by decide)
    rw [haccounts.attempts, rejectedVisits, List.countP_cons_of_pos, List.countP_cons_of_neg]
    · rfl
    · decide
    · exact decide_eq_true ⟨rfl, hraised⟩
  · rw [haccounts.checks, haccounts.buffered]
    decide +kernel

def refusedVisit : Visit where
  gate := Gate.strictGate
  defaults := Gate.plainDefaults
  env := []
  scope := Gate.postedScope
  coming := [.failure (.body (.refused "x"))]

def wideGate : Gate :=
  { Gate.strictGate with maximum := some (Nat.pow 2 precision), mode := some .advisory }

def sizedVisit (size : Nat) : Visit where
  gate := wideGate
  defaults := Gate.plainDefaults
  env := []
  scope := Gate.postedScope
  coming := [.message (.part (List.replicate size 0) false)]

theorem sizedVisit_configured (size : Nat) : (sizedVisit size).Configured := by
  have hbounds : 0 ≤ (wideGate.apply Gate.plainSettings).maximum ∧
      0 < (wideGate.apply Gate.plainSettings).chunk := by decide
  exact ⟨Gate.plainSettings, Gate.load_plain, hbounds⟩

theorem kept_sizedVisit {size : Nat} (hsize : size ≤ Nat.pow 2 precision) :
    ∃ check, (sizedVisit size).kept? = some (List.replicate size 0, check) := by
  have hasked : (sizedVisit size).asked? =
      some (wideGate.apply Gate.plainSettings, Gate.postedHead) := by
    have hasks : Gate.postedHead.verb ∈ (wideGate.apply Gate.plainSettings).methods ∧
        Gate.postedHead.lines.hasIntegrity := by decide
    exact Visit.asked?_of_load Gate.load_plain Gate.postedScope_head hasks
  have htotal : (sizedVisit size).arrival.total = size := by
    show [List.replicate size (0 : UInt8)].flatten.length = size
    rw [List.flatten_singleton, List.length_replicate]
  have hwhole : (sizedVisit size).arrival.broken.isNone ∧
      ((sizedVisit size).arrival.total : Int) ≤ (wideGate.apply Gate.plainSettings).maximum :=
    ⟨rfl, by rw [htotal]; exact Int.ofNat_le.2 hsize⟩
  have hbody : (sizedVisit size).arrival.parts.flatten = List.replicate size 0 :=
    List.flatten_singleton
  refine ⟨Gate.postedHead.lines.check (List.replicate size 0), ?_⟩
  rw [Visit.kept?, hasked]
  exact (if_pos hwhole).trans (by rw [hbody])

theorem sizes_sizedVisit {sizes : List Nat} (h : ∀ size ∈ sizes, size ≤ Nat.pow 2 precision) :
    (ofVisits (sizes.map sizedVisit)).sizes = sizes.map Int.ofNat := by
  rw [sizes_ofVisits, List.filterMap_map, ← List.filterMap_eq_map]
  · refine List.filterMap_congr fun size hsize => ?_
    obtain ⟨check, hkept⟩ := kept_sizedVisit (h size hsize)
    rw [Function.comp_apply, hkept, Option.map_some, List.length_replicate]
    rfl
  · intro v hv
    obtain ⟨size, _, rfl⟩ := List.mem_map.1 hv
    exact sizedVisit_configured size

/-- A failure is not counted, and the rounded sum depends on the order. -/
theorem ofVisits_unaccounted :
    (refusedVisit.Configured ∧ refusedVisit.asked?.isSome ∧
      (ofVisits [refusedVisit]).total "bodyseal_body_buffer_total" [] = 0) ∧
    let large := sizedVisit (Nat.pow 2 precision)
    let small := sizedVisit 1
    (∀ v ∈ [large, small, small], v.Configured) ∧
      [large, small, small].Perm [small, small, large] ∧
      (ofVisits [large, small, small]).sumSample ≠ (ofVisits [small, small, large]).sumSample := by
  have hconfigured : refusedVisit.Configured := ⟨Gate.plainSettings, Gate.load_plain, by decide⟩
  have hasked := Visit.asked?_of_load (v := refusedVisit) Gate.load_plain Gate.postedScope_head
    (by decide)
  have hraised : refusedVisit.exit = .raised :=
    ((Visit.recorded hconfigured).2.1 _ _ hasked).2 ⟨by decide, _, rfl, rfl⟩
  refine ⟨⟨hconfigured, rfl, ?_⟩, ?_, ?_, ?_⟩
  · have haccounts := accounts_of_configured (List.forall_mem_singleton.2 hconfigured)
    rw [haccounts.attempts, List.countP_singleton, if_neg]
    rw [hraised]
    decide
  · rw [List.forall_mem_cons, List.forall_mem_cons, List.forall_mem_singleton]
    exact ⟨sizedVisit_configured _, sizedVisit_configured _, sizedVisit_configured _⟩
  · exact (List.perm_append_comm : ([_] ++ [_, _]).Perm ([_, _] ++ [_]))
  · intro hsame
    have hsum (sizes : List Nat) (h : ∀ size ∈ sizes, size ≤ Nat.pow 2 precision) :
        (ofVisits (sizes.map sizedVisit)).sizeSum =
          (sizes.map Int.ofNat).foldl (fun sum size => sum.add (.ofInt size)) (.finite 0) := by
      rw [sizeSum, sizes_sizedVisit h]
    have hlarge := hsum [Nat.pow 2 precision, 1, 1] (by decide)
    have hsmall := hsum [1, 1, Nat.pow 2 precision] (by decide)
    have hvalue := hlarge.symm.trans ((congrArg Sample.value hsame).trans hsmall)
    exact absurd hvalue (by decide +kernel)

end Metrics

end DigestGate
