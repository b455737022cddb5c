import DigestGate.Proofs.Request.Run

namespace DigestGate

variable {σ ρ : Type} {limits : Limits} {chunks : List Bytes} {event : Except Failure Piece}
  {size limit observed : Nat}

structure Reading where
  size : Nat
  outcome : Except Failure Piece

namespace Reading

def bytes (r : Reading) : Bytes :=
  match r.outcome with
  | .ok (.bytes bytes) => bytes
  | _ => []

def brought (readings : List Reading) : Bytes :=
  readings.flatMap bytes

def series (size : Nat) (chunks : List Bytes) (event : Except Failure Piece) : List Reading :=
  chunks.map (fun chunk => ⟨size, .ok (.bytes chunk)⟩) ++ [⟨size, event⟩]

theorem series_cons (size : Nat) (chunk : Bytes) (chunks : List Bytes)
    (event : Except Failure Piece) :
    series size (chunk :: chunks) event =
      [⟨size, .ok (.bytes chunk)⟩] ++ series size chunks event :=
  rfl

theorem length_series (size : Nat) (chunks : List Bytes) (event : Except Failure Piece) :
    (series size chunks event).length = chunks.length + 1 := by
  rw [series, List.length_append, List.length_map, List.length_singleton]

theorem size_of_mem_series {r : Reading} (h : r ∈ series size chunks event) : r.size = size := by
  obtain hmem | hlast := List.mem_append.1 h
  · obtain ⟨chunk, -, rfl⟩ := List.mem_map.1 hmem
    rfl
  · rw [List.mem_singleton.1 hlast]

theorem brought_series (size : Nat) (chunks : List Bytes) (event : Except Failure Piece) :
    brought (series size chunks event) = chunks.flatten ++ bytes ⟨size, event⟩ := by
  induction chunks with
  | nil => exact List.flatMap_singleton bytes _
  | cons chunk chunks ih =>
    rw [series_cons, brought, List.flatMap_append, ← brought, ← brought, ih, List.flatten_cons,
      List.append_assoc]
    exact congrArg (· ++ _) (List.flatMap_singleton bytes _)

theorem length_brought_le {earlier readings : List Reading} (h : earlier <+: readings) :
    (brought earlier).length ≤ (brought readings).length := by
  obtain ⟨later, rfl⟩ := h
  rw [brought, brought, List.flatMap_append, List.length_append]
  exact Nat.le_add_right _ _

/-- There are at most `maximum + 1` readings, each of `chunk` bytes. -/
structure Bounded (limits : Limits) (readings : List Reading) : Prop where
  length_le : readings.length ≤ limits.maximum + 1
  size_eq : ∀ r ∈ readings, r.size = limits.chunk
  brought_le : (∀ r ∈ readings, r.bytes.length ≤ r.size) →
    (brought readings).length ≤ limits.maximum + limits.chunk

/-- The observed size is the sum of the readings, or was reported by one of them. -/
def Exceed (limits : Limits) (readings : List Reading) (limit observed : Nat) : Prop :=
  limit = limits.maximum ∧ limits.maximum < observed ∧ observed = (brought readings).length ∨
    ∃ r ∈ readings, r.outcome = .error (.body (.tooLarge limit observed))

end Reading

section Deciding

variable {read : σ → Except Failure Piece × σ} {total : Nat} {s last : σ}

theorem Decided.length_le_flatten (h : Decided read limit total s chunks event last) :
    chunks.length ≤ chunks.flatten.length := by
  induction h with
  | here => exact Nat.le_refl 0
  | later _ hchunk _ ih =>
    have hpos := List.length_pos_iff.2 (not_decisive_bytes.1 hchunk).1
    rw [List.flatten_cons, List.length_append, List.length_cons]
    omega

theorem Decided.bounded (h : Decided read limits.maximum 0 s chunks event last) :
    Reading.Bounded limits (Reading.series limits.chunk chunks event) where
  length_le := by
    have hheld := h.length_le (Nat.zero_le _)
    have hcount := h.length_le_flatten
    rw [Reading.length_series]
    omega
  size_eq r hr := Reading.size_of_mem_series hr
  brought_le hfits := by
    have hheld := h.length_le (Nat.zero_le _)
    have hlast : (Reading.bytes ⟨limits.chunk, event⟩).length ≤ limits.chunk :=
      hfits _ (List.mem_append_right _ (List.mem_singleton_self _))
    rw [Reading.brought_series, List.length_append]
    omega

theorem Decided.exceed {e : Shortfall} (h : Decided read limits.maximum 0 s chunks event last)
    (he : concluded limits.maximum 0 chunks.flatten event = .error e)
    (hstored : e.remembered = .tooLarge limit observed) :
    Reading.Exceed limits (Reading.series limits.chunk chunks event) limit observed := by
  match event with
  | .error (.body error) =>
    cases he
    cases hstored
    exact .inr ⟨_, List.mem_append_right _ (List.mem_singleton_self _), rfl⟩
  | .error (.fault _) =>
    cases he
    cases hstored
  | .error (.interrupted _) =>
    cases he
    cases hstored
  | .ok (.bytes []) => cases he
  | .ok (.bytes (b :: bs)) =>
    have hover := h.decisive.resolve_left (List.cons_ne_nil b bs)
    cases he
    cases hstored
    left
    rw [Reading.brought_series, Nat.zero_add]
    rw [Nat.zero_add, ← List.length_append] at hover
    exact ⟨rfl, hover, rfl⟩
  | .ok (.other value) =>
    rw [concluded] at he
    split at he
    · cases he
      cases hstored
    · cases he

end Deciding

theorem Shortfall.remembered_eq (e : Shortfall) :
    e.reported = .body (.tooLarge limit observed) → e.remembered = .tooLarge limit observed := by
  rcases e with (_ | _ | _) | _ | _ <;> simp [reported, remembered]

theorem BodySource.Ends.phase_eq [BodySource ρ] {r r' : Request} {outcome : Except Failure Bytes}
    (h : Ends ρ r outcome r') (hraised : outcome = .error (.body (.tooLarge limit observed))) :
    r'.phase = .failed (.tooLarge limit observed) := by
  cases h with
  | kept body => cases hraised
  | lost e => rw [Request.phase_enter, e.remembered_eq (Except.error.inj hraised)]
  | lostInterrupted e hclosing =>
    obtain ⟨message, rfl⟩ := Closing.raised_eq_error hclosing
    cases hraised
  | interrupted hclosing =>
    obtain ⟨message, rfl⟩ := Closing.raised_eq_error hclosing
    cases hraised

namespace Host

variable {h : Host σ} {s last : σ} {total : Nat}

def metered (h : Host σ) : Host (σ × List Reading) where
  request t := h.request t.1
  setRequest r t := (h.setRequest r t.1, t.2)
  read size t :=
    ((h.read size t.1).1, (h.read size t.1).2, t.2 ++ [⟨size, (h.read size t.1).1⟩])
  close t := ((h.close t.1).1, (h.close t.1).2, t.2)
  note entry t := (h.note entry t.1, t.2)

theorem metered_maps (h : Host σ) : h.metered.Maps h Prod.fst where
  request _ := rfl
  setRequest _ _ := rfl
  read _ _ := rfl
  close _ := rfl
  note _ _ := rfl

theorem decided_metered (hd : Decided (h.read size) limit total s chunks event last)
    (readings : List Reading) :
    Decided (h.metered.read size) limit total (s, readings) chunks event
      (last, readings ++ Reading.series size chunks event) := by
  have hstep {s next : σ} {outcome : Except Failure Piece} (hread : h.read size s = (outcome, next))
      (readings : List Reading) : h.metered.read size (s, readings) =
        (outcome, next, readings ++ [⟨size, outcome⟩]) := by
    show ((h.read size s).1, (h.read size s).2, _) = _
    rw [hread]
  induction hd generalizing readings with
  | here hread hevent => exact .here (hstep hread readings) hevent
  | later hread hchunk _ ih =>
    rw [Reading.series_cons, ← List.append_assoc]
    exact .later (hstep hread readings) hchunk (ih _)

theorem release_metered (h : Host σ) (t : σ × List Reading) : (h.metered.release t).2.2 = t.2 := by
  have hclose : h.metered.close t = ((h.close t.1).1, (h.close t.1).2, t.2) := rfl
  rw [release, hclose]
  rcases h.close t.1 with ⟨_ | message | message, s⟩ <;> rfl

theorem conclude_metered (h : Host σ) (gathered : Except Shortfall Bytes) (t : σ × List Reading) :
    (h.metered.conclude (gathered, t)).2.2 = t.2 := by
  cases gathered with
  | error e => exact release_metered h _
  | ok body =>
    have hrelease := release_metered h t
    rw [conclude]
    generalize h.metered.release t = released at hrelease ⊢
    rcases released with ⟨_ | _, t'⟩
    · exact hrelease
    · exact hrelease

/-- Buffering makes exactly the readings through the decisive one. -/
theorem buffer_metered (hd : Decided (h.read (h.request s).limits.chunk)
      (h.request s).limits.maximum 0 (h.setPhase .buffering s) chunks event last)
    (readings : List Reading) :
    (h.metered.buffer (s, readings)).2.2 =
      readings ++ Reading.series (h.request s).limits.chunk chunks event := by
  have hgather := (decided_metered hd readings).gather_eq
  have hopen : h.metered.buffer (s, readings) = h.metered.conclude
      (gather (h.metered.read (h.request s).limits.chunk) (h.request s).limits.maximum 0
        (h.setPhase .buffering s, readings)) := rfl
  rw [hopen, hgather, conclude_metered]

end Host

namespace Solo

/-- Invariant of a request and the readings of its source. -/
structure Metered (limits : Limits) (t : Solo ρ × List Reading) : Prop where
  limits_eq : t.1.request.limits = limits
  cache_eq : t.1.request.phase = .fresh → t.1.request.cache = {}
  unread : t.1.request.phase = .fresh ∨ t.1.request.phase = .handedOut → t.2 = []
  bounded : Reading.Bounded limits t.2
  exceed : ∀ limit observed, t.1.request.phase = .failed (.tooLarge limit observed) →
    Reading.Exceed limits t.2 limit observed

variable {s : Solo ρ} {t : Solo ρ × List Reading}

theorem metered_start (limits : Limits) (source : ρ) :
    Metered limits (start limits source, []) where
  limits_eq := rfl
  cache_eq _ := rfl
  unread _ := rfl
  bounded := ⟨Nat.zero_le _, fun _ hr => absurd hr List.not_mem_nil, fun _ => Nat.zero_le _⟩
  exceed _ _ hp := nomatch hp

variable [BodySource ρ]

theorem request_of_decided (hc : s.request.cache = {}) {last : ρ}
    (hd : Decided (BodySource.draw s.request.limits.chunk) s.request.limits.maximum 0 s.source
      chunks event last) :
    ∃ phase, (host.buffer s).2.request = s.request.enter phase ∧
      (phase ≠ .fresh ∧ phase ≠ .handedOut) ∧ ∀ stored, phase = .failed stored →
        ∃ e, concluded s.request.limits.maximum 0 chunks.flatten event = .error e ∧
          e.remembered = stored := by
  have hbuffer : host.buffer s = bare.ending (fun x s => { s with source := x }) s
      (gather (BodySource.draw s.request.limits.chunk) s.request.limits.maximum 0 s.source) :=
    apart.buffer_withSource hc
  rw [hbuffer, hd.gather_eq]
  cases concluded s.request.limits.maximum 0 chunks.flatten event with
  | error e =>
    refine ⟨.failed e.remembered, apart.request_lost _ _ _,
      ⟨Phase.noConfusion, Phase.noConfusion⟩, ?_⟩
    intro stored hstored
    exact ⟨e, rfl, Phase.failed.inj hstored⟩
  | ok body =>
    rw [Host.ending]
    cases (BodySource.leave .alreadyBuffering .stillBuffering last).1.raised with
    | error f =>
      exact ⟨.buffering, apart.request_gained _ _, ⟨Phase.noConfusion, Phase.noConfusion⟩,
        fun _ => Phase.noConfusion⟩
    | ok =>
      exact ⟨.buffered body, apart.request_kept _ _ _, ⟨Phase.noConfusion, Phase.noConfusion⟩,
        fun _ => Phase.noConfusion⟩

theorem readings_of_decided (hc : s.request.cache = {}) {last : ρ}
    (hd : Decided (BodySource.draw s.request.limits.chunk) s.request.limits.maximum 0 s.source
      chunks event last) (readings : List Reading) :
    (host.metered.buffer (s, readings)).2.2 =
      readings ++ Reading.series s.request.limits.chunk chunks event := by
  have hreads := hd.map (f := fun x => { host.setPhase .buffering s with source := x })
    (apart.read_withSource (s := host.setPhase .buffering s) rfl hc s.request.limits.chunk)
  exact Host.buffer_metered (h := host) (s := s) hreads readings

theorem Metered.buffer (ht : Metered limits t) (hp : t.1.request.phase = .fresh) :
    Metered limits (host.metered.buffer t).2 := by
  obtain ⟨s, readings⟩ := t
  obtain rfl : readings = [] := ht.unread (.inl hp)
  have hlimits : s.request.limits = limits := ht.limits_eq
  obtain ⟨chunks, event, last, hd⟩ := exists_decided (BodySource.draw s.request.limits.chunk)
    s.request.limits.maximum 0 s.source
  have hreadings := readings_of_decided (ht.cache_eq hp) hd []
  obtain ⟨phase, hphase, ⟨hfresh, hout⟩, hfailed⟩ := request_of_decided (ht.cache_eq hp) hd
  have hrequest : (host.metered.buffer (s, [])).2.1.request = s.request.enter phase :=
    (congrArg (fun outcome => outcome.2.request) (host.metered_maps.buffer (s, []))).symm.trans
      hphase
  rw [hlimits] at hd hreadings hfailed
  refine ⟨?_, ?_, ?_, ?_, ?_⟩
  · rw [hrequest, Request.limits_enter]
    exact hlimits
  · rw [hrequest, Request.phase_enter]
    exact fun h => absurd h hfresh
  · rw [hrequest, Request.phase_enter]
    exact fun h => absurd h (not_or.2 ⟨hfresh, hout⟩)
  · rw [hreadings]
    exact hd.bounded
  · intro limit observed hlost
    rw [hrequest, Request.phase_enter] at hlost
    obtain ⟨e, he, hstored⟩ := hfailed _ hlost
    rw [hreadings]
    exact hd.exceed he hstored

theorem metered_keeps : host.metered.Keeps (Metered (ρ := ρ) limits) where
  note ht _ := ⟨ht.limits_eq, ht.cache_eq, ht.unread, ht.bounded, ht.exceed⟩
  buffer ht hp := ht.buffer hp
  buffered {t body} _ _ hbody := by
    have hmaps := host.metered_maps.buffer t
    have hphase : (host.buffer t.1).2.request.phase = .buffered body :=
      phase_of_buffer ((congrArg Prod.fst hmaps).trans hbody)
    rwa [hmaps] at hphase
  store ht hp _ _ :=
    ⟨ht.limits_eq, fun h => (nomatch hp.symm.trans h), ht.unread, ht.bounded, ht.exceed⟩
  handOut ht hp := ⟨ht.limits_eq, nofun, fun _ => ht.unread hp, ht.bounded, nofun⟩

theorem failed_of_ensure (hc : s.request.phase = .fresh → s.request.cache = {})
    (hraised : (host.ensure s).1 = .error (.body (.tooLarge limit observed))) :
    (host.ensure s).2.request.phase = .failed (.tooLarge limit observed) := by
  have hphase : (host.request s).phase = s.request.phase := rfl
  rw [Host.ensure, hphase] at hraised ⊢
  cases hp : s.request.phase with
  | fresh =>
    rw [hp] at hraised
    have hends : BodySource.Ends ρ s.request (host.buffer s).1 (host.buffer s).2.request :=
      apart.ends_buffer (hc hp)
    exact hends.phase_eq hraised
  | handedOut => rw [hp] at hraised; cases hraised
  | buffering => rw [hp] at hraised; cases hraised
  | buffered body => rw [hp] at hraised; cases hraised
  | failed error =>
    rw [hp] at hraised
    cases hraised
    exact hp

/-- In any run the source is read at most `maximum + 1` times, by the chunk. -/
theorem readings_bounded (limits : Limits) (source : ρ) (operations : List Operation) :
    let outcome := host.metered.ensure (host.metered.run operations (start limits source, []))
    let readings := outcome.2.2
    (outcome.1, outcome.2.1) = host.ensure (host.run operations (start limits source)) ∧
    readings.length ≤ limits.maximum + 1 ∧
    (∀ r ∈ readings, r.size = limits.chunk) ∧
    ((∀ r ∈ readings, r.bytes.length ≤ r.size) →
      (∀ earlier, earlier <+: readings →
        (Reading.brought earlier).length ≤ limits.maximum + limits.chunk) ∧
      ∀ limit observed, outcome.1 = .error (.body (.tooLarge limit observed)) →
        limit = limits.maximum ∧ limits.maximum < observed ∧
            observed ≤ limits.maximum + limits.chunk ∨
          ∃ r ∈ readings, r.outcome = .error (.body (.tooLarge limit observed))) := by
  intro outcome readings
  have hrun := metered_keeps.run operations (metered_start limits source)
  have hafter : Metered limits outcome.2 := metered_keeps.ensure hrun
  have hsame : host.ensure (host.run operations (start limits source)) =
      (outcome.1, outcome.2.1) := by
    have hmaps := host.metered_maps.run operations (start limits source, [])
    rw [hmaps]
    exact host.metered_maps.ensure _
  refine ⟨hsame.symm, hafter.bounded.length_le, hafter.bounded.size_eq, fun hfits => ?_⟩
  have hbrought := hafter.bounded.brought_le hfits
  refine ⟨fun earlier hearlier => ?_, fun limit observed hraised => ?_⟩
  · exact Nat.le_trans (Reading.length_brought_le hearlier) hbrought
  · have hfailed : outcome.2.1.request.phase = .failed (.tooLarge limit observed) := by
      have hensure := host.metered_maps.ensure
        (host.metered.run operations (start limits source, []))
      have hphase := failed_of_ensure hrun.cache_eq ((congrArg Prod.fst hensure).trans hraised)
      rwa [hensure] at hphase
    obtain ⟨hlimit, hlt, rfl⟩ | htold := hafter.exceed limit observed hfailed
    · exact .inl ⟨hlimit, hlt, hbrought⟩
    · exact .inr htold

structure Tap where
  byte : UInt8

instance : BodySource Tap where
  read size tap := .done (.ok (.bytes (List.replicate (size.getD 0).toNat tap.byte))) tap
  close tap := .done .done tap

theorem readings_bounded_tap :
    let outcome := host.metered.ensure (start ⟨2, 1, by decide⟩ (Tap.mk 7), [])
    let readings := outcome.2.2
    outcome.1 = .error (.body (.tooLarge 2 3)) ∧ readings.length = 2 + 1 ∧
      (∀ r ∈ readings, r.bytes.length ≤ r.size) ∧
      (∀ earlier, earlier <+: readings → (Reading.brought earlier).length ≤ 2 + 1) ∧
      (2 = 2 ∧ 2 < 3 ∧ 3 ≤ 2 + 1 ∨
        ∃ r ∈ readings, r.outcome = .error (.body (.tooLarge 2 3))) := by
  intro outcome readings
  have hd : Decided (BodySource.draw 1) 2 0 (Tap.mk 7) [[7], [7]] (.ok (.bytes [7])) (Tap.mk 7) :=
    .later rfl (by simp [Decisive]) (.later rfl (by simp [Decisive])
      (.here rfl (by simp [Decisive])))
  have hreadings : readings = Reading.series 1 [[7], [7]] (.ok (.bytes [7])) :=
    readings_of_decided (s := start ⟨2, 1, by decide⟩ (Tap.mk 7)) rfl hd []
  have houtcome : outcome.1 = .error (.body (.tooLarge 2 3)) := by
    have hmaps := host.metered_maps.ensure (start ⟨2, 1, by decide⟩ (Tap.mk 7), [])
    have hfails : Fails ⟨2, 1, by decide⟩ (host.ensure (start ⟨2, 1, by decide⟩ (Tap.mk 7)))
        (.body (.tooLarge 2 3)) (.tooLarge 2 3) (Tap.mk 7) :=
      fails_of_gather (e := .tooLarge 2 3) hd.gather_eq []
    exact (congrArg Prod.fst hmaps).symm.trans (hfails.raises rfl)
  have hfits : ∀ r ∈ readings, r.bytes.length ≤ r.size := by
    rw [hreadings]
    decide
  obtain ⟨-, -, -, hbounded⟩ := readings_bounded ⟨2, 1, by decide⟩ (Tap.mk 7) []
  obtain ⟨hearlier, htooLarge⟩ := hbounded hfits
  exact ⟨houtcome, congrArg List.length hreadings, hfits, hearlier, htooLarge 2 3 houtcome⟩

end Solo

end DigestGate
