import DigestGate.Proofs.Channel.Completion

namespace DigestGate

variable {σ : Type} {buffer bytes piece : Bytes} {e : Failure} {size : Nat}

/-- Reading into a buffer overwrites a prefix of it by the bytes of the reading. -/
structure WritesInto (buffer : Bytes) (read : Except Failure Bytes × σ)
    (into : Except Failure (Nat × Bytes) × σ) : Prop where
  state_eq : into.2 = read.2
  raised : ∀ e, read.1 = .error e → into.1 = .error e
  written : ∀ bytes, read.1 = .ok bytes → ∃ filled, into.1 = .ok (bytes.length, filled) ∧
    filled.length = buffer.length ∧ filled.take bytes.length = bytes ∧
    filled.drop bytes.length = buffer.drop bytes.length

theorem writesInto_of_error (buffer : Bytes) (e : Failure) (s : σ) :
    WritesInto buffer (.error e, s) (.error e, s) where
  state_eq := rfl
  raised _ h := by cases h; rfl
  written _ h := by cases h

theorem writesInto_of_ok (hle : bytes.length ≤ buffer.length) (s : σ) :
    WritesInto buffer (.ok bytes, s)
      (.ok (bytes.length, bytes ++ buffer.drop bytes.length), s) where
  state_eq := rfl
  raised _ h := by cases h
  written _ h := by
    cases h
    refine ⟨_, rfl, ?_, List.take_left, List.drop_left⟩
    rw [List.length_append, List.length_drop]
    omega

theorem BodyStream.writesInto_readInto (s : BodyStream) (buffer : Bytes) :
    WritesInto buffer (s.read (some (buffer.length : Int))) (s.readInto buffer) := by
  cases hclosed : s.closed with
  | true =>
    rw [read_closed hclosed, readInto, if_pos hclosed]
    exact writesInto_of_error buffer _ s
  | false =>
    rw [read_open hclosed, readInto, if_neg (ne_true_of_eq_false hclosed)]
    exact writesInto_of_ok (List.length_take_le _ _) _

theorem BodyStream.readAll_eq (s : BodyStream) : s.readAll = s.read (some (-1)) :=
  rfl

namespace Readable

variable [Readable σ] {P : σ → Prop} (hread : ∀ size s, P s → P (read size s).2)
include hread

theorem keeps_lineWithin (fuel : Nat) (limit : Option Nat) {s : σ} (hs : P s) :
    P (lineWithin fuel limit s).2 := by
  induction fuel generalizing limit s with
  | zero => exact hs
  | succ fuel ih =>
    have hnext := hread (some 1) s hs
    rw [lineWithin]
    split
    · exact hs
    · generalize read (some 1) s = outcome at hnext ⊢
      obtain ⟨_ | ⟨_ | ⟨b, bs⟩⟩, next⟩ := outcome
      · exact hnext
      · exact hnext
      · have hlater := ih (limit.map (· - 1)) hnext
        simp only
        split
        · exact hnext
        · generalize lineWithin fuel (limit.map (· - 1)) next = line at hlater ⊢
          rcases line with ⟨_ | _, _⟩ <;> exact hlater

theorem keeps_linesWithin (longest fuel : Nat) (hint : Option Nat) (total : Nat) {s : σ}
    (hs : P s) : P (linesWithin longest fuel hint total s).2 := by
  induction fuel generalizing total s with
  | zero => exact hs
  | succ fuel ih =>
    have hnext := keeps_lineWithin hread longest none hs
    rw [linesWithin]
    generalize lineWithin longest none s = outcome at hnext ⊢
    obtain ⟨_ | ⟨_ | ⟨b, bs⟩⟩, next⟩ := outcome
    · exact hnext
    · exact hnext
    · have hlater := ih (total + (b :: bs).length) hnext
      simp only
      split
      · exact hnext
      · generalize linesWithin longest fuel hint (total + (b :: bs).length) next = lines at hlater ⊢
        rcases lines with ⟨_ | _, _⟩ <;> exact hlater

theorem keeps_drainBy (size : Int) (fuel : Nat) {s : σ} (hs : P s) : P (drainBy size fuel s).2 := by
  induction fuel generalizing s with
  | zero => exact hs
  | succ fuel ih =>
    have hnext := hread (some size) s hs
    rw [drainBy]
    generalize read (some size) s = outcome at hnext ⊢
    obtain ⟨_ | ⟨_ | ⟨b, bs⟩⟩, next⟩ := outcome
    · exact hnext
    · exact hnext
    · have hlater := ih hnext
      simp only
      generalize drainBy size fuel next = rest at hlater ⊢
      rcases rest with ⟨_ | _, _⟩ <;> exact hlater

end Readable

namespace Reader

variable {r next : Reader}

theorem read_closed (hclosed : r.closed = true) (size : Option Int) :
    r.read size = (.error (.fault (.stream .closedRequest)), r) := by
  rw [read, if_pos hclosed]

theorem writesInto_readInto (r : Reader) (buffer : Bytes) :
    WritesInto buffer (r.read (some (buffer.length : Int))) (r.readInto buffer) := by
  rw [readInto]
  cases hclosed : r.closed with
  | true =>
    rw [read_closed hclosed]
    exact writesInto_of_error buffer _ r
  | false =>
    rw [read_some hclosed]
    rcases r.fill false with ⟨e | ⟨⟩, filled⟩
    · exact writesInto_of_error buffer e filled
    · exact writesInto_of_ok (List.length_take_le _ _) _

theorem pull_stays (r : Reader) :
    r.pull.2.channel = r.channel.receive.2 ∧ r.pull.2.closed = r.closed := by
  rcases hreceive : r.channel.receive with ⟨e | m, channel⟩
  · rw [pull_of_failure hreceive]
    exact ⟨rfl, rfl⟩
  · by_cases hd : m.isDisconnect
    · rw [pull_of_disconnect hreceive hd]
      exact ⟨rfl, rfl⟩
    · by_cases hm : m.isPart
      · rw [pull_of_part hreceive hm]
        exact ⟨rfl, rfl⟩
      · rw [pull_of_other hreceive hd hm]
        exact ⟨rfl, rfl⟩

theorem flows_pull (hr : r.channel.Flows) : r.pull.2.channel.Flows := by
  rw [(pull_stays r).1]
  exact hr.receive rfl

theorem flows_fill (hr : r.channel.Flows) (all : Bool) : (r.fill all).2.channel.Flows :=
  keeps_fill (P := fun r => r.channel.Flows) (fun _ => flows_pull) all hr

theorem closed_fill (r : Reader) (all : Bool) : (r.fill all).2.closed = r.closed :=
  keeps_fill (P := fun r' => r'.closed = r.closed) (fun r' => (pull_stays r').2.trans) all rfl

theorem flows_read (size : Option Int) (r : Reader) (hr : r.channel.Flows) :
    (r.read size).2.channel.Flows := by
  cases hclosed : r.closed with
  | true =>
    rw [read_closed hclosed]
    exact hr
  | false =>
    obtain ⟨all, filled, hcases⟩ := read_cases hclosed size
    have hfilled := flows_fill hr all
    obtain ⟨e, hfill, hread⟩ | ⟨bytes, rest, hfill, -, hread, -⟩ := hcases
    · rw [hfill] at hfilled
      rw [hread]
      exact hfilled
    · rw [hfill] at hfilled
      rw [hread]
      exact hfilled

theorem flows_answering {α : Type} {wrap : α → StreamAnswer} {outcome : Except Failure α × Reader}
    (h : outcome.2.channel.Flows) : (answering wrap outcome).2.channel.Flows := by
  rcases outcome with ⟨_ | _, _⟩
  · exact h
  · exact h

theorem flows_perform (hr : r.channel.Flows) (call : StreamCall) :
    (r.perform call).2.channel.Flows := by
  cases call with
  | read size => exact flows_answering (flows_read size r hr)
  | readAll => exact flows_answering (Readable.keeps_drainBy flows_read _ _ hr)
  | readInto buffer =>
    apply flows_answering
    rw [(r.writesInto_readInto buffer).state_eq]
    exact flows_read _ r hr
  | readLine limit =>
    apply flows_answering
    rw [Readable.readLine]
    split
    · exact Readable.keeps_lineWithin flows_read _ _ hr
    · exact hr
  | readLines hint =>
    apply flows_answering
    rw [Readable.readLines]
    split
    · exact hr
    · split
      · exact hr
      · exact Readable.keeps_linesWithin flows_read _ _ _ _ hr
  | flush =>
    rw [perform, flushed]
    split
    · exact hr
    · exact hr
  | _ => exact hr

def unread (piece : Bytes) (r : Reader) : Reader :=
  { r with pending := piece ++ r.pending }

theorem pull_unread (piece : Bytes) (r : Reader) :
    (r.unread piece).pull = (r.pull.1, r.pull.2.unread piece) := by
  rcases hreceive : r.channel.receive with ⟨e | m, channel⟩
  · have hunread : (r.unread piece).channel.receive = _ := hreceive
    rw [pull_of_failure hreceive, pull_of_failure hunread]
    rfl
  · have hunread : (r.unread piece).channel.receive = _ := hreceive
    by_cases hd : m.isDisconnect
    · rw [pull_of_disconnect hreceive hd, pull_of_disconnect hunread hd]
      rfl
    · by_cases hm : m.isPart
      · rw [pull_of_part hreceive hm, pull_of_part hunread hm]
        simp only [unread, List.append_assoc]
      · rw [pull_of_other hreceive hd hm, pull_of_other hunread hd hm]
        rfl

theorem fill_of_ended (hended : r.ended = true) (all : Bool) : r.fill all = (.ok (), r) := by
  rw [fill, if_pos (by rw [hended]; rfl)]

section Filling

variable {all : Bool} (hended : r.ended = false) (hneeds : all = true ∨ r.pending = [])
include hended hneeds

theorem fill_of_pull_error (hpull : r.pull = (.error e, next)) : r.fill all = (.error e, next) := by
  rw [fill, if_neg (by obtain rfl | hp := hneeds <;> simp [*]), hpull]

theorem fill_of_pull (hr : r.channel.Flows) (hpull : r.pull = (.ok (), next)) :
    r.fill all = next.fill all := by
  rw [fill, if_neg (by obtain rfl | hp := hneeds <;> simp [*]), hpull]
  exact if_pos (supply_pull hr hpull)

end Filling

theorem fill_unread (piece : Bytes) (hr : r.channel.Flows) :
    (r.unread piece).fill true = ((r.fill true).1, (r.fill true).2.unread piece) := by
  induction r using fill.induct true with
  | case1 r hstop =>
    have hended : r.ended = true := by simpa using hstop
    rw [fill_of_ended hended, fill_of_ended (r := r.unread piece) hended]
  | case2 r hgo e next hpull =>
    have hended := not_ended_of_fill hgo
    have hunread := pull_unread piece r
    rw [hpull] at hunread
    rw [fill_of_pull_error hended (.inl rfl) hpull,
      fill_of_pull_error (r := r.unread piece) hended (.inl rfl) hunread]
  | case3 r hgo next hpull hlt ih =>
    have hended := not_ended_of_fill hgo
    have hunread := pull_unread piece r
    have hnext := flows_pull hr
    rw [hpull] at hunread hnext
    rw [fill_of_pull hended (.inl rfl) hr hpull,
      fill_of_pull (r := r.unread piece) hended (.inl rfl) hr hunread]
    exact ih hnext
  | case4 r hgo next hpull hge => exact absurd (supply_pull hr hpull) hge

/-- Filling to the end is filling once, followed by filling to the end. -/
theorem fill_cases (hr : r.channel.Flows) :
    (∃ e next, r.fill false = (.error e, next) ∧ r.fill true = (.error e, next)) ∨
      ∃ next, r.fill false = (.ok (), next) ∧ r.fill true = next.fill true ∧
        (next.ended = true ∨ next.pending ≠ []) := by
  induction r using fill.induct false with
  | case1 r hstop =>
    have hready : r.ended = true ∨ r.pending ≠ [] := by simpa using hstop
    exact .inr ⟨r, by rw [fill, if_pos hstop], rfl, hready⟩
  | case2 r hgo e next hpull =>
    have hended := not_ended_of_fill hgo
    have hnone : r.pending = [] := by simpa [hended] using hgo
    exact .inl ⟨e, next, fill_of_pull_error hended (.inr hnone) hpull,
      fill_of_pull_error hended (.inl rfl) hpull⟩
  | case3 r hgo next hpull hlt ih =>
    have hended := not_ended_of_fill hgo
    have hnone : r.pending = [] := by simpa [hended] using hgo
    have hnext := flows_pull hr
    rw [hpull] at hnext
    rw [fill_of_pull hended (.inr hnone) hr hpull, fill_of_pull hended (.inl rfl) hr hpull]
    exact ih hnext
  | case4 r hgo next hpull hge => exact absurd (supply_pull hr hpull) hge

theorem read_none (hopen : r.closed = false) :
    r.read none =
      match r.fill true with
      | (.error e, r) => (.error e, r)
      | (.ok (), r) => (.ok r.pending, { r with pending := [] }) := by
  simp only [read, hopen]
  rfl

theorem read_none_unread (piece : Bytes) (hr : r.channel.Flows) (hopen : r.closed = false) :
    (r.unread piece).read none =
      match r.read none with
      | (.error e, last) => (.error e, last.unread piece)
      | (.ok rest, last) => (.ok (piece ++ rest), last) := by
  rw [read_none (r := r.unread piece) hopen, fill_unread piece hr, read_none hopen]
  rcases r.fill true with ⟨e | ⟨⟩, filled⟩
  · rfl
  · rfl

/-- A bounded reading can be split off an unbounded one. -/
theorem read_none_cases (hr : r.channel.Flows) (hopen : r.closed = false) (hsize : 0 < size) :
    (∃ e last, r.read (some (size : Int)) = (.error e, last) ∧ r.read none = (.error e, last)) ∨
    (∃ last, r.read (some (size : Int)) = (.ok [], last) ∧ r.read none = (.ok [], last)) ∨
    ∃ piece next, piece ≠ [] ∧ r.read (some (size : Int)) = (.ok piece, next) ∧
      r.read none = (next.unread piece).read none ∧ next.channel.Flows ∧ next.closed = false := by
  have hflows := flows_fill hr false
  have hclosed := closed_fill r false
  rw [read_some hopen, read_none hopen]
  obtain ⟨e, last, hfill, hall⟩ | ⟨filled, hfill, hall, hready⟩ := fill_cases hr
  · rw [hfill, hall]
    exact .inl ⟨e, last, rfl, rfl⟩
  · rw [hfill, hall]
    by_cases hnone : filled.pending = []
    · right; left
      refine ⟨{ filled with pending := [] }, ?_, ?_⟩
      · simp only [hnone, List.take_nil, List.drop_nil]
      · rw [fill_of_ended (hready.resolve_right (not_not_intro hnone))]
        simp only [hnone]
    · right; right
      rw [hfill] at hflows hclosed
      have hunread : ({ filled with pending := filled.pending.drop size } : Reader).unread
          (filled.pending.take size) = filled := by
        simp only [unread, List.take_append_drop]
      refine ⟨filled.pending.take size, _, ?_, rfl, ?_, hflows, hclosed.trans hopen⟩
      · rw [ne_eq, List.take_eq_nil_iff, not_or]
        exact ⟨Nat.ne_of_gt hsize, hnone⟩
      · rw [hunread, read_none (hclosed.trans hopen)]

/-- Draining agrees with one unbounded reading, up to the pending bytes after a failure. -/
structure Agrees (drained whole : Except Failure Bytes × Reader) : Prop where
  outcome_eq : drained.1 = whole.1
  state_eq : ∃ pending, drained.2 = { whole.2 with pending }
  settled : ∀ bytes, whole.1 = .ok bytes → drained.2 = whole.2

theorem Agrees.refl (whole : Except Failure Bytes × Reader) : Agrees whole whole :=
  ⟨rfl, ⟨_, rfl⟩, fun _ _ => rfl⟩

theorem agrees_drainBy (hsize : 0 < size) (fuel : Nat) (hr : r.channel.Flows)
    (hopen : r.closed = false) (hfuel : Readable.available r < fuel) :
    Agrees (Readable.drainBy size fuel r) (r.read none) := by
  induction fuel generalizing r with
  | zero => exact absurd hfuel (Nat.not_lt_zero _)
  | succ fuel ih =>
    have hread : Readable.read (some (size : Int)) r = r.read (some (size : Int)) := rfl
    have hle := available_read hopen (some (size : Int))
    rw [Readable.drainBy, hread]
    obtain ⟨e, last, hpiece, hall⟩ | ⟨last, hpiece, hall⟩ |
      ⟨piece, next, hne, hpiece, hall, hflows, hclosed⟩ := read_none_cases hr hopen hsize
    · rw [hpiece, hall]
      exact .refl _
    · rw [hpiece, hall]
      exact .refl _
    · obtain ⟨b, bs, rfl⟩ := List.exists_cons_of_ne_nil hne
      rw [hpiece] at hle ⊢
      have hleft : bs.length + 1 + Readable.available next ≤ Readable.available r := hle
      have hlater := ih hflows hclosed (by omega)
      rw [hall, read_none_unread _ hflows hclosed]
      simp only
      generalize Readable.drainBy (size : Int) fuel next = drained at hlater ⊢
      generalize next.read none = whole at hlater ⊢
      obtain ⟨houtcome, ⟨pending, hstate⟩, hsettled⟩ := hlater
      rcases drained with ⟨e | rest, last⟩
      · rcases whole with ⟨e' | rest', last'⟩
        · cases houtcome
          exact ⟨rfl, ⟨pending, hstate⟩, fun _ hok => by cases hok⟩
        · cases houtcome
      · rcases whole with ⟨e' | rest', last'⟩
        · cases houtcome
        · cases houtcome
          exact ⟨rfl, ⟨pending, hstate⟩, fun _ _ => hsettled rest rfl⟩

/-- Unbounded reading, draining and reading into a buffer agree. -/
theorem readings_agree (buffer : Bytes) (s : BodyStream) (r : Reader) (hopen : r.closed = false)
    (hflows : r.channel.Flows) :
    (WritesInto buffer (s.read (some (buffer.length : Int))) (s.readInto buffer) ∧
      s.readAll = s.read (some (-1))) ∧
    WritesInto buffer (r.read (some (buffer.length : Int))) (r.readInto buffer) ∧
    Agrees r.readAll (r.read (some (-1))) ∧
    (∀ size : Nat, 0 < size → ∀ fuel, Readable.available r < fuel →
      Agrees (Readable.drainBy size fuel r) (r.read (some (-1)))) ∧
    ∀ call, (r.perform call).2.channel.Flows := by
  have hdrains : ∀ size : Nat, 0 < size → ∀ fuel, Readable.available r < fuel →
      Agrees (Readable.drainBy size fuel r) (r.read (some (-1))) :=
    fun size hsize fuel hfuel => agrees_drainBy hsize fuel hflows hopen hfuel
  have hsize : 0 < 8192 := by decide
  exact ⟨⟨s.writesInto_readInto buffer, s.readAll_eq⟩, r.writesInto_readInto buffer,
    hdrains 8192 hsize _ (Nat.lt_succ_self _), hdrains, flows_perform hflows⟩

theorem readings_agree_brokenOff :
    let r : Reader := { channel := brokenOff }
    r.closed = false ∧ r.channel.Flows ∧
      r.read (some (-1)) = (.error (.fault .disconnected),
        { channel := brokenOff.left 2, pending := [97, 98], messages := 2, ended := true }) ∧
      r.readAll.1 = .error (.fault .disconnected) ∧ ∃ pending, r.readAll.2 =
        { channel := brokenOff.left 2, pending, messages := 2, ended := true } := by
  intro r
  have hflows : r.channel.Flows := trivial
  have hpart : r.pull = (.ok (),
      { channel := brokenOff.left 1, pending := [97, 98], messages := 1 }) :=
    pull_of_part (r := r) (m := .part [97, 98] true) rfl rfl
  have hgone : r.pull.2.pull = (.error (.fault .disconnected),
      { channel := brokenOff.left 2, pending := [97, 98], messages := 2, ended := true }) :=
    pull_of_disconnect rfl rfl
  rw [hpart] at hgone
  have hread : r.read (some (-1)) = (.error (.fault .disconnected),
      { channel := brokenOff.left 2, pending := [97, 98], messages := 2, ended := true }) := by
    show r.read none = _
    rw [read_none rfl, fill_of_pull rfl (.inl rfl) hflows hpart,
      fill_of_pull_error rfl (.inl rfl) hgone]
  obtain ⟨-, -, hagrees, -⟩ := readings_agree [] { content := [], chunk := 4 } r rfl hflows
  rw [hread] at hagrees
  exact ⟨rfl, hflows, hread, hagrees.outcome_eq, hagrees.state_eq⟩

end Reader

end DigestGate
