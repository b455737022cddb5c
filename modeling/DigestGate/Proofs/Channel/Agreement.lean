import DigestGate.Proofs.Body.Lines
import DigestGate.Proofs.Channel.Buffering
import DigestGate.Proofs.Channel.Completion
import DigestGate.Proofs.Request.Run

namespace DigestGate

namespace StreamCall

/-- Calls whose answer does not depend on how the body is divided into messages. -/
def TakesWhole : StreamCall → Prop
  | .readLine _ | .readLines _ | .readAll => True
  | .read size => Readable.bound size = none
  | _ => False

/-- The answer to such a call when `bytes` are left, and the bytes left after it. -/
def given (call : StreamCall) (bytes : Bytes) : Except Failure StreamAnswer × Bytes :=
  match call with
  | .readLine limit =>
    if limit.all Readable.fitsWord then
      let line := Bytes.line (Readable.bound limit) bytes
      (.ok (.bytes line), bytes.drop line.length)
    else (.error (.fault (.stream .sizeTooLarge)), bytes)
  | .readLines hint =>
    if hint.all Readable.fitsWord then
      let lines := Bytes.lines (Readable.bound hint) 0 bytes
      (.ok (.list lines), bytes.drop lines.flatten.length)
    else (.error (.fault (.stream .sizeTooLarge)), bytes)
  | .read _ | .readAll => (.ok (.bytes bytes), [])
  | _ => (.ok .unknown, bytes)

def inTurn {σ : Type} (perform : StreamCall → σ → Except Failure StreamAnswer × σ) :
    List StreamCall → σ → List (Except Failure StreamAnswer)
  | [], _ => []
  | call :: calls, s => (perform call s).1 :: inTurn perform calls (perform call s).2

/-- Readings of positive sizes succeed, and they have brought `body` once one is empty. -/
def ReadsUp {σ : Type} (perform : StreamCall → σ → Except Failure StreamAnswer × σ) (s : σ)
    (body : Bytes) : Prop :=
  ∀ sizes : List Int, (∀ size ∈ sizes, 0 < size) →
    ∃ pieces : List Bytes,
      inTurn perform (sizes.map fun size => .read (some size)) s =
        pieces.map (fun piece => .ok (.bytes piece)) ∧
      ([] ∈ pieces → pieces.flatten = body) ∧ (body.length < sizes.length → [] ∈ pieces)

end StreamCall

namespace Readable.Serves

variable {σ : Type} [Readable σ] {P : σ → Bytes → Prop} {s : σ} {bytes : Bytes} {size : Int}

theorem read_pos (h : Serves P) (hs : P s bytes) (hsize : 0 < size) :
    ∃ piece rest next, read (some size) s = (.ok piece, next) ∧ piece ++ rest = bytes ∧
      (piece = [] → rest = []) ∧ P next rest := by
  obtain ⟨n, rfl⟩ := Int.eq_ofNat_of_zero_le (Int.le_of_lt hsize)
  obtain ⟨piece, rest, next, hread, hsplit, -, hnothing, hnext⟩ :=
    h.read_some hs (Int.natCast_pos.1 hsize)
  exact ⟨piece, rest, next, hread, hsplit, hnothing, hnext⟩

theorem readLine (h : Serves P) (limit : Option Int) (hs : P s bytes) :
    ∃ next, answering .bytes (Readable.readLine limit s) =
        ((StreamCall.readLine limit).given bytes |>.1, next) ∧
      P next ((StreamCall.readLine limit).given bytes).2 := by
  rw [Readable.readLine, StreamCall.given]
  by_cases hfits : limit.all fitsWord
  · obtain ⟨next, hline, hnext⟩ :=
      h.lineWithin (bound limit) hs (Nat.lt_succ_of_le (h.length_le hs))
    rw [if_pos hfits, if_pos hfits, hline]
    exact ⟨next, rfl, hnext⟩
  · rw [if_neg hfits, if_neg hfits]
    exact ⟨s, rfl, hs⟩

theorem readLines (h : Serves P) (hint : Option Int) (hs : P s bytes) :
    ∃ next, answering .list (Readable.readLines hint s) =
        ((StreamCall.readLines hint).given bytes |>.1, next) ∧
      P next ((StreamCall.readLines hint).given bytes).2 := by
  rw [Readable.readLines, StreamCall.given, h.isClosed_eq hs]
  by_cases hfits : hint.all fitsWord
  · have hlt := Nat.lt_succ_of_le (h.length_le hs)
    obtain ⟨next, hlines, hnext⟩ := h.linesWithin (bound hint) 0 hs hlt hlt
    rw [if_neg (by simp [hfits]), if_pos hfits, if_neg Bool.false_ne_true]
    simp only [hlines]
    exact ⟨next, rfl, hnext⟩
  · rw [if_pos (by simp [hfits]), if_neg hfits]
    exact ⟨s, rfl, hs⟩

end Readable.Serves

section Agreement

variable {σ : Type} {P : σ → Bytes → Prop} {s : σ} {bytes : Bytes}
  {perform : StreamCall → σ → Except Failure StreamAnswer × σ}

def StreamCall.Gives (perform : StreamCall → σ → Except Failure StreamAnswer × σ)
    (P : σ → Bytes → Prop) : Prop :=
  ∀ call s bytes, call.TakesWhole → P s bytes →
    ∃ next, perform call s = ((call.given bytes).1, next) ∧ P next (call.given bytes).2

theorem StreamCall.Gives.inTurn_eq (h : Gives perform P) {calls : List StreamCall}
    (hcalls : ∀ call ∈ calls, call.TakesWhole) (hs : P s bytes) :
    inTurn perform calls s = inTurn given calls bytes := by
  induction calls generalizing s bytes with
  | nil => rfl
  | cons call calls ih =>
    obtain ⟨hcall, hcalls⟩ := List.forall_mem_cons.1 hcalls
    obtain ⟨next, hperform, hnext⟩ := h call s bytes hcall hs
    rw [inTurn, inTurn, hperform, ih hcalls hnext]

theorem Readable.Serves.readsUp [Readable σ] (h : Serves P)
    (hperform : ∀ size s, perform (.read size) s = answering .bytes (read size s))
    (hs : P s bytes) : StreamCall.ReadsUp perform s bytes := by
  intro sizes hsizes
  suffices hpieces : ∃ (pieces : List Bytes) (rest : Bytes),
      StreamCall.inTurn perform (sizes.map fun size => .read (some size)) s =
        pieces.map (fun piece => .ok (.bytes piece)) ∧
      pieces.flatten ++ rest = bytes ∧ ([] ∈ pieces → rest = []) ∧
      (bytes.length < sizes.length → [] ∈ pieces) by
    obtain ⟨pieces, rest, hanswers, hsplit, hend, hmore⟩ := hpieces
    refine ⟨pieces, hanswers, fun hnothing => ?_, hmore⟩
    rw [← hsplit, hend hnothing, List.append_nil]
  induction sizes generalizing s bytes with
  | nil => exact ⟨[], bytes, rfl, rfl, fun hmem => absurd hmem List.not_mem_nil, nofun⟩
  | cons size sizes ih =>
    obtain ⟨hsize, hsizes⟩ := List.forall_mem_cons.1 hsizes
    obtain ⟨piece, left, next, hread, rfl, hnothing, hnext⟩ := h.read_pos hs hsize
    obtain ⟨pieces, rest, hanswers, rfl, hend, hmore⟩ := ih hnext hsizes
    have hfirst : perform (.read (some size)) s = (.ok (.bytes piece), next) := by
      rw [hperform, hread, answering]
    refine ⟨piece :: pieces, rest, ?_, ?_, ?_, ?_⟩
    · rw [List.map_cons, StreamCall.inTurn, hfirst, hanswers]
      rfl
    · rw [List.flatten_cons, List.append_assoc]
    · intro hmem
      obtain hpiece | hmem := List.mem_cons.1 hmem
      · exact (List.append_eq_nil_iff.1 (hnothing hpiece.symm)).2
      · exact hend hmem
    · intro hlt
      rw [List.length_append, List.length_cons] at hlt
      cases piece with
      | nil => exact List.mem_cons_self
      | cons b bs =>
        apply List.mem_cons_of_mem
        apply hmore
        rw [List.length_cons] at hlt
        omega

end Agreement

namespace BodyStream

def Left (s : BodyStream) (bytes : Bytes) : Prop :=
  s.closed = false ∧ s.rest = bytes

theorem serves_left : Readable.Serves Left where
  isClosed_eq h := h.1
  length_le h := Nat.le_of_eq (congrArg List.length h.2.symm)
  read_all := by
    rintro s _ size ⟨hopen, rfl⟩ hsize
    have hspan : s.span size = s.rest.length := by rw [Cursor.span, hsize, Option.getD_none]
    have hall : (s.advance size).1 = s.rest := by
      show s.rest.take (s.span size) = s.rest
      rw [hspan, List.take_length]
    refine ⟨(s.advance size).2, ?_, hopen, ?_⟩
    · show s.read size = _
      rw [read_open hopen, hall]
    · show s.rest.drop (s.span size) = []
      rw [hspan, List.drop_length]
  read_some := by
    rintro s _ n ⟨hopen, rfl⟩ hn
    refine ⟨s.rest.take n, s.rest.drop n, (s.advance (some n)).2, read_open hopen _,
      List.take_append_drop n _, List.length_take_le n _, fun hnothing => ?_, hopen, rfl⟩
    have hrest : s.rest = [] := (List.take_eq_nil_iff.1 hnothing).resolve_left (Nat.ne_of_gt hn)
    rw [hrest, List.drop_nil]

theorem gives_perform : StreamCall.Gives perform Left := by
  intro call s bytes hcall hs
  cases call with
  | readLine limit => exact serves_left.readLine limit hs
  | readLines hint => exact serves_left.readLines hint hs
  | readAll =>
    have hall : Readable.bound none = none := rfl
    obtain ⟨next, hread, hnext⟩ := serves_left.read_all hs hall
    have hread : s.read none = (.ok bytes, next) := hread
    rw [perform, readAll, hread]
    exact ⟨next, rfl, hnext⟩
  | read size =>
    obtain ⟨next, hread, hnext⟩ := serves_left.read_all hs hcall
    have hread : s.read size = (.ok bytes, next) := hread
    rw [perform, hread]
    exact ⟨next, rfl, hnext⟩
  | _ => exact hcall.elim

end BodyStream

theorem Channel.Delivers.length_le {c left : Channel} {body : Bytes} (h : c.Delivers body left) :
    body.length ≤ c.bytesLeft := by
  induction h with
  | @last c left m hreceive =>
    have hbytes := c.bytesLeft_receive
    rw [hreceive] at hbytes
    exact Nat.le_trans (Nat.le_add_right _ _) hbytes
  | @more c next left m body hreceive _ _ _ ih =>
    have hbytes := c.bytesLeft_receive
    rw [hreceive] at hbytes
    rw [List.length_append]
    exact Nat.le_trans (Nat.add_le_add_left ih _) hbytes

namespace Reader

variable {r next : Reader} {body : Bytes}

/-- The bytes pending and those that the channel still delivers. -/
structure Left (r : Reader) (body : Bytes) : Prop where
  closed_eq : r.closed = false
  flows : r.channel.Flows
  exists_coming : ∃ coming, body = r.pending ++ coming ∧
    (r.ended = true ∧ coming = [] ∨ r.ended = false ∧ ∃ left, r.channel.Delivers coming left)

theorem Left.pull (h : r.Left body) (hended : r.ended = false) (hpull : r.pull = (.ok (), next)) :
    next.Left body := by
  obtain ⟨coming, rfl, ⟨htrue, -⟩ | ⟨-, left, hdelivers⟩⟩ := h.exists_coming
  · cases htrue.symm.trans hended
  · cases hdelivers with
    | @last c left m hreceive hpart hlast =>
      rw [pull_of_part hreceive hpart] at hpull
      cases hpull
      refine ⟨h.closed_eq, h.flows.receive hreceive, [], (List.append_nil _).symm, .inl ⟨?_, rfl⟩⟩
      simpa [hended] using hlast
    | @more c next left m coming hreceive hpart hmore hlater =>
      rw [pull_of_part hreceive hpart] at hpull
      cases hpull
      refine ⟨h.closed_eq, h.flows.receive hreceive, coming, (List.append_assoc _ _ _).symm,
        .inr ⟨?_, left, hlater⟩⟩
      simpa [hended] using hmore

theorem Left.fill {all : Bool} (h : r.Left body) (hfill : r.fill all = (.ok (), next)) :
    next.Left body ∧ (next.ended = true ∨ all = false ∧ next.pending ≠ []) := by
  induction r using fill.induct all with
  | case1 r hstop =>
    rw [Reader.fill, if_pos hstop] at hfill
    cases hfill
    refine ⟨h, ?_⟩
    simpa using hstop
  | case2 r hgo e r' hpull =>
    rw [Reader.fill, if_neg hgo, hpull] at hfill
    cases hfill
  | case3 r hgo pulled hpull hlt ih =>
    rw [Reader.fill, if_neg hgo, hpull] at hfill
    simp only [if_pos hlt] at hfill
    exact ih (h.pull (not_ended_of_fill hgo) hpull) hfill
  | case4 r hgo pulled hpull hle => exact absurd (supply_pull h.flows hpull) hle

theorem Left.exists_pull (h : r.Left body) (hended : r.ended = false) :
    ∃ next, r.pull = (.ok (), next) := by
  obtain ⟨coming, -, ⟨htrue, -⟩ | ⟨-, left, hdelivers⟩⟩ := h.exists_coming
  · cases htrue.symm.trans hended
  · cases hdelivers with
    | last hreceive hpart => exact ⟨_, pull_of_part hreceive hpart⟩
    | more hreceive hpart => exact ⟨_, pull_of_part hreceive hpart⟩

theorem Left.exists_fill (all : Bool) (h : r.Left body) :
    ∃ next, r.fill all = (.ok (), next) := by
  induction r using fill.induct all with
  | case1 r hstop => exact ⟨r, by rw [Reader.fill, if_pos hstop]⟩
  | case2 r hgo e r' hpull =>
    obtain ⟨next, hok⟩ := h.exists_pull (not_ended_of_fill hgo)
    cases hpull.symm.trans hok
  | case3 r hgo pulled hpull hlt ih =>
    obtain ⟨next, hfill⟩ := ih (h.pull (not_ended_of_fill hgo) hpull)
    refine ⟨next, ?_⟩
    rw [Reader.fill, if_neg hgo, hpull]
    simp only [if_pos hlt]
    exact hfill
  | case4 r hgo pulled hpull hle => exact absurd (supply_pull h.flows hpull) hle

theorem Left.length_le (h : r.Left body) : body.length ≤ Readable.available r := by
  obtain ⟨coming, rfl, hcoming⟩ := h.exists_coming
  rw [available_eq, List.length_append]
  apply Nat.add_le_add_left
  obtain ⟨-, rfl⟩ | ⟨-, left, hdelivers⟩ := hcoming
  · exact Nat.zero_le _
  · exact hdelivers.length_le

theorem serves_left : Readable.Serves Left where
  isClosed_eq h := h.closed_eq
  length_le h := h.length_le
  read_all {r body size} h hsize := by
    obtain ⟨filled, hfill⟩ := h.exists_fill true
    obtain ⟨hfilled, hends⟩ := h.fill hfill
    obtain ⟨coming, rfl, hcoming⟩ := hfilled.exists_coming
    have hended : filled.ended = true := hends.resolve_right fun hall => Bool.noConfusion hall.1
    have hnone : coming = [] := by
      obtain ⟨-, hnone⟩ | ⟨hgoing, -⟩ := hcoming
      · exact hnone
      · cases hended.symm.trans hgoing
    subst hnone
    refine ⟨{ filled with pending := [] }, ?_, ?_⟩
    · show r.read size = _
      simp only [Reader.read, h.closed_eq, hsize, hfill, List.append_nil]
      rfl
    · exact ⟨hfilled.closed_eq, hfilled.flows, [], rfl, .inl ⟨hended, rfl⟩⟩
  read_some {r body n} h hn := by
    obtain ⟨filled, hfill⟩ := h.exists_fill false
    obtain ⟨hfilled, hends⟩ := h.fill hfill
    obtain ⟨coming, rfl, hcoming⟩ := hfilled.exists_coming
    refine ⟨filled.pending.take n, filled.pending.drop n ++ coming,
      { filled with pending := filled.pending.drop n }, ?_, ?_, List.length_take_le n _, ?_,
      hfilled.closed_eq, hfilled.flows, coming, rfl, hcoming⟩
    · show r.read (some (n : Int)) = _
      rw [read_some h.closed_eq, hfill]
    · rw [← List.append_assoc, List.take_append_drop]
    · intro hnothing
      have hpending : filled.pending = [] :=
        (List.take_eq_nil_iff.1 hnothing).resolve_left (Nat.ne_of_gt hn)
      have hended : filled.ended = true := hends.resolve_right fun hsome => hsome.2 hpending
      rw [hpending, List.drop_nil, List.nil_append]
      obtain ⟨-, hnone⟩ | ⟨hgoing, -⟩ := hcoming
      · exact hnone
      · cases hended.symm.trans hgoing

theorem gives_perform : StreamCall.Gives perform Left := by
  intro call r body hcall hr
  cases call with
  | readLine limit => exact serves_left.readLine limit hr
  | readLines hint => exact serves_left.readLines hint hr
  | readAll =>
    have hsize : 0 < 8192 := by decide
    obtain ⟨next, hdrain, hnext⟩ :=
      serves_left.drainBy hsize hr (Nat.lt_succ_of_le hr.length_le)
    have hdrain : r.readAll = (.ok body, next) := hdrain
    rw [perform, hdrain]
    exact ⟨next, rfl, hnext⟩
  | read size =>
    obtain ⟨next, hread, hnext⟩ := serves_left.read_all hr hcall
    have hread : r.read size = (.ok body, next) := hread
    rw [perform, hread]
    exact ⟨next, rfl, hnext⟩
  | _ => exact hcall.elim

end Reader

namespace Solo

variable {limits : Limits} {coming : List Receipt}

/-- A complete body within the limit is the body of the request. -/
theorem ensure_whole (hwhole : (Arrival.ofReceipts coming).broken = none)
    (hsize : (Arrival.ofReceipts coming).total ≤ limits.maximum) :
    (host.ensure (start limits { channel := .ofClient coming : Reader })).1 =
      .ok (Arrival.ofReceipts coming).parts.flatten := by
  obtain ⟨pulled, -, hsettles⟩ := ensure_client limits coming []
  rw [Arrival.Settles, if_neg (Nat.not_lt.2 hsize), Arrival.outcome, hwhole] at hsettles
  exact hsettles.2

theorem openBody_buffered {ρ : Type} [BodySource ρ] {source : ρ} {body : Bytes}
    (hbody : (host.ensure (start limits source)).1 = .ok body) :
    (host.openBody (host.ensure (start limits source)).2).1 =
      .ok (.replay { content := body, chunk := limits.chunk }) := by
  have hrequest : host.request (host.ensure (start limits source)).2 =
      { limits, state := .buffered, body := some body } := request_of_ensure hbody
  rw [Host.openBody, hrequest]
  rfl

end Solo

namespace Reader

/-- A reader over messages and a stream over the same body give equal answers to whole calls. -/
theorem answers_agree (coming : List Receipt)
    (hwhole : (Arrival.ofReceipts coming).broken = none) (chunk : Int) :
    let body := (Arrival.ofReceipts coming).parts.flatten
    let reader : Reader := { channel := .ofClient coming }
    let stream : BodyStream := { content := body, chunk }
    (∀ calls : List StreamCall, (∀ call ∈ calls, call.TakesWhole) →
      StreamCall.inTurn Reader.perform calls reader =
        StreamCall.inTurn BodyStream.perform calls stream) ∧
    StreamCall.ReadsUp Reader.perform reader body ∧
    StreamCall.ReadsUp BodyStream.perform stream body ∧
    ∀ limits : Limits,
      let request := Solo.start limits reader
      (Solo.host.openBody request).1 = .ok .source ∧
        (Solo.host.openBody request).2.source = reader ∧
        (body.length ≤ limits.maximum →
          (Solo.host.openBody (Solo.host.ensure request).2).1 =
            .ok (.replay { content := body, chunk := limits.chunk })) := by
  intro body reader stream
  have hdelivers := Channel.delivers_client coming 0 hwhole
  have hreader : reader.Left body :=
    ⟨rfl, trivial, body, rfl, .inr ⟨rfl, _, hdelivers⟩⟩
  have hstream : stream.Left body := ⟨rfl, rfl⟩
  refine ⟨fun calls hcalls => ?_, ?_, ?_, fun limits => ⟨rfl, rfl, fun hsize => ?_⟩⟩
  · rw [gives_perform.inTurn_eq hcalls hreader,
      BodyStream.gives_perform.inTurn_eq hcalls hstream]
  · exact serves_left.readsUp (fun _ _ => rfl) hreader
  · exact BodyStream.serves_left.readsUp (fun _ _ => rfl) hstream
  · exact Solo.openBody_buffered (Solo.ensure_whole hwhole hsize)

def cutLine : List Receipt :=
  [.message (.part [104, 105] true), .message (.part [] true), .message (.part [10, 33] false)]

theorem answers_agree_cutLine :
    (Arrival.ofReceipts cutLine).broken = none ∧
      (∀ call ∈ [StreamCall.readLine (some 9), .readLines none], call.TakesWhole) ∧
      StreamCall.inTurn Reader.perform [.readLine (some 9), .readLines none]
          { channel := .ofClient cutLine } =
        [.ok (.bytes [104, 105, 10]), .ok (.list [[33]])] := by
  have hcalls : ∀ call ∈ [StreamCall.readLine (some 9), .readLines none], call.TakesWhole :=
    List.forall_mem_cons.2 ⟨trivial, List.forall_mem_singleton.2 trivial⟩
  obtain ⟨hagree, -⟩ := answers_agree cutLine rfl 4
  exact ⟨rfl, hcalls, (hagree _ hcalls).trans (by decide)⟩

end Reader

end DigestGate
