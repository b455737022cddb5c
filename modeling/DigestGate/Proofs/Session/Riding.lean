import DigestGate.Proofs.Body.Admission
import DigestGate.Proofs.Check.Buffered
import DigestGate.Proofs.Session.Effects

namespace DigestGate

namespace Session

variable {ρ : Type} {s s' : Session ρ} {i j k : Nat} {feed : Feed} {limits : Limits} {body : Bytes}

/-- Stream `i` is open at the start of `body` and belongs to request `j` alone. -/
structure Pristine (j i : Nat) (body : Bytes) (s : Session ρ) : Prop where
  exists_stream : ∃ stream, s.table.streams[i]? = some stream ∧ stream.closed = false ∧
    stream.rest = body
  sole : ∀ m, (s.layers.map Layer.feed)[m]? = some (.replay i) → m = j
  unhanded : .replay i ∉ s.handles
  unwalked : ∀ w ∈ s.table.walks, w.1 ≠ i

/-- Request `j` reads stream `i` over `body`, and its phase is a result of that. -/
structure Rides (j i : Nat) (limits : Limits) (body : Bytes) (s : Session ρ) : Prop where
  feed_eq : (s.layers.map Layer.feed)[j]? = some (.replay i)
  limits_eq : (s.request j).limits = limits
  stands : (s.request j).phase = .fresh ∧ s.Pristine j i body ∨
    (s.request j).phase.settled? = some (limits.accept body) ∨ (s.request j).phase = .handedOut

theorem Rides.pristine (h : s.Rides j i limits body) (hp : (s.request j).phase = .fresh) :
    s.Pristine j i body := by
  obtain ⟨-, hpristine⟩ | hsettled | hout := h.stands
  · exact hpristine
  · rw [hp] at hsettled
    cases hsettled
  · cases hp.symm.trans hout

theorem Rides.not_reaches (h : s.Rides j i limits body) (hs : s.Sound) (hk : k ≠ j) :
    ¬ Reaches k feed j := by
  rintro (hj | ⟨-, hj⟩)
  · exact hk hj.symm
  · have hfeed := h.feed_eq
    rw [hj, hs.base_eq] at hfeed
    cases hfeed

theorem Rides.stays (h : s.Rides j i limits body) (hs' : Stays k feed s s')
    (hj : ¬ Reaches k feed j) (hfeed : (s.request j).phase = .fresh → feed ≠ .replay i) :
    s'.Rides j i limits body where
  feed_eq := hs'.feeds_eq ▸ h.feed_eq
  limits_eq := by
    rw [hs'.request_eq hj]
    exact h.limits_eq
  stands := by
    rw [hs'.request_eq hj]
    obtain ⟨hp, hpristine⟩ | hlater := h.stands
    · refine .inl ⟨hp, ?_, ?_, ?_, ?_⟩
      · rw [hs'.streams_eq i (hfeed hp)]
        exact hpristine.exists_stream
      · rw [hs'.feeds_eq]
        exact hpristine.sole
      · rw [hs'.handles_eq]
        exact hpristine.unhanded
      · rw [hs'.walks_eq]
        exact hpristine.unwalked
    · exact .inr hlater

theorem Rides.addStream (h : s.Rides j i limits body) (stream : BodyStream) :
    (s.addStream stream).Rides j i limits body where
  feed_eq := h.feed_eq
  limits_eq := h.limits_eq
  stands := by
    obtain ⟨hp, hpristine⟩ | hlater := h.stands
    · obtain ⟨stream', hstream, hopen⟩ := hpristine.exists_stream
      obtain ⟨hlt, -⟩ := List.getElem?_eq_some_iff.1 hstream
      refine .inl ⟨hp, ⟨stream', ?_, hopen⟩, hpristine.sole, hpristine.unhanded, hpristine.unwalked⟩
      rw [← hstream]
      exact List.getElem?_append_left hlt
    · exact .inr hlater

theorem Rides.addHandle (h : s.Rides j i limits body)
    (hfeed : (s.request j).phase = .fresh → feed ≠ .replay i) :
    (s.addHandle feed).Rides j i limits body where
  feed_eq := h.feed_eq
  limits_eq := h.limits_eq
  stands := by
    obtain ⟨hp, hpristine⟩ | hlater := h.stands
    · refine .inl ⟨hp, hpristine.exists_stream, hpristine.sole, ?_, hpristine.unwalked⟩
      intro hmem
      obtain hmem | hmem := List.mem_append.1 hmem
      · exact hpristine.unhanded hmem
      · exact hfeed hp (List.mem_singleton.1 hmem).symm
    · exact .inr hlater

theorem Rides.addLayer (h : s.Rides j i limits body) (others : Limits) (under : Nat)
    (hfeed : (s.request j).phase = .fresh → feed ≠ .replay i) :
    (s.addLayer others feed under).Rides j i limits body := by
  have hlt := (List.getElem?_eq_some_iff.1 h.feed_eq).1
  have hrequest : (s.addLayer others feed under).request j = s.request j := by
    apply request_congr
    rw [List.length_map] at hlt
    exact List.getElem?_append_left hlt
  have hfeeds : (s.addLayer others feed under).layers.map Layer.feed =
      s.layers.map Layer.feed ++ [feed] := List.map_append
  refine ⟨?_, ?_, ?_⟩
  · rw [hfeeds, List.getElem?_append_left hlt]
    exact h.feed_eq
  · rw [hrequest]
    exact h.limits_eq
  · rw [hrequest]
    obtain ⟨hp, hpristine⟩ | hlater := h.stands
    · refine .inl ⟨hp, hpristine.exists_stream, ?_, hpristine.unhanded, hpristine.unwalked⟩
      intro m hm
      rw [hfeeds, List.getElem?_append] at hm
      split at hm
      · exact hpristine.sole m hm
      · rw [List.getElem?_singleton] at hm
        split at hm
        · cases hm
          exact absurd rfl (hfeed hp)
        · cases hm
    · exact .inr hlater

theorem Rides.setTable (h : s.Rides j i limits body) {handle i' : Nat} {call : StreamCall}
    {answer : Except Failure StreamAnswer} {table : StreamTable}
    (hhandle : s.handles[handle]? = some feed)
    (hfeed : feed = .replay i' ∨ feed = .client ∧ ∃ w ∈ s.table.walks, w.1 = i')
    (hperform : s.table.perform i' call = some (answer, table)) :
    Rides j i limits body { s with table } where
  feed_eq := h.feed_eq
  limits_eq := h.limits_eq
  stands := by
    obtain ⟨hp, hpristine⟩ | hlater := h.stands
    · have hne : i' ≠ i := by
        obtain rfl | ⟨-, w, hw, rfl⟩ := hfeed
        · rintro rfl
          exact hpristine.unhanded (List.mem_of_getElem? hhandle)
        · exact hpristine.unwalked w hw
      have htarget : s.table.target i' call ≠ i := by
        obtain heq | ⟨w, hw, heq⟩ := s.table.target_eq_or_mem i' call
        · rwa [heq]
        · rw [← heq]
          exact hpristine.unwalked w hw
      obtain ⟨-, stream, -, hstreams, -⟩ := StreamTable.moves_perform hperform
      refine .inl ⟨hp, ?_, hpristine.sole, hpristine.unhanded, ?_⟩
      · rw [hstreams, List.getElem?_set_ne htarget]
        exact hpristine.exists_stream
      · intro w hw
        obtain heq | ⟨w', hw', heq⟩ := StreamTable.walk_eq_or_mem hperform hw
        · rwa [heq]
        · rw [← heq]
          exact hpristine.unwalked w' hw'
    · exact .inr hlater

variable [ClientSource ρ]

theorem cuts_host (j i n : Nat) :
    Cuts n ((host j).read n) fun (s : Session ρ) rest => s.feed j = .replay i ∧
      ∃ stream, s.table.streams[i]? = some stream ∧ stream.closed = false ∧ stream.rest = rest := by
  rintro s _ ⟨hfeed, stream, hstream, hopen, rfl⟩
  obtain ⟨hlt, -⟩ := List.getElem?_eq_some_iff.1 hstream
  rw [read_host, hfeed, readFeed, hstream]
  simp only [BodyStream.read_open hopen]
  exact ⟨_, rfl, hfeed, _, List.getElem?_set_self hlt, hopen, rfl⟩

theorem Rides.gathered_eq (h : s.Rides j i limits body) (hp : (s.request j).phase = .fresh) :
    (gathered (host j) s).mapError Shortfall.remembered = limits.accept body ∧
      (gathered (host j) s).mapError Shortfall.reported =
        (limits.accept body).mapError Failure.body := by
  have hrequest : ((host j).request s).limits = limits := h.limits_eq
  have hfeed : ((host j).setPhase .buffering s).feed j = .replay i := by
    apply feed_of_feeds
    rw [← h.feed_eq]
    exact congrArg (·[j]?) (feeds_setRequest _ s)
  rw [gathered, hrequest]
  exact (cuts_host j i limits.chunk).gather_accept ⟨hfeed, (h.pristine hp).exists_stream⟩

theorem Within.raised_close {base : Session ρ} (h : Within j (.replay i) base s) :
    ((host j).close s).1.raised = .ok () := by
  show (s.closeFeed (s.feed j)).1.raised = .ok ()
  rw [feed_of_feeds h.feed_eq, Session.closeFeed]
  split <;> rfl

theorem Rides.buffer (h : s.Rides j i limits body) (hs : s.Valid)
    (hp : (s.request j).phase = .fresh) :
    ((host j).buffer s).1 = (limits.accept body).mapError Failure.body ∧
      ((host j).buffer s).2.Valid ∧ ((host j).buffer s).2.Rides j i limits body ∧
      ∀ held, ((host j).buffer s).1 = .ok held →
        (((host j).buffer s).2.request j).phase = .buffered held ∧
          (((host j).buffer s).2.request j).cache = {} := by
  obtain ⟨hremembered, hreported⟩ := h.gathered_eq hp
  have hself := within_self hs h.feed_eq
  obtain ⟨hwithin, hkept⟩ :=
    hself.buffer (fun h n => h.read_host n) (fun h => h.close_host) (.inl rfl) hp
  obtain ⟨houtcome, hsettled⟩ := hself.buffer_quiet (fun h n => h.read_host n)
    (fun h => h.close_host) (fun h => h.raised_close) (.inl rfl) hp
  have hhost : equipped j (host j).read (host j).close = host (ρ := ρ) j := rfl
  rw [hhost] at hwithin houtcome hsettled hkept
  rw [hremembered] at hsettled
  refine ⟨houtcome.trans hreported, hwithin.valid, ⟨hwithin.feed_eq, ?_, .inr (.inl hsettled)⟩,
    hkept⟩
  rw [(hwithin.stays.continues j).limits_eq]
  exact h.limits_eq

/-- Operations preserve `Rides`. -/
theorem rides_keeps : (host j).Keeps fun s : Session ρ => s.Valid ∧ s.Rides j i limits body where
  note h entry := by
    refine ⟨h.1, h.2.feed_eq, h.2.limits_eq, ?_⟩
    obtain ⟨hp, hpristine⟩ | hlater := h.2.stands
    · exact .inl ⟨hp, hpristine.exists_stream, hpristine.sole, hpristine.unhanded,
        hpristine.unwalked⟩
    · exact .inr hlater
  buffer h hp := by
    obtain ⟨-, hvalid, hrides, -⟩ := h.2.buffer h.1 hp
    exact ⟨hvalid, hrides⟩
  buffered h hp hbody := by
    obtain ⟨-, -, -, hkept⟩ := h.2.buffer h.1 hp
    exact (hkept _ hbody).1
  store {s held} h hp hne a := by
    have hstored := within_keeps.store (within_self h.1 h.2.feed_eq) hp hne a
    have hp : (s.request j).phase = .buffered held := hp
    have hcontinues := hstored.stays.continues j
    refine ⟨hstored.valid, hstored.feed_eq, hcontinues.limits_eq.trans h.2.limits_eq, .inr ?_⟩
    rw [hcontinues.phase_eq (by rw [hp]; exact Phase.noConfusion)]
    obtain ⟨hfresh, -⟩ | hlater := h.2.stands
    · cases hp.symm.trans hfresh
    · exact hlater
  handOut {s} h hp := by
    have hself := within_self h.1 h.2.feed_eq
    have hout := within_keeps.handOut hself hp
    have hrequest : ((host j).setPhase .handedOut s).request j = _ :=
      hself.request_setRequest (.inl rfl) _
    refine ⟨hout.valid, hout.feed_eq, ?_, ?_⟩
    · rw [hrequest]
      exact h.2.limits_eq
    · rw [hrequest]
      exact .inr (.inr rfl)

theorem Rides.opens (h : s.Rides j i limits body) (hs : s.Sound) (hopens : Opens k s feed s') :
    s'.Rides j i limits body ∧ ((s'.request j).phase = .fresh → feed ≠ .replay i) := by
  cases hopens with
  | source hk hp =>
    by_cases hkj : k = j
    · subst hkj
      refine ⟨(rides_keeps.handOut ⟨hs.valid, h⟩ hp).2, fun hfresh => ?_⟩
      have hrequest : ((bare k).setPhase .handedOut s).request k = _ :=
        (within_self hs.valid hk).request_setRequest (.inl rfl) _
      rw [hrequest] at hfresh
      cases hfresh
    · have hstays := (hs.within_source_opened hk hp).stays
      have hreach : ¬ Reaches k feed j := h.not_reaches hs hkj
      have hfeed : (s.request j).phase = .fresh → feed ≠ .replay i := by
        rintro hfresh rfl
        exact hkj ((h.pristine hfresh).sole k hk)
      rw [hstays.request_eq hreach]
      exact ⟨h.stays hstays hreach hfeed, hfeed⟩
  | replay hp =>
    refine ⟨h.addStream _, fun hfresh heq => ?_⟩
    obtain ⟨stream, hstream, -⟩ := (h.pristine hfresh).exists_stream
    obtain ⟨hlt, -⟩ := List.getElem?_eq_some_iff.1 hstream
    cases heq
    exact Nat.lt_irrefl _ hlt

theorem Rides.changes (h : s.Rides j i limits body) (hs : s.Sound) {step : Step}
    (hs' : Changes s step s') : s'.Rides j i limits body := by
  cases hs' with
  | @operate k feed call s' hk hkeeps =>
    by_cases hkj : k = j
    · subst hkj
      exact (hkeeps _ rides_keeps ⟨hs.valid, h⟩).2
    · apply h.stays (hs.within_operate hk hkeeps).stays (h.not_reaches hs hkj)
      rintro hfresh rfl
      exact hkj ((h.pristine hfresh).sole k hk)
  | handOut hopens =>
    obtain ⟨hrides, hfeed⟩ := h.opens hs hopens
    exact hrides.addHandle hfeed
  | unwrapped hopens => exact (h.opens hs hopens).1
  | wrap hopens _ =>
    obtain ⟨hrides, hfeed⟩ := h.opens hs hopens
    exact hrides.addLayer _ _ hfeed
  | source _ hkeeps =>
    have hj : (0 : Nat) ≠ j := by
      rintro rfl
      cases hs.base_eq.symm.trans h.feed_eq
    exact h.stays (hs.within_source hkeeps).stays (h.not_reaches hs hj)
      fun _ => Feed.noConfusion
  | stream hhandle hfeed hperform => exact h.setTable hhandle hfeed hperform

/-- Unless its stream was handed out, the request obtains what its limits accept. -/
theorem Rides.ensure (h : s.Rides j i limits body) (hs : s.Valid)
    (hp : (s.request j).phase ≠ .handedOut) :
    ((host j).ensure s).1 = (limits.accept body).mapError Failure.body := by
  have hrequest : (host j).request s = s.request j := rfl
  obtain ⟨hfresh, -⟩ | hsettled | hout := h.stands
  · rw [Host.ensure, hrequest, hfresh]
    exact (h.buffer hs hfresh).1
  · rw [Host.ensure, hrequest, hsettled]
    cases limits.accept body with
    | error e => rfl
    | ok held => rfl
  · exact absurd hout hp

theorem holds_keeps (k : Nat) (feed : Feed) (base : Session ρ) (body : Bytes) :
    (host k).Keeps fun s : Session ρ => Within k feed base s ∧ (s.request k).Holds body where
  note h entry := ⟨h.1.note k entry, h.2⟩
  buffer h hp := by cases h.2.phase.symm.trans hp
  buffered h hp := by cases h.2.phase.symm.trans hp
  store {s held} h hp hne a := by
    have hphase : Phase.buffered body = .buffered held := h.2.phase.symm.trans hp
    cases hphase
    refine ⟨within_keeps.store h.1 hp hne a, ?_⟩
    show (((bare k).setRequest _ s).request k).Holds body
    rw [h.1.request_setRequest (.inl rfl)]
    exact h.2.store a
  handOut h hp := by
    obtain hp | hp := hp
    · cases h.2.phase.symm.trans hp
    · cases h.2.phase.symm.trans hp

theorem verify_of_holds (hs : s.Valid) (hk : (s.layers.map Layer.feed)[k]? = some feed)
    (hbody : (s.request k).Holds body) (lines : FieldLines) :
    ((host k).verify lines s).1 = .ok (lines.check body) :=
  Host.verify_holds (holds_keeps k feed s body) And.right ⟨within_self hs hk, hbody⟩ lines

theorem Rides.verify (h : s.Rides j i limits body) (hs : s.Valid)
    (hp : (s.request j).phase ≠ .handedOut) (hfits : body.length ≤ limits.maximum)
    (lines : FieldLines) : ((host j).verify lines s).1 = .ok (lines.check body) := by
  have haccept : limits.accept body = .ok body := if_pos hfits
  obtain ⟨hfresh, -⟩ | hsettled | hout := h.stands
  · obtain ⟨houtcome, hvalid, hrides, hkept⟩ := h.buffer hs hfresh
    rw [haccept] at houtcome
    have hcache : (s.request j).cache = {} :=
      (hs j).cache_eq fun body hbody => by cases hfresh.symm.trans hbody
    have hbuffered : Host.Fresh (host j) s := {
      phase_eq := hfresh
      cache_eq := hcache
      buffered := fun {held s'} hbuffer => by
        have hheld := hkept held (congrArg Prod.fst hbuffer)
        rwa [hbuffer] at hheld }
    have hholds : (((host j).buffer s).2.request j).Holds body :=
      (hvalid j).holds (hkept body houtcome).1
    exact Host.verify_of_buffer hbuffered (Prod.ext houtcome rfl)
      (holds_keeps j (.replay i) ((host j).buffer s).2 body) And.right
      ⟨within_self hvalid hrides.feed_eq, hholds⟩ lines
  · rw [haccept] at hsettled
    have hphase : (s.request j).phase = .buffered body := by
      cases hphase : (s.request j).phase with
      | buffered held =>
        rw [hphase] at hsettled
        cases hsettled
        rfl
      | fresh | handedOut | buffering | failed =>
        rw [hphase] at hsettled
        cases hsettled
    exact verify_of_holds hs h.feed_eq ((hs j).holds hphase) lines
  · exact absurd hout hp

end Session

end DigestGate
