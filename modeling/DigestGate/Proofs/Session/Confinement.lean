import DigestGate.Proofs.Request.Run
import DigestGate.Proofs.Session.Holding

namespace DigestGate

/-- The limits are unchanged, and so is the phase unless it was fresh. -/
structure Request.Continues (r r' : Request) : Prop where
  limits_eq : r'.limits = r.limits
  phase_eq : r.phase ≠ .fresh → r'.phase = r.phase

theorem Request.Continues.refl (r : Request) : r.Continues r :=
  ⟨rfl, fun _ => rfl⟩

theorem Request.Continues.trans {r r' r'' : Request} (h : r.Continues r') (h' : r'.Continues r'') :
    r.Continues r'' where
  limits_eq := h'.limits_eq.trans h.limits_eq
  phase_eq hp := by
    have hp' := h.phase_eq hp
    rw [← hp'] at hp ⊢
    exact h'.phase_eq hp

namespace Session

variable {ρ : Type} {s s' s'' base : Session ρ} {r : Request} {k m q : Nat} {feed : Feed}

/-- Operations of request `k` may change request `q`. -/
def Reaches (k : Nat) (feed : Feed) (q : Nat) : Prop :=
  q = k ∨ feed = .client ∧ q = 0

/-- The parts of a session that operations of request `k` leave unchanged. -/
structure Stays (k : Nat) (feed : Feed) (s s' : Session ρ) : Prop where
  client_eq : s'.client = s.client
  source_eq : feed ≠ .client → s'.source = s.source
  feeds_eq : s'.layers.map Layer.feed = s.layers.map Layer.feed
  layers_eq : ∀ m, ¬ Reaches k feed m → s'.layers[m]? = s.layers[m]?
  continues : ∀ m, (s.request m).Continues (s'.request m)
  streams_length : s'.table.streams.length = s.table.streams.length
  streams_eq : ∀ i, feed ≠ .replay i → s'.table.streams[i]? = s.table.streams[i]?
  walks_eq : s'.table.walks = s.table.walks
  handles_eq : s'.handles = s.handles

theorem Stays.refl (k : Nat) (feed : Feed) (s : Session ρ) : Stays k feed s s :=
  ⟨rfl, fun _ => rfl, rfl, fun _ _ => rfl, fun _ => .refl _, rfl, fun _ _ => rfl, rfl, rfl⟩

theorem Stays.trans (h : Stays k feed s s') (h' : Stays k feed s' s'') : Stays k feed s s'' where
  client_eq := h'.client_eq.trans h.client_eq
  source_eq hfeed := (h'.source_eq hfeed).trans (h.source_eq hfeed)
  feeds_eq := h'.feeds_eq.trans h.feeds_eq
  layers_eq m hm := (h'.layers_eq m hm).trans (h.layers_eq m hm)
  continues m := (h.continues m).trans (h'.continues m)
  streams_length := h'.streams_length.trans h.streams_length
  streams_eq i hi := (h'.streams_eq i hi).trans (h.streams_eq i hi)
  walks_eq := h'.walks_eq.trans h.walks_eq
  handles_eq := h'.handles_eq.trans h.handles_eq

theorem request_congr (h : s'.layers[m]? = s.layers[m]?) : s'.request m = s.request m := by
  rw [request, request, h]

theorem Stays.request_eq (h : Stays k feed s s') (hm : ¬ Reaches k feed m) :
    s'.request m = s.request m :=
  request_congr (h.layers_eq m hm)

theorem request_setRequest_cases (r : Request) (s : Session ρ) (q m : Nat) :
    ((bare q).setRequest r s).request m = s.request m ∨
      m = q ∧ ((bare q).setRequest r s).request m = r := by
  rw [request, layers_setRequest]
  by_cases hm : q = m
  · subst hm
    rw [if_pos rfl]
    cases hlayer : s.layers[q]? with
    | none =>
      rw [request, hlayer]
      exact .inl rfl
    | some layer => exact .inr ⟨rfl, rfl⟩
  · rw [if_neg hm]
    exact .inl rfl

theorem Stays.setRequest (h : Stays k feed base s) (hq : Reaches k feed q)
    (hr : (base.request q).Continues r) : Stays k feed base ((bare q).setRequest r s) where
  client_eq := h.client_eq
  source_eq := h.source_eq
  feeds_eq := (feeds_setRequest r s).trans h.feeds_eq
  layers_eq m hm := by
    have hne : q ≠ m := by
      rintro rfl
      exact hm hq
    rw [layers_setRequest, if_neg hne]
    exact h.layers_eq m hm
  continues m := by
    obtain heq | ⟨rfl, heq⟩ := request_setRequest_cases r s q m
    · rw [heq]
      exact h.continues m
    · rw [heq]
      exact hr
  streams_length := h.streams_length
  streams_eq := h.streams_eq
  walks_eq := h.walks_eq
  handles_eq := h.handles_eq

def Valid (s : Session ρ) : Prop :=
  ∀ m, (s.request m).Valid

theorem Valid.setRequest (h : s.Valid) (hr : r.Valid) : ((bare q).setRequest r s).Valid := by
  intro m
  obtain heq | ⟨-, heq⟩ := request_setRequest_cases r s q m
  · rw [heq]
    exact h m
  · rw [heq]
    exact hr

/-- The session is valid and was reached from `base` by operations of request `k`. -/
structure Within (k : Nat) (feed : Feed) (base s : Session ρ) : Prop where
  stays : Stays k feed base s
  valid : s.Valid
  feed_eq : (s.layers.map Layer.feed)[k]? = some feed

theorem within_self (h : s.Valid) (hk : (s.layers.map Layer.feed)[k]? = some feed) :
    Within k feed s s :=
  ⟨.refl k feed s, h, hk⟩

namespace Within

section

variable (h : Within k feed base s)
include h

theorem trans (h' : Within k feed s s') : Within k feed base s' :=
  ⟨h.stays.trans h'.stays, h'.valid, h'.feed_eq⟩

theorem lt_of_reaches (hq : Reaches k feed q) : q < s.layers.length := by
  obtain ⟨hlt, -⟩ := List.getElem?_eq_some_iff.1 h.feed_eq
  rw [List.length_map] at hlt
  obtain rfl | ⟨-, rfl⟩ := hq
  · exact hlt
  · exact Nat.zero_lt_of_lt hlt

theorem request_setRequest (hq : Reaches k feed q) (r : Request) :
    ((bare q).setRequest r s).request q = r := by
  rw [request, layers_setRequest, if_pos rfl, List.getElem?_eq_getElem (h.lt_of_reaches hq)]
  rfl

theorem fresh_of_fresh (hp : (s.request q).phase = .fresh) : (base.request q).phase = .fresh := by
  by_cases hfresh : (base.request q).phase = .fresh
  · exact hfresh
  · rw [← hp, (h.stays.continues q).phase_eq hfresh]

theorem note (q : Nat) (entry : Log.Entry) : Within k feed base ((bare q).note entry s) :=
  ⟨⟨h.stays.client_eq, h.stays.source_eq, h.stays.feeds_eq, h.stays.layers_eq, h.stays.continues,
    h.stays.streams_length, h.stays.streams_eq, h.stays.walks_eq, h.stays.handles_eq⟩, h.valid,
    h.feed_eq⟩

theorem move (hq : Reaches k feed q) {r : Request} (hmoves : (s.request q).Moves r)
    (hp : (base.request q).phase = .fresh ∨ r.phase = (s.request q).phase) :
    Within k feed base ((bare q).setRequest r s) := by
  refine ⟨h.stays.setRequest hq ⟨?_, fun hfresh => ?_⟩,
    h.valid.setRequest (hmoves.valid (h.valid q)), ?_⟩
  · rw [hmoves.limits_eq, (h.stays.continues q).limits_eq]
  · rw [hp.resolve_left hfresh, (h.stays.continues q).phase_eq hfresh]
  · rw [feeds_setRequest]
    exact h.feed_eq

theorem putSource (hfeed : feed = .client) (source : ρ) : Within k feed base { s with source } :=
  ⟨⟨h.stays.client_eq, fun hne => absurd hfeed hne, h.stays.feeds_eq, h.stays.layers_eq,
    h.stays.continues, h.stays.streams_length, h.stays.streams_eq, h.stays.walks_eq,
    h.stays.handles_eq⟩, h.valid, h.feed_eq⟩

theorem setStream {i : Nat} (hfeed : feed = .replay i) (stream : BodyStream) :
    Within k feed base
      { s with table := { s.table with streams := s.table.streams.set i stream } } := by
  refine ⟨⟨h.stays.client_eq, h.stays.source_eq, h.stays.feeds_eq, h.stays.layers_eq,
    h.stays.continues, ?_, ?_, h.stays.walks_eq, h.stays.handles_eq⟩, h.valid, h.feed_eq⟩
  · rw [List.length_set]
    exact h.stays.streams_length
  · intro i' hi'
    have hne : i ≠ i' := by
      rintro rfl
      exact hi' hfeed
    rw [List.getElem?_set_ne hne]
    exact h.stays.streams_eq i' hi'

end

end Within

def equipped (q : Nat) (read : Nat → Session ρ → Except Failure Piece × Session ρ)
    (close : Session ρ → Closing × Session ρ) : Host (Session ρ) :=
  { bare q with read, close }

def gathered (h : Host (Session ρ)) (s : Session ρ) : Except Shortfall Bytes :=
  (gather (h.read (h.request s).limits.chunk) (h.request s).limits.maximum 0
    (h.setPhase .buffering s)).1

theorem Within.phase_buffering (h : Within k feed base s)
    (hbase : (base.request q).phase = .buffering) : (s.request q).phase = .buffering := by
  rw [← hbase]
  apply (h.stays.continues q).phase_eq
  rw [hbase]
  exact Phase.noConfusion

section Buffering

variable {read : Nat → Session ρ → Except Failure Piece × Session ρ}
  {close : Session ρ → Closing × Session ρ} {body : Bytes} {outcome : Except Shortfall Bytes}
  (hread : ∀ {base s}, Within k feed base s → ∀ n, Within k feed base (read n s).2)
  (hclose : ∀ {base s}, Within k feed base s → Within k feed base (close s).2)
  (hquiet : ∀ {base s}, Within k feed base s → (close s).1.raised = .ok ())
  (hq : Reaches k feed q)

include hclose in
theorem Within.release (h : Within k feed base s) :
    Within k feed base ((equipped q read close).release s).2 := by
  have hclosed : Within k feed base ((equipped q read close).close s).2 := hclose h
  rw [Host.release]
  generalize (equipped q read close).close s = closing at hclosed ⊢
  obtain ⟨_ | message | message, next⟩ := closing
  · exact hclosed
  · exact hclosed.note q _
  · exact hclosed

include hquiet in
theorem Within.release_fst (h : Within k feed base s) :
    ((equipped q read close).release s).1 = .ok () := by
  rw [Host.release_fst]
  exact hquiet h

include hq in
theorem Within.fail (h : Within k feed base s) (hfresh : (base.request q).phase = .fresh)
    (hp : (s.request q).phase = .buffering) (e : BodyError) :
    Within k feed base ((bare q).note (.bufferingFailed e) ((bare q).setPhase (.failed e) s)) :=
  (h.move hq (.lose e hp) (.inl hfresh)).note q _

include hclose hq

variable (read) in
theorem Within.lose (h : Within k feed base s) (hfresh : (base.request q).phase = .fresh)
    (hp : (s.request q).phase = .buffering) (e : BodyError) :
    let host := equipped q read close
    let last := (host.release (host.note (.bufferingFailed e) (host.setPhase (.failed e) s))).2
    Within k feed base last ∧ (last.request q).phase = .failed e := by
  intro host last
  have hlost : Within k feed base (host.note (.bufferingFailed e) (host.setPhase (.failed e) s)) :=
    h.fail hq hfresh hp e
  have hreleased : Within k feed (host.note _ (host.setPhase (.failed e) s)) last :=
    Within.release hclose (within_self hlost.valid hlost.feed_eq)
  refine ⟨hlost.trans hreleased, ?_⟩
  have hphase : ((host.note (.bufferingFailed e) (host.setPhase (.failed e) s)).request q).phase =
      .failed e :=
    (congrArg Request.phase (h.request_setRequest hq _)).trans (Request.phase_enter _ _)
  rw [← hphase]
  apply (hreleased.stays.continues q).phase_eq
  rw [hphase]
  exact Phase.noConfusion

variable (read) in
theorem Within.keep (h : Within k feed base s) (hfresh : (base.request q).phase = .fresh)
    (hp : (s.request q).phase = .buffering)
    (hbody : body.length ≤ (s.request q).limits.maximum) (entry : Log.Entry) :
    let host := equipped q read close
    let last := host.note entry (host.setPhase (.buffered body) (host.release s).2)
    Within k feed base last ∧ (last.request q).phase = .buffered body ∧
      (last.request q).cache = {} := by
  intro host last
  have hreleased : Within k feed s (host.release s).2 :=
    Within.release hclose (within_self h.valid h.feed_eq)
  have hbuffering := hreleased.phase_buffering hp
  have hmoves : ((host.release s).2.request q).Moves
      (((host.release s).2.request q).enter (.buffered body)) := by
    apply Request.Moves.keep hbuffering
    rwa [(hreleased.stays.continues q).limits_eq]
  refine ⟨((h.trans hreleased).move hq hmoves (.inl hfresh)).note q _, ?_⟩
  have hlast : last.request q = ((host.release s).2.request q).enter (.buffered body) :=
    hreleased.request_setRequest hq _
  rw [hlast, Request.phase_enter, Request.cache_enter]
  refine ⟨rfl, (hreleased.valid q).cache_eq ?_⟩
  rw [hbuffering]
  exact nofun

variable (read) in
theorem Within.conclude (h : Within k feed base s) (hfresh : (base.request q).phase = .fresh)
    (hp : (s.request q).phase = .buffering)
    (hle : ∀ body, outcome = .ok body → body.length ≤ (s.request q).limits.maximum) :
    let host := equipped q read close
    let after := host.conclude (outcome, s)
    Within k feed base after.2 ∧ ∀ body, after.1 = .ok body →
      (after.2.request q).phase = .buffered body ∧ (after.2.request q).cache = {} := by
  intro host after
  cases outcome with
  | error e =>
    refine ⟨(h.lose read hclose hq hfresh hp e.remembered).1, fun body hbody => ?_⟩
    obtain ⟨_, hgathered, -⟩ := Host.conclude_eq_ok hbody
    cases hgathered
  | ok body =>
    have hreleased : Within k feed base (host.release s).2 := h.release hclose
    have hkept := h.keep read hclose hq hfresh hp (hle body rfl)
    have hafter : after = host.conclude (.ok body, s) := rfl
    rw [Host.conclude] at hafter
    have hkept (entry : Log.Entry) : Within k feed base
        (host.note entry (host.setPhase (.buffered body) (host.release s).2)) ∧ _ := hkept entry
    generalize host.release s = released at hreleased hkept hafter
    obtain ⟨_ | _, last⟩ := released
    · rw [hafter]
      exact ⟨hreleased, fun _ hbody => by cases hbody⟩
    · rw [hafter]
      refine ⟨(hkept _).1, ?_⟩
      rintro _ ⟨⟩
      exact (hkept _).2

variable (read) in
include hquiet in
theorem Within.conclude_quiet (h : Within k feed base s)
    (hfresh : (base.request q).phase = .fresh) (hp : (s.request q).phase = .buffering)
    (hle : ∀ body, outcome = .ok body → body.length ≤ (s.request q).limits.maximum) :
    let host := equipped q read close
    let after := host.conclude (outcome, s)
    after.1 = outcome.mapError Shortfall.reported ∧
      (after.2.request q).phase.settled? = some (outcome.mapError Shortfall.remembered) := by
  intro host after
  cases outcome with
  | error e =>
    have hreleased : (host.release (host.note (.bufferingFailed e.remembered)
        (host.setPhase (.failed e.remembered) s))).1 = .ok () :=
      (h.fail hq hfresh hp e.remembered).release_fst hquiet
    refine ⟨?_, congrArg Phase.settled? (h.lose read hclose hq hfresh hp e.remembered).2⟩
    show (host.release _).1.bind (fun _ => _) = _
    rw [hreleased]
    rfl
  | ok body =>
    have houtcome : after.1 = .ok body := Host.conclude_of_release (h.release_fst hquiet)
    have hphase := ((h.conclude read hclose hq hfresh hp hle).2 body houtcome).1
    exact ⟨houtcome, congrArg Phase.settled? hphase⟩

include hread

variable (close) in
omit hclose in
theorem Within.exists_conclude (h : Within k feed base s) (hp : (s.request q).phase = .fresh) :
    let host := equipped q read close
    ∃ last, host.buffer s = host.conclude (gathered host s, last) ∧ Within k feed base last ∧
      (last.request q).phase = .buffering ∧ ∀ body, gathered host s = .ok body →
        body.length ≤ (last.request q).limits.maximum := by
  intro host
  have hbegun : Within k feed base (host.setPhase .buffering s) :=
    h.move hq (.begin hp) (.inl (h.fresh_of_fresh hp))
  have hbuffering : (host.setPhase .buffering s).request q = (s.request q).enter .buffering :=
    h.request_setRequest hq _
  have hrequest : host.request s = s.request q := rfl
  have hgather : Within k feed (host.setPhase .buffering s)
      (gather (host.read (s.request q).limits.chunk) (s.request q).limits.maximum 0
        (host.setPhase .buffering s)).2 :=
    gather_induct (fun s hs => hread hs _) (within_self hbegun.valid hbegun.feed_eq)
  rw [Host.buffer, gathered, hrequest]
  rcases houtcome : gather (host.read (s.request q).limits.chunk) (s.request q).limits.maximum 0
    (host.setPhase .buffering s) with ⟨outcome, last⟩
  rw [houtcome] at hgather
  refine ⟨last, rfl, hbegun.trans hgather, hgather.phase_buffering ?_, ?_⟩
  · rw [hbuffering, Request.phase_enter]
  · rintro body rfl
    rw [(hgather.stays.continues q).limits_eq, hbuffering, Request.limits_enter]
    exact length_le_of_gather houtcome

theorem Within.buffer (h : Within k feed base s) (hp : (s.request q).phase = .fresh) :
    let after := (equipped q read close).buffer s
    Within k feed base after.2 ∧ ∀ body, after.1 = .ok body →
      (after.2.request q).phase = .buffered body ∧ (after.2.request q).cache = {} := by
  intro after
  obtain ⟨last, hbuffer, hlast, hbuffering, hle⟩ := h.exists_conclude close hread hq hp
  have hafter := hlast.conclude read hclose hq (h.fresh_of_fresh hp) hbuffering hle
  simp only [← hbuffer] at hafter
  exact hafter

include hquiet in
theorem Within.buffer_quiet (h : Within k feed base s) (hp : (s.request q).phase = .fresh) :
    let host := equipped q read close
    (host.buffer s).1 = (gathered host s).mapError Shortfall.reported ∧
      ((host.buffer s).2.request q).phase.settled? =
        some ((gathered host s).mapError Shortfall.remembered) := by
  intro host
  obtain ⟨last, hbuffer, hlast, hbuffering, hle⟩ := h.exists_conclude close hread hq hp
  have hafter :=
    hlast.conclude_quiet read hclose hquiet hq (h.fresh_of_fresh hp) hbuffering hle
  simp only [← hbuffer] at hafter
  exact hafter

/-- Operations preserve `Within`. -/
theorem equipped_keeps : (equipped q read close).Keeps (Within k feed base) where
  note h entry := h.note q entry
  buffer h hp := (h.buffer hread hclose hq hp).1
  buffered h hp hbody := ((h.buffer hread hclose hq hp).2 _ hbody).1
  store h hp hne a := h.move hq (.store a hp hne) (.inr rfl)
  handOut h hp := by
    apply h.move hq (.handOut hp)
    obtain hp | hp := hp
    · exact .inl (h.fresh_of_fresh hp)
    · exact .inr hp.symm

end Buffering

theorem Within.converse {α : Type} (h : Within k .client base s) (exchange : Exchange α ρ) :
    Within k .client base (s.converse exchange).2 := by
  have hkeeps : (bare 0).Keeps (Within (ρ := ρ) k .client base) :=
    equipped_keeps (fun h _ => h) (fun h => h) (.inr ⟨rfl, rfl⟩)
  exact hkeeps.converse (fun h source => h.putSource rfl source) exchange h

variable [BodySource ρ]

theorem Within.readFeed (h : Within k feed base s) (size : Option Int) :
    Within k feed base (s.readFeed feed size).2 := by
  cases feed with
  | client => exact h.converse _
  | replay i =>
    rw [Session.readFeed]
    split
    · exact h
    · exact h.setStream rfl _

theorem Within.closeFeed (h : Within k feed base s) :
    Within k feed base (s.closeFeed feed).2 := by
  cases feed with
  | client => exact h.converse _
  | replay i =>
    rw [Session.closeFeed]
    split
    · exact h
    · exact h.setStream rfl _

theorem Within.read_host (h : Within k feed base s) (n : Nat) :
    Within k feed base ((host k).read n s).2 := by
  rw [Session.read_host, feed_of_feeds h.feed_eq]
  exact h.readFeed _

theorem Within.close_host (h : Within k feed base s) : Within k feed base ((host k).close s).2 := by
  show Within k feed base (s.closeFeed (s.feed k)).2
  rw [feed_of_feeds h.feed_eq]
  exact h.closeFeed

theorem within_keeps : (host k).Keeps (Within (ρ := ρ) k feed base) :=
  equipped_keeps (fun h n => h.read_host n) (fun h => h.close_host) (.inl rfl)

end Session

end DigestGate
