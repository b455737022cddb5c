import DigestGate.Proofs.Body.Progress
import DigestGate.Proofs.Request.Keeping
import DigestGate.Proofs.Session.Content
import DigestGate.Session.Basic

namespace DigestGate

theorem Host.Keeps.converse {σ ρ α : Type} {h : Host σ} {P : σ → Prop} (hk : h.Keeps P)
    {put : ρ → σ → σ} (hput : ∀ {s}, P s → ∀ source, P (put source s)) (exchange : Exchange α ρ)
    {s : σ} (hs : P s) : P (h.converse put exchange s).2 := by
  induction exchange generalizing s with
  | done outcome source => exact hput hs source
  | ask operation next ih => exact ih _ (hk.perform operation hs)

/-- The body and the digests of the request are those of `content`. -/
structure Request.Reports (content : Bytes) (r : Request) : Prop where
  body_eq : ∀ body, r.phase = .buffered body → body = content
  digest_eq : ∀ a digest, r.cache.get? a = some digest → digest = a.compute content

theorem Request.reports_start (content : Bytes) (limits : Limits) :
    Reports content { limits } where
  body_eq _ h := by cases h
  digest_eq a _ h := by cases a <;> cases h

theorem Request.Reports.enter {content : Bytes} {r : Request} (h : r.Reports content)
    {p : Phase} (hp : ∀ body, p = .buffered body → body = content) :
    (r.enter p).Reports content where
  body_eq body hbody := hp body ((phase_enter r p).symm.trans hbody)
  digest_eq a digest hdigest := by
    rw [cache_enter] at hdigest
    exact h.digest_eq a digest hdigest

theorem Request.Reports.store {content body : Bytes} {r : Request} (h : r.Reports content)
    (hp : r.phase = .buffered body) (a : Algorithm) :
    Reports content { r with cache := r.cache.set (a.compute body) a } where
  body_eq := h.body_eq
  digest_eq b digest hdigest := by
    obtain ⟨rfl, rfl⟩ | hdigest := DigestCache.of_get?_set hdigest
    · rw [h.body_eq body hp]
    · exact h.digest_eq b digest hdigest

namespace Session

variable {ρ : Type} {s : Session ρ} {r : Request} {j k : Nat} {feed : Feed} {feeds : List Feed}
  {content : Bytes}

/-- Request `k` is fresh and reads `feed`. -/
def Waits (s : Session ρ) (k : Nat) (feed : Feed) : Prop :=
  ∃ layer, s.layers[k]? = some layer ∧ layer.feed = feed ∧ layer.request.phase = .fresh

theorem layers_setRequest (r : Request) (s : Session ρ) (j : Nat) :
    ((bare k).setRequest r s).layers[j]? =
      if k = j then (s.layers[j]?).map fun layer => { layer with request := r }
      else s.layers[j]? := by
  show (s.layers.modify k _)[j]? = _
  rw [List.getElem?_modify]
  by_cases hj : k = j
  · simp [hj]
  · simp [hj]

theorem feeds_setRequest (r : Request) (s : Session ρ) :
    ((bare k).setRequest r s).layers.map Layer.feed = s.layers.map Layer.feed := by
  apply List.ext_getElem?
  intro j
  rw [List.getElem?_map, List.getElem?_map, layers_setRequest]
  by_cases hj : k = j
  · rw [if_pos hj, Option.map_map]
    rfl
  · rw [if_neg hj]

theorem mem_setRequest {layer : Layer} (h : layer ∈ ((bare k).setRequest r s).layers) :
    layer ∈ s.layers ∨ layer.request = r := by
  obtain ⟨j, hj⟩ := List.mem_iff_getElem?.1 h
  rw [layers_setRequest] at hj
  by_cases hk : k = j
  · rw [if_pos hk] at hj
    obtain ⟨layer', -, rfl⟩ := Option.map_eq_some_iff.1 hj
    exact .inr rfl
  · rw [if_neg hk] at hj
    exact .inl (List.mem_of_getElem? hj)

theorem Waits.of_setRequest (h : Waits ((bare k).setRequest r s) j feed) (hr : r.phase ≠ .fresh) :
    s.Waits j feed ∧ k ≠ j := by
  obtain ⟨layer, hlayer, hfeed, hfresh⟩ := h
  rw [layers_setRequest] at hlayer
  by_cases hk : k = j
  · rw [if_pos hk] at hlayer
    obtain ⟨layer', -, rfl⟩ := Option.map_eq_some_iff.1 hlayer
    exact absurd hfresh hr
  · rw [if_neg hk] at hlayer
    exact ⟨⟨layer, hlayer, hfeed, hfresh⟩, hk⟩

theorem waits_concat {layer : Layer} {feed : Feed}
    (h : Waits { s with layers := s.layers ++ [layer] } k feed) :
    s.Waits k feed ∨ k = s.layers.length ∧ layer.feed = feed := by
  obtain ⟨layer', hlayer, hfeed, hfresh⟩ := h
  rw [List.getElem?_append] at hlayer
  split at hlayer
  · exact .inl ⟨layer', hlayer, hfeed, hfresh⟩
  · next hge =>
    have hk : k - s.layers.length = 0 := by
      have hlt := (List.getElem?_eq_some_iff.1 hlayer).1
      rw [List.length_singleton] at hlt
      omega
    rw [hk] at hlayer
    cases hlayer
    exact .inr ⟨by omega, hfeed⟩

theorem feeds_of_layer {layer : Layer} (hlayer : s.layers[k]? = some layer) :
    (s.layers.map Layer.feed)[k]? = some layer.feed := by
  rw [List.getElem?_map, hlayer]
  rfl

theorem request_setRequest (hfeed : (s.layers.map Layer.feed)[k]? = some feed) (r : Request) :
    ((bare k).setRequest r s).request k = r := by
  rw [List.getElem?_map] at hfeed
  obtain ⟨layer, hlayer, -⟩ := Option.map_eq_some_iff.1 hfeed
  rw [request, layers_setRequest, if_pos rfl, hlayer]
  rfl

theorem waits_of_feeds (hfeed : (s.layers.map Layer.feed)[k]? = some feed)
    (hp : (s.request k).phase = .fresh) : s.Waits k feed := by
  rw [List.getElem?_map] at hfeed
  obtain ⟨layer, hlayer, rfl⟩ := Option.map_eq_some_iff.1 hfeed
  rw [request, hlayer] at hp
  exact ⟨layer, hlayer, rfl, hp⟩

theorem feed_of_feeds (hfeed : (s.layers.map Layer.feed)[k]? = some feed) : s.feed k = feed := by
  rw [List.getElem?_map] at hfeed
  obtain ⟨layer, hlayer, rfl⟩ := Option.map_eq_some_iff.1 hfeed
  rw [Session.feed, hlayer]

variable [BodySource ρ]

/-- All of `content` may be read from the feed. -/
def Offers (content : Bytes) (s : Session ρ) : Feed → Prop
  | .client => BodySource.Carries s.source content
  | .replay i => ∃ stream, s.table.streams[i]? = some stream ∧ stream.rest = content

/-- Every request reports `content`, or is fresh and the only reader of a feed that offers it. -/
structure Whole (content : Bytes) (s : Session ρ) : Prop where
  base_eq : (s.layers.map Layer.feed)[0]? = some .client
  reports : ∀ layer ∈ s.layers, layer.request.Reports content
  offered : ∀ k feed, s.Waits k feed → s.Offers content feed
  sole : ∀ j k feed, s.Waits j feed → s.Waits k feed → j = k
  unhanded : ∀ k feed, s.Waits k feed → feed ∉ s.handles
  handle_lt : ∀ i, .replay i ∈ s.handles → i < s.table.streams.length
  walk_mem : ∀ w ∈ s.table.walks, .replay w.1 ∈ s.handles

theorem Whole.setRequest (h : Whole content s) (hr : r.Reports content) (hp : r.phase ≠ .fresh) :
    Whole content ((bare k).setRequest r s) where
  base_eq := by
    rw [feeds_setRequest]
    exact h.base_eq
  reports layer hlayer := by
    obtain hold | rfl := mem_setRequest hlayer
    · exact h.reports layer hold
    · exact hr
  offered j feed hwaits := h.offered j feed (hwaits.of_setRequest hp).1
  sole i j feed hi hj := h.sole i j feed (hi.of_setRequest hp).1 (hj.of_setRequest hp).1
  unhanded j feed hwaits := h.unhanded j feed (hwaits.of_setRequest hp).1
  handle_lt := h.handle_lt
  walk_mem := h.walk_mem

theorem Whole.note (h : Whole content s) (k : Nat) (entry : Log.Entry) :
    Whole content ((bare k).note entry s) :=
  ⟨h.base_eq, h.reports, h.offered, h.sole, h.unhanded, h.handle_lt, h.walk_mem⟩

theorem Whole.reports_request (h : Whole content s) (k : Nat) :
    (s.request k).Reports content := by
  rw [request]
  cases hlayer : s.layers[k]? with
  | none => exact Request.reports_start content _
  | some layer => exact h.reports layer (List.mem_of_getElem? hlayer)

theorem Whole.setPhase (h : Whole content s) {p : Phase}
    (hbody : ∀ body, p = .buffered body → body = content) (hp : p ≠ .fresh) :
    Whole content ((bare k).setPhase p s) :=
  h.setRequest ((h.reports_request k).enter hbody) (by rwa [Request.phase_enter])

theorem Whole.store (h : Whole content s) {body : Bytes}
    (hp : (s.request k).phase = .buffered body) (a : Algorithm) :
    Whole content ((bare k).setRequest { s.request k with
      cache := (s.request k).cache.set (a.compute body) a } s) := by
  apply h.setRequest ((h.reports_request k).store hp a)
  rw [Request.phase_store, hp]
  exact Phase.noConfusion

/-- No request waits for `feed`, and the feeds of the requests are `feeds`. -/
structure Lent (content : Bytes) (feed : Feed) (feeds : List Feed) (s : Session ρ) : Prop where
  whole : Whole content s
  free : ∀ k, ¬ s.Waits k feed
  feeds_eq : s.layers.map Layer.feed = feeds

theorem Lent.setRequest (h : Lent content feed feeds s)
    (hwhole : Whole content ((bare k).setRequest r s)) (hr : r.phase ≠ .fresh) :
    Lent content feed feeds ((bare k).setRequest r s) where
  whole := hwhole
  free j hwaits := h.free j (hwaits.of_setRequest hr).1
  feeds_eq := (feeds_setRequest r s).trans h.feeds_eq

theorem Lent.note (h : Lent content feed feeds s) (k : Nat) (entry : Log.Entry) :
    Lent content feed feeds ((bare k).note entry s) :=
  ⟨h.whole.note k entry, h.free, h.feeds_eq⟩

theorem Lent.setPhase (h : Lent content feed feeds s) {p : Phase}
    (hbody : ∀ body, p = .buffered body → body = content) (hp : p ≠ .fresh) :
    Lent content feed feeds ((bare k).setPhase p s) :=
  h.setRequest (h.whole.setPhase hbody hp) (by rwa [Request.phase_enter])

theorem Lent.store (h : Lent content feed feeds s) {body : Bytes}
    (hp : (s.request k).phase = .buffered body) (a : Algorithm) :
    Lent content feed feeds ((bare k).setRequest { s.request k with
      cache := (s.request k).cache.set (a.compute body) a } s) := by
  apply h.setRequest (h.whole.store hp a)
  rw [Request.phase_store, hp]
  exact Phase.noConfusion

theorem bare_keeps (content : Bytes) (feeds : List Feed) :
    (bare 0).Keeps (Lent (ρ := ρ) content .client feeds) where
  note h entry := h.note 0 entry
  buffer h hp := absurd (waits_of_feeds h.whole.base_eq hp) (h.free 0)
  buffered h hp := absurd (waits_of_feeds h.whole.base_eq hp) (h.free 0)
  store h hp _ a := h.store hp a
  handOut h _ := h.setPhase (by simp) (by simp)

theorem Lent.putSource (h : Lent content .client feeds s) (source : ρ) :
    Lent content .client feeds { s with source } := by
  refine ⟨⟨h.whole.base_eq, h.whole.reports, ?_, h.whole.sole, h.whole.unhanded,
    h.whole.handle_lt, h.whole.walk_mem⟩, h.free, h.feeds_eq⟩
  intro k feed hwaits
  cases feed with
  | client => exact absurd hwaits (h.free k)
  | replay i => exact h.whole.offered k (.replay i) hwaits

theorem Lent.converse {α : Type} (h : Lent content .client feeds s) (exchange : Exchange α ρ) :
    Lent content .client feeds (s.converse exchange).2 :=
  (bare_keeps content feeds).converse (fun h source => h.putSource source) exchange h

theorem Lent.setStream {i : Nat} (h : Lent content (.replay i) feeds s) (stream : BodyStream) :
    Lent content (.replay i) feeds
      { s with table := { s.table with streams := s.table.streams.set i stream } } := by
  refine ⟨⟨h.whole.base_eq, h.whole.reports, ?_, h.whole.sole, h.whole.unhanded,
    ?_, h.whole.walk_mem⟩, h.free, h.feeds_eq⟩
  · intro k feed hwaits
    cases feed with
    | client => exact h.whole.offered k .client hwaits
    | replay j =>
      obtain ⟨stream', hstream, hrest⟩ := h.whole.offered k (.replay j) hwaits
      have hij : i ≠ j := by
        rintro rfl
        exact h.free k hwaits
      exact ⟨stream', by rw [List.getElem?_set_ne hij, hstream], hrest⟩
  · intro j hj
    rw [List.length_set]
    exact h.whole.handle_lt j hj

theorem Lent.readFeed (h : Lent content feed feeds s) (size : Option Int) :
    Lent content feed feeds (s.readFeed feed size).2 := by
  cases feed with
  | client => exact h.converse _
  | replay i =>
    rw [Session.readFeed]
    split
    · exact h
    · exact h.setStream _

theorem Lent.closeFeed (h : Lent content feed feeds s) :
    Lent content feed feeds (s.closeFeed feed).2 := by
  cases feed with
  | client => exact h.converse _
  | replay i =>
    rw [Session.closeFeed]
    split
    · exact h
    · exact h.setStream _

theorem read_host (k n : Nat) (s : Session ρ) :
    (host k).read n s = s.readFeed (s.feed k) (some (n : Int)) :=
  rfl

theorem Offers.eq_of_gather {n limit : Nat} {body : Bytes} (h : s.Offers content feed)
    (hfeed : s.feed k = feed) (hn : 0 < n)
    (hbody : (gather ((host k).read n) limit 0 s).1 = .ok body) : body = content := by
  cases feed with
  | client =>
    obtain ⟨Left, hleft, hreads⟩ := h
    have hexhausts : Exhausts ((host k).read n) fun (s : Session ρ) rest =>
        s.feed k = .client ∧ Left s.source rest := by
      rintro s rest ⟨hfeed, hleft⟩ piece next hread
      obtain ⟨outcome, source, hexchange, hpiece⟩ := hreads s.source rest hleft n hn
      rw [read_host, hfeed, Session.readFeed, Session.converse, hexchange] at hread
      obtain ⟨rfl, rfl⟩ := Prod.mk.inj hread
      obtain ⟨bytes, rest', hpiece, hrest, hnext, hend⟩ := hpiece piece rfl
      exact ⟨bytes, rest', hpiece, hrest, ⟨hfeed, hnext⟩, hend⟩
    exact hexhausts.eq_of_gather ⟨hfeed, hleft⟩ hbody
  | replay i =>
    have hexhausts : Exhausts ((host k).read n) fun (s : Session ρ) rest => s.feed k = .replay i ∧
        ∃ stream, s.table.streams[i]? = some stream ∧ stream.rest = rest := by
      rintro s _ ⟨hfeed, stream, hstream, rfl⟩ piece next hread
      obtain ⟨hlt, -⟩ := List.getElem?_eq_some_iff.1 hstream
      rw [read_host, hfeed, Session.readFeed, hstream] at hread
      cases hclosed : stream.closed with
      | true =>
        simp only [BodyStream.read_closed hclosed] at hread
        cases hread
      | false =>
        have hyields := stream.yields_advance (some (n : Int))
        simp only [BodyStream.read_open hclosed] at hread
        obtain ⟨hpiece, rfl⟩ := Prod.mk.inj hread
        cases hpiece
        refine ⟨_, _, rfl, hyields.rest_eq, ⟨hfeed, _, List.getElem?_set_self hlt, rfl⟩, ?_⟩
        intro hnothing
        have hrest : stream.rest = [] :=
          (List.take_eq_nil_iff.1 hnothing).resolve_left (Nat.ne_of_gt hn)
        show stream.rest.drop _ = []
        rw [hrest, List.drop_nil]
    exact hexhausts.eq_of_gather ⟨hfeed, h⟩ hbody

theorem Lent.feed_eq (h : Lent content feed feeds s) (hk : feeds[k]? = some feed) :
    s.feed k = feed :=
  feed_of_feeds (h.feeds_eq ▸ hk)

theorem Lent.gather (h : Lent content feed feeds s) (hk : feeds[k]? = some feed)
    (n limit total : Nat) :
    Lent content feed feeds (gather ((host k).read n) limit total s).2 := by
  refine gather_induct (fun s hs => ?_) h
  rw [read_host, hs.feed_eq hk]
  exact hs.readFeed _

theorem Lent.release (h : Lent content feed feeds s) (hk : feeds[k]? = some feed) :
    Lent content feed feeds ((host k).release s).2 := by
  have hclose : Lent content feed feeds ((host k).close s).2 := by
    show Lent content feed feeds (s.closeFeed (s.feed k)).2
    rw [h.feed_eq hk]
    exact h.closeFeed
  rw [Host.release]
  generalize (host k).close s = outcome at hclose ⊢
  obtain ⟨_ | message | message, next⟩ := outcome
  · exact hclose
  · exact hclose.note k _
  · exact hclose

theorem Lent.conclude (h : Lent content feed feeds s) (hk : feeds[k]? = some feed)
    {gathered : Except Shortfall Bytes} (hcontent : ∀ body, gathered = .ok body → body = content) :
    Lent content feed feeds ((host k).conclude (gathered, s)).2 ∧
      ∀ body, ((host k).conclude (gathered, s)).1 = .ok body →
        (((host k).conclude (gathered, s)).2.request k).phase = .buffered body := by
  cases gathered with
  | error e =>
    have hlost := h.setPhase (k := k) (p := .failed e.remembered) (by simp) (by simp)
    refine ⟨(hlost.note k (.bufferingFailed e.remembered)).release hk, fun body hbody => ?_⟩
    obtain ⟨_, hgathered, -⟩ := Host.conclude_eq_ok hbody
    cases hgathered
  | ok body =>
    have hreleased := h.release hk
    rw [Host.conclude]
    generalize (host k).release s = released at hreleased ⊢
    obtain ⟨e | _, next⟩ := released
    · exact ⟨hreleased, fun _ hbody => by cases hbody⟩
    · have hbody : ∀ held, Phase.buffered body = .buffered held → held = content := by
        rintro _ ⟨⟩
        exact hcontent body rfl
      have hkept := hreleased.setPhase (k := k) hbody (by simp)
      refine ⟨hkept.note k _, ?_⟩
      rintro _ ⟨⟩
      have hrequest := request_setRequest (hreleased.feeds_eq ▸ hk)
        ((next.request k).enter (.buffered body))
      exact (congrArg Request.phase hrequest).trans (Request.phase_enter _ _)

theorem Whole.lend (h : Whole content s) (hfeeds : s.layers.map Layer.feed = feeds)
    (hwaits : s.Waits k feed) {p : Phase} (hbody : ∀ body, p = .buffered body → body = content)
    (hp : p ≠ .fresh) : Lent content feed feeds ((bare k).setPhase p s) where
  whole := h.setPhase hbody hp
  free j hj := by
    obtain ⟨hj, hne⟩ := Waits.of_setRequest hj (by rwa [Request.phase_enter])
    exact hne (h.sole k j feed hwaits hj)
  feeds_eq := (feeds_setRequest _ s).trans hfeeds

theorem Whole.buffer (h : Whole content s) (hfeeds : s.layers.map Layer.feed = feeds)
    (hk : feeds[k]? = some feed) (hp : (s.request k).phase = .fresh) :
    (Whole content ((host k).buffer s).2 ∧
        ((host k).buffer s).2.layers.map Layer.feed = feeds) ∧
      ∀ body, ((host k).buffer s).1 = .ok body →
        (((host k).buffer s).2.request k).phase = .buffered body := by
  have hfeed : (s.layers.map Layer.feed)[k]? = some feed := hfeeds ▸ hk
  have hwaits : s.Waits k feed := waits_of_feeds hfeed hp
  have hlent : Lent content feed feeds ((host k).setPhase .buffering s) :=
    h.lend hfeeds hwaits (by simp) (by simp)
  have hoffers : Offers content ((host k).setPhase .buffering s) feed := h.offered k feed hwaits
  have hgather := hlent.gather hk (s.request k).limits.chunk (s.request k).limits.maximum 0
  have hcontent : ∀ body, (DigestGate.gather ((host k).read (s.request k).limits.chunk)
      (s.request k).limits.maximum 0 ((host k).setPhase .buffering s)).1 = .ok body →
        body = content :=
    fun _ => hoffers.eq_of_gather (hlent.feed_eq hk) (s.request k).limits.chunk_pos
  rw [Host.buffer]
  have hrequest : (host k).request s = s.request k := rfl
  rw [hrequest]
  generalize DigestGate.gather _ _ _ _ = gathered at hgather hcontent ⊢
  obtain ⟨gathered, last⟩ := gathered
  obtain ⟨hlast, hphase⟩ := hgather.conclude hk hcontent
  exact ⟨⟨hlast.whole, hlast.feeds_eq⟩, hphase⟩

/-- Operations preserve `Whole`. -/
theorem host_keeps (content : Bytes) (hk : feeds[k]? = some feed) :
    (host k).Keeps fun s : Session ρ => Whole content s ∧ s.layers.map Layer.feed = feeds where
  note hs entry := ⟨hs.1.note k entry, hs.2⟩
  buffer hs hp := (hs.1.buffer hs.2 hk hp).1
  buffered hs hp hbody := (hs.1.buffer hs.2 hk hp).2 _ hbody
  store hs hp _ a := ⟨hs.1.store hp a, (feeds_setRequest _ _).trans hs.2⟩
  handOut hs _ := ⟨hs.1.setPhase (by simp) (by simp), (feeds_setRequest _ _).trans hs.2⟩

end Session

end DigestGate
