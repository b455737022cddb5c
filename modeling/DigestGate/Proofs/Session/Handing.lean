import DigestGate.Proofs.Body.Table
import DigestGate.Proofs.Request.Reentry
import DigestGate.Proofs.Session.Holding

namespace DigestGate

namespace Session

variable {ρ : Type} [BodySource ρ] {s : Session ρ} {k : Nat} {feed : Feed} {content : Bytes}

/-- All of `content` may be read from `feed`, which no request or handle refers to. -/
structure Handed (content : Bytes) (feed : Feed) (s : Session ρ) : Prop where
  whole : Whole content s
  free : ∀ k, ¬ s.Waits k feed
  offered : s.Offers content feed
  unhanded : feed ∉ s.handles

theorem openFeed_fresh (hp : (s.request k).phase = .fresh) :
    s.openFeed k =
      (.ok (((bare k).setPhase .handedOut s).feed k), (bare k).setPhase .handedOut s) := by
  have hopen : (host k).openBody s = (.ok .source, (bare k).setPhase .handedOut s) := by
    rw [Host.openBody, show ((host k).request s).phase = .fresh from hp]
    rfl
  rw [openFeed, hopen]

theorem openFeed_refused {denial refusal : BodyError}
    (hp : (s.request k).phase.Withholds denial refusal) :
    s.openFeed k = (.error (.body refusal), s) := by
  have hopen : (host k).openBody s = (.error (.body refusal), s) := Host.openBody_withheld hp
  rw [openFeed, hopen]

theorem Whole.handed_of_fresh (h : Whole content s) (hk : (s.layers.map Layer.feed)[k]? = some feed)
    (hp : (s.request k).phase = .fresh) :
    Handed content feed ((bare k).setPhase .handedOut s) := by
  have hwaits : s.Waits k feed := waits_of_feeds hk hp
  have hlent := h.lend rfl hwaits (p := .handedOut) (by simp) (by simp)
  exact ⟨hlent.whole, hlent.free, h.offered k feed hwaits, h.unhanded k feed hwaits⟩

def addStream (stream : BodyStream) (s : Session ρ) : Session ρ :=
  { s with table := { s.table with streams := s.table.streams ++ [stream] } }

theorem Offers.addStream (h : s.Offers content feed) (stream : BodyStream) :
    (s.addStream stream).Offers content feed := by
  cases feed with
  | client => exact h
  | replay i =>
    obtain ⟨stream', hstream, hrest⟩ := h
    obtain ⟨hlt, -⟩ := List.getElem?_eq_some_iff.1 hstream
    exact ⟨stream', by rw [← hstream]; exact List.getElem?_append_left hlt, hrest⟩

theorem Whole.handed_of_stream (h : Whole content s) (stream : BodyStream)
    (hstream : stream.rest = content) :
    Handed content (.replay s.table.streams.length) (s.addStream stream) := by
  refine ⟨⟨h.base_eq, h.reports, ?_, h.sole, h.unhanded, ?_, h.walk_mem⟩, ?_, ?_, ?_⟩
  · intro j feed hwaits
    exact (h.offered j feed hwaits).addStream stream
  · intro i hi
    have hlength : (s.addStream stream).table.streams.length = s.table.streams.length + 1 :=
      List.length_append
    rw [hlength]
    exact Nat.lt_succ_of_lt (h.handle_lt i hi)
  · intro j hwaits
    obtain ⟨stream', hstream', -⟩ := h.offered j _ hwaits
    obtain ⟨hlt, -⟩ := List.getElem?_eq_some_iff.1 hstream'
    exact Nat.lt_irrefl _ hlt
  · exact ⟨stream, List.getElem?_concat_length, hstream⟩
  · intro hmem
    exact Nat.lt_irrefl _ (h.handle_lt _ hmem)

theorem openFeed_buffered {body : Bytes} (hp : (s.request k).phase = .buffered body) :
    s.openFeed k =
      (.ok (.replay s.table.streams.length), s.addStream ((s.request k).replay body)) := by
  have hopen : (host k).openBody s = (.ok (.replay ((s.request k).replay body)), s) := by
    rw [Host.openBody, show ((host k).request s).phase = .buffered body from hp]
    rfl
  rw [openFeed, hopen]
  rfl

/-- Opening a request that was not handed out gives the feed to one holder. -/
theorem Whole.openFeed (h : Whole content s) (hk : (s.layers.map Layer.feed)[k]? = some feed)
    (honce : (s.request k).phase ≠ .handedOut) :
    Whole content (s.openFeed k).2 ∧
      ∀ handed, (s.openFeed k).1 = .ok handed → Handed content handed (s.openFeed k).2 := by
  cases hp : (s.request k).phase with
  | fresh =>
    have hhanded := h.handed_of_fresh hk hp
    have hfeed : ((bare k).setPhase .handedOut s).feed k = feed :=
      feed_of_feeds (by rw [← hk]; exact congrArg (·[k]?) (feeds_setRequest _ s))
    rw [openFeed_fresh hp, hfeed]
    refine ⟨hhanded.whole, ?_⟩
    rintro _ ⟨⟩
    exact hhanded
  | handedOut => exact absurd hp honce
  | buffering =>
    have hwithholds : (s.request k).phase.Withholds .alreadyBuffering .stillBuffering :=
      hp ▸ .buffering
    rw [openFeed_refused hwithholds]
    exact ⟨h, fun _ hok => by cases hok⟩
  | buffered body =>
    obtain rfl := (h.reports_request k).body_eq body hp
    have hhanded := h.handed_of_stream ((s.request k).replay body) rfl
    rw [openFeed_buffered hp]
    refine ⟨hhanded.whole, ?_⟩
    rintro _ ⟨⟩
    exact hhanded
  | failed e =>
    have hwithholds : (s.request k).phase.Withholds e e := hp ▸ .failed e
    rw [openFeed_refused hwithholds]
    exact ⟨h, fun _ hok => by cases hok⟩

theorem Handed.addHandle (h : Handed content feed s) :
    Whole content { s with handles := s.handles ++ [feed] } := by
  refine ⟨h.whole.base_eq, h.whole.reports, h.whole.offered, h.whole.sole, ?_, ?_, ?_⟩
  · intro j feed' hwaits hmem
    obtain hmem | hmem := List.mem_append.1 hmem
    · exact h.whole.unhanded j feed' hwaits hmem
    · cases List.mem_singleton.1 hmem
      exact h.free j hwaits
  · intro i hi
    obtain hi | hi := List.mem_append.1 hi
    · exact h.whole.handle_lt i hi
    · cases List.mem_singleton.1 hi
      obtain ⟨stream, hstream, -⟩ := h.offered
      exact (List.getElem?_eq_some_iff.1 hstream).1
  · intro w hw
    exact List.mem_append_left _ (h.whole.walk_mem w hw)

theorem Handed.addLayer (h : Handed content feed s) (limits : Limits) (under : Option Nat) :
    Whole content { s with layers := s.layers ++ [{ request := { limits }, feed, under }] } := by
  refine ⟨?_, ?_, ?_, ?_, ?_, h.whole.handle_lt, h.whole.walk_mem⟩
  · have hbase := h.whole.base_eq
    have hlt := (List.getElem?_eq_some_iff.1 hbase).1
    rw [List.map_append, List.getElem?_append_left hlt, hbase]
  · intro layer hlayer
    obtain hlayer | hlayer := List.mem_append.1 hlayer
    · exact h.whole.reports layer hlayer
    · cases List.mem_singleton.1 hlayer
      exact Request.reports_start content limits
  · intro j feed' hwaits
    obtain hwaits | ⟨-, rfl⟩ := waits_concat hwaits
    · exact h.whole.offered j feed' hwaits
    · exact h.offered
  · intro i j feed' hi hj
    obtain hi | ⟨rfl, rfl⟩ := waits_concat hi
    · obtain hj | ⟨rfl, rfl⟩ := waits_concat hj
      · exact h.whole.sole i j feed' hi hj
      · exact absurd hi (h.free i)
    · obtain hj | ⟨rfl, -⟩ := waits_concat hj
      · exact absurd hj (h.free j)
      · rfl
  · intro j feed' hwaits
    obtain hwaits | ⟨-, rfl⟩ := waits_concat hwaits
    · exact h.whole.unhanded j feed' hwaits
    · exact h.unhanded

theorem Whole.openStream (h : Whole content s) (hk : (s.layers.map Layer.feed)[k]? = some feed)
    (honce : (s.request k).phase ≠ .handedOut) : Whole content (s.openStream k).2 := by
  obtain ⟨hwhole, hhanded⟩ := h.openFeed hk honce
  rw [Session.openStream]
  generalize s.openFeed k = outcome at hwhole hhanded ⊢
  obtain ⟨e | handed, s'⟩ := outcome
  · exact hwhole
  · exact (hhanded handed rfl).addHandle

theorem Whole.wrap (h : Whole content s) (hk : (s.layers.map Layer.feed)[k]? = some feed)
    (honce : (s.request k).phase ≠ .handedOut) (maximum chunk : Int) :
    Whole content (s.wrap k maximum chunk).2 := by
  obtain ⟨hwhole, hhanded⟩ := h.openFeed hk honce
  rw [Session.wrap]
  generalize s.openFeed k = outcome at hwhole hhanded ⊢
  obtain ⟨e | handed, s'⟩ := outcome
  · exact hwhole
  · cases hlimits : Limits.make maximum chunk with
    | error e => exact hwhole
    | ok limits => exact (hhanded handed rfl).addLayer limits (some k)

theorem Whole.setTable (h : Whole content s) {j : Nat} {call : StreamCall} {table : StreamTable}
    {answer : Except Failure StreamAnswer} (hj : .replay j ∈ s.handles)
    (hperform : s.table.perform j call = some (answer, table)) :
    Whole content { s with table } := by
  have htarget : .replay (s.table.target j call) ∈ s.handles := by
    obtain heq | ⟨w, hw, heq⟩ := s.table.target_eq_or_mem j call
    · rwa [heq]
    · exact heq ▸ h.walk_mem w hw
  obtain ⟨stream, stream', -, hstreams, -⟩ := StreamTable.moves_perform hperform
  refine ⟨h.base_eq, h.reports, ?_, h.sole, h.unhanded, ?_, ?_⟩
  · intro k feed hwaits
    have hoffered := h.offered k feed hwaits
    cases feed with
    | client => exact hoffered
    | replay i =>
      obtain ⟨offered, hoffered, hrest⟩ := hoffered
      have hi : s.table.target j call ≠ i := by
        rintro rfl
        exact h.unhanded k _ hwaits htarget
      exact ⟨offered, by rw [hstreams, List.getElem?_set_ne hi, hoffered], hrest⟩
  · intro i hi
    rw [StreamTable.length_perform hperform]
    exact h.handle_lt i hi
  · intro w hw
    obtain heq | ⟨w', hw', heq⟩ := StreamTable.walk_eq_or_mem hperform hw
    · rwa [heq]
    · exact heq ▸ h.walk_mem w' hw'

end Session

end DigestGate
