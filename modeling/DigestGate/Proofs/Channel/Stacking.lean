import DigestGate.Proofs.Channel.Rereading

namespace DigestGate

/-- The channel beneath so many nested replays. -/
def Channel.under : Nat → Channel → Option Channel
  | 0, c => some c
  | depth + 1, c => c.beneath?.bind (under depth)

/-- The limits of a further request and the size of the pieces that replay its body. -/
structure Level where
  limits : Limits
  size : Nat
  size_pos : 0 < size

/-- Requests that read the replay of one another, the latest first, and the channel on top. -/
structure Stack where
  requests : List (Solo Reader) := []
  channel : Channel

namespace Stack

def buffer (s : Stack) (limits : Limits) : Except Failure Bytes × Solo Reader :=
  Solo.host.ensure { request := { limits }, source := { channel := s.channel } }

/-- Buffer the body in a new request and, on success, replay it to the next one. -/
def push (s : Stack) (level : Level) : Stack :=
  match Solo.host.openBody (s.buffer level.limits).2 with
  | (.ok (.replay stream), top) => {
      requests := top :: s.requests
      channel := .replaying stream level.size top.source.channel }
  | (_, top) => { requests := top :: s.requests, channel := top.source.channel }

/-- The channel replays `body`, with `original` beneath the replays of all requests. -/
def Carries (s : Stack) (body : Bytes) (original : Channel) : Prop :=
  ∃ (stream : BodyStream) (size : Nat) (beneath : Channel),
    s.channel = .replaying stream size beneath ∧ stream.closed = false ∧ stream.rest = body ∧
      0 < size ∧ beneath.under s.requests.length = some original

variable {s : Stack} {body : Bytes} {original : Channel} {limits : Limits}

theorem Carries.buffer (hs : s.Carries body original) (limits : Limits) :
    (s.buffer limits).2.source.channel.under (s.requests.length + 1) = some original ∧
    (body.length ≤ limits.maximum →
      (s.buffer limits).1 = .ok body ∧
        (s.buffer limits).2.request = { limits, state := .buffered, body := some body }) ∧
    (limits.maximum < body.length → ∃ observed, limits.maximum < observed ∧
      observed ≤ limits.maximum + limits.chunk ∧
        (s.buffer limits).1 = .error (.body (.tooLarge limits.maximum observed))) := by
  obtain ⟨stream, size, beneath, hchannel, hopen, rfl, hsize, hunder⟩ := hs
  obtain ⟨outcome, last, hgather, hbeneath, hwhole, htooLarge⟩ := Reader.gather_rereading
    limits.chunk_pos hsize stream hopen beneath 0 0 (Nat.zero_le limits.maximum)
  rw [Nat.zero_add] at hwhole htooLarge
  rw [Stack.buffer, hchannel]
  refine ⟨?_, fun hle => ?_, fun hlt => ?_⟩
  · obtain ⟨_, _, hsource⟩ :=
      Solo.ensure_source limits (Reader.rereading stream size beneath 0) []
    rw [hgather] at hsource
    have hlast : (Solo.host.ensure {
        request := { limits }
        source := Reader.rereading stream size beneath 0 }).2.source.channel = last.channel :=
      (congrArg Reader.channel hsource).trans rfl
    refine (congrArg (Channel.under _) hlast).trans ?_
    rw [Channel.under, hbeneath]
    exact hunder
  · rw [hwhole hle] at hgather
    exact (Solo.gains_of_gather hgather []).kept rfl
  · obtain ⟨observed, hlimit, hle, rfl⟩ := htooLarge hlt
    exact ⟨observed, hlimit, hle, (Solo.fails_of_gather hgather []).raises rfl⟩

/-- A request that has the body passes it on. -/
theorem Carries.push (hs : s.Carries body original) {level : Level}
    (hle : body.length ≤ level.limits.maximum) :
    (s.push level).Carries body original ∧ ∃ top : Solo Reader,
      (s.push level).requests = top :: s.requests ∧
        top.request = { limits := level.limits, state := .buffered, body := some body } := by
  obtain ⟨hunder, hwhole, _⟩ := hs.buffer level.limits
  obtain ⟨_, hrequest⟩ := hwhole hle
  have hopen : Solo.host.openBody (s.buffer level.limits).2 =
      (.ok (.replay { content := body, chunk := level.limits.chunk }),
        (s.buffer level.limits).2) := by
    have hhost : Solo.host.request (s.buffer level.limits).2 =
        { limits := level.limits, state := .buffered, body := some body } := hrequest
    rw [Host.openBody, hhost]
    rfl
  rw [Stack.push, hopen]
  exact ⟨⟨_, level.size, _, rfl, rfl, rfl, level.size_pos, hunder⟩, _, rfl, hrequest⟩

theorem Carries.foldl_push (hs : s.Carries body original) {levels : List Level}
    (hlevels : ∀ level ∈ levels, body.length ≤ level.limits.maximum) :
    (levels.foldl Stack.push s).Carries body original ∧
      (levels.foldl Stack.push s).requests.map Solo.request =
        (levels.reverse.map fun level =>
          { limits := level.limits, state := .buffered, body := some body }) ++
          s.requests.map Solo.request := by
  induction levels generalizing s with
  | nil => exact ⟨hs, rfl⟩
  | cons level rest ih =>
    obtain ⟨hlevel, hrest⟩ := List.forall_mem_cons.1 hlevels
    obtain ⟨hpush, top, hrequests, hrequest⟩ := hs.push hlevel
    obtain ⟨hcarries, hbelow⟩ := ih hpush hrest
    refine ⟨hcarries, hbelow.trans ?_⟩
    rw [hrequests, List.map_cons, hrequest, List.reverse_cons, List.map_append, List.append_assoc]
    rfl

/-- Every request of a stack obtains the body, and the original channel is not touched. -/
theorem same_body {σ : Type} (h : Host σ) (s : σ) (body : Bytes)
    (hbody : (h.request s).phase = .buffered body) (size : Nat) (hsize : 0 < size)
    (original : Channel) (levels : List Level)
    (hlevels : ∀ level ∈ levels, body.length ≤ level.limits.maximum) (limits : Limits) :
    ∃ stream : BodyStream, h.openBody s = (.ok (.replay stream), s) ∧
      let below := levels.foldl push { channel := .replaying stream size original }
      let top := below.buffer limits
      (body.length ≤ limits.maximum →
        top.1 = .ok body ∧ top.2.request = { limits, state := .buffered, body := some body }) ∧
      (limits.maximum < body.length → ∃ observed, limits.maximum < observed ∧
        observed ≤ limits.maximum + limits.chunk ∧
          top.1 = .error (.body (.tooLarge limits.maximum observed))) ∧
      top.2.source.channel.under (levels.length + 1) = some original ∧
      below.requests.map Solo.request =
        levels.reverse.map fun level =>
          { limits := level.limits, state := .buffered, body := some body } := by
  refine ⟨(h.request s).replay body, by rw [Host.openBody, hbody], ?_⟩
  intro below top
  have hbase : Carries { channel := .replaying ((h.request s).replay body) size original }
      body original :=
    ⟨_, size, original, rfl, rfl, rfl, hsize, rfl⟩
  obtain ⟨hcarries, hrequests⟩ := hbase.foldl_push hlevels
  rw [List.map_nil, List.append_nil] at hrequests
  have hcount : below.requests.length = levels.length := by
    have hlength := congrArg List.length hrequests
    rwa [List.length_map, List.length_map, List.length_reverse] at hlength
  obtain ⟨hunder, hwhole, htooLarge⟩ := hcarries.buffer limits
  rw [← hcount]
  exact ⟨hwhole, htooLarge, hunder, hrequests⟩

theorem same_body_within :
    let s : Solo Reader := {
      request := { limits := ⟨10, 4, by decide⟩, state := .buffered, body := some [1, 2, 3] }
      source := { channel := .ofClient [] } }
    let levels : List Level := [⟨⟨3, 1, by decide⟩, 5, by decide⟩]
    ∃ stream : BodyStream, Solo.host.openBody s = (.ok (.replay stream), s) ∧
      let below := levels.foldl push { channel := .replaying stream 2 (.ofClient []) }
      (below.buffer ⟨8, 2, by decide⟩).1 = .ok [1, 2, 3] ∧
        (below.buffer ⟨8, 2, by decide⟩).2.source.channel.under 2 = some (.ofClient []) := by
  intro s levels
  obtain ⟨stream, hopen, hwhole, _, hunder, _⟩ := same_body Solo.host s [1, 2, 3] rfl 2
    (by decide) (.ofClient []) levels (by decide) ⟨8, 2, by decide⟩
  exact ⟨stream, hopen, (hwhole (by decide)).1, hunder⟩

end Stack

end DigestGate
