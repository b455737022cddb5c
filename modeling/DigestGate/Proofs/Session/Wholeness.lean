import DigestGate.Proofs.Request.Buffering
import DigestGate.Proofs.Request.Demand
import DigestGate.Proofs.Session.Handing
import DigestGate.Session.Step

namespace DigestGate

namespace Session

variable {ρ : Type} [ClientSource ρ] {s s' : Session ρ} {k : Nat} {feed : Feed} {content : Bytes}
  {outcome : Except Failure Answer}

theorem Whole.digest_eq (h : Whole content s) (hk : (s.layers.map Layer.feed)[k]? = some feed)
    {a : Algorithm} {digest : Bytes} (hdigest : ((host k).digest a s).1 = .ok (some digest)) :
    digest = a.compute content := by
  have hkeeps := host_keeps (ρ := ρ) content hk
  rw [Host.digest] at hdigest
  split at hdigest
  · cases hdigest
  · cases hcached : ((host k).request s).cache.get? a with
    | some found =>
      rw [hcached] at hdigest
      cases hdigest
      exact (h.reports_request k).digest_eq a digest hcached
    | none =>
      rw [hcached] at hdigest
      have hensure := hkeeps.ensure ⟨h, rfl⟩
      have hphase (body : Bytes) : ((host k).ensure s).1 = .ok body → _ :=
        hkeeps.phase_of_ensure ⟨h, rfl⟩
      generalize (host k).ensure s = outcome at hensure hphase hdigest
      obtain ⟨e | _ | ⟨b, bs⟩, s'⟩ := outcome
      · cases hdigest
      · cases hdigest
      · cases hdigest
        rw [(hensure.1.reports_request k).body_eq _ (hphase _ rfl)]

omit [ClientSource ρ] in
theorem answer_snd {α : Type} (wrap : α → Answer) (outcome : Except Failure α × Session ρ) :
    (answer wrap outcome).2 = outcome.2 := by
  obtain ⟨_ | _, _⟩ := outcome <;> rfl

omit [ClientSource ρ] in
theorem exists_of_answer {α : Type} {wrap : α → Answer} {inner : Except Failure α × Session ρ}
    {a : Answer} (h : answer wrap inner = (.ok a, s')) : ∃ x, inner.1 = .ok x ∧ wrap x = a := by
  obtain ⟨_ | x, _⟩ := inner
  · cases h
  · cases h
    exact ⟨x, rfl, rfl⟩

theorem Whole.lent (h : Whole content s) (hfeed : feed ∈ s.handles) :
    Lent content feed (s.layers.map Layer.feed) s :=
  ⟨h, fun k hwaits => h.unhanded k feed hwaits hfeed, rfl⟩

theorem Whole.callStream (h : Whole content s) (hfeed : feed ∈ s.handles) {call : StreamCall}
    (hcall : s.callStream feed call = some (outcome, s')) : Whole content s' := by
  cases feed with
  | client =>
    cases call with
    | next walk =>
      obtain ⟨⟨a, table⟩, hnext, heq⟩ := Option.map_eq_some_iff.1 hcall
      cases heq
      obtain ⟨i, it, stream, hwalk, hstream, -⟩ := StreamTable.next_eq hnext
      rw [← StreamTable.perform_next hstream] at hnext
      exact h.setTable (h.walk_mem _ (List.mem_of_getElem? hwalk)) hnext
    | read size =>
      have hread := ((h.lent hfeed).readFeed size).whole
      have hs' : (answer _ (s.readFeed .client size)).2 = s' :=
        congrArg Prod.snd (Option.some.inj hcall)
      rwa [← hs', answer_snd]
    | _ =>
      cases hcall
      exact ((h.lent hfeed).putSource _).whole
  | replay i =>
    obtain ⟨⟨a, table⟩, hperform, heq⟩ := Option.map_eq_some_iff.1 hcall
    cases heq
    exact h.setTable hfeed hperform

/-- The step opens a request whose source was handed out before. -/
def Reopens (s : Session ρ) : Step → Prop
  | .request k .openStream => (s.request k).phase = .handedOut
  | .request k (.wrap _ _) => (s.request k).phase = .handedOut
  | _ => False

theorem Whole.call (h : Whole content s) {layer : Layer} (hlayer : s.layers[k]? = some layer)
    {call : Call} (honce : ¬ s.Reopens (.request k call)) :
    Whole content (s.call k layer call).2 := by
  have hk := feeds_of_layer hlayer
  have hkeeps := host_keeps (ρ := ρ) content hk
  cases call with
  | ensure =>
    rw [Session.call, answer_snd]
    exact (hkeeps.ensure ⟨h, rfl⟩).1
  | digestNamed name =>
    rw [Session.call, answer_snd]
    exact (hkeeps.digestNamed name ⟨h, rfl⟩).1
  | digest a =>
    rw [Session.call, answer_snd]
    exact (hkeeps.digest a ⟨h, rfl⟩).1
  | verify =>
    rw [Session.call]
    cases s.headers k with
    | error e => exact h
    | ok lines =>
      simp only [answer_snd]
      exact (hkeeps.verify lines ⟨h, rfl⟩).1
  | openStream =>
    rw [Session.call, answer_snd]
    exact h.openStream hk honce
  | wrap maximum chunk =>
    rw [Session.call, answer_snd]
    exact h.wrap hk honce maximum chunk
  | lookUpBare name =>
    rw [Session.call]
    cases Layer.members.lookup name <;> exact h
  | computed | lookUp | limits => exact h

theorem Whole.step (h : Whole content s) {step : Step} (honce : ¬ s.Reopens step)
    (hstep : s.step step = some (outcome, s')) : Whole content s' := by
  cases step with
  | request k call =>
    obtain ⟨layer, hlayer, hcall⟩ := Option.map_eq_some_iff.1 hstep
    have hnext := h.call hlayer honce
    rwa [hcall] at hnext
  | stream handle call =>
    obtain ⟨feed, hfeed, hcall⟩ := Option.bind_eq_some_iff.1 hstep
    exact h.callStream (List.mem_of_getElem? hfeed) hcall

def after (s : Session ρ) : List Step → Session ρ
  | [] => s
  | step :: steps => after ((s.step step).elim s Prod.snd) steps

def HandsOutOnce (s : Session ρ) : List Step → Prop
  | [] => True
  | step :: steps => ¬ s.Reopens step ∧ HandsOutOnce ((s.step step).elim s Prod.snd) steps

theorem Whole.after (h : Whole content s) {steps : List Step} (honce : s.HandsOutOnce steps) :
    Whole content (s.after steps) := by
  induction steps generalizing s with
  | nil => exact h
  | cons step steps ih =>
    obtain ⟨hstep, honce⟩ := honce
    apply ih _ honce
    cases hnext : s.step step with
    | none => exact h
    | some next => exact h.step hstep hnext

theorem whole_start (client : Client) {source : ρ} (hsource : BodySource.Carries source content)
    (limits : Limits) : Whole content (start client source limits) := by
  have hwaits : ∀ k feed, (start client source limits).Waits k feed → k = 0 ∧ feed = .client := by
    rintro k feed ⟨layer, hlayer, rfl, -⟩
    cases k with
    | zero =>
      cases hlayer
      exact ⟨rfl, rfl⟩
    | succ k => cases hlayer
  refine ⟨rfl, ?_, ?_, ?_, fun _ _ _ => List.not_mem_nil, ?_, ?_⟩
  · intro layer hlayer
    cases List.mem_singleton.1 hlayer
    exact Request.reports_start content limits
  · intro k feed hk
    obtain ⟨-, rfl⟩ := hwaits k feed hk
    exact hsource
  · intro j k feed hj hk
    rw [(hwaits j feed hj).1, (hwaits k feed hk).1]
  · exact fun i hi => absurd hi List.not_mem_nil
  · exact fun w hw => absurd hw List.not_mem_nil

def Call.Asks : Call → Algorithm → Prop
  | .digest a, b => a = b
  | .digestNamed name, a => Algorithm.resolve name = .ok a
  | _, _ => False

theorem exists_asks {layer : Layer} {call : Call} {digest : Bytes}
    (hcall : s.call k layer call = (.ok (.digest (some digest)), s')) :
    ∃ a, call.Asks a ∧ ((host k).digest a s).1 = .ok (some digest) := by
  cases call with
  | digest a =>
    obtain ⟨x, hx, heq⟩ := exists_of_answer hcall
    cases heq
    exact ⟨a, rfl, hx⟩
  | digestNamed name =>
    obtain ⟨x, hx, heq⟩ := exists_of_answer hcall
    cases heq
    rw [Host.digestNamed] at hx
    split at hx
    · cases hx
    · cases hresolve : Algorithm.resolve name with
      | error e =>
        rw [hresolve] at hx
        cases hx
      | ok a =>
        rw [hresolve] at hx
        exact ⟨a, hresolve, hx⟩
  | verify =>
    rw [Session.call] at hcall
    cases hheaders : s.headers k with
    | error e =>
      rw [hheaders] at hcall
      cases hcall
    | ok lines =>
      rw [hheaders] at hcall
      obtain ⟨x, -, heq⟩ := exists_of_answer hcall
      cases heq
  | lookUp name =>
    have hvalue : ((s.lookUp k name).map Answer.value).mapError Failure.fault =
        .ok (.digest (some digest)) := congrArg Prod.fst hcall
    cases hlookUp : s.lookUp k name with
    | error e =>
      rw [hlookUp] at hvalue
      cases hvalue
    | ok value =>
      rw [hlookUp] at hvalue
      cases hvalue
  | lookUpBare name =>
    rw [Session.call] at hcall
    cases hmember : Layer.members.lookup name with
    | none =>
      rw [hmember] at hcall
      cases hcall
    | some value =>
      rw [hmember] at hcall
      cases hcall
  | ensure | openStream | wrap =>
    obtain ⟨x, -, heq⟩ := exists_of_answer hcall
    cases heq
  | computed | limits => cases hcall

theorem Whole.exists_digest_eq (h : Whole content s) {call : Call} {digest : Bytes}
    (hstep : s.step (.request k call) = some (.ok (.digest (some digest)), s')) :
    ∃ a, call.Asks a ∧ digest = a.compute content := by
  obtain ⟨layer, hlayer, hcall⟩ := Option.map_eq_some_iff.1 hstep
  obtain ⟨a, hasks, hdigest⟩ := exists_asks hcall
  exact ⟨a, hasks, h.digest_eq (feeds_of_layer hlayer) hdigest⟩

/-- If no source is handed out twice, every digest is one of the whole content. -/
theorem digests_whole (client : Client) {source : ρ} (hsource : BodySource.Carries source content)
    (limits : Limits) (steps : List Step) (honce : (start client source limits).HandsOutOnce steps)
    (k : Nat) (call : Call) (digest : Bytes)
    (hdigest : ((start client source limits).after steps).step (.request k call) =
      some (.ok (.digest (some digest)), s')) :
    ∃ a, call.Asks a ∧ digest = a.compute content :=
  ((whole_start client hsource limits).after honce).exists_digest_eq hdigest

section Quiet

variable [QuietSource ρ]

theorem release_host (k : Nat) (s : Session ρ) : ((host k).release s).1 = .ok () := by
  rw [Host.release_fst]
  show (s.closeFeed (s.feed k)).1.raised = .ok ()
  cases s.feed k with
  | client => exact (QuietSource.quiet s.source).converse _ _ s
  | replay i =>
    rw [closeFeed]
    split <;> rfl

theorem exists_ensure_eq {body : Bytes} (hphase : (s.request k).phase = .fresh)
    (hbrings : Brings ((host k).read (s.request k).limits.chunk)
      ((host k).setPhase .buffering s) body)
    (hle : body.length ≤ (s.request k).limits.maximum) :
    ∃ kept, (host k).ensure s = (.ok body, kept) := by
  have hrequest : (host k).request s = s.request k := rfl
  have hle' : 0 + body.length ≤ (s.request k).limits.maximum := by rwa [Nat.zero_add]
  obtain ⟨last, hgather⟩ := hbrings.exists_gather_eq hle'
  have hensure : (host k).ensure s = (host k).conclude (.ok body, last) := by
    rw [Host.ensure_of_fresh hphase, Host.buffer, hrequest, hgather]
  exact ⟨_, Prod.ext (hensure ▸ Host.conclude_of_release (release_host k last)) rfl⟩

theorem exists_step_digest {body : Bytes} (hk : k < s.layers.length)
    (hphase : (s.request k).phase = .fresh) (hcache : (s.request k).cache = {})
    (hbrings : Brings ((host k).read (s.request k).limits.chunk)
      ((host k).setPhase .buffering s) body)
    (hbody : body ≠ []) (hle : body.length ≤ (s.request k).limits.maximum) (a : Algorithm) :
    ∃ s', s.step (.request k (.digest a)) =
      some (.ok (.digest (some (a.compute body))), s') := by
  have hrequest : (host k).request s = s.request k := rfl
  obtain ⟨kept, hensure⟩ := exists_ensure_eq hphase hbrings hle
  obtain ⟨b, bs, rfl⟩ := List.exists_cons_of_ne_nil hbody
  have hdigest : (host k).digest a s = (host k).digestOf a ((host k).ensure s) :=
    Host.digest_uncached (by simp [hrequest, hphase]) (by rw [hrequest, hcache]) a
  rw [hensure] at hdigest
  rw [step, List.getElem?_eq_getElem hk, Option.map_some, call, hdigest]
  exact ⟨_, rfl⟩

end Quiet

def greeting : Bytes := [104, 101, 108, 108, 111]

def greeted : Session Source :=
  start { kind := "client", attributes := [] }
    { supply := .memory { content := greeting } } ⟨100, 8, by decide⟩

theorem digests_whole_wrapped :
    BodySource.Carries greeted.source greeting ∧
      greeted.HandsOutOnce [.request 0 (.wrap 100 8)] ∧
      ∃ digest s', (greeted.after [.request 0 (.wrap 100 8)]).step (.request 1 (.digest .md5)) =
          some (.ok (.digest (some digest)), s') ∧
        ∃ a, Call.Asks (.digest .md5) a ∧ digest = a.compute greeting := by
  have hcarries : BodySource.Carries greeted.source greeting := Source.carries_memory _ _
  have hfresh : (greeted.request 0).phase ≠ .handedOut := by decide
  have honce : greeted.HandsOutOnce [.request 0 (.wrap 100 8)] := ⟨hfresh, trivial⟩
  have hbrings : Brings ((host 1).read 8)
      ((host 1).setPhase .buffering (greeted.after [.request 0 (.wrap 100 8)])) (greeting ++ []) :=
    .more (Prod.ext rfl rfl) (by decide) (.last (Prod.ext rfl rfl))
  obtain ⟨s', hdigest⟩ := exists_step_digest (s := greeted.after [.request 0 (.wrap 100 8)])
    (k := 1) (by decide) (by decide) (by decide) hbrings (by decide) (by decide) .md5
  exact ⟨hcarries, honce, _, s', hdigest,
    digests_whole _ hcarries _ _ honce 1 (.digest .md5) _ hdigest⟩

def shared : List Step :=
  [.request 0 (.wrap 100 8), .request 0 .openStream, .stream 0 (.read (some 2))]

theorem digest_partial :
    (∃ s', (greeted.after shared).step (.request 1 (.digest .md5)) =
        some (.ok (.digest (some (Algorithm.md5.compute (greeting.drop 2)))), s')) ∧
      Algorithm.md5.compute (greeting.drop 2) ≠ Algorithm.md5.compute greeting := by
  have hbrings : Brings ((host 1).read 8)
      ((host 1).setPhase .buffering (greeted.after shared)) (greeting.drop 2 ++ []) :=
    .more (Prod.ext rfl rfl) (by decide) (.last (Prod.ext rfl rfl))
  have hdigest := exists_step_digest (s := greeted.after shared) (k := 1) (by decide) (by decide)
    (by decide) hbrings (by decide) (by decide) .md5
  have hdiffers : Algorithm.md5.compute [108, 108, 111] ≠
      Algorithm.md5.compute [104, 101, 108, 108, 111] := by decide +kernel
  exact ⟨hdigest, hdiffers⟩

end Session

end DigestGate
