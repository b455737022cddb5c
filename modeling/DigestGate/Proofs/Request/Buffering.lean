import DigestGate.Proofs.Body.Decision
import DigestGate.Proofs.Request.Reentry

namespace DigestGate

variable {σ ρ : Type}

inductive Exchange.Quiet : Exchange Closing ρ → Prop where
  | done {closing : Closing} {source : ρ} : closing.raised = .ok () → Quiet (.done closing source)
  | ask {operation : Operation} {next : Except Failure Reply → Exchange Closing ρ} :
      (∀ answer, (next answer).Quiet) → Quiet (.ask operation next)

theorem Exchange.Quiet.settle {exchange : Exchange Closing ρ} (h : exchange.Quiet)
    (answer : Operation → Except Failure Reply) : (exchange.settle answer).1.raised = .ok () := by
  induction h with
  | done hclosing => exact hclosing
  | ask _ ih => exact ih _

theorem Exchange.Quiet.converse {exchange : Exchange Closing ρ} (hquiet : exchange.Quiet)
    (h : Host σ) (put : ρ → σ → σ) (s : σ) :
    (h.converse put exchange s).1.raised = .ok () := by
  induction hquiet generalizing s with
  | done hclosing => exact hclosing
  | ask _ ih => exact ih _ _

/-- Sources whose closing is never interrupted. -/
class QuietSource (ρ : Type) [BodySource ρ] : Prop where
  quiet : ∀ source : ρ, (BodySource.close source).Quiet

theorem Source.raised_close (s : Source) : s.close.1.raised = .ok () := by
  rw [close]
  cases s.closeFailure with
  | some message => rfl
  | none => cases s.supply <;> rfl

instance : QuietSource Source where
  quiet s := .done s.raised_close

instance : QuietSource Reader where
  quiet _ := .done rfl

theorem Closing.raised_eq_error {closing : Closing} {e : Failure}
    (h : closing.raised = .error e) : ∃ message, e = .interrupted message := by
  cases closing with
  | done => cases h
  | failed => cases h
  | interrupted message =>
    cases h
    exact ⟨message, rfl⟩

namespace BodySource

variable [BodySource ρ]

/-- A reading of the source while its request is buffering. -/
def draw (size : Nat) (x : ρ) : Except Failure Piece × ρ :=
  (read (some (size : Int)) x).settle (Operation.withheld .alreadyBuffering .stillBuffering)

/-- The closing of a source whose request withholds its body. -/
def leave (denial refusal : BodyError) (x : ρ) : Closing × ρ :=
  (close x).settle (Operation.withheld denial refusal)

/-- The possible ends of the buffering of a request. -/
inductive Ends (ρ : Type) [BodySource ρ] (r : Request) : Except Failure Bytes → Request → Prop where
  | kept (body : Bytes) : Ends ρ r (.ok body) (r.enter (.buffered body))
  | lost (e : Shortfall) : Ends ρ r (.error e.reported) (r.enter (.failed e.remembered))
  | lostInterrupted (e : Shortfall) {last : ρ} {f : Failure} :
      (leave e.remembered e.remembered last).1.raised = .error f →
      Ends ρ r (.error f) (r.enter (.failed e.remembered))
  | interrupted {last : ρ} {f : Failure} :
      (leave .alreadyBuffering .stillBuffering last).1.raised = .error f →
      Ends ρ r (.error f) (r.enter .buffering)

theorem raised_leave [QuietSource ρ] (denial refusal : BodyError) (x : ρ) :
    (leave denial refusal x).1.raised = .ok () :=
  (QuietSource.quiet x).settle _

theorem Ends.cases [QuietSource ρ] {r r' : Request} {outcome : Except Failure Bytes}
    (h : Ends ρ r outcome r') :
    (∃ body, outcome = .ok body ∧ r' = r.enter (.buffered body)) ∨
      ∃ e : Shortfall, outcome = .error e.reported ∧ r' = r.enter (.failed e.remembered) := by
  cases h with
  | kept body => exact .inl ⟨body, rfl, rfl⟩
  | lost e => exact .inr ⟨e, rfl, rfl⟩
  | lostInterrupted e hraised => cases (raised_leave _ _ _).symm.trans hraised
  | interrupted hraised => cases (raised_leave _ _ _).symm.trans hraised

end BodySource

namespace Host

/-- The request, the log and the source are independent components of a state. -/
structure Apart (h : Host σ) (get : σ → ρ) (put : ρ → σ → σ) : Prop where
  request_setRequest : ∀ r s, h.request (h.setRequest r s) = r
  request_note : ∀ entry s, h.request (h.note entry s) = h.request s
  request_put : ∀ x s, h.request (put x s) = h.request s
  get_setRequest : ∀ r s, get (h.setRequest r s) = get s
  get_note : ∀ entry s, get (h.note entry s) = get s
  get_put : ∀ x s, get (put x s) = x
  put_put : ∀ x y s, put y (put x s) = put y s
  put_get : ∀ s, put (get s) s = s

def settled (h : Host σ) (put : ρ → σ → σ) (closing : Closing × ρ) (s : σ) : σ :=
  match closing with
  | (.failed message, x) => h.note (.closeIgnored message) (put x s)
  | (_, x) => put x s

variable [BodySource ρ]

def lost (h : Host σ) (put : ρ → σ → σ) (e : BodyError) (last : ρ) (s : σ) : σ :=
  h.settled put (BodySource.leave e e last)
    (h.note (.bufferingFailed e) (h.setPhase (.failed e) (put last (h.setPhase .buffering s))))

def gained (h : Host σ) (put : ρ → σ → σ) (last : ρ) (s : σ) : σ :=
  h.settled put (BodySource.leave .alreadyBuffering .stillBuffering last)
    (put last (h.setPhase .buffering s))

def kept (h : Host σ) (put : ρ → σ → σ) (body : Bytes) (last : ρ) (s : σ) : σ :=
  h.note (.buffered body.length (h.request s).limits.maximum)
    (h.setPhase (.buffered body) (h.gained put last s))

def ending (h : Host σ) (put : ρ → σ → σ) (s : σ) :
    Except Shortfall Bytes × ρ → Except Failure Bytes × σ
  | (.error e, last) =>
    ((BodySource.leave e.remembered e.remembered last).1.raised.bind fun _ => .error e.reported,
      h.lost put e.remembered last s)
  | (.ok body, last) =>
    match (BodySource.leave .alreadyBuffering .stillBuffering last).1.raised with
    | .error e => (.error e, h.gained put last s)
    | .ok () => (.ok body, h.kept put body last s)

omit [BodySource ρ]

namespace Apart

variable {h : Host σ} {get : σ → ρ} {put : ρ → σ → σ} {s : σ} {denial refusal : BodyError}

theorem request_setPhase (ha : h.Apart get put) (p : Phase) (s : σ) :
    h.request (h.setPhase p s) = (h.request s).enter p :=
  ha.request_setRequest _ _

theorem get_setPhase (ha : h.Apart get put) (p : Phase) (s : σ) : get (h.setPhase p s) = get s :=
  ha.get_setRequest _ _

theorem request_settled (ha : h.Apart get put) (closing : Closing × ρ) (s : σ) :
    h.request (h.settled put closing s) = h.request s := by
  rcases closing with ⟨_ | message | message, x⟩
  · exact ha.request_put x s
  · exact (ha.request_note _ _).trans (ha.request_put x s)
  · exact ha.request_put x s

theorem get_settled (ha : h.Apart get put) (closing : Closing × ρ) (s : σ) :
    get (h.settled put closing s) = closing.2 := by
  rcases closing with ⟨_ | message | message, x⟩
  · exact ha.get_put x s
  · exact (ha.get_note _ _).trans (ha.get_put x s)
  · exact ha.get_put x s

variable [BodySource ρ]

theorem request_lost (ha : h.Apart get put) (e : BodyError) (last : ρ) (s : σ) :
    h.request (h.lost put e last s) = (h.request s).enter (.failed e) := by
  rw [lost, ha.request_settled, ha.request_note, ha.request_setPhase, ha.request_put,
    ha.request_setPhase]
  rfl

theorem get_lost (ha : h.Apart get put) (e : BodyError) (last : ρ) (s : σ) :
    get (h.lost put e last s) = (BodySource.leave e e last).2 :=
  ha.get_settled _ _

theorem request_gained (ha : h.Apart get put) (last : ρ) (s : σ) :
    h.request (h.gained put last s) = (h.request s).enter .buffering := by
  rw [gained, ha.request_settled, ha.request_put, ha.request_setPhase]

theorem get_gained (ha : h.Apart get put) (last : ρ) (s : σ) :
    get (h.gained put last s) = (BodySource.leave .alreadyBuffering .stillBuffering last).2 :=
  ha.get_settled _ _

theorem request_kept (ha : h.Apart get put) (body : Bytes) (last : ρ) (s : σ) :
    h.request (h.kept put body last s) = (h.request s).enter (.buffered body) := by
  rw [kept, ha.request_note, ha.request_setPhase, ha.request_gained]
  rfl

theorem get_kept (ha : h.Apart get put) (body : Bytes) (last : ρ) (s : σ) :
    get (h.kept put body last s) =
      (BodySource.leave .alreadyBuffering .stillBuffering last).2 := by
  rw [kept, ha.get_note, ha.get_setPhase, ha.get_gained]

theorem release_withSource (get : σ → ρ) (put : ρ → σ → σ)
    (hp : (h.request s).phase.Withholds denial refusal) (hc : (h.request s).cache = {}) :
    (h.withSource get put).release s =
      ((BodySource.leave denial refusal (get s)).1.raised,
        h.settled put (BodySource.leave denial refusal (get s)) s) := by
  have hclose : (h.withSource get put).close s = ((BodySource.leave denial refusal (get s)).1,
      put (BodySource.leave denial refusal (get s)).2 s) :=
    converse_withheld hp hc put _
  rw [release, hclose]
  generalize BodySource.leave denial refusal (get s) = closing
  rcases closing with ⟨_ | message | message, x⟩ <;> rfl

theorem read_withSource (ha : h.Apart get put) (hp : (h.request s).phase = .buffering)
    (hc : (h.request s).cache = {}) (size : Nat) (x : ρ) :
    (h.withSource get put).read size (put x s) =
      ((BodySource.draw size x).1, put (BodySource.draw size x).2 s) := by
  have hw : (h.request (put x s)).phase.Withholds .alreadyBuffering .stillBuffering := by
    rw [ha.request_put, hp]
    exact .buffering
  have hc' : (h.request (put x s)).cache = {} := by rw [ha.request_put, hc]
  refine (converse_withheld hw hc' put _).trans ?_
  rw [ha.get_put, ha.put_put]
  rfl

theorem gather_withSource (ha : h.Apart get put) (hp : (h.request s).phase = .buffering)
    (hc : (h.request s).cache = {}) (size limit : Nat) :
    gather ((h.withSource get put).read size) limit 0 s =
      ((gather (BodySource.draw size) limit 0 (get s)).1,
        put (gather (BodySource.draw size) limit 0 (get s)).2 s) := by
  have hmap := gather_map (f := fun x => put x s) (ha.read_withSource hp hc size) limit 0 (get s)
  rwa [ha.put_get] at hmap

theorem conclude_error (ha : h.Apart get put) (hc : (h.request s).cache = {}) (e : Shortfall)
    (last : ρ) :
    (h.withSource get put).conclude (.error e, put last (h.setPhase .buffering s)) =
      h.ending put s (.error e, last) := by
  let failed := h.note (.bufferingFailed e.remembered) (h.setPhase (.failed e.remembered)
    (put last (h.setPhase .buffering s)))
  have hrequest : h.request failed = (h.request s).enter (.failed e.remembered) := by
    rw [ha.request_note, ha.request_setPhase, ha.request_put, ha.request_setPhase]
    rfl
  have hlast : get failed = last := by rw [ha.get_note, ha.get_setPhase, ha.get_put]
  have hrelease := release_withSource get put (s := failed)
    (by rw [hrequest, Request.phase_enter]; exact .failed e.remembered)
    (by rw [hrequest, Request.cache_enter, hc])
  rw [hlast] at hrelease
  have hopen : (h.withSource get put).conclude (.error e, put last (h.setPhase .buffering s)) =
      (((h.withSource get put).release failed).1.bind fun _ => .error e.reported,
        ((h.withSource get put).release failed).2) := rfl
  rw [hopen, hrelease]
  rfl

theorem conclude_ok (ha : h.Apart get put) (hc : (h.request s).cache = {}) (body : Bytes)
    (last : ρ) :
    (h.withSource get put).conclude (.ok body, put last (h.setPhase .buffering s)) =
      h.ending put s (.ok body, last) := by
  have hrequest : h.request (put last (h.setPhase .buffering s)) =
      (h.request s).enter .buffering := by rw [ha.request_put, ha.request_setPhase]
  have hrelease := release_withSource get put (s := put last (h.setPhase .buffering s))
    (by rw [hrequest, Request.phase_enter]; exact .buffering)
    (by rw [hrequest, Request.cache_enter, hc])
  rw [ha.get_put] at hrelease
  have hlimits : (h.request (h.gained put last s)).limits = (h.request s).limits := by
    rw [ha.request_gained, Request.limits_enter]
  simp only [conclude, hrelease, ending]
  rw [gained] at hlimits
  rcases (BodySource.leave .alreadyBuffering .stillBuffering last).1.raised with _ | _
  · rfl
  · rw [kept, gained, ← hlimits]
    rfl

/-- Buffering gathers from the source and closes it as the last reading left it. -/
theorem buffer_withSource (ha : h.Apart get put) (hc : (h.request s).cache = {}) :
    (h.withSource get put).buffer s =
      h.ending put s (gather (BodySource.draw (h.request s).limits.chunk)
        (h.request s).limits.maximum 0 (get s)) := by
  have hgather := ha.gather_withSource (s := h.setPhase .buffering s)
    (by rw [ha.request_setPhase, Request.phase_enter])
    (by rw [ha.request_setPhase, Request.cache_enter, hc]) (h.request s).limits.chunk
    (h.request s).limits.maximum
  rw [ha.get_setPhase] at hgather
  have hopen : (h.withSource get put).buffer s = (h.withSource get put).conclude
      (gather ((h.withSource get put).read (h.request s).limits.chunk)
        (h.request s).limits.maximum 0 (h.setPhase .buffering s)) := rfl
  rw [hopen, hgather]
  rcases gather (BodySource.draw (h.request s).limits.chunk) (h.request s).limits.maximum 0
    (get s) with ⟨e | body, last⟩
  · exact ha.conclude_error hc e last
  · exact ha.conclude_ok hc body last

theorem ends_buffer (ha : h.Apart get put) (hc : (h.request s).cache = {}) :
    BodySource.Ends ρ (h.request s) ((h.withSource get put).buffer s).1
      (h.request ((h.withSource get put).buffer s).2) := by
  rw [ha.buffer_withSource hc]
  rcases gather (BodySource.draw (h.request s).limits.chunk) (h.request s).limits.maximum 0
    (get s) with ⟨e | body, last⟩
  · rw [ending, ha.request_lost]
    cases hraised : (BodySource.leave e.remembered e.remembered last).1.raised with
    | error f => exact .lostInterrupted e hraised
    | ok => exact .lost e
  · rw [ending]
    cases hraised : (BodySource.leave .alreadyBuffering .stillBuffering last).1.raised with
    | error f =>
      simp only
      rw [ha.request_gained]
      exact .interrupted hraised
    | ok =>
      simp only
      rw [ha.request_kept]
      exact .kept body

theorem exists_kept_of_ending {gathered : Except Shortfall Bytes × ρ} {body : Bytes}
    (hbody : (h.ending put s gathered).1 = .ok body) :
    ∃ last, (h.ending put s gathered).2 = h.kept put body last s := by
  rcases gathered with ⟨e | held, last⟩
  · rw [ending] at hbody
    generalize (BodySource.leave e.remembered e.remembered last).1.raised = raised at hbody
    cases raised with
    | error f => cases hbody
    | ok => cases hbody
  · rw [ending] at hbody ⊢
    generalize (BodySource.leave .alreadyBuffering .stillBuffering last).1.raised = raised
      at hbody ⊢
    cases raised with
    | error f => cases hbody
    | ok =>
      cases hbody
      exact ⟨last, rfl⟩

theorem exists_kept_of_buffer (ha : h.Apart get put) (hc : (h.request s).cache = {}) {body : Bytes}
    (hbody : ((h.withSource get put).buffer s).1 = .ok body) :
    ∃ last, ((h.withSource get put).buffer s).2 = h.kept put body last s := by
  rw [ha.buffer_withSource hc] at hbody ⊢
  exact exists_kept_of_ending hbody

theorem request_of_buffer (ha : h.Apart get put) (hc : (h.request s).cache = {}) {body : Bytes}
    (hbody : ((h.withSource get put).buffer s).1 = .ok body) :
    h.request ((h.withSource get put).buffer s).2 = (h.request s).enter (.buffered body) := by
  obtain ⟨last, hkept⟩ := ha.exists_kept_of_buffer hc hbody
  rw [hkept, ha.request_kept]

theorem phase_of_buffer (ha : h.Apart get put) (hc : (h.request s).cache = {}) {body : Bytes}
    (hbody : ((h.withSource get put).buffer s).1 = .ok body) :
    (h.request ((h.withSource get put).buffer s).2).phase = .buffered body := by
  rw [ha.request_of_buffer hc hbody, Request.phase_enter]

end Apart

end Host

namespace Solo

theorem apart : Host.Apart bare source fun (x : ρ) (s : Solo ρ) => { s with source := x } where
  request_setRequest _ _ := rfl
  request_note _ _ := rfl
  request_put _ _ := rfl
  get_setRequest _ _ := rfl
  get_note _ _ := rfl
  get_put _ _ := rfl
  put_put _ _ _ := rfl
  put_get _ := rfl

variable [BodySource ρ]

theorem ensure_fresh (limits : Limits) (source : ρ) (log : List Log.Entry) :
    host.ensure { request := { limits }, source, log } =
      bare.ending (fun x s => { s with source := x }) { request := { limits }, source, log }
        (gather (BodySource.draw limits.chunk) limits.maximum 0 source) :=
  apart.buffer_withSource rfl

theorem ensure_outcome [QuietSource ρ] (limits : Limits) (source : ρ) (log : List Log.Entry) :
    (host.ensure { request := { limits }, source, log }).1 =
      (gather (BodySource.draw limits.chunk) limits.maximum 0 source).1.mapError
        Shortfall.reported := by
  rw [ensure_fresh]
  rcases gather (BodySource.draw limits.chunk) limits.maximum 0 source with ⟨e | body, last⟩
  · simp only [Host.ending, BodySource.raised_leave]
    rfl
  · simp only [Host.ending, BodySource.raised_leave]
    rfl

/-- The source has been closed after the body was gathered. -/
structure Gains (limits : Limits) (after : Except Failure Bytes × Solo ρ) (body : Bytes)
    (last : ρ) : Prop where
  source_eq : after.2.source = (BodySource.leave .alreadyBuffering .stillBuffering last).2
  kept : (BodySource.leave .alreadyBuffering .stillBuffering last).1.raised = .ok () →
    after.1 = .ok body ∧ after.2.request = { limits, state := .buffered, body := some body }
  interrupted : ∀ e, (BodySource.leave .alreadyBuffering .stillBuffering last).1.raised = .error e →
    after.1 = .error e ∧ after.2.request = { limits, state := .buffering }

/-- The source has been closed after the gathering failed, and `stored` is kept. -/
structure Fails (limits : Limits) (after : Except Failure Bytes × Solo ρ) (raised : Failure)
    (stored : BodyError) (last : ρ) : Prop where
  source_eq : after.2.source = (BodySource.leave stored stored last).2
  request_eq : after.2.request = { limits, state := .failed, error := some stored }
  raises : (BodySource.leave stored stored last).1.raised = .ok () → after.1 = .error raised
  interrupted : ∀ e, (BodySource.leave stored stored last).1.raised = .error e →
    after.1 = .error e

theorem ensure_source (limits : Limits) (source : ρ) (log : List Log.Entry) :
    ∃ denial refusal, (host.ensure { request := { limits }, source, log }).2.source =
      (BodySource.leave denial refusal
        (gather (BodySource.draw limits.chunk) limits.maximum 0 source).2).2 := by
  rw [ensure_fresh]
  rcases gather (BodySource.draw limits.chunk) limits.maximum 0 source with ⟨e | body, last⟩
  · exact ⟨_, _, apart.get_lost _ _ _⟩
  · refine ⟨.alreadyBuffering, .stillBuffering, ?_⟩
    rw [Host.ending]
    cases (BodySource.leave .alreadyBuffering .stillBuffering last).1.raised with
    | error e => exact apart.get_gained _ _
    | ok => exact apart.get_kept _ _ _

theorem request_of_ensure {limits : Limits} {source : ρ} {log : List Log.Entry} {body : Bytes}
    (h : (host.ensure { request := { limits }, source, log }).1 = .ok body) :
    (host.ensure { request := { limits }, source, log }).2.request =
      { limits, state := .buffered, body := some body } :=
  apart.request_of_buffer rfl h

theorem gains_of_gather {limits : Limits} {source last : ρ} {body : Bytes}
    (h : gather (BodySource.draw limits.chunk) limits.maximum 0 source = (.ok body, last))
    (log : List Log.Entry) :
    Gains limits (host.ensure { request := { limits }, source, log }) body last := by
  rw [ensure_fresh, h, Host.ending]
  cases hraised : (BodySource.leave .alreadyBuffering .stillBuffering last).1.raised with
  | error e =>
    refine ⟨apart.get_gained _ _, fun hquiet => ?_, fun e' he' => ?_⟩
    · cases hraised.symm.trans hquiet
    · cases hraised.symm.trans he'
      exact ⟨rfl, apart.request_gained _ _⟩
  | ok =>
    refine ⟨apart.get_kept _ _ _, fun _ => ⟨rfl, apart.request_kept _ _ _⟩, fun e he => ?_⟩
    cases hraised.symm.trans he

theorem fails_of_gather {limits : Limits} {source last : ρ} {e : Shortfall}
    (h : gather (BodySource.draw limits.chunk) limits.maximum 0 source = (.error e, last))
    (log : List Log.Entry) :
    Fails limits (host.ensure { request := { limits }, source, log }) e.reported e.remembered
      last := by
  rw [ensure_fresh, h, Host.ending]
  refine ⟨apart.get_lost _ _ _, apart.request_lost _ _ _, fun hquiet => ?_, fun f hf => ?_⟩
  · rw [hquiet]
    rfl
  · rw [hf]
    rfl

end Solo

end DigestGate
