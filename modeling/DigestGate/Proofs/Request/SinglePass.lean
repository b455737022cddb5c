import DigestGate.Proofs.Request.Custody
import DigestGate.Proofs.Request.Demand

namespace DigestGate

/-- The error stored is the one raised, or stands for an abort. -/
def Failure.RememberedAs (raised : Failure) (stored : BodyError) : Prop :=
  raised = .body stored ∨
    stored = .aborted ∧
      ((∃ message, raised = .interrupted message) ∨ ∃ kind, raised = .fault (.notBytes kind))

theorem Shortfall.rememberedAs (e : Shortfall) : e.reported.RememberedAs e.remembered := by
  cases e with
  | unread failure =>
    cases failure with
    | fault cause => exact .inl rfl
    | body error => exact .inl rfl
    | interrupted message => exact .inr ⟨rfl, .inl ⟨message, rfl⟩⟩
  | notBytes kind => exact .inr ⟨rfl, .inr ⟨kind, rfl⟩⟩
  | tooLarge limit observed => exact .inl rfl

theorem Algorithm.resolve_name (a : Algorithm) : resolve (.text a.name) = .ok a := by
  cases a <;> rfl

namespace Solo

variable {ρ : Type} {limits : Limits} {s : Solo ρ} {t : Watched ρ} {body : Bytes}
  {stored : BodyError} {used : List Deed}

theorem Orderly.uses_eq_nil (ht : Orderly limits t) (hstate : t.1.request.state = .unbuffered) :
    Deed.uses t.2 = [] := by
  obtain ⟨used, hused, hs⟩ := ht.stands
  rw [Phase.Spent, if_pos (hs.state_eq.symm.trans hstate)] at hused
  rw [hs.uses_eq, hused]

theorem Orderly.exists_uses_eq (ht : Orderly limits t)
    (hstate : t.1.request.state ≠ .unbuffered) :
    ∃ k, Deed.uses t.2 = List.replicate k (.read limits.chunk) ++ [.close] := by
  obtain ⟨used, hused, hs⟩ := ht.stands
  rw [Phase.Spent, if_neg (mt hs.state_eq.trans hstate)] at hused
  rwa [hs.uses_eq]

theorem Stands.error_eq (ht : Stands limits phase used t)
    (herror : t.1.request.error = some stored) : phase = .failed stored := by
  have hstate := ht.valid.error_iff.1 (Option.isSome_of_eq_some herror)
  rw [← ht.phase_eq, Request.phase, hstate, herror]
  rfl

variable [BodySource ρ]

theorem fresh_of_phase (hp : s.request.phase = .fresh) (hc : s.request.cache = {}) :
    host.Fresh s where
  phase_eq := hp
  cache_eq := hc
  buffered {body s'} hbuffer := by
    have hrequest : (host.buffer s).2.request = s.request.enter (.buffered body) :=
      apart.request_of_buffer hc (congrArg Prod.fst hbuffer)
    rw [hbuffer] at hrequest
    constructor
    · exact (congrArg Request.phase hrequest).trans (Request.phase_enter _ _)
    · exact (congrArg Request.cache hrequest).trans hc

/-- The operation that stores an error raises it. -/
theorem raised_of_failed [QuietSource ρ] (hp : s.request.phase = .fresh)
    (hc : s.request.cache = {}) (operation : Operation)
    (hfailed : (host.perform operation s).2.request.phase = .failed stored) :
    ∃ raised, (host.perform operation s).1 = .error raised ∧ raised.RememberedAs stored := by
  rcases (fresh_of_phase hp hc).perform operation with hsame | hout | hfollows
  · rw [hsame, hp] at hfailed
    cases hfailed
  · rw [hout] at hfailed
    cases hfailed
  · rw [Host.Follows] at hfollows
    have hends : BodySource.Ends ρ s.request (host.buffer s).1 (host.buffer s).2.request :=
      apart.ends_buffer hc
    rcases hbuffer : host.buffer s with ⟨raised | body, s'⟩
    · rw [hbuffer] at hfollows hends
      obtain ⟨body, hbody, -⟩ | ⟨e, he, hrequest⟩ := hends.cases
      · cases hbody
      · cases he
        have hphase : s'.request.phase = .failed e.remembered :=
          (congrArg Request.phase hrequest).trans (Request.phase_enter _ _)
        rw [hfollows, hphase] at hfailed
        cases hfailed
        exact ⟨e.reported, congrArg Prod.fst hfollows, e.rememberedAs⟩
    · rw [hbuffer] at hfollows
      have hbuffered : s'.request.phase = .buffered body :=
        ((fresh_of_phase hp hc).buffered hbuffer).1
      rw [hfollows, buffered_keeps.perform operation hbuffered] at hfailed
      cases hfailed

theorem Orderly.rest_keeps [QuietSource ρ] :
    watchedHost.Keeps fun t : Watched ρ => Orderly limits t ∧ t.1.request.phase ≠ .buffering where
  note ht entry := ⟨Orderly.keeps.note ht.1 entry, ht.2⟩
  buffer {t} ht hp := by
    refine ⟨Orderly.keeps.buffer ht.1 hp, ?_⟩
    have hc := (ht.1.stands_fresh hp).cache_eq nofun
    have hrequest : (watchedHost.buffer t).2.1.request = (host.buffer t.1).2.request := by
      rw [watchedHost_maps.buffer t]
      rfl
    obtain ⟨body, -, hafter⟩ | ⟨e, -, hafter⟩ := (apart.ends_buffer (s := t.1) hc).cases
    · rw [hrequest, show (host.buffer t.1).2.request = _ from hafter, Request.phase_enter]
      exact Phase.noConfusion
    · rw [hrequest, show (host.buffer t.1).2.request = _ from hafter, Request.phase_enter]
      exact Phase.noConfusion
  buffered ht hp hbody := Orderly.keeps.buffered ht.1 hp hbody
  store ht hp hne a := ⟨Orderly.keeps.store ht.1 hp hne a, ht.2⟩
  handOut ht hp := ⟨Orderly.keeps.handOut ht.1 hp, Phase.noConfusion⟩

theorem Orderly.phase_step_ne [QuietSource ρ] (ht : Orderly limits t)
    (hp : t.1.request.phase ≠ .buffering) (s : Step) :
    (watchedStep t s).1.request.phase ≠ .buffering := by
  obtain ⟨_, _, hs⟩ := ht.stands
  cases s with
  | ask operation => exact (rest_keeps.perform operation ⟨ht, hp⟩).2
  | draw size => rwa [show (watchedStep t (.draw size)).1.request.phase = _ from
      (hs.lendWatched (BodySource.read size)).phase_eq]
  | shut => rwa [show (watchedStep t .shut).1.request.phase = _ from
      (hs.lendWatched BodySource.close).phase_eq]

theorem Orderly.phase_foldl_ne [QuietSource ρ] (ht : Orderly limits t)
    (hp : t.1.request.phase ≠ .buffering) (steps : List Step) :
    (steps.foldl watchedStep t).1.request.phase ≠ .buffering := by
  induction steps generalizing t with
  | nil => exact hp
  | cons s steps ih => exact ih (ht.step s) (ht.phase_step_ne hp s)

/-- A request without body and digests fails with `stored` and does not change. -/
structure Refuses (stored : BodyError) (s : Solo ρ) : Prop where
  body : s.request.body = none
  computed : s.request.cache.computed = []
  ensure : host.ensure s = (.error (.body stored), s)
  openBody : host.openBody s = (.error (.body stored), s)
  digestNamed : ∀ name a, Algorithm.resolve name = .ok a →
    host.digestNamed name s = (.error (.body stored), s)

theorem Stands.refuses (ht : Stands limits (.failed stored) used t) : Refuses stored t.1 := by
  have hw : (host.request t.1).phase.Withholds stored stored := by
    rw [show (host.request t.1).phase = .failed stored from ht.phase_eq]
    exact .failed stored
  have hc : (host.request t.1).cache = {} := ht.cache_eq nofun
  refine ⟨?_, ?_, Host.ensure_withheld hw, Host.openBody_withheld hw, fun name a hname => ?_⟩
  · apply Option.not_isSome_iff_eq_none.1
    rw [ht.valid.body_iff, ht.state_eq]
    exact BufferState.noConfusion
  · rw [ht.cache_eq nofun]
    rfl
  · rw [Host.digestNamed_of_resolve hname]
    exact Host.digest_withheld hw hc a

theorem after_append_ask (limits : Limits) (source : ρ) (steps : List Step)
    (operation : Operation) :
    after limits source (steps ++ [.ask operation]) =
      (host.perform operation (after limits source steps)).2 :=
  List.foldl_append

theorem valid_after (limits : Limits) (source : ρ) (steps : List Step) :
    (after limits source steps).request.Valid := by
  obtain ⟨_, _, hs⟩ := (orderly_watched limits source steps).stands
  rw [← watched_fst]
  exact hs.valid

theorem stands_later {source : ρ} {steps : List Step}
    (hp : (after limits source steps).request.phase ≠ .fresh) (later : List Step) :
    Stands limits (after limits source steps).request.phase
      (Deed.uses (journal limits source steps)) (watched limits source (steps ++ later)) := by
  obtain ⟨used, -, hs⟩ := (orderly_watched limits source steps).stands
  obtain rfl : Deed.uses (journal limits source steps) = used := hs.uses_eq
  rw [watched_fst] at hs
  rw [watched_append]
  exact hs.foldl_step hp later

theorem ensure_later {source : ρ} {steps : List Step}
    (hbody : (after limits source steps).request.body = some body) (later : List Step) :
    (host.ensure (after limits source (steps ++ later))).1 = .ok body := by
  have hp := (valid_after limits source steps).phase_eq_iff.2 hbody
  have hafter := (stands_later (by rw [hp]; exact Phase.noConfusion) later).phase_eq
  rw [watched_fst, hp] at hafter
  rw [Host.ensure, show (host.request _).phase = .buffered body from hafter]
  rfl

theorem refuses_later {source : ρ} {steps : List Step}
    (herror : (after limits source steps).request.error = some stored) (later : List Step) :
    Refuses stored (after limits source (steps ++ later)) := by
  obtain ⟨_, _, hs⟩ := (orderly_watched limits source steps).stands
  have hp : (after limits source steps).request.phase = .failed stored := by
    rw [watched_fst] at hs
    exact hs.error_eq (by rwa [watched_fst])
  have hafter := stands_later (by rw [hp]; exact Phase.noConfusion) later
  rw [hp] at hafter
  rw [← watched_fst]
  exact hafter.refuses

theorem raised_of_stored [QuietSource ρ] {source : ρ} {steps : List Step}
    (hnone : (after limits source steps).request.error = none) (operation : Operation)
    (herror : (host.perform operation (after limits source steps)).2.request.error =
      some stored) :
    ∃ raised, (host.perform operation (after limits source steps)).1 = .error raised ∧
      raised.RememberedAs stored := by
  obtain ⟨_, _, hafter⟩ := (orderly_watched limits source (steps ++ [.ask operation])).stands
  have hfailed := hafter.error_eq (by rwa [watched_fst, after_append_ask])
  by_cases hp : (after limits source steps).request.phase = .fresh
  · rw [watched_fst, after_append_ask] at hfailed
    refine raised_of_failed hp ?_ operation hfailed
    refine (valid_after limits source steps).cache_eq fun body hbody => ?_
    exact Phase.noConfusion (hp.symm.trans hbody)
  · rw [(stands_later hp [.ask operation]).phase_eq] at hfailed
    have hstored := (valid_after limits source steps).error_iff.2 (Request.state_of_phase hfailed)
    rw [hnone] at hstored
    cases hstored

/-- The source is read in one pass and closed, and what this comes to is kept. -/
structure SinglePass (limits : Limits) (source : ρ) (steps : List Step) : Prop where
  watched_eq : (watched limits source steps).1 = after limits source steps
  unread : (after limits source steps).request.state = .unbuffered →
    Deed.uses (journal limits source steps) = []
  read_once : (after limits source steps).request.state ≠ .unbuffered →
    ∃ k, Deed.uses (journal limits source steps) =
      List.replicate k (.read limits.chunk) ++ [.close]
  unused : (after limits source steps).request.state ≠ .unbuffered → ∀ later,
    Deed.uses (journal limits source (steps ++ later)) = Deed.uses (journal limits source steps)
  returned : ∀ body, (host.ensure (after limits source steps)).1 = .ok body →
    (host.ensure (after limits source steps)).2.request.body = some body
  kept : ∀ body, (after limits source steps).request.body = some body → ∀ later,
    (host.ensure (after limits source (steps ++ later))).1 = .ok body
  refused : ∀ stored, (after limits source steps).request.error = some stored → ∀ later,
    Refuses stored (after limits source (steps ++ later))
  settled : QuietSource ρ → (after limits source steps).request.state ≠ .buffering
  raised : QuietSource ρ → ∀ operation stored,
    (after limits source steps).request.error = none →
      (host.perform operation (after limits source steps)).2.request.error = some stored →
        ∃ raised, (host.perform operation (after limits source steps)).1 = .error raised ∧
          raised.RememberedAs stored
  named : ∀ a, host.digestNamed (.text a.name) (after limits source steps) =
    host.digest a (after limits source steps)
  message : BodyError.aborted.message = "request body buffering was aborted"

/-- Any steps, from a new request over any source. -/
theorem single_pass (limits : Limits) (source : ρ) (steps : List Step) :
    SinglePass limits source steps := by
  have ht : Orderly limits (watched limits source steps) := orderly_watched limits source steps
  have hs : (watched limits source steps).1 = after limits source steps :=
    watched_fst limits source steps
  refine {
    watched_eq := hs
    unread := fun hstate => ht.uses_eq_nil (by rwa [hs])
    read_once := fun hstate => ht.exists_uses_eq (by rwa [hs])
    unused := fun hstate later => ?unused
    returned := fun body hbody => ?returned
    kept := fun body hbody later => ensure_later hbody later
    refused := fun stored herror later => refuses_later herror later
    settled := fun _ => ?settled
    raised := fun _ operation stored hnone herror => raised_of_stored hnone operation herror
    named := fun a => Host.digestNamed_of_resolve a.resolve_name _
    message := rfl }
  case unused =>
    exact (stands_later (fun hp => hstate (Request.state_of_phase hp)) later).uses_eq
  case returned =>
    have hvalid := valid_after limits source (steps ++ [.ask .ensure])
    rw [after_append_ask] at hvalid
    exact hvalid.phase_eq_iff.1 (phase_of_ensure hbody)
  case settled =>
    rw [← hs]
    refine mt Request.phase_eq_buffering_iff.2 ?_
    exact (orderly_start limits source).phase_foldl_ne Phase.noConfusion steps

def interruptedSource : Source :=
  { supply := .script [.reenter .openStream (some [1]), .failure (.interrupted "stop")] }

def tightLimits : Limits :=
  ⟨10, 4, by decide⟩

theorem ensure_interruptedSource :
    (host.ensure (start tightLimits interruptedSource)).2.request.error = some .aborted := by
  have hd : Decided (BodySource.draw tightLimits.chunk) tightLimits.maximum 0 interruptedSource
      [[1]] (.error (.interrupted "stop")) _ :=
    .later rfl (by simp [Decisive, tightLimits]) (.here rfl trivial)
  exact congrArg Request.error (fails_of_gather hd.gather_eq []).request_eq

theorem single_pass_interrupted :
    Refuses .aborted (after tightLimits interruptedSource
      [.ask .ensure, .ask .openStream, .ask (.digest (.text "sha-1"))]) :=
  (single_pass tightLimits interruptedSource [.ask .ensure]).refused .aborted
    ensure_interruptedSource [.ask .openStream, .ask (.digest (.text "sha-1"))]

/-- A source with a constant reading whose closing is interrupted. -/
structure AbruptSource where
  event : Except Failure Piece

instance : BodySource AbruptSource where
  read _ x := .done x.event x
  close x := .done (.interrupted "stop") x

def unendedSource : AbruptSource :=
  ⟨.ok (.bytes [])⟩

def brokenSource : AbruptSource :=
  ⟨.error (.fault (.source .system "reset"))⟩

def textSource : Source :=
  { supply := .script [.piece (.text "")] }

/-- An interrupted closing leaves the request buffering or hides the stored failure. -/
theorem ensure_not_sticky :
    let ended := host.ensure (start tightLimits unendedSource)
    let broken := host.ensure (start tightLimits brokenSource)
    let read := host.ensure (start tightLimits textSource)
    (ended.1 = .error (.interrupted "stop") ∧ ended.2.request.error = none ∧
      ended.2.request.state = .buffering ∧
      (host.ensure ended.2).1 = .error (.body .alreadyBuffering) ∧
      (host.openBody ended.2).1 = .error (.body .stillBuffering)) ∧
    (broken.1 = .error (.interrupted "stop") ∧
      broken.2.request.error = some (.unreadable (.source .system "reset"))) ∧
    read.1 = .ok [] ∧ read.2.request.error = none := by
  intro ended broken read
  have hended : Gains tightLimits ended [] unendedSource :=
    gains_of_gather (by rw [gather]; rfl) []
  have hbroken : Fails tightLimits broken _ (.unreadable (.source .system "reset")) brokenSource :=
    fails_of_gather (e := .unread (.fault (.source .system "reset"))) (by rw [gather]; rfl) []
  have hread : Gains tightLimits read []
      { textSource with supply := .script [], sizes := [some 4] } :=
    gains_of_gather (by rw [gather]; rfl) []
  obtain ⟨houtcome, hrequest⟩ := hended.interrupted _ rfl
  refine ⟨⟨houtcome, ?_, ?_, ?_, ?_⟩, ⟨hbroken.interrupted _ rfl, ?_⟩, (hread.kept rfl).1, ?_⟩
  · rw [hrequest]
  · rw [hrequest]
  · rw [Host.ensure, show host.request ended.2 = _ from hrequest]
    rfl
  · rw [Host.openBody, show host.request ended.2 = _ from hrequest]
    rfl
  · rw [hbroken.request_eq]
  · rw [(hread.kept rfl).2]

end Solo

end DigestGate
