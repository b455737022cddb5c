import DigestGate.Proofs.Request.Buffering
import DigestGate.Proofs.Request.History
import DigestGate.Proofs.Request.Simulation

namespace DigestGate

variable {σ ρ : Type}

namespace Host

def traced (h : Host σ) : Host (σ × List Request) where
  request t := h.request t.1
  setRequest r t := (h.setRequest r t.1, t.2 ++ [r])
  read size t := ((h.read size t.1).1, (h.read size t.1).2, t.2)
  close t := ((h.close t.1).1, (h.close t.1).2, t.2)
  note entry t := (h.note entry t.1, t.2)

theorem traced_maps (h : Host σ) : h.traced.Maps h Prod.fst where
  request _ := rfl
  setRequest _ _ := rfl
  read _ _ := rfl
  close _ := rfl
  note _ _ := rfl

theorem Apart.traced {h : Host σ} {get : σ → ρ} {put : ρ → σ → σ} (ha : h.Apart get put) :
    h.traced.Apart (fun t => get t.1) fun x t => (put x t.1, t.2) where
  request_setRequest r t := ha.request_setRequest r t.1
  request_note entry t := ha.request_note entry t.1
  request_put x t := ha.request_put x t.1
  get_setRequest r t := ha.get_setRequest r t.1
  get_note entry t := ha.get_note entry t.1
  get_put x t := ha.get_put x t.1
  put_put x y t := by rw [ha.put_put]
  put_get t := by rw [ha.put_get]

end Host

namespace Solo

def start (limits : Limits) (source : ρ) : Solo ρ :=
  { request := { limits }, source }

variable {limits : Limits} {t : Solo ρ × List Request}

theorem cache_of_history (ht : Request.History limits t.2 t.1.request)
    (hp : t.1.request.phase = .fresh) : t.1.request.cache = {} :=
  (ht.valid _ ht.mem).cache_eq (by rw [hp]; exact nofun)

theorem snd_settled (closing : Closing × ρ) (t : Solo ρ × List Request) :
    (bare.traced.settled (fun source t => ({ t.1 with source }, t.2)) closing t).2 = t.2 := by
  rcases closing with ⟨_ | message | message, source⟩ <;> rfl

theorem history_settled (ht : Request.History limits t.2 t.1.request) (closing : Closing × ρ) :
    let t' := bare.traced.settled (fun source t => ({ t.1 with source }, t.2)) closing t
    Request.History limits t'.2 t'.1.request := by
  have hrequest := apart.traced.request_settled closing t
  intro t'
  rw [show t'.2 = t.2 from snd_settled closing t, show t'.1.request = t.1.request from hrequest]
  exact ht

variable [BodySource ρ]

/-- The requests written are recorded, those written during the use of the source included. -/
def tracedHost : Host (Solo ρ × List Request) :=
  bare.traced.withSource (fun t => t.1.source) fun source t => ({ t.1 with source }, t.2)

theorem tracedHost_maps : tracedHost.Maps (host (ρ := ρ)) Prod.fst :=
  bare.traced_maps.withSource (fun _ => rfl) fun _ _ => rfl

theorem history_ending (ht : Request.History limits t.2 t.1.request)
    (hp : t.1.request.phase = .fresh) {gathered : Except Shortfall Bytes} (last : ρ)
    (hle : ∀ body, gathered = .ok body → body.length ≤ t.1.request.limits.maximum) :
    let t' := (bare.traced.ending (fun source t => ({ t.1 with source }, t.2)) t
      (gathered, last)).2
    Request.History limits t'.2 t'.1.request := by
  have hbegin := ht.move (.begin hp)
  cases gathered with
  | error e => exact history_settled (hbegin.move (.lose e.remembered rfl)) _
  | ok body =>
    have hgained := history_settled (t := ({ t.1 with
        request := t.1.request.enter .buffering, source := last }, _)) hbegin
      (BodySource.leave .alreadyBuffering .stillBuffering last)
    have hrequest : (bare.traced.gained (fun source t => ({ t.1 with source }, t.2)) last
        t).1.request = t.1.request.enter .buffering := apart.traced.request_gained last t
    rw [Host.ending]
    cases (BodySource.leave .alreadyBuffering .stillBuffering last).1.raised with
    | error e => exact hgained
    | ok =>
      refine hgained.move (.keep ?_ ?_)
      · exact congrArg Request.phase hrequest
      · exact (congrArg (·.limits.maximum) hrequest).symm ▸ hle body rfl

theorem history_buffer (ht : Request.History limits t.2 t.1.request)
    (hp : t.1.request.phase = .fresh) :
    Request.History limits (tracedHost.buffer t).2.2 (tracedHost.buffer t).2.1.request := by
  rw [tracedHost, apart.traced.buffer_withSource (cache_of_history ht hp)]
  exact history_ending ht hp _ fun body hbody => length_le_of_gather (Prod.ext hbody rfl)

theorem history_keeps :
    tracedHost.Keeps fun t : Solo ρ × List Request => Request.History limits t.2 t.1.request where
  note ht _ := ht
  buffer ht hp := history_buffer ht hp
  buffered ht hp hbody := apart.traced.phase_of_buffer (cache_of_history ht hp) hbody
  store ht hp hne a := ht.move (.store a hp hne)
  handOut ht hp := ht.move (.handOut hp)

theorem history_run (limits : Limits) (source : ρ) (operations : List Operation) :
    let t := tracedHost.run operations (start limits source, [{ limits }])
    t.1 = host.run operations (start limits source) ∧
      Request.History limits t.2 t.1.request :=
  ⟨(tracedHost_maps.run operations (start limits source, [{ limits }])).symm,
    history_keeps.run operations .start⟩

theorem valid_run (limits : Limits) (source : ρ) (operations : List Operation) :
    (host.run operations (start limits source)).request.Valid := by
  obtain ⟨hrun, hhistory⟩ := history_run limits source operations
  rw [← hrun]
  exact hhistory.valid _ hhistory.mem

theorem rest_keeps [QuietSource ρ] : tracedHost.Keeps fun t : Solo ρ × List Request =>
    Request.History limits t.2 t.1.request ∧ t.1.request.phase ≠ .buffering where
  note ht _ := ht
  buffer ht hp := by
    refine ⟨history_buffer ht.1 hp, ?_⟩
    obtain ⟨body, -, hrequest⟩ | ⟨e, -, hrequest⟩ :=
      (apart.traced.ends_buffer (cache_of_history ht.1 hp)).cases
    · rw [show (tracedHost.buffer _).2.1.request = _ from hrequest, Request.phase_enter]
      exact Phase.noConfusion
    · rw [show (tracedHost.buffer _).2.1.request = _ from hrequest, Request.phase_enter]
      exact Phase.noConfusion
  buffered ht hp hbody := history_keeps.buffered ht.1 hp hbody
  store ht hp hne a := ⟨history_keeps.store ht.1 hp hne a, ht.2⟩
  handOut ht hp := ⟨history_keeps.handOut ht.1 hp, Phase.noConfusion⟩

/-- The fields of a request agree with its state. -/
structure Sound (limits : Limits) (s : Solo ρ) (t : Solo ρ × List Request) : Prop where
  body_iff : s.request.body.isSome ↔ s.request.state = .buffered
  error_iff : s.request.error.isSome ↔ s.request.state = .failed
  length_le : ∀ body, s.request.body = some body → body.length ≤ limits.maximum
  computed : ∀ a digest, s.request.cache.get? a = some digest →
    ∃ body, s.request.state = .buffered ∧ s.request.body = some body ∧ body ≠ [] ∧
      digest = a.compute body
  state_ne : s.request.state ≠ .buffering
  traced_eq : t.1 = s
  history : Request.History limits t.2 s.request
  reentered : ∀ {σ : Type} (h : Host σ) (m : σ) (operation : Operation)
    (denial refusal : BodyError), h.request m ∈ t.2 →
      (h.request m).phase.Withholds denial refusal →
        h.perform operation m = (operation.withheld denial refusal, m)

/-- The request is sound after any operations, those made by its source included. -/
theorem run_sound [QuietSource ρ] (limits : Limits) (source : ρ)
    (operations : List Operation) :
    Sound limits (host.run operations (start limits source))
      (tracedHost.run operations (start limits source, [{ limits }])) := by
  obtain ⟨hrun, -⟩ := history_run limits source operations
  have hstart : Request.History limits [{ limits }] (start limits source).request ∧
      (start limits source).request.phase ≠ .buffering := ⟨.start, Phase.noConfusion⟩
  obtain ⟨hhistory, hphase⟩ := rest_keeps.run operations
    (s := (start limits source, [{ limits }])) hstart
  rw [hrun] at hhistory hphase
  have hvalid := hhistory.valid _ hhistory.mem
  refine ⟨hvalid.body_iff, hvalid.error_iff, ?_, ?_, ?_, hrun, hhistory, ?_⟩
  · intro body hbody
    have hle := hvalid.length_le body hbody
    rwa [hhistory.limits_eq] at hle
  · intro a digest hdigest
    obtain ⟨body, hbody, hne, hequal⟩ := hvalid.computed a digest hdigest
    exact ⟨body, hvalid.body_iff.1 (Option.isSome_of_eq_some hbody), hbody, hne, hequal⟩
  · exact mt Request.phase_eq_buffering_iff.2 hphase
  · intro σ h m operation denial refusal hm hw
    exact Host.perform_withheld hw ((hhistory.valid _ hm).cache_eq hw.ne_buffered) operation

theorem mem_trace_ensure (limits : Limits) (source : ρ) :
    { limits, state := .buffering } ∈
      (tracedHost.run [.ensure] (start limits source, [{ limits }])).2 := by
  have hrun : tracedHost.run [.ensure] (start limits source, [{ limits }]) =
      (tracedHost.buffer (start limits source, [{ limits }])).2 := rfl
  rw [hrun, tracedHost, apart.traced.buffer_withSource rfl]
  rcases gather _ _ _ _ with ⟨e | body, last⟩
  · rw [Host.ending, Host.lost, snd_settled]
    exact List.mem_append_left _ (List.mem_append_right _ (List.mem_singleton_self _))
  · have hgained : { limits, state := .buffering } ∈
        (bare.traced.gained (fun source t => ({ t.1 with source }, t.2)) last
          (start limits source, [{ limits }])).2 := by
      rw [Host.gained, snd_settled]
      exact List.mem_append_right _ (List.mem_singleton_self _)
    rw [Host.ending]
    cases (BodySource.leave .alreadyBuffering .stillBuffering last).1.raised with
    | error e => exact hgained
    | ok => exact List.mem_append_left _ hgained

theorem run_sound_reentered :
    let m : Solo Source := {
      request := { limits := ⟨10, 4, by decide⟩, state := .buffering }
      source := { supply := .script [.reenter .ensure none] } }
    bare.perform .ensure m = (.error (.body .alreadyBuffering), m) := by
  intro m
  have h := run_sound ⟨10, 4, by decide⟩ m.source [.ensure]
  exact h.reentered bare m .ensure _ _ (mem_trace_ensure _ _) .buffering

end Solo

end DigestGate
