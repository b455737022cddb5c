import DigestGate.Proofs.Request.Journal

namespace DigestGate

variable {σ ρ α : Type} {limits : Limits} {phase next : Phase} {used : List Deed}

/-- The answers to `openStream` that have occurred by the time of a phase. -/
def Phase.Opened (limits : Limits) : Phase → Except Failure Reply → Prop
  | .fresh, _ => False
  | .handedOut, _ => True
  | .buffering, answer => ∃ e, answer = .error e
  | .buffered body, answer =>
    (∃ e, answer = .error e) ∨
      answer = .ok (.opened (.replay (Request.replay { limits } body)))
  | .failed _, answer => ∃ e, answer = .error e

/-- The uses of the source by the time of a phase. -/
def Phase.Spent (limits : Limits) (phase : Phase) (used : List Deed) : Prop :=
  if phase.state = .unbuffered then used = []
  else ∃ k, used = List.replicate k (.read limits.chunk) ++ [.close]

namespace Solo

/-- The state of a watched request in `phase` whose source has seen `used`. -/
structure Stands (limits : Limits) (phase : Phase) (used : List Deed) (t : Watched ρ) : Prop where
  limits_eq : t.1.request.limits = limits
  phase_eq : t.1.request.phase = phase
  valid : t.1.request.Valid
  uses_eq : Deed.uses t.2 = used
  opened : ∀ answer, .answered .openStream answer ∈ t.2 → phase.Opened limits answer

variable {t : Watched ρ} {reading : Nat → Watched ρ → Except Failure Piece × Watched ρ}
  {closing : Watched ρ → Closing × Watched ρ}

theorem stands_start (limits : Limits) (source : ρ) :
    Stands limits .fresh [] (start limits source, []) where
  limits_eq := rfl
  phase_eq := rfl
  valid := Request.valid_start limits
  uses_eq := rfl
  opened _ h := absurd h List.not_mem_nil

theorem opened_perform (hlimits : t.1.request.limits = limits) :
    ((watching reading closing).perform .openStream t).2.1.request.phase.Opened limits
      ((watching reading closing).perform .openStream t).1 := by
  have houtcome : (watching reading closing).perform .openStream t =
      Host.replying .opened ((watching reading closing).openBody t) := rfl
  generalize (watching reading closing).perform .openStream t = outcome at houtcome ⊢
  have hphase : ((watching reading closing).request t).phase = t.1.request.phase := rfl
  rw [Host.openBody, hphase] at houtcome
  cases hp : t.1.request.phase with
  | fresh =>
    rw [hp] at houtcome
    rw [houtcome]
    trivial
  | handedOut =>
    rw [hp] at houtcome
    rw [houtcome]
    trivial
  | buffering =>
    rw [hp] at houtcome
    have hafter : outcome.2.1.request.phase = .buffering := by rw [houtcome]; exact hp
    rw [hafter, houtcome]
    exact ⟨_, rfl⟩
  | buffered body =>
    rw [hp] at houtcome
    have hafter : outcome.2.1.request.phase = .buffered body := by rw [houtcome]; exact hp
    rw [hafter, houtcome, ← hlimits]
    exact .inr rfl
  | failed e =>
    rw [hp] at houtcome
    have hafter : outcome.2.1.request.phase = .failed e := by rw [houtcome]; exact hp
    rw [hafter, houtcome]
    exact ⟨_, rfl⟩

namespace Stands

theorem state_eq (ht : Stands limits phase used t) : t.1.request.state = phase.state :=
  Request.state_of_phase ht.phase_eq

theorem cache_eq (ht : Stands limits phase used t) (hphase : ∀ body, phase ≠ .buffered body) :
    t.1.request.cache = {} :=
  ht.valid.cache_eq (by rwa [ht.phase_eq])

theorem note (ht : Stands limits phase used t) (entry : Log.Entry) :
    Stands limits phase used (bare.journaled.note entry t) :=
  ⟨ht.limits_eq, ht.phase_eq, ht.valid, ht.uses_eq, ht.opened⟩

theorem put (ht : Stands limits phase used t) (source : ρ) :
    Stands limits phase used (putSource source t.1, t.2) :=
  ⟨ht.limits_eq, ht.phase_eq, ht.valid, ht.uses_eq, ht.opened⟩

theorem enter (ht : Stands limits phase used t) (operation : Operation)
    {answer : Except Failure Reply}
    (hanswer : operation = .openStream → phase.Opened limits answer) :
    Stands limits phase used (t.1, t.2 ++ [.answered operation answer]) where
  limits_eq := ht.limits_eq
  phase_eq := ht.phase_eq
  valid := ht.valid
  uses_eq := (Deed.uses_answered t.2 operation answer).trans ht.uses_eq
  opened other h := by
    rcases List.mem_append.1 h with h | h
    · exact ht.opened other h
    · cases List.mem_singleton.1 h
      exact hanswer rfl

theorem use {deed : Deed} (ht : Stands limits phase used t) (hdeed : deed.isUse) :
    Stands limits phase (used ++ [deed]) (t.1, t.2 ++ [deed]) where
  limits_eq := ht.limits_eq
  phase_eq := ht.phase_eq
  valid := ht.valid
  uses_eq := by rw [Deed.uses_use hdeed, ht.uses_eq]
  opened answer h := by
    rcases List.mem_append.1 h with h | h
    · exact ht.opened answer h
    · cases List.mem_singleton.1 h
      cases hdeed

theorem turn (ht : Stands limits phase used t)
    (hstate : phase.state = .unbuffered ∨ phase.state = .buffering)
    (hle : ∀ body, next = .buffered body → body.length ≤ limits.maximum)
    (hnext : ∀ answer, phase.Opened limits answer → next.Opened limits answer) :
    Stands limits next used (bare.journaled.setPhase next t) where
  limits_eq := (Request.limits_enter _ next).trans ht.limits_eq
  phase_eq := Request.phase_enter _ next
  valid := ht.valid.enter (by rwa [← ht.state_eq] at hstate) (by rwa [ht.limits_eq])
  uses_eq := ht.uses_eq
  opened answer h := hnext answer (ht.opened answer h)

/-- Operations do not use the source unless the request is fresh. -/
theorem keeps (hphase : phase ≠ .fresh) :
    (watching reading closing).Keeps (Stands limits phase used) where
  note ht entry := ht.note entry
  buffer ht hp := absurd (ht.phase_eq.symm.trans hp) hphase
  buffered ht hp := absurd (ht.phase_eq.symm.trans hp) hphase
  store ht hp hne a :=
    have hmoves := Request.Moves.store a hp hne
    ⟨ht.limits_eq, ht.phase_eq, hmoves.valid ht.valid, ht.uses_eq, ht.opened⟩
  handOut {t} ht hp := by
    have hout : phase = .handedOut := by
      rcases hp with hp | hp
      · exact absurd (ht.phase_eq.symm.trans hp) hphase
      · exact ht.phase_eq.symm.trans hp
    subst hout
    exact ht.turn (.inl rfl) nofun fun _ _ => trivial

theorem attend (ht : Stands limits phase used t) (hphase : phase ≠ .fresh)
    (operation : Operation) :
    Stands limits phase used ((watching reading closing).attend operation t).2 := by
  have hafter : Stands limits phase used ((watching reading closing).perform operation t).2 :=
    (keeps hphase).perform operation ht
  refine hafter.enter operation fun hopen => ?_
  subst hopen
  rw [← hafter.phase_eq]
  exact opened_perform ht.limits_eq

theorem discuss (ht : Stands limits phase used t) (hphase : phase ≠ .fresh)
    (exchange : Exchange α ρ) :
    Stands limits phase used (bare.journaled.discuss putSource exchange t).2 := by
  induction exchange generalizing t with
  | done outcome source => exact ht.put source
  | ask operation next ih => exact ih _ (ht.attend hphase operation)

theorem lendWatched (ht : Stands limits phase used t) (exchange : ρ → Exchange α ρ) :
    Stands limits phase used (lendWatched exchange t) := by
  rw [Solo.lendWatched]
  by_cases hp : t.1.request.phase = .handedOut
  · rw [if_pos hp]
    refine ht.discuss ?_ _
    rw [← ht.phase_eq, hp]
    exact Phase.noConfusion
  · rw [if_neg hp]
    exact ht

variable [BodySource ρ]

theorem read (ht : Stands limits .buffering used t) (size : Nat) :
    Stands limits .buffering (used ++ [.read size]) (watchedHost.read size t).2 :=
  (ht.use rfl).discuss nofun _

theorem release (ht : Stands limits phase used t) (hphase : phase ≠ .fresh) :
    Stands limits phase (used ++ [.close]) (watchedHost.release t).2 := by
  have hclose : Stands limits phase (used ++ [.close]) (watchedHost.close t).2 :=
    (ht.use rfl).discuss hphase _
  rw [Host.release]
  generalize watchedHost.close t = closing at hclose ⊢
  rcases closing with ⟨_ | message | message, t'⟩
  · exact hclose
  · exact hclose.note _
  · exact hclose

theorem gather (ht : Stands limits .buffering [] t) (size limit : Nat) :
    ∃ k, Stands limits .buffering (List.replicate k (.read size))
      (gather (watchedHost.read size) limit 0 t).2 := by
  refine gather_induct
    (P := fun t => ∃ k, Stands limits .buffering (List.replicate k (.read size)) t) ?_ ⟨0, ht⟩
  intro t ⟨k, ht⟩
  refine ⟨k + 1, ?_⟩
  rw [List.replicate_succ']
  exact ht.read size

theorem conclude (ht : Stands limits .buffering used t) {gathered : Except Shortfall Bytes}
    (hle : ∀ body, gathered = .ok body → body.length ≤ limits.maximum) :
    ∃ next : Phase, next.state ≠ .unbuffered ∧
      Stands limits next (used ++ [.close]) (watchedHost.conclude (gathered, t)).2 := by
  cases gathered with
  | error e =>
    have hlost : Stands limits (.failed e.remembered) used (watchedHost.setPhase _ t) :=
      ht.turn (.inr rfl) nofun fun _ h => h
    exact ⟨_, BufferState.noConfusion, (hlost.note _).release Phase.noConfusion⟩
  | ok body =>
    have hreleased := ht.release Phase.noConfusion
    rw [Host.conclude]
    generalize watchedHost.release t = released at hreleased ⊢
    rcases released with ⟨e | _, t'⟩
    · exact ⟨.buffering, BufferState.noConfusion, hreleased⟩
    · have hkept : Stands limits (.buffered body) (used ++ [.close])
          (watchedHost.setPhase (.buffered body) t') := by
        refine hreleased.turn (.inr rfl) (fun held hheld => ?_) fun _ h => .inl h
        cases hheld
        exact hle body rfl
      exact ⟨_, BufferState.noConfusion, hkept.note _⟩

/-- Buffering a fresh request reads its source by the chunk and closes it once. -/
theorem buffer (ht : Stands limits .fresh [] t) :
    ∃ k, ∃ next : Phase, next.state ≠ .unbuffered ∧
      Stands limits next (List.replicate k (.read limits.chunk) ++ [.close])
        (watchedHost.buffer t).2 := by
  have hbegin : Stands limits .buffering [] (watchedHost.setPhase .buffering t) :=
    ht.turn (.inl rfl) nofun fun _ h => h.elim
  obtain ⟨k, hread⟩ := hbegin.gather limits.chunk limits.maximum
  have hlimits : (watchedHost.request t).limits = limits := ht.limits_eq
  refine ⟨k, ?_⟩
  rw [Host.buffer, hlimits]
  rcases hgather : DigestGate.gather (watchedHost.read limits.chunk) limits.maximum 0
    (watchedHost.setPhase .buffering t) with ⟨gathered, last⟩
  rw [hgather] at hread
  apply hread.conclude
  rintro body rfl
  exact length_le_of_gather hgather

theorem step (ht : Stands limits phase used t) (hphase : phase ≠ .fresh) (s : Step) :
    Stands limits phase used (watchedStep t s) := by
  cases s with
  | ask operation => exact ht.attend hphase operation
  | draw size => exact ht.lendWatched _
  | shut => exact ht.lendWatched _

theorem foldl_step (ht : Stands limits phase used t) (hphase : phase ≠ .fresh)
    (steps : List Step) : Stands limits phase used (steps.foldl watchedStep t) := by
  induction steps generalizing t with
  | nil => exact ht
  | cons s steps ih => exact ih (ht.step hphase s)

end Stands

def Orderly (limits : Limits) (t : Watched ρ) : Prop :=
  ∃ phase used, phase.Spent limits used ∧ Stands limits phase used t

theorem orderly_start (limits : Limits) (source : ρ) :
    Orderly limits (start limits source, []) :=
  ⟨.fresh, [], rfl, stands_start limits source⟩

namespace Orderly

theorem stands (ht : Orderly limits t) :
    ∃ used, t.1.request.phase.Spent limits used ∧ Stands limits t.1.request.phase used t := by
  obtain ⟨phase, used, hused, hs⟩ := ht
  rw [hs.phase_eq]
  exact ⟨used, hused, hs⟩

theorem stands_fresh (ht : Orderly limits t) (hp : t.1.request.phase = .fresh) :
    Stands limits .fresh [] t := by
  obtain ⟨used, hused, hs⟩ := ht.stands
  rw [hp] at hused hs
  cases hused
  exact hs

variable [BodySource ρ]

theorem keeps : watchedHost.Keeps (Orderly (ρ := ρ) limits) where
  note := fun ⟨phase, used, hused, hs⟩ entry => ⟨phase, used, hused, hs.note entry⟩
  buffer ht hp := by
    obtain ⟨k, next, hnext, hs⟩ := (ht.stands_fresh hp).buffer
    exact ⟨next, _, by rw [Phase.Spent, if_neg hnext]; exact ⟨k, rfl⟩, hs⟩
  buffered {t body} _ _ hbody := by
    have hmaps := watchedHost_maps.buffer t
    have hphase : (host.buffer t.1).2.request.phase = .buffered body :=
      phase_of_buffer ((congrArg Prod.fst hmaps).trans hbody)
    rwa [hmaps] at hphase
  store ht hp hne a := by
    obtain ⟨phase, used, hused, hs⟩ := ht
    have hphase : phase ≠ .fresh := fun h => by cases hp.symm.trans (hs.phase_eq.trans h)
    exact ⟨phase, used, hused, (Stands.keeps hphase).store hs hp hne a⟩
  handOut ht hp := by
    rcases hp with hp | hp
    · exact ⟨.handedOut, [], rfl, (ht.stands_fresh hp).turn (.inl rfl) nofun fun _ h => h.elim⟩
    · obtain ⟨phase, used, hused, hs⟩ := ht
      have hphase : phase ≠ .fresh := fun h => by cases hp.symm.trans (hs.phase_eq.trans h)
      exact ⟨phase, used, hused, (Stands.keeps hphase).handOut hs (.inr hp)⟩

theorem attend (ht : Orderly limits t) (operation : Operation) :
    Orderly limits (watchedHost.attend operation t).2 := by
  obtain ⟨used, hused, hs⟩ := (keeps.perform operation ht).stands
  obtain ⟨_, _, hbefore⟩ := ht.stands
  refine ⟨_, used, hused, hs.enter operation fun hopen => ?_⟩
  subst hopen
  exact opened_perform hbefore.limits_eq

theorem step (ht : Orderly limits t) (s : Step) : Orderly limits (watchedStep t s) := by
  obtain ⟨used, hused, hs⟩ := ht.stands
  cases s with
  | ask operation => exact ht.attend operation
  | draw size => exact ⟨_, used, hused, hs.lendWatched _⟩
  | shut => exact ⟨_, used, hused, hs.lendWatched _⟩

theorem foldl_step (ht : Orderly limits t) (steps : List Step) :
    Orderly limits (steps.foldl watchedStep t) := by
  induction steps generalizing t with
  | nil => exact ht
  | cons s steps ih => exact ih (ht.step s)

end Orderly

theorem orderly_watched [BodySource ρ] (limits : Limits) (source : ρ) (steps : List Step) :
    Orderly limits (watched limits source steps) :=
  (orderly_start limits source).foldl_step steps

end Solo

end DigestGate
