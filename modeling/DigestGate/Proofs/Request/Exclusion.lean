import DigestGate.Proofs.Request.Custody

namespace DigestGate

variable {limits : Limits} {phase : Phase} {used : List Deed}

theorem Deed.mem_uses {deed : Deed} {journal : List Deed} :
    deed ∈ uses journal ↔ deed ∈ journal ∧ deed.isUse :=
  List.mem_filter

theorem Phase.Opened.eq_handedOut (h : phase.Opened limits (.ok (.opened .source))) :
    phase = .handedOut := by
  cases phase with
  | fresh => exact h.elim
  | handedOut => rfl
  | buffering =>
    obtain ⟨e, he⟩ := h
    cases he
  | buffered body =>
    rcases h with ⟨e, he⟩ | hreplay
    · cases he
    · cases hreplay
  | failed error =>
    obtain ⟨e, he⟩ := h
    cases he

theorem Phase.Spent.state_ne {deed : Deed} (h : phase.Spent limits used) (hdeed : deed ∈ used) :
    phase.state ≠ .unbuffered := by
  intro hstate
  rw [Spent, if_pos hstate] at h
  rw [h] at hdeed
  exact List.not_mem_nil hdeed

theorem Phase.Opened.cases {answer : Except Failure Reply} (h : phase.Opened limits answer)
    (hstate : phase.state ≠ .unbuffered) :
    (∃ e, answer = .error e) ∨ ∃ body, phase = .buffered body ∧
      answer = .ok (.opened (.replay { content := body, chunk := limits.chunk })) := by
  cases phase with
  | fresh => exact absurd rfl hstate
  | handedOut => exact absurd rfl hstate
  | buffering => exact .inl h
  | buffered body => exact h.imp_right fun hreplay => ⟨body, rfl, hreplay⟩
  | failed e => exact .inl h

namespace Solo

variable {ρ : Type} {t : Watched ρ} {s : Solo ρ}

theorem Orderly.eq_handedOut (ht : Orderly limits t)
    (hopen : .answered .openStream (.ok (.opened .source)) ∈ t.2) :
    t.1.request.phase = .handedOut := by
  obtain ⟨_, _, hs⟩ := ht.stands
  exact (hs.opened _ hopen).eq_handedOut

theorem Orderly.opened_of_use {deed : Deed} (ht : Orderly limits t) (hmem : deed ∈ t.2)
    (huse : deed.isUse) {answer : Except Failure Reply}
    (hopen : .answered .openStream answer ∈ t.2) :
    (∃ e, answer = .error e) ∨ ∃ body, t.1.request.phase = .buffered body ∧
      answer = .ok (.opened (.replay { content := body, chunk := limits.chunk })) := by
  obtain ⟨used, hused, hs⟩ := ht.stands
  have hdeed : deed ∈ used := by
    rw [← hs.uses_eq]
    exact Deed.mem_uses.2 ⟨hmem, huse⟩
  exact (hs.opened answer hopen).cases (hused.state_ne hdeed)

variable [BodySource ρ]

structure Withdrawn (s : Solo ρ) : Prop where
  state_eq : s.request.state = .unbuffered
  ensure : host.ensure s = (.error (.body .handedOut), s)
  digestNamed : ∀ name, host.digestNamed name s = (.error (.body .handedOut), s)

theorem withdrawn_of_phase (hp : s.request.phase = .handedOut) : Withdrawn s := by
  have hphase : (host.request s).phase = .handedOut := hp
  refine ⟨Request.state_of_phase hp, ?_, fun name => ?_⟩
  · rw [Host.ensure, hphase]
    rfl
  · rw [Host.digestNamed, if_pos hphase]

/-- The source has not both been handed out and been used by its request. -/
structure Exclusive (limits : Limits) (source : ρ) (steps : List Step) : Prop where
  watched_eq : (watched limits source steps).1 = after limits source steps
  answered : ∀ operation, (journal limits source (steps ++ [.ask operation])).getLast? =
    some (.answered operation (host.perform operation (after limits source steps)).1)
  apart : ¬ (.answered .openStream (.ok (.opened .source)) ∈ journal limits source steps ∧
    ∃ deed ∈ journal limits source steps, deed.isUse)
  withdrawn : .answered .openStream (.ok (.opened .source)) ∈ journal limits source steps →
    ∀ later, Withdrawn (after limits source (steps ++ later)) ∧
      Deed.uses (journal limits source (steps ++ later)) = []
  opened : ∀ deed ∈ journal limits source steps, deed.isUse →
    ∀ answer, .answered .openStream answer ∈ journal limits source steps →
      (∃ e, answer = .error e) ∨ ∃ body,
        (after limits source steps).request.state = .buffered ∧
        (after limits source steps).request.body = some body ∧
        answer = .ok (.opened (.replay { content := body, chunk := limits.chunk }))

/-- No run both hands out the source and uses it for the request. -/
theorem handed_out_or_used (limits : Limits) (source : ρ) (steps : List Step) :
    Exclusive limits source steps := by
  have ht : Orderly limits (watched limits source steps) := orderly_watched limits source steps
  have hs : (watched limits source steps).1 = after limits source steps :=
    watched_fst limits source steps
  obtain ⟨used, hused, hstands⟩ := ht.stands
  have hout (hopen : .answered .openStream (.ok (.opened .source)) ∈ journal limits source steps)
      (later : List Step) :
      Stands limits .handedOut [] (watched limits source (steps ++ later)) := by
    have hp := ht.eq_handedOut hopen
    rw [hp] at hused hstands
    cases hused
    rw [watched_append]
    exact hstands.foldl_step nofun later
  refine ⟨hs, getLast?_journal_ask limits source steps, ?_, ?_, ?_⟩
  · rintro ⟨hopen, deed, hmem, huse⟩
    have huses := (hout hopen []).uses_eq
    rw [List.append_nil] at huses
    have hdeed := Deed.mem_uses.2 ⟨hmem, huse⟩
    exact absurd (huses ▸ hdeed) List.not_mem_nil
  · intro hopen later
    have hp := (hout hopen later).phase_eq
    rw [watched_fst] at hp
    exact ⟨withdrawn_of_phase hp, (hout hopen later).uses_eq⟩
  · intro deed hmem huse answer hopen
    obtain herror | ⟨body, hp, hreplay⟩ := ht.opened_of_use hmem huse hopen
    · exact .inl herror
    · rw [← hs]
      exact .inr ⟨body, Request.state_of_phase hp, hstands.valid.phase_eq_iff.1 hp, hreplay⟩

theorem handed_out_or_used_drawn :
    Withdrawn (after ⟨10, 4, by decide⟩
      ({ supply := .script [.reenter .ensure (some [1])] } : Source)
      [.ask .openStream, .draw (some 3)]) := by
  have h := handed_out_or_used ⟨10, 4, by decide⟩
    ({ supply := .script [.reenter .ensure (some [1])] } : Source) [.ask .openStream]
  exact (h.withdrawn (List.mem_singleton_self _) [.draw (some 3)]).1

end Solo

end DigestGate
