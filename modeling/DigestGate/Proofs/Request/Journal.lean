import DigestGate.Proofs.Request.Run

namespace DigestGate

variable {σ ρ α : Type}

/-- An event at a request: an operation with its answer, or a use of the source. -/
inductive Deed where
  | answered (operation : Operation) (answer : Except Failure Reply)
  | read (size : Nat)
  | close

namespace Deed

def isUse : Deed → Bool
  | .answered _ _ => false
  | .read _ | .close => true

def uses (journal : List Deed) : List Deed :=
  journal.filter isUse

theorem uses_answered (journal : List Deed) (operation : Operation)
    (answer : Except Failure Reply) :
    uses (journal ++ [.answered operation answer]) = uses journal := by
  rw [uses, List.filter_append]
  exact List.append_nil _

theorem uses_use {deed : Deed} (h : deed.isUse) (journal : List Deed) :
    uses (journal ++ [deed]) = uses journal ++ [deed] := by
  rw [uses, List.filter_append, List.filter_cons_of_pos h]
  rfl

end Deed

namespace Host

def journaled (h : Host σ) : Host (σ × List Deed) where
  request t := h.request t.1
  setRequest r t := (h.setRequest r t.1, t.2)
  read size t := ((h.read size t.1).1, (h.read size t.1).2, t.2 ++ [.read size])
  close t := ((h.close t.1).1, (h.close t.1).2, t.2 ++ [.close])
  note entry t := (h.note entry t.1, t.2)

def attend (h : Host (σ × List Deed)) (operation : Operation) (t : σ × List Deed) :
    Except Failure Reply × σ × List Deed :=
  let (answer, s, journal) := h.perform operation t
  (answer, s, journal ++ [.answered operation answer])

/-- Run an exchange, recording the operations that the source performs. -/
def discuss (h : Host (σ × List Deed)) (put : ρ → σ → σ) :
    Exchange α ρ → σ × List Deed → α × σ × List Deed
  | .done outcome source, t => (outcome, put source t.1, t.2)
  | .ask operation next, t =>
    let (answer, t) := h.attend operation t
    h.discuss put (next answer) t

variable {h : Host σ} {h' : Host (σ × List Deed)}

theorem journaled_maps (h : Host σ) : h.journaled.Maps h Prod.fst where
  request _ := rfl
  setRequest _ _ := rfl
  read _ _ := rfl
  close _ := rfl
  note _ _ := rfl

theorem Maps.attend (hm : h'.Maps h Prod.fst) (operation : Operation) (t : σ × List Deed) :
    h.perform operation t.1 = Prod.map id Prod.fst (h'.attend operation t) :=
  hm.perform operation t

theorem Maps.discuss (hm : h'.Maps h Prod.fst) (put : ρ → σ → σ) (exchange : Exchange α ρ)
    (t : σ × List Deed) :
    h.converse put exchange t.1 = Prod.map id Prod.fst (h'.discuss put exchange t) := by
  induction exchange generalizing t with
  | done outcome source => rfl
  | ask operation next ih =>
    rw [Host.converse, Host.discuss, hm.attend operation t]
    exact ih _ _

end Host

namespace Solo

abbrev Watched (ρ : Type) := Solo ρ × List Deed

/-- A call from outside: an operation, or a use of the source after it was handed out. -/
inductive Step where
  | ask (operation : Operation)
  | draw (size : Option Int)
  | shut

def putSource (source : ρ) (s : Solo ρ) : Solo ρ :=
  { s with source }

def lend (exchange : ρ → Exchange α ρ) (s : Solo ρ) : Solo ρ :=
  if s.request.phase = .handedOut then (bare.converse putSource (exchange s.source) s).2 else s

def lendWatched (exchange : ρ → Exchange α ρ) (t : Watched ρ) : Watched ρ :=
  if t.1.request.phase = .handedOut then
    (bare.journaled.discuss putSource (exchange t.1.source) t).2
  else t

def watching (read : Nat → Watched ρ → Except Failure Piece × Watched ρ)
    (close : Watched ρ → Closing × Watched ρ) : Host (Watched ρ) :=
  { bare.journaled with read, close }

theorem lend_fst (exchange : ρ → Exchange α ρ) (t : Watched ρ) :
    t.1.lend exchange = (lendWatched exchange t).1 := by
  rw [lend, lendWatched]
  split
  · rw [bare.journaled_maps.discuss putSource _ t]
    rfl
  · rfl

variable [BodySource ρ]

def step (s : Solo ρ) : Step → Solo ρ
  | .ask operation => (host.perform operation s).2
  | .draw size => s.lend (BodySource.read size)
  | .shut => s.lend BodySource.close

/-- Each use of the source is recorded before the operations performed during it. -/
def watchedHost : Host (Watched ρ) :=
  watching
    (fun size t => bare.journaled.discuss putSource (BodySource.read (some (size : Int)) t.1.source)
      (t.1, t.2 ++ [.read size]))
    (fun t => bare.journaled.discuss putSource (BodySource.close t.1.source)
      (t.1, t.2 ++ [.close]))

def watchedStep (t : Watched ρ) : Step → Watched ρ
  | .ask operation => (watchedHost.attend operation t).2
  | .draw size => lendWatched (BodySource.read size) t
  | .shut => lendWatched BodySource.close t

theorem watchedHost_maps : watchedHost.Maps (host (ρ := ρ)) Prod.fst where
  request _ := rfl
  setRequest _ _ := rfl
  read size t := bare.journaled_maps.discuss putSource
    (BodySource.read (some (size : Int)) t.1.source) (t.1, t.2 ++ [Deed.read size])
  close t := bare.journaled_maps.discuss putSource (BodySource.close t.1.source)
    (t.1, t.2 ++ [Deed.close])
  note _ _ := rfl

/-- Recording does not affect the request. -/
theorem step_fst (t : Watched ρ) (s : Step) : t.1.step s = (watchedStep t s).1 := by
  cases s with
  | ask operation => exact congrArg Prod.snd (watchedHost_maps.attend operation t)
  | draw size => exact lend_fst _ t
  | shut => exact lend_fst _ t

def after (limits : Limits) (source : ρ) (steps : List Step) : Solo ρ :=
  steps.foldl step (start limits source)

def watched (limits : Limits) (source : ρ) (steps : List Step) : Watched ρ :=
  steps.foldl watchedStep (start limits source, [])

def journal (limits : Limits) (source : ρ) (steps : List Step) : List Deed :=
  (watched limits source steps).2

theorem foldl_step_fst (steps : List Step) (t : Watched ρ) :
    (steps.foldl watchedStep t).1 = steps.foldl step t.1 := by
  induction steps generalizing t with
  | nil => rfl
  | cons s steps ih =>
    rw [List.foldl_cons, List.foldl_cons, ih, step_fst]

theorem watched_fst (limits : Limits) (source : ρ) (steps : List Step) :
    (watched limits source steps).1 = after limits source steps :=
  foldl_step_fst steps (start limits source, [])

theorem watched_append (limits : Limits) (source : ρ) (steps later : List Step) :
    watched limits source (steps ++ later) =
      later.foldl watchedStep (watched limits source steps) :=
  List.foldl_append

theorem getLast?_journal_ask (limits : Limits) (source : ρ) (steps : List Step)
    (operation : Operation) :
    (journal limits source (steps ++ [.ask operation])).getLast? =
      some (.answered operation (host.perform operation (after limits source steps)).1) := by
  have hanswer := congrArg Prod.fst
    (watchedHost_maps.attend operation (watched limits source steps))
  rw [watched_fst] at hanswer
  rw [hanswer, journal, watched_append]
  exact List.getLast?_concat

end Solo

end DigestGate
