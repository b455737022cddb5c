import DigestGate.Proofs.Body.Progress

namespace DigestGate

variable {α : Type} {p : α → Bool} {l : List α} {a b : α} {n : Nat}

theorem getElem?_filter_of_getElem? (hget : l[n]? = some a) (ha : p a) :
    (l.filter p)[(l.take n).countP p]? = some a := by
  induction l generalizing n with
  | nil => cases hget
  | cons x l ih =>
    cases n with
    | zero =>
      cases hget
      rw [List.filter_cons_of_pos ha]
      rfl
    | succ n =>
      rw [List.take_succ_cons, List.countP_cons]
      by_cases hx : p x
      · rw [List.filter_cons_of_pos hx, if_pos hx, List.getElem?_cons_succ]
        exact ih hget
      · rw [List.filter_cons_of_neg hx, if_neg hx]
        exact ih hget

theorem filter_set_of_pos (hget : l[n]? = some a) (ha : p a) (hb : p b) :
    (l.set n b).filter p = (l.filter p).set ((l.take n).countP p) b := by
  induction l generalizing n with
  | nil => cases hget
  | cons x l ih =>
    cases n with
    | zero =>
      cases hget
      rw [List.set_cons_zero, List.filter_cons_of_pos hb, List.filter_cons_of_pos ha]
      rfl
    | succ n =>
      rw [List.set_cons_succ, List.take_succ_cons, List.countP_cons]
      by_cases hx : p x
      · rw [List.filter_cons_of_pos hx, List.filter_cons_of_pos hx, if_pos hx, List.set_cons_succ,
          ih hget]
      · rw [List.filter_cons_of_neg hx, List.filter_cons_of_neg hx, if_neg hx]
        exact ih hget

theorem filter_set_of_neg (hget : l[n]? = some a) (ha : ¬ p a) (hb : ¬ p b) :
    (l.set n b).filter p = l.filter p := by
  induction l generalizing n with
  | nil => cases hget
  | cons x l ih =>
    cases n with
    | zero =>
      cases hget
      rw [List.set_cons_zero, List.filter_cons_of_neg hb, List.filter_cons_of_neg ha]
    | succ n =>
      rw [List.set_cons_succ, List.filter_cons, List.filter_cons, ih hget]

namespace StreamTable

/-- The stream addressed by a call. A walk belongs to the stream it was begun over. -/
def target (i : Nat) (call : StreamCall) (t : StreamTable) : Nat :=
  match call with
  | .next walk => ((t.walks[walk]?).map Prod.fst).getD i
  | _ => i

def walksBefore (i n : Nat) (t : StreamTable) : Nat :=
  (t.walks.take n).countP fun w => w.1 = i

/-- A call with its walk renumbered among the walks over stream `i`. -/
def localCall (i : Nat) (t : StreamTable) : StreamCall → StreamCall
  | .next walk => .next (t.walksBefore i walk)
  | call => call

def localAnswer (i : Nat) (t : StreamTable) :
    Except Failure StreamAnswer → Except Failure StreamAnswer
  | .ok (.walk walk) => .ok (.walk (t.walksBefore i walk))
  | answer => answer

/-- The table restricted to stream `i` and the walks over it. -/
def alone (i : Nat) (t : StreamTable) : StreamTable where
  streams := (t.streams[i]?).toList
  walks := (t.walks.filter fun w => w.1 = i).map fun w => (0, w.2)

def pieceAnswer : Except Failure (Option Bytes) → Except Failure StreamAnswer
  | .ok (some piece) => .ok (.bytes piece)
  | .ok none => .ok .ended
  | .error e => .error e

variable {t t' : StreamTable} {i j walk n : Nat} {call : StreamCall} {s : BodyStream}
  {it : PieceIterator} {answer : Except Failure StreamAnswer}

theorem delivered_pieceAnswer (piece : Except Failure (Option Bytes)) :
    StreamAnswer.delivered (pieceAnswer piece) = BodyStream.pieceOf piece := by
  obtain _ | _ | _ := piece <;> rfl

theorem localAnswer_pieceAnswer (piece : Except Failure (Option Bytes)) :
    t.localAnswer i (pieceAnswer piece) = pieceAnswer piece := by
  obtain _ | _ | _ := piece <;> rfl

theorem localAnswer_of_ne (h : ∀ n, answer ≠ .ok (.walk n)) :
    t.localAnswer i answer = answer := by
  unfold localAnswer
  split
  · next walk => exact absurd rfl (h walk)
  · rfl

theorem delivered_localAnswer :
    StreamAnswer.delivered (t.localAnswer i answer) = StreamAnswer.delivered answer := by
  unfold localAnswer
  split <;> rfl

theorem next_of (hwalk : t.walks[walk]? = some (i, it)) (hs : t.streams[i]? = some s) :
    t.next walk = some (pieceAnswer (s.nextPiece it).1,
      { streams := t.streams.set i (s.nextPiece it).2.2
        walks := t.walks.set walk (i, (s.nextPiece it).2.1) }) := by
  rw [next, hwalk]
  simp only [hs, Option.map_some]
  generalize s.nextPiece it = outcome
  obtain ⟨_ | _ | _, it', s'⟩ := outcome <;> rfl

theorem next_eq (h : t.next walk = some (answer, t')) :
    ∃ i it s, t.walks[walk]? = some (i, it) ∧ t.streams[i]? = some s ∧
      answer = pieceAnswer (s.nextPiece it).1 ∧
      t' = { streams := t.streams.set i (s.nextPiece it).2.2
             walks := t.walks.set walk (i, (s.nextPiece it).2.1) } := by
  have hnext := h
  rw [next] at h
  split at h
  · cases h
  · next i it hwalk =>
    obtain ⟨s, hs, -⟩ := Option.map_eq_some_iff.1 h
    rw [next_of hwalk hs] at hnext
    cases hnext
    exact ⟨i, it, s, hwalk, hs, rfl, rfl⟩

def IsPlain : StreamCall → Prop
  | .walk _ | .next _ => False
  | _ => True

theorem answering_ne_walk {σ : Type} {wrap : α → StreamAnswer} (hwrap : ∀ a, wrap a ≠ .walk n)
    (outcome : Except Failure α × σ) : (answering wrap outcome).1 ≠ .ok (.walk n) := by
  obtain ⟨_ | a, state⟩ := outcome
  · intro h
    cases h
  · intro h
    exact hwrap a (Except.ok.inj h)

theorem perform_ne_walk (call : StreamCall) (s : BodyStream) (n : Nat) :
    (s.perform call).1 ≠ .ok (.walk n) := by
  cases call with
  | read | readAll | readInto | readLine | readLines | pieces | remaining | isFinished =>
    exact answering_ne_walk (fun _ h => by cases h) _
  | flush =>
    rw [BodyStream.perform, flushed]
    split <;> exact fun h => by cases h
  | walk | next | tell | isReady | readable | seekable | writable | messages | seek | close
  | isClosed =>
    intro h
    cases h

/-- Inversion of a call: a walk begins, a walk continues, or the stream answers. -/
theorem perform_cases (h : t.perform j call = some (answer, t')) :
    ∃ s, t.streams[j]? = some s ∧
      ((∃ size, call = .walk size ∧ answer = .ok (.walk t.walks.length) ∧
          t' = { t with walks := t.walks ++ [(j, { size })] }) ∨
        (∃ walk, call = .next walk ∧ t.next walk = some (answer, t')) ∨
        IsPlain call ∧ answer = (s.perform call).1 ∧
          t' = { t with streams := t.streams.set j (s.perform call).2 }) := by
  obtain ⟨s, hs, h⟩ := Option.bind_eq_some_iff.1 h
  refine ⟨s, hs, ?_⟩
  cases call with
  | walk size =>
    cases h
    exact .inl ⟨size, rfl, rfl, rfl⟩
  | next walk => exact .inr (.inl ⟨walk, rfl, h⟩)
  | _ =>
    cases h
    exact .inr (.inr ⟨trivial, rfl, rfl⟩)

theorem perform_plain (hs : t.streams[j]? = some s) (hcall : IsPlain call) :
    t.perform j call =
      some ((s.perform call).1, { t with streams := t.streams.set j (s.perform call).2 }) := by
  rw [perform, hs]
  cases call with
  | walk | next => exact hcall.elim
  | _ => rfl

theorem target_plain (hcall : IsPlain call) : t.target j call = j := by
  cases call with
  | next => exact hcall.elim
  | _ => rfl

theorem localCall_plain (hcall : IsPlain call) : t.localCall i call = call := by
  cases call with
  | next => exact hcall.elim
  | _ => rfl

theorem target_next (hwalk : t.walks[walk]? = some (i, it)) :
    t.target j (.next walk) = i := by
  rw [target, hwalk]
  rfl

/-- Stream `i` moves forward over `bytes` if it is open, and no other stream changes. -/
def Moves (t : StreamTable) (i : Nat) (bytes : Bytes) (t' : StreamTable) : Prop :=
  ∃ s s', t.streams[i]? = some s ∧ t'.streams = t.streams.set i s' ∧
    s.Advances bytes s' ∧ (s.closed = true → bytes = [] ∧ s' = s)

theorem moves_perform (h : t.perform j call = some (answer, t')) :
    t.Moves (t.target j call) (StreamAnswer.delivered answer) t' := by
  obtain ⟨s, hs, ⟨size, rfl, rfl, rfl⟩ | ⟨walk, rfl, hnext⟩ | ⟨hcall, rfl, rfl⟩⟩ := perform_cases h
  · obtain ⟨hlt, rfl⟩ := List.getElem?_eq_some_iff.1 hs
    exact ⟨_, _, hs, (List.set_getElem_self hlt).symm, .refl _, fun _ => ⟨rfl, rfl⟩⟩
  · obtain ⟨i, it, s, hwalk, hs, rfl, rfl⟩ := next_eq hnext
    rw [target_next hwalk, delivered_pieceAnswer]
    exact ⟨s, _, hs, rfl, (s.yields_nextPiece it).toAdvances,
      fun hclosed => s.nextPiece_closed hclosed it⟩
  · rw [target_plain hcall]
    exact ⟨s, _, hs, rfl, s.advances_perform call, fun hclosed => s.perform_closed hclosed call⟩

theorem alone_streams (hs : t.streams[i]? = some s) : (t.alone i).streams = [s] := by
  rw [alone, hs]
  rfl

theorem alone_walk (hwalk : t.walks[walk]? = some (i, it)) :
    (t.alone i).walks[t.walksBefore i walk]? = some (0, it) := by
  have hkept := getElem?_filter_of_getElem? (p := fun w : Nat × PieceIterator => w.1 = i) hwalk
    (decide_eq_true rfl)
  rw [alone, walksBefore, List.getElem?_map, hkept]
  rfl

theorem length_alone_walks : (t.alone i).walks.length = t.walksBefore i t.walks.length := by
  rw [alone, walksBefore, List.length_map, List.take_length, List.countP_eq_length_filter]

theorem alone_set (hs : t.streams[i]? = some s) (s' : BodyStream)
    (walks : List (Nat × PieceIterator)) :
    alone i { streams := t.streams.set i s', walks } =
      { streams := [s'], walks := (walks.filter fun w => w.1 = i).map fun w => (0, w.2) } := by
  obtain ⟨hlt, -⟩ := List.getElem?_eq_some_iff.1 hs
  rw [alone, List.getElem?_set_self hlt]
  rfl

/-- A call has the effect that it has in the restricted table. -/
theorem perform_alone (h : t.perform j call = some (answer, t')) :
    (t.alone (t.target j call)).perform 0 (t.localCall (t.target j call) call) =
      some (t.localAnswer (t.target j call) answer, t'.alone (t.target j call)) := by
  obtain ⟨s, hs, ⟨size, rfl, rfl, rfl⟩ | ⟨walk, rfl, hnext⟩ | ⟨hcall, rfl, rfl⟩⟩ := perform_cases h
  · show (t.alone j).perform 0 (.walk size) = some (.ok (.walk (t.walksBefore j _)), alone j _)
    rw [perform, alone_streams hs, length_alone_walks.symm]
    simp [alone, hs]
  · obtain ⟨i, it, s, hwalk, hs, rfl, rfl⟩ := next_eq hnext
    have hs' : (t.alone i).streams[0]? = some s := by
      rw [alone_streams hs]
      rfl
    rw [target_next hwalk, localAnswer_pieceAnswer, alone_set hs, localCall, perform, hs',
      filter_set_of_pos hwalk (decide_eq_true rfl) (decide_eq_true rfl), List.map_set]
    refine (next_of (alone_walk hwalk) hs').trans ?_
    rw [alone_streams hs]
    rfl
  · have hs' : (t.alone j).streams[0]? = some s := by
      rw [alone_streams hs]
      rfl
    rw [target_plain hcall, localCall_plain hcall, perform_plain hs' hcall, alone_set hs,
      alone_streams hs, localAnswer_of_ne (perform_ne_walk call s)]
    rfl

theorem alone_of_ne (h : t.perform j call = some (answer, t')) (hi : t.target j call ≠ i) :
    t'.alone i = t.alone i := by
  obtain ⟨s, hs, ⟨size, rfl, rfl, rfl⟩ | ⟨walk, rfl, hnext⟩ | ⟨hcall, rfl, rfl⟩⟩ := perform_cases h
  · have hi : j ≠ i := hi
    simp [alone, hi]
  · obtain ⟨k, it, s, hwalk, hs, rfl, rfl⟩ := next_eq hnext
    rw [target_next hwalk] at hi
    rw [alone, alone, List.getElem?_set_ne hi,
      filter_set_of_neg hwalk (by simpa using hi) (by simpa using hi)]
  · rw [target_plain hcall] at hi
    rw [alone, alone, List.getElem?_set_ne hi]

theorem walksBefore_alone (hn : n ≤ (t.alone i).walks.length) :
    (t.alone i).walksBefore 0 n = n := by
  have hall : ∀ w ∈ (t.alone i).walks.take n, decide (w.1 = 0) = true := by
    intro w hw
    obtain ⟨w, -, rfl⟩ := List.mem_map.1 (List.mem_of_mem_take hw)
    rfl
  rw [walksBefore, List.countP_eq_length.2 hall, List.length_take, Nat.min_eq_left hn]

theorem target_alone (call : StreamCall) : (t.alone i).target 0 call = 0 := by
  cases call with
  | next walk =>
    cases hwalk : (t.alone i).walks[walk]? with
    | none =>
      rw [target, hwalk]
      rfl
    | some w =>
      obtain ⟨w, -, rfl⟩ := List.mem_map.1 (List.mem_of_getElem? hwalk)
      rw [target, hwalk]
      rfl
  | _ => rfl

theorem localCall_alone (h : t.perform j call = some (answer, t')) :
    (t.alone (t.target j call)).localCall 0 (t.localCall (t.target j call) call) =
      t.localCall (t.target j call) call := by
  obtain ⟨s, hs, ⟨size, rfl, -⟩ | ⟨walk, rfl, hnext⟩ | ⟨hcall, -⟩⟩ := perform_cases h
  · rfl
  · obtain ⟨i, it, s, hwalk, -⟩ := next_eq hnext
    obtain ⟨hlt, -⟩ := List.getElem?_eq_some_iff.1 (alone_walk hwalk)
    rw [target_next hwalk, localCall, localCall, walksBefore_alone (Nat.le_of_lt hlt)]
  · rw [localCall_plain hcall, localCall_plain hcall]

theorem localAnswer_alone (h : t.perform j call = some (answer, t')) :
    (t.alone (t.target j call)).localAnswer 0 (t.localAnswer (t.target j call) answer) =
      t.localAnswer (t.target j call) answer := by
  obtain ⟨s, hs, ⟨size, rfl, rfl, -⟩ | ⟨walk, rfl, hnext⟩ | ⟨hcall, rfl, -⟩⟩ := perform_cases h
  · show localAnswer 0 (t.alone j) (.ok (.walk (t.walksBefore j _))) = _
    rw [localAnswer, walksBefore_alone (Nat.le_of_eq length_alone_walks.symm)]
    rfl
  · obtain ⟨i, it, s, hwalk, -, rfl, -⟩ := next_eq hnext
    rw [localAnswer_pieceAnswer, localAnswer_pieceAnswer]
  · rw [localAnswer_of_ne (perform_ne_walk call s), localAnswer_of_ne (perform_ne_walk call s)]

theorem length_perform (h : t.perform j call = some (answer, t')) :
    t'.streams.length = t.streams.length := by
  obtain ⟨s, s', -, hstreams, -⟩ := moves_perform h
  rw [hstreams, List.length_set]

theorem target_lt (h : t.perform j call = some (answer, t')) :
    t.target j call < t.streams.length := by
  obtain ⟨s, s', hs, -⟩ := moves_perform h
  obtain ⟨hlt, -⟩ := List.getElem?_eq_some_iff.1 hs
  exact hlt

theorem perform_next (hs : t.streams[i]? = some s) (walk : Nat) :
    t.perform i (.next walk) = t.next walk := by
  rw [perform, hs]
  rfl

theorem target_eq_or_mem (j : Nat) (call : StreamCall) (t : StreamTable) :
    t.target j call = j ∨ ∃ w ∈ t.walks, w.1 = t.target j call := by
  cases call with
  | next walk =>
    cases hwalk : t.walks[walk]? with
    | none =>
      rw [target, hwalk]
      exact .inl rfl
    | some w =>
      rw [target, hwalk]
      exact .inr ⟨w, List.mem_of_getElem? hwalk, rfl⟩
  | _ => exact .inl rfl

theorem walk_eq_or_mem (h : t.perform j call = some (answer, t')) {w : Nat × PieceIterator}
    (hw : w ∈ t'.walks) : w.1 = j ∨ ∃ w' ∈ t.walks, w'.1 = w.1 := by
  obtain ⟨s, hs, ⟨size, rfl, rfl, rfl⟩ | ⟨walk, rfl, hnext⟩ | ⟨hcall, rfl, rfl⟩⟩ := perform_cases h
  · obtain hw | hw := List.mem_append.1 hw
    · exact .inr ⟨w, hw, rfl⟩
    · cases List.mem_singleton.1 hw
      exact .inl rfl
  · obtain ⟨i, it, s, hwalk, -, rfl, rfl⟩ := next_eq hnext
    obtain hw | rfl := List.mem_or_eq_of_mem_set hw
    · exact .inr ⟨w, hw, rfl⟩
    · exact .inr ⟨(i, it), List.mem_of_getElem? hwalk, rfl⟩
  · exact .inr ⟨w, hw, rfl⟩

theorem walk_lt_perform (h : t.perform j call = some (answer, t'))
    (hwalks : ∀ w ∈ t.walks, w.1 < t.streams.length) : ∀ w ∈ t'.walks, w.1 < t'.streams.length := by
  rw [length_perform h]
  intro w hw
  obtain hj | ⟨w', hw', heq⟩ := walk_eq_or_mem h hw
  · obtain ⟨s, hs, -⟩ := perform_cases h
    obtain ⟨hlt, -⟩ := List.getElem?_eq_some_iff.1 hs
    exact hj ▸ hlt
  · exact heq ▸ hwalks w' hw'

end StreamTable

end DigestGate
