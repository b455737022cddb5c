import DigestGate.Proofs.Body.Table

namespace DigestGate

namespace StreamTable

/-- A call made to a stream, with its answer. -/
structure Entry where
  stream : Nat
  call : StreamCall
  answer : Except Failure StreamAnswer

inductive Event where
  | opened (chunk : Int)
  | asked (stream : Nat) (call : StreamCall)

def entryOf (t : StreamTable) (j : Nat) (call : StreamCall) (answer : Except Failure StreamAnswer) :
    Entry where
  stream := t.target j call
  call := t.localCall (t.target j call) call
  answer := t.localAnswer (t.target j call) answer

def opened (body : Bytes) (chunk : Int) (t : StreamTable) : StreamTable :=
  { t with streams := t.streams ++ [{ content := body, rest := body, chunk }] }

/-- Open a stream over `body`, or make a call and record it with its answer. -/
def step (body : Bytes) (now : StreamTable × List Entry) : Event → StreamTable × List Entry
  | .opened chunk => (now.1.opened body chunk, now.2)
  | .asked j call =>
    match now.1.perform j call with
    | none => now
    | some (answer, t) => (t, now.2 ++ [now.1.entryOf j call answer])

def run (body : Bytes) (events : List Event) : StreamTable × List Entry :=
  events.foldl (step body) ({}, [])

def own (i : Nat) (entries : List Entry) : List Entry :=
  entries.filter fun e => e.stream = i

/-- The bytes returned by the calls to stream `i`. -/
def taken (i : Nat) (entries : List Entry) : Bytes :=
  (own i entries).flatMap fun e => StreamAnswer.delivered e.answer

variable {t t' : StreamTable} {i j : Nat} {call : StreamCall} {s : BodyStream}
  {answer : Except Failure StreamAnswer} {body : Bytes} {log : List Entry} {e : Entry}

theorem own_concat_of_eq (log : List Entry) (hi : e.stream = i) :
    own i (log ++ [e]) = own i log ++ [e] := by
  rw [own, own, List.filter_append, List.filter_cons_of_pos (by simpa using hi)]
  rfl

theorem own_concat_of_ne (log : List Entry) (hi : e.stream ≠ i) :
    own i (log ++ [e]) = own i log := by
  rw [own, own, List.filter_append, List.filter_cons_of_neg (by simpa using hi)]
  exact List.append_nil _

theorem taken_concat_of_eq (log : List Entry) (hi : e.stream = i) :
    taken i (log ++ [e]) = taken i log ++ StreamAnswer.delivered e.answer := by
  rw [taken, own_concat_of_eq log hi, List.flatMap_append, List.flatMap_singleton]
  rfl

theorem taken_concat_of_ne (log : List Entry) (hi : e.stream ≠ i) :
    taken i (log ++ [e]) = taken i log := by
  rw [taken, own_concat_of_ne log hi]
  rfl

theorem run_concat (body : Bytes) (events : List Event) (event : Event) :
    run body (events ++ [event]) = step body (run body events) event := by
  rw [run, List.foldl_append]
  rfl

def Entry.alone (e : Entry) : Entry :=
  { e with stream := 0 }

/-- The recorded calls of one stream, made to a table without other streams. -/
def lone (s : BodyStream) (entries : List Entry) : List Event :=
  .opened s.chunk :: entries.map fun e => .asked 0 e.call

/-- Every stream has returned the bytes before its position and answers as it would alone. -/
structure Apart (body : Bytes) (now : StreamTable × List Entry) : Prop where
  entry_lt : ∀ e ∈ now.2, e.stream < now.1.streams.length
  walk_lt : ∀ w ∈ now.1.walks, w.1 < now.1.streams.length
  handedOver : ∀ i s, now.1.streams[i]? = some s → BodyStream.HandedOver body (taken i now.2) s
  alone_eq : ∀ i s, now.1.streams[i]? = some s →
    run body (lone s (own i now.2)) = (now.1.alone i, (own i now.2).map Entry.alone)

theorem apart_start (body : Bytes) : Apart body ({}, []) where
  entry_lt _ h := by cases h
  walk_lt _ h := by cases h
  handedOver _ _ h := by cases h
  alone_eq _ _ h := by cases h

theorem length_opened (body : Bytes) (chunk : Int) (t : StreamTable) :
    (t.opened body chunk).streams.length = t.streams.length + 1 :=
  List.length_append

theorem streams_opened_of_lt (chunk : Int) (hi : i < t.streams.length) :
    (t.opened body chunk).streams[i]? = t.streams[i]? :=
  List.getElem?_append_left hi

theorem streams_opened_last (body : Bytes) (chunk : Int) (t : StreamTable) :
    (t.opened body chunk).streams[t.streams.length]? =
      some { content := body, rest := body, chunk } :=
  List.getElem?_concat_length

theorem alone_opened_of_lt (chunk : Int) (hi : i < t.streams.length) :
    (t.opened body chunk).alone i = t.alone i := by
  rw [alone, streams_opened_of_lt chunk hi]
  rfl

theorem alone_opened_last (chunk : Int) (hwalks : ∀ w ∈ t.walks, w.1 < t.streams.length) :
    (t.opened body chunk).alone t.streams.length = opened body chunk {} := by
  have hnone : (t.walks.filter fun w => w.1 = t.streams.length) = [] :=
    List.filter_eq_nil_iff.2 fun w hw => by simpa using Nat.ne_of_lt (hwalks w hw)
  rw [alone, streams_opened_last]
  exact congrArg (StreamTable.mk _ <| List.map _ ·) hnone

theorem own_eq_nil (hlog : ∀ e ∈ log, e.stream < i) : own i log = [] :=
  List.filter_eq_nil_iff.2 fun e he => by simpa using Nat.ne_of_lt (hlog e he)

theorem lt_or_eq_last {chunk : Int} (hs : (t.opened body chunk).streams[i]? = some s) :
    i < t.streams.length ∨ i = t.streams.length := by
  obtain ⟨hlt, -⟩ := List.getElem?_eq_some_iff.1 hs
  rw [length_opened] at hlt
  omega

theorem apart_opened (h : Apart body (t, log)) (chunk : Int) :
    Apart body (t.opened body chunk, log) where
  entry_lt e he := by
    rw [length_opened]
    exact Nat.lt_succ_of_lt (h.entry_lt e he)
  walk_lt w hw := by
    rw [length_opened]
    exact Nat.lt_succ_of_lt (h.walk_lt w hw)
  handedOver i s hs := by
    obtain hi | rfl := lt_or_eq_last hs
    · rw [streams_opened_of_lt chunk hi] at hs
      exact h.handedOver i s hs
    · rw [streams_opened_last] at hs
      cases hs
      rw [taken, own_eq_nil h.entry_lt]
      exact BodyStream.handedOver_start body chunk
  alone_eq i s hs := by
    obtain hi | rfl := lt_or_eq_last hs
    · rw [streams_opened_of_lt chunk hi] at hs
      rw [alone_opened_of_lt chunk hi]
      exact h.alone_eq i s hs
    · rw [streams_opened_last] at hs
      cases hs
      rw [alone_opened_last chunk h.walk_lt, own_eq_nil h.entry_lt]
      rfl

theorem step_alone (h : t.perform j call = some (answer, t')) (log : List Entry) :
    step body (t.alone (t.target j call), log) (.asked 0 (t.entryOf j call answer).call) =
      (t'.alone (t.target j call), log ++ [(t.entryOf j call answer).alone]) := by
  have hlone := perform_alone h
  rw [step]
  simp only [entryOf, hlone, target_alone, localCall_alone h, localAnswer_alone h]
  rfl

theorem lone_concat {s' : BodyStream} (hchunk : s'.chunk = s.chunk) (entries : List Entry)
    (e : Entry) :
    lone s' (entries ++ [e]) = lone s entries ++ [.asked 0 e.call] := by
  rw [lone, lone, hchunk, List.map_append]
  rfl

/-- A call preserves the independence of the streams. -/
theorem apart_asked (h : Apart body (t, log)) (hperform : t.perform j call = some (answer, t')) :
    Apart body (t', log ++ [t.entryOf j call answer]) := by
  obtain ⟨s, s', hs, hstreams, hadvances, -⟩ := moves_perform hperform
  have hlt := target_lt hperform
  have hentry : (t.entryOf j call answer).stream = t.target j call := rfl
  refine ⟨?_, walk_lt_perform hperform h.walk_lt, ?_, ?_⟩
  · intro e he
    rw [length_perform hperform]
    obtain he | he := List.mem_append.1 he
    · exact h.entry_lt e he
    · cases List.mem_singleton.1 he
      exact hlt
  · intro i si hsi
    rw [hstreams] at hsi
    by_cases hi : t.target j call = i
    · subst hi
      rw [List.getElem?_set_self hlt] at hsi
      cases hsi
      simp only
      rw [taken_concat_of_eq log hentry, entryOf, delivered_localAnswer]
      exact (h.handedOver _ s hs).advances hadvances
    · rw [List.getElem?_set_ne hi] at hsi
      rw [taken_concat_of_ne log hi]
      exact h.handedOver i si hsi
  · intro i si hsi
    rw [hstreams] at hsi
    by_cases hi : t.target j call = i
    · subst hi
      rw [List.getElem?_set_self hlt] at hsi
      cases hsi
      simp only
      rw [own_concat_of_eq log hentry, lone_concat hadvances.chunk_eq, run_concat,
        h.alone_eq _ s hs, step_alone hperform, List.map_append]
      rfl
    · rw [List.getElem?_set_ne hi] at hsi
      rw [own_concat_of_ne log hi, alone_of_ne hperform hi]
      exact h.alone_eq i si hsi

theorem apart_step {now : StreamTable × List Entry} (h : Apart body now) (event : Event) :
    Apart body (step body now event) := by
  obtain ⟨t, log⟩ := now
  cases event with
  | opened chunk => exact apart_opened h chunk
  | asked j call =>
    rw [step]
    cases hperform : t.perform j call with
    | none => simpa only [hperform] using h
    | some outcome => simpa only [hperform] using apart_asked h hperform

theorem apart_foldl {now : StreamTable × List Entry} (h : Apart body now) (events : List Event) :
    Apart body (events.foldl (step body) now) := by
  induction events generalizing now with
  | nil => exact h
  | cons event events ih => exact ih (apart_step h event)

theorem apart_run (body : Bytes) (events : List Event) : Apart body (run body events) :=
  apart_foldl (apart_start body) events

/-- A closed stream does not move and returns no bytes. -/
theorem step_closed (body : Bytes) {now : StreamTable × List Entry}
    (hs : now.1.streams[i]? = some s) (hclosed : s.closed = true) (event : Event) :
    (step body now event).1.streams[i]? = some s ∧
      taken i (step body now event).2 = taken i now.2 := by
  cases event with
  | opened chunk =>
    obtain ⟨hlt, -⟩ := List.getElem?_eq_some_iff.1 hs
    exact ⟨(streams_opened_of_lt chunk hlt).trans hs, rfl⟩
  | asked j call =>
    rw [step]
    cases hperform : now.1.perform j call with
    | none => exact ⟨hs, rfl⟩
    | some outcome =>
      obtain ⟨answer, t'⟩ := outcome
      obtain ⟨si, s', hsi, hstreams, -, hstays⟩ := moves_perform hperform
      by_cases hi : now.1.target j call = i
      · subst hi
        cases hsi.symm.trans hs
        obtain ⟨hnothing, rfl⟩ := hstays hclosed
        have hentry : (now.1.entryOf j call answer).stream = now.1.target j call := rfl
        simp only
        rw [hstreams, List.getElem?_set_self (target_lt hperform), taken_concat_of_eq now.2 hentry,
          entryOf, delivered_localAnswer, hnothing, List.append_nil]
        exact ⟨rfl, rfl⟩
      · exact ⟨by rw [hstreams, List.getElem?_set_ne hi, hs], taken_concat_of_ne now.2 hi⟩

theorem foldl_closed {now : StreamTable × List Entry} (hs : now.1.streams[i]? = some s)
    (hclosed : s.closed = true) (later : List Event) :
    (later.foldl (step body) now).1.streams[i]? = some s ∧
      taken i (later.foldl (step body) now).2 = taken i now.2 := by
  induction later generalizing now with
  | nil => exact ⟨hs, rfl⟩
  | cons event later ih =>
    obtain ⟨hs', htaken⟩ := step_closed body hs hclosed event
    obtain ⟨hlast, htaken'⟩ := ih hs'
    exact ⟨hlast, htaken'.trans htaken⟩

/-- A stream answers as if it were alone and returns each byte before its position once. -/
theorem streams_apart (body : Bytes) (events : List Event) (i : Nat) (s : BodyStream)
    (hs : (run body events).1.streams[i]? = some s) :
    (∃ n, s.perform .tell = (.ok (.count n), s) ∧ n ≤ body.length ∧
        taken i (run body events).2 = body.take n) ∧
      run body (lone s (own i (run body events).2)) =
        ((run body events).1.alone i, (own i (run body events).2).map Entry.alone) ∧
      (s.closed = true → ∀ later, (run body (events ++ later)).1.streams[i]? = some s ∧
        taken i (run body (events ++ later)).2 = taken i (run body events).2) := by
  have hapart := apart_run body events
  obtain ⟨-, hposition, htaken⟩ := hapart.handedOver i s hs
  refine ⟨⟨s.position, rfl, hposition, htaken⟩, hapart.alone_eq i s hs, ?_⟩
  intro hclosed later
  rw [run, List.foldl_append]
  exact foldl_closed hs hclosed later

def turns : List Event :=
  [.opened 1, .opened 2, .asked 0 (.read (some 1)), .asked 1 (.walk none), .asked 1 (.next 0),
    .asked 0 .close]

theorem streams_apart_turns :
    ∃ s, (run [7, 8, 9] turns).1.streams[0]? = some s ∧ s.closed = true ∧
      ∀ later, (run [7, 8, 9] (turns ++ later)).1.streams[0]? = some s ∧
        taken 0 (run [7, 8, 9] (turns ++ later)).2 = [7] := by
  obtain ⟨-, -, hlater⟩ := streams_apart [7, 8, 9] turns 0 _ rfl
  exact ⟨_, rfl, rfl, hlater rfl⟩

end StreamTable

end DigestGate
