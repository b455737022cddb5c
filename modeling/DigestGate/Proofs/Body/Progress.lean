import DigestGate.Body.StreamCall

namespace DigestGate

def StreamAnswer.content : StreamAnswer → Bytes
  | .bytes b => b
  | .filled n buffer => buffer.take n
  | .list pieces => pieces.flatten
  | _ => []

def StreamAnswer.delivered : Except Failure StreamAnswer → Bytes
  | .ok answer => answer.content
  | .error _ => []

namespace BodyStream

/-- The stream moves forward over `bytes`. -/
structure Advances (s : BodyStream) (bytes : Bytes) (s' : BodyStream) : Prop where
  content_eq : s'.content = s.content
  chunk_eq : s'.chunk = s.chunk
  rest_eq : s.rest = bytes ++ s'.rest
  position_eq : s'.position = s.position + bytes.length

structure Yields (s : BodyStream) (bytes : Bytes) (s' : BodyStream) : Prop
    extends s.Advances bytes s' where
  closed_eq : s'.closed = s.closed

variable {s s' s'' : BodyStream} {first second body taken : Bytes}

theorem Advances.refl (s : BodyStream) : s.Advances [] s :=
  ⟨rfl, rfl, rfl, rfl⟩

theorem Advances.trans (h : s.Advances first s') (h' : s'.Advances second s'') :
    s.Advances (first ++ second) s'' where
  content_eq := h'.content_eq.trans h.content_eq
  chunk_eq := h'.chunk_eq.trans h.chunk_eq
  rest_eq := by rw [h.rest_eq, h'.rest_eq, List.append_assoc]
  position_eq := by rw [h'.position_eq, h.position_eq, List.length_append, Nat.add_assoc]

theorem Yields.refl (s : BodyStream) : s.Yields [] s :=
  ⟨.refl s, rfl⟩

theorem Yields.trans (h : s.Yields first s') (h' : s'.Yields second s'') :
    s.Yields (first ++ second) s'' :=
  ⟨h.toAdvances.trans h'.toAdvances, h'.closed_eq.trans h.closed_eq⟩

theorem yields_advance (size : Option Int) (s : BodyStream) :
    s.Yields (s.advance size).1 (s.advance size).2 :=
  ⟨⟨rfl, rfl, (s.take_append_rest _).symm, rfl⟩, rfl⟩

theorem read_open (hopen : s.closed = false) (size : Option Int) :
    s.read size = (.ok (s.advance size).1, (s.advance size).2) := by
  rw [read, hopen]
  rfl

theorem read_closed (hclosed : s.closed = true) (size : Option Int) :
    s.read size = (.error (.fault (.stream .closedBody)), s) := by
  rw [read, if_pos hclosed]

theorem yields_lineWithin (hopen : s.closed = false) (fuel : Nat) (limit : Option Nat) :
    ∃ line s', Readable.lineWithin fuel limit s = (.ok line, s') ∧ s.Yields line s' := by
  induction fuel generalizing limit s with
  | zero => exact ⟨[], s, rfl, .refl s⟩
  | succ fuel ih =>
    rw [Readable.lineWithin]
    by_cases hlimit : limit = some 0
    · rw [if_pos hlimit]
      exact ⟨[], s, rfl, .refl s⟩
    · have hread : Readable.read (some 1) s =
          (.ok (s.advance (some 1)).1, (s.advance (some 1)).2) :=
        read_open hopen (some 1)
      have hyields := yields_advance (some 1) s
      rw [if_neg hlimit, hread]
      generalize s.advance (some 1) = advanced at hyields ⊢
      obtain ⟨_ | ⟨b, bs⟩, next⟩ := advanced
      · exact ⟨[], next, rfl, hyields⟩
      · by_cases hfeed : b = 0x0A
        · simp only [if_pos hfeed]
          exact ⟨b :: bs, next, rfl, hyields⟩
        · simp only [if_neg hfeed]
          obtain ⟨line, last, hline, hlast⟩ :=
            ih (hyields.closed_eq.trans hopen) (limit.map (· - 1))
          rw [hline]
          exact ⟨b :: bs ++ line, last, rfl, hyields.trans hlast⟩

theorem yields_linesWithin (hopen : s.closed = false) (longest fuel : Nat) (hint : Option Nat)
    (total : Nat) : ∃ lines s', Readable.linesWithin longest fuel hint total s = (.ok lines, s') ∧
      s.Yields lines.flatten s' := by
  induction fuel generalizing total s with
  | zero => exact ⟨[], s, rfl, .refl s⟩
  | succ fuel ih =>
    obtain ⟨line, next, hline, hyields⟩ := yields_lineWithin hopen longest none
    rw [Readable.linesWithin, hline]
    cases line with
    | nil => exact ⟨[], next, rfl, hyields⟩
    | cons b bs =>
      have hone : s.Yields [b :: bs].flatten next := by
        rw [List.flatten_singleton]
        exact hyields
      simp only
      split
      · exact ⟨[b :: bs], next, rfl, hone⟩
      · obtain ⟨lines, last, hlines, hlast⟩ :=
          ih (hyields.closed_eq.trans hopen) (total + (b :: bs).length)
        rw [hlines]
        exact ⟨(b :: bs) :: lines, last, rfl, hyields.trans hlast⟩

theorem yields_piecesBy (size : Int) (s : BodyStream) :
    s.Yields (s.piecesBy size).1.flatten (s.piecesBy size).2 := by
  induction s using piecesBy.induct size with
  | case1 s hend =>
    rw [piecesBy, dif_pos hend]
    exact .refl s
  | case2 s hmore _ _ _ ih =>
    rw [piecesBy, dif_neg hmore]
    exact (yields_advance (some size) s).trans ih

theorem content_filled (bytes buffer : Bytes) :
    (StreamAnswer.filled bytes.length (bytes ++ buffer)).content = bytes :=
  List.take_left

theorem yields_perform (hopen : s.closed = false) (call : StreamCall) (hcall : call ≠ .close) :
    s.Yields (StreamAnswer.delivered (s.perform call).1) (s.perform call).2 := by
  cases call with
  | read size =>
    rw [perform, read_open hopen]
    exact yields_advance size s
  | readAll =>
    rw [perform, readAll, read_open hopen]
    exact yields_advance none s
  | readInto buffer =>
    rw [perform, readInto, hopen]
    show s.Yields (StreamAnswer.filled _ _).content _
    rw [content_filled]
    exact yields_advance _ s
  | readLine limit =>
    rw [perform, Readable.readLine]
    split
    · obtain ⟨line, next, hline, hyields⟩ := yields_lineWithin hopen
        (Readable.available s + 1) (Readable.bound limit)
      rw [hline]
      exact hyields
    · exact .refl s
  | readLines hint =>
    have hclosed : Readable.isClosed s = false := hopen
    rw [perform, Readable.readLines, hclosed]
    split
    · exact .refl s
    · obtain ⟨lines, next, hlines, hyields⟩ := yields_linesWithin hopen
        (Readable.available s + 1) (Readable.available s + 1) (Readable.bound hint) 0
      simp only [Bool.false_eq_true, if_false, hlines]
      exact hyields
  | pieces size =>
    rw [perform, pieces, hopen]
    exact yields_piecesBy _ s
  | remaining =>
    rw [perform, remaining, hopen]
    exact .refl s
  | isFinished =>
    rw [perform, isFinished, hopen]
    exact .refl s
  | flush =>
    have hclosed : Readable.isClosed s = false := hopen
    rw [perform, flushed, hclosed]
    exact .refl s
  | close => exact absurd rfl hcall
  | walk | next | tell | isReady | readable | seekable | writable | messages | seek | isClosed =>
    exact .refl s

theorem perform_closed (hclosed : s.closed = true) (call : StreamCall) :
    StreamAnswer.delivered (s.perform call).1 = [] ∧ (s.perform call).2 = s := by
  cases call with
  | read size =>
    rw [perform, read_closed hclosed]
    exact ⟨rfl, rfl⟩
  | readAll =>
    rw [perform, readAll, read_closed hclosed]
    exact ⟨rfl, rfl⟩
  | readInto buffer =>
    rw [perform, readInto, if_pos hclosed]
    exact ⟨rfl, rfl⟩
  | readLine limit =>
    have hread : Readable.read (some 1) s = (.error (.fault (.stream .closedBody)), s) :=
      read_closed hclosed (some 1)
    rw [perform, Readable.readLine, Readable.lineWithin, hread]
    split
    · split <;> exact ⟨rfl, rfl⟩
    · exact ⟨rfl, rfl⟩
  | readLines hint =>
    have hclosed' : Readable.isClosed s = true := hclosed
    rw [perform, Readable.readLines, if_pos hclosed']
    split <;> exact ⟨rfl, rfl⟩
  | pieces size =>
    rw [perform, pieces, if_pos hclosed]
    exact ⟨rfl, rfl⟩
  | remaining =>
    rw [perform, remaining, if_pos hclosed]
    exact ⟨rfl, rfl⟩
  | isFinished =>
    rw [perform, isFinished, if_pos hclosed]
    exact ⟨rfl, rfl⟩
  | flush =>
    have hclosed' : Readable.isClosed s = true := hclosed
    rw [perform, flushed, if_pos hclosed']
    exact ⟨rfl, rfl⟩
  | close =>
    obtain ⟨cursor, chunk, closed⟩ := s
    cases hclosed
    exact ⟨rfl, rfl⟩
  | walk | next | tell | isReady | readable | seekable | writable | messages | seek | isClosed =>
    exact ⟨rfl, rfl⟩

/-- A call moves its stream forward over the bytes it returns. -/
theorem advances_perform (s : BodyStream) (call : StreamCall) :
    s.Advances (StreamAnswer.delivered (s.perform call).1) (s.perform call).2 := by
  cases hclosed : s.closed with
  | true =>
    obtain ⟨hnothing, hsame⟩ := perform_closed hclosed call
    rw [hnothing, hsame]
    exact .refl s
  | false =>
    by_cases hcall : call = .close
    · subst hcall
      exact ⟨rfl, rfl, rfl, rfl⟩
    · exact (yields_perform hclosed call hcall).toAdvances

def pieceOf : Except Failure (Option Bytes) → Bytes
  | .ok (some piece) => piece
  | _ => []

theorem nextPiece_closed (hclosed : s.closed = true) (walk : PieceIterator) :
    pieceOf (s.nextPiece walk).1 = [] ∧ (s.nextPiece walk).2.2 = s := by
  rw [nextPiece]
  split
  · exact ⟨rfl, rfl⟩
  · rw [isFinished, if_pos hclosed]
    exact ⟨rfl, rfl⟩

theorem yields_nextPiece (s : BodyStream) (walk : PieceIterator) :
    s.Yields (pieceOf (s.nextPiece walk).1) (s.nextPiece walk).2.2 := by
  rw [nextPiece]
  split
  · exact .refl s
  · split
    · exact .refl s
    · exact .refl s
    · exact yields_advance _ s

/-- The bytes `taken` are those of `body` before the position of the stream. -/
structure HandedOver (body taken : Bytes) (s : BodyStream) : Prop where
  content_eq : s.content = body
  position_le : s.position ≤ body.length
  taken_eq : taken = body.take s.position

theorem handedOver_start (body : Bytes) (chunk : Int) :
    HandedOver body [] { content := body, rest := body, chunk } :=
  ⟨rfl, Nat.zero_le _, rfl⟩

theorem HandedOver.advances {bytes : Bytes} (h : s.HandedOver body taken)
    (hs : s.Advances bytes s') : s'.HandedOver body (taken ++ bytes) := by
  have hsplit : body.drop s.position = bytes ++ s'.rest := by
    rw [← hs.rest_eq, s.rest_eq, h.content_eq]
  have hlength := congrArg List.length hsplit
  rw [List.length_drop, List.length_append] at hlength
  have hle := h.position_le
  refine ⟨hs.content_eq.trans h.content_eq, ?_, ?_⟩
  · rw [hs.position_eq]
    omega
  · rw [hs.position_eq, List.take_add, hsplit, List.take_left, h.taken_eq]

end BodyStream

end DigestGate
