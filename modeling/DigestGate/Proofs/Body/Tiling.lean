import DigestGate.Proofs.Body.Table
import Mathlib.Algebra.Order.BigOperators.Group.List

namespace DigestGate

/-- `rest` divided into pieces of length `step`, or into a single one if `step` is negative. -/
structure Tiles (rest : Bytes) (step : Int) (pieces : List Bytes) : Prop where
  flatten_eq : pieces.flatten = rest
  ne_nil : ∀ piece ∈ pieces, piece ≠ []
  length_eq : ∀ n : Nat, step = n → pieces.length = (rest.length + n - 1) / n
  length_le : ∀ n : Nat, step = n → ∀ piece ∈ pieces, piece.length ≤ n
  length_piece : ∀ n : Nat, step = n → ∀ piece ∈ pieces.dropLast, piece.length = n
  eq_whole : step < 0 → rest ≠ [] → pieces = [rest]
  eq_nil : rest = [] → pieces = []

namespace Tiles

variable {rest : Bytes} {step : Int} {pieces : List Bytes} {n : Nat}

theorem nil (hstep : step ≠ 0) : Tiles [] step [] where
  flatten_eq := rfl
  ne_nil _ h := absurd h List.not_mem_nil
  length_eq n hn := by
    symm
    apply Nat.div_eq_of_lt
    rw [List.length_nil]
    omega
  length_le _ _ _ h := absurd h List.not_mem_nil
  length_piece _ _ _ h := absurd h List.not_mem_nil
  eq_whole _ h := absurd rfl h
  eq_nil _ := rfl

theorem whole (hstep : step < 0) (hrest : rest ≠ []) : Tiles rest step [rest] where
  flatten_eq := List.flatten_singleton
  ne_nil _ h := List.mem_singleton.1 h ▸ hrest
  length_eq n hn := by omega
  length_le n hn := by omega
  length_piece n hn := by omega
  eq_whole _ _ := rfl
  eq_nil h := absurd h hrest

theorem cons (hn : 0 < n) (hrest : rest ≠ []) (h : Tiles (rest.drop n) n pieces) :
    Tiles rest n (rest.take n :: pieces) where
  flatten_eq := by rw [List.flatten_cons, h.flatten_eq, List.take_append_drop]
  ne_nil := by
    apply List.forall_mem_cons.2 ⟨_, h.ne_nil⟩
    rw [ne_eq, List.take_eq_nil_iff, not_or]
    exact ⟨Nat.ne_of_gt hn, hrest⟩
  length_eq m hm := by
    obtain rfl : n = m := Int.ofNat.inj hm
    have hpos := List.length_pos_iff.2 hrest
    rw [List.length_cons, h.length_eq n rfl, List.length_drop]
    obtain hshort | hlong := Nat.le_total rest.length n
    · have hone : (rest.length + n - 1) / n = 1 := Nat.div_eq_of_lt_le (by omega) (by omega)
      have hnone : (rest.length - n + n - 1) / n = 0 := Nat.div_eq_of_lt (by omega)
      rw [hone, hnone]
    · rw [← Nat.add_div_right _ hn]
      congr 1
      omega
  length_le m hm := by
    obtain rfl : n = m := Int.ofNat.inj hm
    exact List.forall_mem_cons.2 ⟨List.length_take_le _ _, h.length_le n rfl⟩
  length_piece m hm := by
    obtain rfl : n = m := Int.ofNat.inj hm
    cases pieces with
    | nil => exact nofun
    | cons piece pieces =>
      rw [List.dropLast_cons_cons]
      refine List.forall_mem_cons.2 ⟨?_, h.length_piece n rfl⟩
      have hmore : rest.drop n ≠ [] := fun hnil => nomatch h.eq_nil hnil
      rw [ne_eq, List.drop_eq_nil_iff] at hmore
      rw [List.length_take]
      omega
  eq_whole hneg := by omega
  eq_nil h := absurd h hrest

end Tiles

namespace BodyStream

variable {s : BodyStream} {walk : PieceIterator} {step : Int}

theorem pieceSize_eq (s : BodyStream) (size : Option Int) :
    s.pieceSize size = if size.getD 0 = 0 then s.chunk else size.getD 0 := by
  cases size <;> rfl

theorem pieceSize_ne_zero (hchunk : 0 < s.chunk) (size : Option Int) : s.pieceSize size ≠ 0 := by
  rw [pieceSize_eq]
  split
  · exact Int.ne_of_gt hchunk
  · assumption

theorem advance_ne_nil (hstep : step ≠ 0) (hrest : s.rest ≠ []) :
    (s.advance (some step)).1 ≠ [] := by
  intro hnil
  have hlt : (s.advance (some step)).2.rest.length < s.rest.length := s.rest_read_lt hstep hrest
  rw [(yields_advance (some step) s).rest_eq, hnil] at hlt
  exact Nat.lt_irrefl _ hlt

theorem piecesBy_end (step : Int) (hrest : s.rest = []) : s.piecesBy step = ([], s) := by
  rw [piecesBy, dif_pos (.inr hrest)]

theorem piecesBy_more (hstep : step ≠ 0) (hrest : s.rest ≠ []) :
    s.piecesBy step = ((s.advance (some step)).1 :: ((s.advance (some step)).2.piecesBy step).1,
      ((s.advance (some step)).2.piecesBy step).2) := by
  rw [piecesBy, dif_neg (not_or.2 ⟨hstep, hrest⟩)]

theorem tiles_piecesBy (hstep : step ≠ 0) (s : BodyStream) :
    Tiles s.rest step (s.piecesBy step).1 := by
  induction s using piecesBy.induct step with
  | case1 s hend =>
    have hrest := hend.resolve_left hstep
    rw [piecesBy_end step hrest, hrest]
    exact .nil hstep
  | case2 s hmore _ _ _ ih =>
    have hrest : s.rest ≠ [] := fun h => hmore (.inr h)
    rw [piecesBy_more hstep hrest]
    cases step with
    | ofNat n => exact .cons (Nat.pos_of_ne_zero fun h => hstep (congrArg Int.ofNat h)) hrest ih
    | negSucc n =>
      have hpiece : (s.advance (some (.negSucc n))).1 = s.rest := List.take_length
      have hnext : (s.advance (some (.negSucc n))).2.rest = [] := List.drop_length
      rw [ih.eq_nil hnext, hpiece]
      exact .whole (Int.negSucc_lt_zero n) hrest

theorem rest_piecesBy (hstep : step ≠ 0) (s : BodyStream) : (s.piecesBy step).2.rest = [] := by
  induction s using piecesBy.induct step with
  | case1 s hend =>
    have hrest := hend.resolve_left hstep
    rw [piecesBy_end step hrest]
    exact hrest
  | case2 s hmore _ _ _ ih =>
    rw [piecesBy_more hstep fun h => hmore (.inr h)]
    exact ih

theorem isFinished_open (hopen : s.closed = false) : s.isFinished = .ok s.rest.isEmpty := by
  rw [isFinished, if_neg (ne_true_of_eq_false hopen)]

theorem nextPiece_end (hopen : s.closed = false) (hend : walk.ended = true ∨ s.rest = []) :
    s.nextPiece walk = (.ok none, { walk with ended := true }, s) := by
  rw [nextPiece]
  cases hended : walk.ended with
  | true => rw [if_pos rfl, ← hended]
  | false =>
    have hrest := hend.resolve_left (ne_true_of_eq_false hended)
    rw [isFinished_open hopen, hrest]
    rfl

theorem nextPiece_more (hopen : s.closed = false) (hgoes : walk.ended = false)
    (hrest : s.rest ≠ []) :
    s.nextPiece walk = (.ok (some (s.advance (some (s.pieceSize walk.size))).1), walk,
      (s.advance (some (s.pieceSize walk.size))).2) := by
  rw [nextPiece, hgoes, isFinished_open hopen, List.isEmpty_eq_false_iff.2 hrest]
  rfl

def walked : Nat → PieceIterator × BodyStream → PieceIterator × BodyStream
  | 0, now => now
  | n + 1, now => walked n (now.2.nextPiece now.1).2

def upcoming (now : PieceIterator × BodyStream) : Except Failure (Option Bytes) :=
  (now.2.nextPiece now.1).1

theorem upcoming_end (hopen : s.closed = false) (hend : walk.ended = true ∨ s.rest = []) (n : Nat) :
    upcoming (walked n (walk, s)) = .ok none := by
  induction n generalizing walk with
  | zero =>
    rw [walked, upcoming, nextPiece_end hopen hend]
  | succ n ih =>
    rw [walked, nextPiece_end hopen hend]
    exact ih (.inl rfl)

theorem upcoming_walked (hopen : s.closed = false) (hchunk : 0 < s.chunk)
    (hgoes : walk.ended = false) (n : Nat) :
    upcoming (walked n (walk, s)) = .ok (s.piecesBy (s.pieceSize walk.size)).1[n]? := by
  have hstep := pieceSize_ne_zero hchunk walk.size
  induction n generalizing s with
  | zero =>
    by_cases hrest : s.rest = []
    · rw [upcoming_end hopen (.inr hrest), piecesBy_end _ hrest]
      rfl
    · rw [walked, upcoming, nextPiece_more hopen hgoes hrest, piecesBy_more hstep hrest]
      rfl
  | succ n ih =>
    by_cases hrest : s.rest = []
    · rw [upcoming_end hopen (.inr hrest), piecesBy_end _ hrest]
      rfl
    · rw [walked, nextPiece_more hopen hgoes hrest, piecesBy_more hstep hrest,
        List.getElem?_cons_succ]
      exact ih hopen hchunk hstep

end BodyStream

namespace StreamTable

variable {t t' : StreamTable} {i j w : Nat} {s : BodyStream} {it : PieceIterator}
  {call : StreamCall} {answer : Except Failure StreamAnswer}

/-- Walk `w` runs over stream `i`, which is open. -/
structure Walks (t : StreamTable) (i w : Nat) (s : BodyStream) (it : PieceIterator) : Prop where
  stream_eq : t.streams[i]? = some s
  walk_eq : t.walks[w]? = some (i, it)
  closed_eq : s.closed = false
  chunk_pos : 0 < s.chunk

/-- The answers to the steps of walk `w` among other calls. -/
def progress (w : Nat) : List (Nat × StreamCall) → StreamTable → List (Except Failure StreamAnswer)
  | [], _ => []
  | (j, call) :: calls, t =>
    match t.perform j call with
    | none => progress w calls t
    | some (answer, t') =>
      if call = .next w then answer :: progress w calls t' else progress w calls t'

/-- One step of a walk: a nonempty piece of the rest, or the end. -/
inductive Goes (s s' : BodyStream) (it : PieceIterator) :
    PieceIterator → Except Failure StreamAnswer → Prop where
  | piece {bytes : Bytes} : it.ended = false → bytes ≠ [] → s.rest = bytes ++ s'.rest →
    Goes s s' it it (.ok (.bytes bytes))
  | ended : s'.rest = s.rest → Goes s s' it { it with ended := true } (.ok .ended)

theorem Walks.set {s' : BodyStream} {it' : PieceIterator} {bytes : Bytes}
    {walks : List (Nat × PieceIterator)} (h : t.Walks i w s it) (hs : s.Yields bytes s')
    (hwalk : walks[w]? = some (i, it')) :
    Walks { streams := t.streams.set i s', walks } i w s' it' where
  stream_eq := List.getElem?_set_self (List.getElem?_eq_some_iff.1 h.stream_eq).1
  walk_eq := hwalk
  closed_eq := hs.closed_eq.trans h.closed_eq
  chunk_pos := hs.chunk_eq ▸ h.chunk_pos

theorem Walks.set_other {s' : BodyStream} {walks : List (Nat × PieceIterator)}
    (h : t.Walks i w s it) (hj : j ≠ i) (hwalk : walks[w]? = some (i, it)) :
    Walks { streams := t.streams.set j s', walks } i w s it :=
  { h with
    stream_eq := (List.getElem?_set_ne hj).trans h.stream_eq
    walk_eq := hwalk }

theorem Walks.other (h : t.Walks i w s it) (hperform : t.perform j call = some (answer, t'))
    (hcall : (j, call) ≠ (i, .close)) (hother : call ≠ .next w) :
    ∃ s' bytes, t'.Walks i w s' it ∧ s.rest = bytes ++ s'.rest := by
  obtain ⟨sj, hsj, ⟨size, rfl, -, rfl⟩ | ⟨walk, rfl, hnext⟩ | ⟨-, -, rfl⟩⟩ := perform_cases hperform
  · have hlt := (List.getElem?_eq_some_iff.1 h.walk_eq).1
    exact ⟨s, [], { h with walk_eq := (List.getElem?_append_left hlt).trans h.walk_eq }, rfl⟩
  · obtain ⟨k, it', sk, hwalk, hsk, -, rfl⟩ := next_eq hnext
    have hne : walk ≠ w := fun heq => hother (congrArg StreamCall.next heq)
    have hstays (x : Nat × PieceIterator) : (t.walks.set walk x)[w]? = some (i, it) :=
      (List.getElem?_set_ne hne).trans h.walk_eq
    by_cases hk : k = i
    · subst hk
      cases hsk.symm.trans h.stream_eq
      have hyields := s.yields_nextPiece it'
      exact ⟨_, _, h.set hyields (hstays _), hyields.rest_eq⟩
    · exact ⟨s, [], h.set_other hk (hstays _), rfl⟩
  · by_cases hj : j = i
    · subst hj
      cases hsj.symm.trans h.stream_eq
      have hyields := BodyStream.yields_perform h.closed_eq call fun heq => hcall (by rw [heq])
      exact ⟨_, _, h.set hyields h.walk_eq, hyields.rest_eq⟩
    · exact ⟨s, [], h.set_other hj h.walk_eq, rfl⟩

theorem Walks.next (h : t.Walks i w s it) (hperform : t.perform j (.next w) = some (answer, t')) :
    ∃ s' it', t'.Walks i w s' it' ∧ Goes s s' it it' answer := by
  obtain ⟨-, -, ⟨_, hcall, -⟩ | ⟨walk, hcall, hnext⟩ | ⟨hcall, -⟩⟩ := perform_cases hperform
  · cases hcall
  · cases hcall
    obtain ⟨k, it', sk, hwalk, hsk, rfl, rfl⟩ := next_eq hnext
    cases hwalk.symm.trans h.walk_eq
    cases hsk.symm.trans h.stream_eq
    have hset (it' : PieceIterator) : (t.walks.set w (i, it'))[w]? = some (i, it') :=
      List.getElem?_set_self (List.getElem?_eq_some_iff.1 h.walk_eq).1
    by_cases hend : it.ended = true ∨ s.rest = []
    · rw [BodyStream.nextPiece_end h.closed_eq hend]
      exact ⟨s, _, h.set (.refl s) (hset _), .ended rfl⟩
    · obtain ⟨hgoes, hrest⟩ := not_or.1 hend
      have hgoes := Bool.eq_false_iff.2 hgoes
      have hyields := BodyStream.yields_advance (some (s.pieceSize it.size)) s
      rw [BodyStream.nextPiece_more h.closed_eq hgoes hrest]
      exact ⟨_, it, h.set hyields (hset it), .piece hgoes
        (BodyStream.advance_ne_nil (BodyStream.pieceSize_ne_zero h.chunk_pos _) hrest)
        hyields.rest_eq⟩
  · exact hcall.elim

/-- A walk takes nonempty pieces of the rest in order, whatever is called in between. -/
theorem Walks.progress_eq (h : t.Walks i w s it) (calls : List (Nat × StreamCall))
    (hcalls : (i, .close) ∉ calls) :
    ∃ (pieces : List Bytes) (k : Nat),
      t.progress w calls =
        pieces.map (fun piece => .ok (.bytes piece)) ++ List.replicate k (.ok .ended) ∧
      (∀ piece ∈ pieces, piece ≠ []) ∧ pieces.flatten.Sublist s.rest ∧
      (it.ended = true → pieces = []) := by
  induction calls generalizing t s it with
  | nil =>
    exact ⟨[], 0, rfl, fun _ hmem => absurd hmem List.not_mem_nil, List.nil_sublist _, fun _ => rfl⟩
  | cons next calls ih =>
    obtain ⟨j, call⟩ := next
    obtain ⟨hcall, hcalls⟩ := not_or.1 (mt List.mem_cons.2 hcalls)
    rw [progress]
    cases hperform : t.perform j call with
    | none => exact ih h hcalls
    | some outcome =>
      obtain ⟨answer, t'⟩ := outcome
      simp only
      by_cases hnext : call = .next w
      · rw [hnext] at hperform
        obtain ⟨s', it', hwalks, hgoes⟩ := h.next hperform
        obtain ⟨pieces, k, hlater, hsome, hsublist, hended⟩ := ih hwalks hcalls
        rw [if_pos hnext, hlater]
        cases hgoes with
        | @piece bytes hgoes hbytes hrest =>
          refine ⟨bytes :: pieces, k, rfl, List.forall_mem_cons.2 ⟨hbytes, hsome⟩, ?_, ?_⟩
          · rw [List.flatten_cons, hrest]
            exact (List.Sublist.refl bytes).append hsublist
          · intro hend
            cases hgoes.symm.trans hend
        | ended _ =>
          rw [hended rfl]
          exact ⟨[], k + 1, rfl, fun _ hmem => absurd hmem List.not_mem_nil, List.nil_sublist _,
            fun _ => rfl⟩
      · obtain ⟨s', bytes, hwalks, hrest⟩ := h.other hperform (Ne.symm hcall) hnext
        obtain ⟨pieces, k, hlater, hsome, hsublist, hended⟩ := ih hwalks hcalls
        rw [if_neg hnext]
        refine ⟨pieces, k, hlater, hsome, hsublist.trans ?_, hended⟩
        rw [hrest]
        exact List.sublist_append_right bytes _

/-- The pieces of an open stream tile the rest of its body, in one list or in a walk. -/
theorem pieces_tile (s : BodyStream) (hopen : s.closed = false) (hchunk : 0 < s.chunk)
    (size : Option Int) :
    let step := if size.getD 0 = 0 then s.chunk else size.getD 0
    let rest := s.content.drop s.position
    (∃ pieces last, s.pieces size = (.ok pieces, last) ∧ Tiles rest step pieces ∧
      last.isFinished = .ok true ∧
      ∀ n, BodyStream.upcoming (BodyStream.walked n ({ size }, s)) = .ok pieces[n]?) ∧
    ∀ (t : StreamTable) (i w : Nat) (it : PieceIterator), t.streams[i]? = some s →
      t.walks[w]? = some (i, it) → ∀ calls, (i, .close) ∉ calls →
      ∃ (pieces : List Bytes) (k : Nat),
        t.progress w calls =
          pieces.map (fun piece => .ok (.bytes piece)) ++ List.replicate k (.ok .ended) ∧
        (∀ piece ∈ pieces, piece ≠ []) ∧ pieces.flatten.Sublist rest ∧
        pieces.length ≤ rest.length := by
  intro step rest
  have hstep : s.pieceSize size = step := s.pieceSize_eq size
  have hrest : s.rest = rest := s.rest_eq
  have hne : step ≠ 0 := hstep ▸ BodyStream.pieceSize_ne_zero hchunk size
  refine ⟨⟨(s.piecesBy step).1, (s.piecesBy step).2, ?_, ?_, ?_, ?_⟩, ?_⟩
  · rw [BodyStream.pieces, if_neg (ne_true_of_eq_false hopen), hstep]
  · rw [← hrest]
    exact BodyStream.tiles_piecesBy hne s
  · have hlast := (BodyStream.yields_piecesBy step s).closed_eq.trans hopen
    rw [BodyStream.isFinished_open hlast, BodyStream.rest_piecesBy hne]
    rfl
  · intro n
    rw [← hstep]
    exact BodyStream.upcoming_walked hopen hchunk rfl n
  · intro t i w it hstream hwalk calls hcalls
    have hwalks : t.Walks i w s it := ⟨hstream, hwalk, hopen, hchunk⟩
    obtain ⟨pieces, k, hprogress, hsome, hsublist, -⟩ := hwalks.progress_eq calls hcalls
    rw [hrest] at hsublist
    refine ⟨pieces, k, hprogress, hsome, hsublist, Nat.le_trans ?_ hsublist.length_le⟩
    rw [List.length_flatten, ← List.length_map List.length]
    apply List.length_le_sum_of_one_le
    intro n hn
    obtain ⟨piece, hpiece, rfl⟩ := List.mem_map.1 hn
    exact List.length_pos_iff.2 (hsome piece hpiece)

theorem pieces_tile_interleaved :
    let s : BodyStream := { content := [1, 2, 3, 4, 5, 6], position := 1, chunk := 4 }
    let t : StreamTable :=
      { streams := [s], walks := [(0, { size := some 2 }), (0, { size := none })] }
    let calls : List (Nat × StreamCall) :=
      [(0, .next 0), (0, .read (some 2)), (0, .next 1), (0, .next 0), (0, .next 0)]
    s.closed = false ∧ 0 < s.chunk ∧ (0, .close) ∉ calls ∧
      (∃ pieces last, s.pieces none = (.ok pieces, last) ∧ pieces.length = 2 ∧
        last.isFinished = .ok true) ∧
      t.progress 0 calls = [.ok (.bytes [2, 3]), .ok .ended, .ok .ended] ∧
      ∃ (pieces : List Bytes) (k : Nat),
        t.progress 0 calls =
          pieces.map (fun piece => .ok (.bytes piece)) ++ List.replicate k (.ok .ended) ∧
        (∀ piece ∈ pieces, piece ≠ []) ∧ pieces.length ≤ 5 := by
  intro s t calls
  have hcalls : (0, .close) ∉ calls := by decide
  obtain ⟨⟨pieces, last, hpieces, htiles, hlast, -⟩, hwalks⟩ :=
    pieces_tile s rfl (by decide) none
  obtain ⟨taken, k, hprogress, hsome, -, hlength⟩ := hwalks t 0 0 _ rfl rfl calls hcalls
  have hcount : pieces.length = 2 := (htiles.length_eq 4 rfl).trans (by decide)
  exact ⟨rfl, by decide, hcalls, ⟨pieces, last, hpieces, hcount, hlast⟩, rfl, taken, k, hprogress,
    hsome, hlength⟩

end StreamTable

end DigestGate
