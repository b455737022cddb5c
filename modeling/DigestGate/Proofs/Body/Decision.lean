import DigestGate.Body.Gather

namespace DigestGate

variable {σ τ : Type} {read : σ → Except Failure Piece × σ} {limit total : Nat}
  {s next last : σ} {chunk : Bytes} {chunks : List Bytes} {event : Except Failure Piece}

/-- A reading that ends the gathering when `total` bytes are held. -/
def Decisive (limit total : Nat) : Except Failure Piece → Prop
  | .ok (.bytes chunk) => chunk = [] ∨ limit < total + chunk.length
  | .ok (.other _) => True
  | .error _ => True

/-- The readings from a state bring `chunks`, none of them decisive, and then `event`. -/
inductive Decided (read : σ → Except Failure Piece × σ) (limit : Nat) :
    Nat → σ → List Bytes → Except Failure Piece → σ → Prop where
  | here {total : Nat} {s last : σ} {event : Except Failure Piece} :
      read s = (event, last) → Decisive limit total event →
      Decided read limit total s [] event last
  | later {total : Nat} {s next last : σ} {chunk : Bytes} {chunks : List Bytes}
      {event : Except Failure Piece} :
      read s = (.ok (.bytes chunk), next) → ¬ Decisive limit total (.ok (.bytes chunk)) →
      Decided read limit (total + chunk.length) next chunks event last →
      Decided read limit total s (chunk :: chunks) event last

/-- The outcome of gathering that ends with a decisive event after `body`. -/
def concluded (limit total : Nat) (body : Bytes) : Except Failure Piece → Except Shortfall Bytes
  | .ok (.bytes []) => .ok body
  | .ok (.bytes chunk) => .error (.tooLarge limit (total + (body ++ chunk).length))
  | .ok (.other value) => if value.holds then .error (.notBytes value.kind) else .ok body
  | .error e => .error (.unread e)

def prepend (chunk : Bytes) : Except Shortfall Bytes → Except Shortfall Bytes :=
  Except.map (chunk ++ ·)

theorem not_decisive_bytes :
    ¬ Decisive limit total (.ok (.bytes chunk)) ↔ chunk ≠ [] ∧ total + chunk.length ≤ limit := by
  simp only [Decisive, not_or, Nat.not_lt, ne_eq]

theorem prepend_nil (outcome : Except Shortfall Bytes) : prepend [] outcome = outcome := by
  cases outcome <;> rfl

theorem prepend_append (first second : Bytes) (outcome : Except Shortfall Bytes) :
    prepend first (prepend second outcome) = prepend (first ++ second) outcome := by
  cases outcome with
  | error e => rfl
  | ok body => exact congrArg Except.ok (List.append_assoc first second body).symm

theorem prepend_concluded (limit total : Nat) (chunk body : Bytes) (event : Except Failure Piece) :
    prepend chunk (concluded limit (total + chunk.length) body event) =
      concluded limit total (chunk ++ body) event := by
  match event with
  | .error _ => rfl
  | .ok (.bytes []) => rfl
  | .ok (.bytes (b :: bs)) =>
    simp only [concluded, prepend, Except.map, List.length_append, Nat.add_assoc]
  | .ok (.other value) =>
    simp only [concluded, prepend]
    split <;> rfl

theorem gather_decisive (hread : read s = (event, last)) (hevent : Decisive limit total event) :
    gather read limit total s = (concluded limit total [] event, last) := by
  rw [gather, hread]
  match event with
  | .error _ => rfl
  | .ok (.bytes []) => rfl
  | .ok (.bytes (b :: bs)) =>
    have hlimit := hevent.resolve_left (List.cons_ne_nil b bs)
    simp only [dif_pos hlimit, concluded, List.nil_append]
  | .ok (.other value) =>
    simp only [concluded]
    split <;> rfl

theorem gather_later (hread : read s = (.ok (.bytes chunk), next))
    (hchunk : ¬ Decisive limit total (.ok (.bytes chunk))) :
    gather read limit total s =
      (prepend chunk (gather read limit (total + chunk.length) next).1,
        (gather read limit (total + chunk.length) next).2) := by
  obtain ⟨hne, hle⟩ := not_decisive_bytes.1 hchunk
  obtain ⟨b, bs, rfl⟩ := List.exists_cons_of_ne_nil hne
  rw [gather, hread]
  simp only [dif_neg (Nat.not_lt.2 hle)]
  generalize gather read limit (total + (b :: bs).length) next = rest
  rcases rest with ⟨e | rest, last⟩ <;> rfl

/-- Gathering has the outcome of the first decisive event. -/
theorem Decided.gather_eq (h : Decided read limit total s chunks event last) :
    gather read limit total s = (concluded limit total chunks.flatten event, last) := by
  induction h with
  | here hread hevent => exact gather_decisive hread hevent
  | later hread hchunk _ ih =>
    rw [gather_later hread hchunk, ih]
    simp only [prepend_concluded, List.flatten_cons]

/-- Every other reading adds a byte, so a decisive event exists. -/
theorem exists_decided (read : σ → Except Failure Piece × σ) (limit total : Nat) (s : σ) :
    ∃ chunks event last, Decided read limit total s chunks event last := by
  rcases hread : read s with ⟨event, next⟩
  by_cases hevent : Decisive limit total event
  · exact ⟨[], event, next, .here hread hevent⟩
  · match event with
    | .error _ => exact (hevent trivial).elim
    | .ok (.other _) => exact (hevent trivial).elim
    | .ok (.bytes chunk) =>
      obtain ⟨hne, hle⟩ := not_decisive_bytes.1 hevent
      have hpos := List.length_pos_iff.2 hne
      obtain ⟨chunks, event, last, h⟩ := exists_decided read limit (total + chunk.length) next
      exact ⟨chunk :: chunks, event, last, .later hread hevent h⟩
termination_by limit + 1 - total

theorem Decided.decisive (h : Decided read limit total s chunks event last) :
    Decisive limit (total + chunks.flatten.length) event := by
  induction h with
  | here _ hevent => exact hevent
  | later _ _ _ ih =>
    rw [List.flatten_cons, List.length_append, ← Nat.add_assoc]
    exact ih

/-- The bytes held before the decisive event are within the limit. -/
theorem Decided.length_le (h : Decided read limit total s chunks event last)
    (htotal : total ≤ limit) : total + chunks.flatten.length ≤ limit := by
  induction h with
  | here => exact htotal
  | later _ hchunk _ ih =>
    rw [List.flatten_cons, List.length_append, ← Nat.add_assoc]
    exact ih (not_decisive_bytes.1 hchunk).2

theorem eq_of_concluded {body held : Bytes} (h : concluded limit total held event = .ok body) :
    held = body := by
  match event with
  | .error _ => cases h
  | .ok (.bytes []) => exact Except.ok.inj h
  | .ok (.bytes (_ :: _)) => cases h
  | .ok (.other value) =>
    simp only [concluded] at h
    split at h
    · cases h
    · exact Except.ok.inj h

theorem length_le_of_gather {body : Bytes} (h : gather read limit 0 s = (.ok body, last)) :
    body.length ≤ limit := by
  obtain ⟨chunks, event, last', hd⟩ := exists_decided read limit 0 s
  have hle := hd.length_le (Nat.zero_le limit)
  rw [hd.gather_eq, Prod.mk.injEq] at h
  rw [← eq_of_concluded h.1]
  omega

/-- A property preserved by each reading is preserved by gathering. -/
theorem gather_induct {P : σ → Prop} (hread : ∀ s, P s → P (read s).2) (hs : P s) :
    P (gather read limit total s).2 := by
  obtain ⟨chunks, event, last, hd⟩ := exists_decided read limit total s
  rw [hd.gather_eq]
  induction hd with
  | here hstep =>
    have hlast := hread _ hs
    rwa [hstep] at hlast
  | later hstep _ _ ih =>
    have hnext := hread _ hs
    rw [hstep] at hnext
    exact ih hnext

theorem Decided.map {read' : τ → Except Failure Piece × τ} {f : σ → τ}
    (h : ∀ s, read' (f s) = ((read s).1, f (read s).2))
    (hd : Decided read limit total s chunks event last) :
    Decided read' limit total (f s) chunks event (f last) := by
  induction hd with
  | here hread hevent => exact .here (by rw [h, hread]) hevent
  | later hread hchunk _ ih => exact .later (by rw [h, hread]) hchunk ih

theorem gather_map {read' : τ → Except Failure Piece × τ} {f : σ → τ}
    (h : ∀ s, read' (f s) = ((read s).1, f (read s).2)) (limit total : Nat) (s : σ) :
    gather read' limit total (f s) =
      ((gather read limit total s).1, f (gather read limit total s).2) := by
  obtain ⟨chunks, event, last, hd⟩ := exists_decided read limit total s
  rw [hd.gather_eq, (hd.map h).gather_eq]

/-- The readings from a state bring a body piece by piece, and then the end. -/
inductive Brings (read : σ → Except Failure Piece × σ) : σ → Bytes → Prop where
  | last {s last : σ} : read s = (.ok (.bytes []), last) → Brings read s []
  | absent {s last : σ} {value : Datum} :
      read s = (.ok (.other value), last) → ¬ value.holds → Brings read s []
  | more {s next : σ} {chunk body : Bytes} :
      read s = (.ok (.bytes chunk), next) → chunk ≠ [] → Brings read next body →
      Brings read s (chunk ++ body)

theorem Brings.exists_gather_eq {body : Bytes} (h : Brings read s body)
    (hle : total + body.length ≤ limit) : ∃ last, gather read limit total s = (.ok body, last) := by
  induction h generalizing total with
  | last hread => exact ⟨_, gather_decisive hread (.inl rfl)⟩
  | @absent s last value hread hvalue =>
    have hgather : gather read limit total s =
        (concluded limit total [] (.ok (.other value)), last) :=
      gather_decisive hread trivial
    rw [concluded, if_neg hvalue] at hgather
    exact ⟨last, hgather⟩
  | @more s next chunk body hread hchunk _ ih =>
    rw [List.length_append, ← Nat.add_assoc] at hle
    obtain ⟨last, hlater⟩ := ih hle
    have hkept : ¬ Decisive limit total (.ok (.bytes chunk)) :=
      not_decisive_bytes.2 ⟨hchunk, Nat.le_trans (Nat.le_add_right _ _) hle⟩
    rw [gather_later hread hkept, hlater]
    exact ⟨last, rfl⟩

end DigestGate
