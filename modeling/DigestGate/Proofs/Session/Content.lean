import DigestGate.Proofs.Body.Decision
import DigestGate.Request.Exchange

namespace DigestGate

section Gathering

variable {σ : Type} {read : σ → Except Failure Piece × σ} {limit total : Nat} {s last : σ}
  {rest body : Bytes} {chunks : List Bytes} {event : Except Failure Piece}

/-- Successful readings take prefixes of the rest, and are empty only at its end. -/
def Exhausts (read : σ → Except Failure Piece × σ) (Left : σ → Bytes → Prop) : Prop :=
  ∀ s rest, Left s rest → ∀ piece next, read s = (.ok piece, next) →
    ∃ bytes rest', piece = .bytes bytes ∧ rest = bytes ++ rest' ∧ Left next rest' ∧
      (bytes = [] → rest' = [])

theorem exists_piece_of_concluded (h : concluded limit total body event = .ok rest) :
    event = .ok (.bytes []) ∨ ∃ value, event = .ok (.other value) := by
  match event with
  | .error _ => cases h
  | .ok (.bytes []) => exact .inl rfl
  | .ok (.bytes (_ :: _)) => cases h
  | .ok (.other value) => exact .inr ⟨value, rfl⟩

theorem Decided.flatten_eq {Left : σ → Bytes → Prop} (hread : Exhausts read Left)
    (h : Decided read limit total s chunks event last)
    (hevent : event = .ok (.bytes []) ∨ ∃ value, event = .ok (.other value)) (hs : Left s rest) :
    chunks.flatten = rest := by
  induction h generalizing rest with
  | here hstep _ =>
    obtain rfl | ⟨value, rfl⟩ := hevent
    · obtain ⟨bytes, rest', hpiece, rfl, -, hend⟩ := hread _ _ hs _ _ hstep
      cases hpiece
      rw [hend rfl]
      rfl
    · obtain ⟨bytes, rest', hpiece, -⟩ := hread _ _ hs _ _ hstep
      cases hpiece
  | later hstep _ _ ih =>
    obtain ⟨bytes, rest', hpiece, rfl, hnext, -⟩ := hread _ _ hs _ _ hstep
    cases hpiece
    rw [List.flatten_cons, ih hevent hnext]

theorem Exhausts.eq_of_gather {Left : σ → Bytes → Prop} (hread : Exhausts read Left)
    (hs : Left s rest) (h : (gather read limit total s).1 = .ok body) : body = rest := by
  obtain ⟨chunks, event, last, hd⟩ := exists_decided read limit total s
  rw [hd.gather_eq] at h
  rw [← eq_of_concluded h]
  exact hd.flatten_eq hread (exists_piece_of_concluded h) hs

end Gathering

/-- Successful readings take prefixes of `content`, and are empty only at its end. -/
def BodySource.Carries {ρ : Type} [BodySource ρ] (source : ρ) (content : Bytes) : Prop :=
  ∃ Left : ρ → Bytes → Prop, Left source content ∧
    ∀ source rest, Left source rest → ∀ size : Nat, 0 < size →
      ∃ outcome next, BodySource.read (some (size : Int)) source = .done outcome next ∧
        ∀ piece, outcome = .ok piece → ∃ bytes rest', piece = .bytes bytes ∧
          rest = bytes ++ rest' ∧ Left next rest' ∧ (bytes = [] → rest' = [])

theorem MemoryFile.read_cases (size : Nat) (file : MemoryFile) :
    (∃ e, file.read (some (size : Int)) = (.error e, file)) ∨
      file.read (some (size : Int)) = (.ok (file.advance size).1, (file.advance size).2) := by
  have hread : file.read (some (size : Int)) = file.whenFits .sizeTooLarge (some (size : Int))
    (file.whenOpen (.ok (file.advance size).1, (file.advance size).2)) := rfl
  rw [hread, whenFits, whenOpen]
  split
  · split
    · exact .inl ⟨_, rfl⟩
    · exact .inr rfl
  · exact .inl ⟨_, rfl⟩

theorem Source.exchange_eq {file : MemoryFile} {s : Source} (hsupply : s.supply = .memory file)
    (size : Option Int) :
    BodySource.read size s = .done ((file.read size).1.map .bytes)
      { s with sizes := size :: s.sizes, supply := .memory (file.read size).2 } := by
  show SourceEvent.exchange (Source.read size s).2 (Source.read size s).1 = _
  rw [Source.read]
  simp only [hsupply]
  generalize file.read size = outcome
  obtain ⟨_ | _, _⟩ := outcome <;> rfl

theorem Source.carries_memory (file : MemoryFile) (closeFailure : Option String) :
    BodySource.Carries { supply := .memory file, closeFailure : Source } file.rest := by
  refine ⟨fun s rest => ∃ file, s.supply = .memory file ∧ file.rest = rest, ⟨file, rfl, rfl⟩, ?_⟩
  rintro s _ ⟨file, hsupply, rfl⟩ size hsize
  refine ⟨_, _, Source.exchange_eq hsupply _, ?_⟩
  intro piece hpiece
  obtain ⟨e, hfails⟩ | hreads := file.read_cases size
  · rw [hfails] at hpiece
    cases hpiece
  · rw [hreads] at hpiece ⊢
    cases hpiece
    refine ⟨_, (file.advance size).2.rest, rfl, (file.take_append_rest size).symm,
      ⟨_, rfl, rfl⟩, ?_⟩
    intro hnothing
    have hrest : file.rest = [] :=
      (List.take_eq_nil_iff.1 hnothing).resolve_left (Nat.ne_of_gt hsize)
    show file.rest.drop size = []
    rw [hrest, List.drop_nil]

end DigestGate
