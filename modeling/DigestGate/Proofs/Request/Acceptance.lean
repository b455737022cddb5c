import DigestGate.Proofs.Body.Admission
import DigestGate.Proofs.Request.Metering
import DigestGate.Proofs.Session.Content

namespace DigestGate

variable {ρ : Type} {limits : Limits} {source : ρ} {content : Bytes}

/-- Each reading takes `chunk` bytes off `content`, or the rest of it. -/
def BodySource.Portions [BodySource ρ] (chunk : Nat) (source : ρ) (content : Bytes) : Prop :=
  ∃ Left : ρ → Bytes → Prop, Cuts chunk (draw chunk) Left ∧ Left source content

theorem Source.portions_memory {file : MemoryFile} (hopen : file.closed = false) {chunk : Nat}
    (hfits : Readable.fitsWord chunk) :
    BodySource.Portions chunk { supply := .memory file : Source } file.rest := by
  refine ⟨fun s rest => ∃ file, s.supply = .memory file ∧ file.closed = false ∧ file.rest = rest,
    ?_, file, rfl, hopen, rfl⟩
  rintro s _ ⟨file, hsupply, hopen, rfl⟩
  have hread : file.read (some (chunk : Int)) =
      (.ok (file.rest.take chunk), (file.advance chunk).2) := by
    show file.whenFits _ _ (file.whenOpen (.ok _, _)) = _
    rw [MemoryFile.whenFits, Option.all_some, if_pos hfits, MemoryFile.whenOpen,
      if_neg (ne_true_of_eq_false hopen)]
    rfl
  have hdraw : BodySource.draw chunk s = (.ok (.bytes (file.rest.take chunk)), { s with
      sizes := some (chunk : Int) :: s.sizes
      supply := .memory (file.advance chunk).2 }) := by
    rw [BodySource.draw, exchange_eq hsupply, hread]
    rfl
  exact ⟨_, hdraw, _, rfl, hopen, rfl⟩

namespace Solo

variable [BodySource ρ]

theorem readings_of_ensure {chunks : List Bytes} {event : Except Failure Piece} {last : ρ}
    (hd : Decided (BodySource.draw limits.chunk) limits.maximum 0 source chunks event last) :
    (host.metered.ensure (start limits source, [])).2.2 =
      Reading.series limits.chunk chunks event :=
  readings_of_decided (s := start limits source) rfl hd []

variable [QuietSource ρ]

theorem gains_of_portions (hportions : BodySource.Portions limits.chunk source content)
    (hle : content.length ≤ limits.maximum) :
    let outcome := host.metered.ensure (start limits source, [])
    let after := host.ensure (start limits source)
    after.1 = .ok content ∧ (∃ last, Gains limits after content last) ∧
      outcome.2.2.length = (content.length + limits.chunk - 1) / limits.chunk + 1 := by
  intro outcome after
  obtain ⟨Left, hcuts, hleft⟩ := hportions
  obtain ⟨chunks, event, last, hd⟩ :=
    exists_decided (BodySource.draw limits.chunk) limits.maximum 0 source
  obtain ⟨rfl, rfl, hcount⟩ := hcuts.decided_of_le limits.chunk_pos hleft hd hle
  have hgains : Gains limits after _ last := gains_of_gather hd.gather_eq []
  refine ⟨(hgains.kept (BodySource.raised_leave _ _ _)).1, ⟨last, hgains⟩, ?_⟩
  show outcome.2.2.length = _
  rw [readings_of_ensure hd, Reading.length_series, hcount]

theorem fails_of_portions (hportions : BodySource.Portions limits.chunk source content)
    (hlt : limits.maximum < content.length) :
    let outcome := host.metered.ensure (start limits source, [])
    let after := host.ensure (start limits source)
    let observed := min content.length (limits.chunk * (limits.maximum / limits.chunk + 1))
    after.1 = .error (.body (.tooLarge limits.maximum observed)) ∧
      (∃ last, BodySource.Portions limits.chunk last (content.drop observed) ∧
        Fails limits after (.body (.tooLarge limits.maximum observed))
          (.tooLarge limits.maximum observed) last) ∧
      outcome.2.2.length = limits.maximum / limits.chunk + 1 ∧
      Reading.brought outcome.2.2 = content.take observed := by
  intro outcome after observed
  obtain ⟨Left, hcuts, hleft⟩ := hportions
  obtain ⟨chunks, event, last, hd⟩ :=
    exists_decided (BodySource.draw limits.chunk) limits.maximum 0 source
  obtain ⟨hcount, ⟨b, bs, rfl, htake⟩, hlast⟩ :=
    hcuts.decided_of_lt limits.chunk_pos hleft hd hlt
  have hobserved : 0 + (chunks.flatten ++ b :: bs).length = observed := by
    rw [htake, List.length_take_of_le (Nat.min_le_left _ _), Nat.zero_add]
  have hreadings := readings_of_ensure hd
  have hfails : Fails limits after (.body (.tooLarge limits.maximum observed))
      (.tooLarge limits.maximum observed) last := by
    rw [← hobserved]
    exact fails_of_gather hd.gather_eq []
  refine ⟨hfails.raises (BodySource.raised_leave _ _ _), ⟨last, ⟨Left, hcuts, hlast⟩, hfails⟩,
    ?_, ?_⟩
  · show outcome.2.2.length = _
    rw [hreadings, Reading.length_series, hcount]
  · show Reading.brought outcome.2.2 = _
    rw [hreadings, Reading.brought_series]
    exact htake

theorem exists_body_iff (hportions : BodySource.Portions limits.chunk source content) :
    (∃ body, (host.ensure (start limits source)).1 = .ok body) ↔
      content.length ≤ limits.maximum := by
  constructor
  · rintro ⟨body, hbody⟩
    refine Nat.not_lt.1 fun hlt => ?_
    have hraised := (fails_of_portions hportions hlt).1
    cases hbody.symm.trans hraised
  · intro hle
    exact ⟨content, (gains_of_portions hportions hle).1⟩

/-- Acceptance depends on the length of the content and not on the chunk. -/
theorem accepts_by_length (limits : Limits) (source : ρ) (content : Bytes)
    (hportions : BodySource.Portions limits.chunk source content) :
    let outcome := host.metered.ensure (start limits source, [])
    let after := host.ensure (start limits source)
    let readings := outcome.2.2
    let observed := min content.length (limits.chunk * (limits.maximum / limits.chunk + 1))
    (outcome.1, outcome.2.1) = after ∧
    ((∃ body, after.1 = .ok body) ↔ content.length ≤ limits.maximum) ∧
    (content.length ≤ limits.maximum →
      after.1 = .ok content ∧ (∃ last, Gains limits after content last) ∧
      readings.length = (content.length + limits.chunk - 1) / limits.chunk + 1) ∧
    (limits.maximum < content.length →
      after.1 = .error (.body (.tooLarge limits.maximum observed)) ∧
      (∃ last, BodySource.Portions limits.chunk last (content.drop observed) ∧
        Fails limits after (.body (.tooLarge limits.maximum observed))
          (.tooLarge limits.maximum observed) last) ∧
      readings.length = limits.maximum / limits.chunk + 1 ∧
      Reading.brought readings = content.take observed ∧
      (Reading.brought readings).length = observed) ∧
    ∀ {ρ' : Type} [BodySource ρ'] [QuietSource ρ'] (limits' : Limits) (source' : ρ'),
      BodySource.Portions limits'.chunk source' content →
      let after' := host.ensure (start limits' source')
      (limits.maximum = limits'.maximum →
        ((∃ body, after.1 = .ok body) ↔ ∃ body, after'.1 = .ok body)) ∧
      (limits.maximum ≤ limits'.maximum →
        (∃ body, after.1 = .ok body) → ∃ body, after'.1 = .ok body) := by
  intro outcome after readings observed
  have haccepts := exists_body_iff hportions
  refine ⟨(host.metered_maps.ensure (start limits source, [])).symm, haccepts,
    gains_of_portions hportions, fun hlt => ?_, fun limits' source' hportions' => ?_⟩
  · obtain ⟨hraised, hfails, hcount, htake⟩ := fails_of_portions hportions hlt
    refine ⟨hraised, hfails, hcount, htake, ?_⟩
    show (Reading.brought outcome.2.2).length = _
    rw [htake, List.length_take_of_le (Nat.min_le_left _ _)]
  · intro after'
    have haccepts' := exists_body_iff hportions'
    constructor
    · intro hmaximum
      rw [haccepts, haccepts', hmaximum]
    · intro hmaximum hbody
      exact haccepts'.2 (Nat.le_trans (haccepts.1 hbody) hmaximum)

theorem accepts_by_length_pairs :
    let source : Source := { supply := .memory { content := [1, 2, 3, 4, 5] } }
    let outcome := host.metered.ensure (start ⟨3, 2, by decide⟩ source, [])
    BodySource.Portions 2 source [1, 2, 3, 4, 5] ∧
      outcome.1 = .error (.body (.tooLarge 3 4)) ∧ outcome.2.2.length = 2 ∧
      Reading.brought outcome.2.2 = [1, 2, 3, 4] ∧
      ¬ ∃ body, (host.ensure (start ⟨3, 1, by decide⟩ source)).1 = .ok body := by
  intro source outcome
  have hportions (chunk : Nat) (hfits : Readable.fitsWord chunk) :
      BodySource.Portions chunk source [1, 2, 3, 4, 5] :=
    Source.portions_memory rfl hfits
  have hpairs := hportions 2 (by decide)
  obtain ⟨hsame, haccepts, -, hbeyond, hothers⟩ :=
    accepts_by_length ⟨3, 2, by decide⟩ source [1, 2, 3, 4, 5] hpairs
  obtain ⟨hraised, -, hcount, hbrought, -⟩ := hbeyond (by decide)
  refine ⟨hpairs, (congrArg Prod.fst hsame).trans hraised, hcount, hbrought, fun hbody => ?_⟩
  have hsingly := (hothers ⟨3, 1, by decide⟩ source (hportions 1 (by decide))).1 rfl
  exact absurd (haccepts.1 (hsingly.2 hbody)) (by decide)

end Solo

end DigestGate
