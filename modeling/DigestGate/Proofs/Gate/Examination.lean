import DigestGate.Gate
import DigestGate.Proofs.Channel.Buffering
import DigestGate.Proofs.Check.Computed

namespace DigestGate

variable {limits : Limits} {body : Bytes} {lines : FieldLines} {coming : List Receipt}

theorem Limits.make_of_pos {maximum chunk : Int} (hmaximum : 0 ≤ maximum) (hchunk : 0 < chunk) :
    make maximum chunk =
      .ok ⟨maximum.toNat, chunk.toNat, Int.pos_iff_toNat_pos.1 hchunk⟩ := by
  rw [make, if_neg (Int.not_lt.2 hmaximum), dif_pos hchunk]

namespace Gate

theorem bufferAndVerify_error {content : Solo Reader} {e : Failure}
    (h : (Solo.host.ensure content).1 = .error e) (lines : FieldLines) :
    bufferAndVerify lines content = (.error e, (Solo.host.ensure content).2) := by
  rw [bufferAndVerify]
  generalize Solo.host.ensure content = outcome at h ⊢
  obtain ⟨_, content'⟩ := outcome
  cases h
  rfl

/-- A body that is buffered is checked and kept. -/
theorem bufferAndVerify_ok {source : Reader}
    (h : (Solo.host.ensure { request := { limits }, source }).1 = .ok body) (lines : FieldLines) :
    ∃ content, bufferAndVerify lines { request := { limits }, source } =
        (.ok (body, lines.check body), content) ∧
      content.Rests limits body (Solo.host.ensure { request := { limits }, source }).2.source ∧
      content.request.cache.Covers body (lines.check body).algorithms := by
  have hrequest := Solo.request_of_ensure h
  rw [bufferAndVerify]
  generalize Solo.host.ensure { request := { limits }, source } = outcome at h hrequest ⊢
  obtain ⟨_, content⟩ := outcome
  cases h
  have hrests : content.Rests limits body content.source := by
    refine ⟨?_, congrArg Request.limits hrequest, rfl⟩
    rw [hrequest]
    exact ⟨rfl, fun a digest hdigest => by cases a <;> cases hdigest⟩
  have hcheck := Host.verify_holds Solo.rests_keeps Solo.Rests.holds hrests lines
  have hafter := Solo.rests_keeps.verify lines hrests
  have hnone : content.request.cache.Covers body [] := by
    rw [hrequest]
    exact DigestCache.covers_empty body
  have hcovers := Solo.covers_verify hrests.holds hnone lines
  simp only
  generalize Solo.host.verify lines content = outcome at hcheck hafter hcovers ⊢
  obtain ⟨_, content'⟩ := outcome
  cases hcheck
  exact ⟨content', rfl, hafter, hcovers⟩

/-- The verdict on a body that fails within the limit. -/
def Broken (failure : Failure) (left : Channel) (v : Verdict) : Prop :=
  match failure with
  | .fault _ => v = .reject readFailed left
  | .body (.tooLarge limit _) => v = .reject (bodyTooLarge limit) left
  | .body (.unreadable _) => v = .reject readFailed left
  | .body .aborted => v = .reject readFailed left
  | failure => v = .fail failure left

/-- The verdict on a complete body, which is replayed to the application if forwarded. -/
def Checked (mode : Mode) (limits : Limits) (body : Bytes) (check : Check) (left : Channel)
    (v : Verdict) : Prop :=
  if check.verified ∨ mode = .advisory then
    ∃ content : Solo Reader, content.request.phase = .buffered body ∧
      v = .forward (.checked check content)
        (.replaying (Request.replay { limits } body) limits.chunk left)
  else v = .reject (mismatch check.reason) left

/-- The verdict on a request that declares digests. -/
def Examined (mode : Mode) (limits : Limits) (lines : FieldLines) (coming : List Receipt)
    (v : Verdict) : Prop :=
  let a := Arrival.ofReceipts coming
  let left (k : Nat) : Channel := .client (coming.drop k) k
  if limits.maximum < a.total then
    ∃ k, a.Exceeds limits.maximum 0 k ∧ v = .reject (bodyTooLarge limits.maximum) (left k)
  else
    match a.broken with
    | some e => Broken e (left a.received) v
    | none =>
      Checked mode limits a.parts.flatten (lines.check a.parts.flatten) (left a.received) v

/-- The cases of an examination, with the passage of each. -/
inductive Examination (mode : Mode) (limits : Limits) (head : Head) (coming : List Receipt) :
    Passage → Prop where
  | oversized (k observed : Nat) (content : Solo Reader) :
      limits.maximum < (Arrival.ofReceipts coming).total →
      (Arrival.ofReceipts coming).Exceeds limits.maximum 0 k →
      content.source.channel = .client (coming.drop k) k →
      Examination mode limits head coming
        (turnAway head.route content (.body (.tooLarge limits.maximum observed)))
  | broken (e raised : Failure) (content : Solo Reader) :
      ¬ limits.maximum < (Arrival.ofReceipts coming).total →
      (Arrival.ofReceipts coming).broken = some e →
      (Arrival.ofReceipts coming).outcome = .error raised →
      content.source.channel = .client (coming.drop (Arrival.ofReceipts coming).received)
        (Arrival.ofReceipts coming).received →
      Examination mode limits head coming (turnAway head.route content raised)
  | whole (content : Solo Reader) :
      ¬ limits.maximum < (Arrival.ofReceipts coming).total →
      (Arrival.ofReceipts coming).broken = none →
      content.Rests limits (Arrival.ofReceipts coming).parts.flatten content.source →
      content.source.channel = .client (coming.drop (Arrival.ofReceipts coming).received)
        (Arrival.ofReceipts coming).received →
      content.request.cache.Covers (Arrival.ofReceipts coming).parts.flatten
        (head.lines.check (Arrival.ofReceipts coming).parts.flatten).algorithms →
      Examination mode limits head coming
        (settle mode head.route (Arrival.ofReceipts coming).parts.flatten
          (head.lines.check (Arrival.ofReceipts coming).parts.flatten) content)

theorem examination {settings : Settings}
    (hlimits : Limits.make settings.maximum settings.chunk = .ok limits) (head : Head)
    (coming : List Receipt) :
    Examination settings.mode limits head coming (examine settings head (.ofClient coming)) := by
  obtain ⟨k, hchannel, hsettles⟩ := Solo.ensure_client limits coming []
  rw [Arrival.Settles] at hsettles
  rw [examine, hlimits]
  simp only
  by_cases htotal : limits.maximum < (Arrival.ofReceipts coming).total
  · rw [if_pos htotal] at hsettles
    obtain ⟨hexceeds, observed, _, _, hout⟩ := hsettles
    rw [bufferAndVerify_error hout]
    exact .oversized k observed _ htotal hexceeds hchannel
  · rw [if_neg htotal] at hsettles
    obtain ⟨rfl, hout⟩ := hsettles
    cases hbroken : (Arrival.ofReceipts coming).broken with
    | some e =>
      obtain ⟨raised, hraised⟩ : ∃ raised, (Arrival.ofReceipts coming).outcome = .error raised := by
        rw [Arrival.outcome, hbroken]
        cases e <;> exact ⟨_, rfl⟩
      rw [bufferAndVerify_error (hout.trans hraised)]
      exact .broken e raised _ htotal hbroken hraised hchannel
    | none =>
      have hbody : (Arrival.ofReceipts coming).outcome =
          .ok (Arrival.ofReceipts coming).parts.flatten := by
        rw [Arrival.outcome, hbroken]
      obtain ⟨content, hverify, hrests, hcovers⟩ :=
        bufferAndVerify_ok (hout.trans hbody) head.lines
      have hsource := hrests.source_eq
      rw [← hsource] at hrests hchannel
      rw [hverify]
      exact .whole content htotal hbroken hrests hchannel hcovers

theorem turnAway_broken {a : Arrival} {e raised : Failure} (he : a.broken = some e)
    (hraised : a.outcome = .error raised) (route : String) (content : Solo Reader) :
    Broken e content.source.channel (turnAway route content raised).verdict := by
  rw [Arrival.outcome, he] at hraised
  cases e with
  | fault _ =>
    cases hraised
    rfl
  | body error =>
    cases hraised
    cases error <;> rfl
  | interrupted _ =>
    cases hraised
    rfl

theorem settle_checked {content : Solo Reader} {source : Reader}
    (h : content.Rests limits body source) (mode : Mode) (route : String) (check : Check) :
    Checked mode limits body check source.channel
      (settle mode route body check content).verdict := by
  rw [Checked, settle]
  by_cases hlet : check.verified ∨ mode = .advisory
  · have hlet' : (check.verified || decide (mode = .advisory)) = true := by simpa using hlet
    rw [if_pos hlet, if_pos hlet']
    refine ⟨content, h.holds.phase, ?_⟩
    rw [Request.replay, h.limits_eq, h.source_eq]
    rfl
  · have hlet' : ¬ (check.verified || decide (mode = .advisory)) = true := by simpa using hlet
    rw [if_neg hlet, if_neg hlet', h.source_eq]

theorem settle_observations (mode : Mode) (route : String) (body : Bytes) (check : Check)
    (content : Solo Reader) :
    (settle mode route body check content).observations =
      Observation.ofBuffering "buffered" (some (body.length : Int)) ++
        Observation.ofCheck check.verified (check.reason.map Reason.label)
          (content.request.cache.computed.map Algorithm.name) := by
  rw [settle]
  by_cases hlet : (check.verified || decide (mode = .advisory)) = true
  · rw [if_pos hlet]
  · rw [if_neg hlet]

theorem examine_examined {settings : Settings}
    (hlimits : Limits.make settings.maximum settings.chunk = .ok limits) (head : Head)
    (coming : List Receipt) :
    Examined settings.mode limits head.lines coming
      (examine settings head (.ofClient coming)).verdict := by
  have h := examination hlimits head coming
  rw [Examined]
  generalize examine settings head (.ofClient coming) = passage at h ⊢
  cases h with
  | oversized k observed content htotal hexceeds hchannel =>
    rw [if_pos htotal]
    exact ⟨k, hexceeds, congrArg (Verdict.reject (bodyTooLarge limits.maximum)) hchannel⟩
  | broken e raised content htotal hbroken hraised hchannel =>
    have hverdict := turnAway_broken hbroken hraised head.route content
    rw [hchannel] at hverdict
    rw [if_neg htotal, hbroken]
    exact hverdict
  | whole content htotal hbroken hrests hchannel =>
    have hverdict := settle_checked hrests settings.mode head.route
      (head.lines.check (Arrival.ofReceipts coming).parts.flatten)
    rw [hchannel] at hverdict
    rw [if_neg htotal, hbroken]
    exact hverdict

end Gate

end DigestGate
