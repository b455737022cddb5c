import DigestGate.Proofs.Channel.Delivery
import DigestGate.Proofs.Gate.Forwarding
import DigestGate.Proofs.Http.Header

namespace DigestGate

variable {lines : FieldLines} {coming : List Receipt} {clearance : Clearance} {channel : Channel}
  {body : Bytes}

namespace Arrival

theorem received_of_whole {a : Arrival} (hwhole : a.broken = none) :
    a.received = a.parts.length := by
  rw [received, hwhole]

theorem conveys_client (hwhole : (ofReceipts coming).broken = none) :
    (Channel.ofClient coming).Conveys (ofReceipts coming).parts.flatten (rest coming) := by
  have hdelivers := Channel.delivers_client coming 0 hwhole
  rw [Nat.zero_add, ← received_of_whole hwhole] at hdelivers
  exact hdelivers.conveys

end Arrival

/-- The application is called with a channel that delivers `body`. -/
def Verdict.Gives (v : Verdict) (body : Bytes) : Prop :=
  ∃ clearance channel left, v = .forward clearance channel ∧ channel.Delivers body left

namespace Gate

variable {g : Gate} {defaults : Defaults} {env : Environment} {loaded : Settings}

/-- The channel of the application delivers the body and then the rest of the client. -/
theorem Onward.conveys (h : Onward coming clearance channel)
    (hwhole : (Arrival.ofReceipts coming).broken = none) :
    channel.Conveys (Arrival.ofReceipts coming).parts.flatten (Arrival.rest coming) := by
  cases h with
  | unexamined => exact Arrival.conveys_client hwhole
  | undeclared => exact Arrival.conveys_client hwhole
  | checked check content chunk hphase hchunk =>
    exact Channel.conveys_replay _ rfl (Int.natCast_ne_zero.2 (Nat.ne_of_gt hchunk)) _

theorem pass_onward {scope : Scope}
    (h : (g.pass defaults env scope (.ofClient coming)).verdict = .forward clearance channel) :
    Onward coming clearance channel := by
  obtain ⟨loaded, head, hforward⟩ := exists_passUnder_of_pass h
  exact (passUnder_forward hforward).1

theorem pass_forwards {head : Head} {scope : Scope}
    (hload : Settings.load defaults env = .ok loaded) (hhead : scope.head = .ok head)
    (hmode : (g.apply loaded).mode = .advisory) (hwhole : (Arrival.ofReceipts coming).broken = none)
    (hsize : ((Arrival.ofReceipts coming).total : Int) ≤ (g.apply loaded).maximum)
    (hchunk : 0 < (g.apply loaded).chunk) :
    ∃ clearance channel,
      (g.pass defaults env scope (.ofClient coming)).verdict = .forward clearance channel := by
  have hmaximum : 0 ≤ (g.apply loaded).maximum := Int.le_trans (Int.natCast_nonneg _) hsize
  have hlimits := Limits.make_of_pos hmaximum hchunk
  have hpassed := passUnder_passed hlimits head coming
  rw [pass_of_load hload, hhead]
  refine (hpassed.forward_iff hwhole ((Int.le_toNat hmaximum).2 hsize)).2 fun _ => ?_
  rw [hmode]
  exact ⟨fun _ => .inr rfl, nofun⟩

theorem openBody_of_bufferAndVerify {content content' : Solo Reader} {check : Check}
    (h : bufferAndVerify lines content = (.ok (body, check), content')) :
    content'.request.phase = .buffered body ∧
      Solo.host.openBody content' = (.ok (.replay (content'.request.replay body)), content') := by
  have hphase : content'.request.phase = .buffered body := by
    rw [bufferAndVerify] at h
    have hensure (bytes : Bytes) : (Solo.host.ensure content).1 = .ok bytes → _ :=
      Solo.phase_of_ensure
    generalize Solo.host.ensure content = outcome at h hensure
    rcases outcome with ⟨e | bytes, buffered⟩
    · cases h
    · have hverify := Solo.buffered_keeps.verify lines (hensure bytes rfl)
      simp only at h
      generalize Solo.host.verify lines buffered = outcome at h hverify
      rcases outcome with ⟨e | check', verified⟩
      · cases h
      · cases h
        exact hverify
  refine ⟨hphase, ?_⟩
  rw [Host.openBody, show (Solo.host.request content').phase = .buffered body from hphase]
  rfl

/-- A forwarded request delivers the body and the later messages of the client. -/
theorem pass_transparent (g : Gate) (defaults : Defaults) (env : Environment) (scope : Scope)
    (coming : List Receipt) (hwhole : (Arrival.ofReceipts coming).broken = none) :
    let body := (Arrival.ofReceipts coming).parts.flatten
    let verdict (scope : Scope) := (g.pass defaults env scope (.ofClient coming)).verdict
    (∀ clearance channel, verdict scope = .forward clearance channel →
      channel.Conveys body (Arrival.rest coming) ∧
        match clearance with
        | .checked _ content => content.request.phase = .buffered body ∧
            channel.pulled = (Arrival.rest coming).pulled
        | _ => channel = .ofClient coming) ∧
    (∀ lines content bytes check content',
      bufferAndVerify lines content = (.ok (bytes, check), content') →
        content'.request.phase = .buffered bytes ∧
          Solo.host.openBody content' =
            (.ok (.replay (content'.request.replay bytes)), content')) ∧
    (∀ lines lines', scope.lines = some lines → lines'.others = lines.others →
      let other := { scope with lines := some lines' }
      (∀ bytes bytes', (verdict scope).Gives bytes → (verdict other).Gives bytes' →
        bytes = bytes') ∧
      (∀ loaded, Settings.load defaults env = .ok loaded → (g.apply loaded).mode = .advisory →
        body.length ≤ (g.apply loaded).maximum → 0 < (g.apply loaded).chunk →
          match scope.head with
          | .error e => verdict scope = .fail (.fault e) (.ofClient coming) ∧
              verdict other = .fail (.fault e) (.ofClient coming)
          | .ok _ => (verdict scope).Gives body ∧ (verdict other).Gives body)) := by
  intro body verdict
  have hconveys {s : Scope} {clearance : Clearance} {channel : Channel}
      (hv : verdict s = .forward clearance channel) :
      channel.Conveys body (Arrival.rest coming) :=
    (pass_onward hv).conveys hwhole
  have hbody {s : Scope} {bytes : Bytes} (h : (verdict s).Gives bytes) : bytes = body := by
    obtain ⟨clearance, channel, left, hv, hdelivers⟩ := h
    obtain ⟨_, hdelivers', _⟩ := hconveys hv
    exact (hdelivers.unique hdelivers').1
  refine ⟨?_, fun lines content bytes check content' h => openBody_of_bufferAndVerify h, ?_⟩
  · intro clearance channel hv
    refine ⟨hconveys hv, ?_⟩
    cases pass_onward hv with
    | unexamined => rfl
    | undeclared => rfl
    | checked check content chunk hphase => exact ⟨hphase, rfl⟩
  · intro lines lines' hlines hothers
    refine ⟨fun bytes bytes' h h' => (hbody h).trans (hbody h').symm, ?_⟩
    intro loaded hload hmode hsize hchunk
    have hgives {s : Scope} {head : Head} (hhead : s.head = .ok head) : (verdict s).Gives body := by
      obtain ⟨clearance, channel, hv⟩ := pass_forwards hload hhead hmode hwhole hsize hchunk
      obtain ⟨left, hdelivers, _⟩ := hconveys hv
      exact ⟨clearance, channel, left, hv, hdelivers⟩
    have hfails {s : Scope} {e : Fault} (hhead : s.head = .error e) :
        verdict s = .fail (.fault e) (.ofClient coming) := by
      show (g.pass defaults env s (.ofClient coming)).verdict = _
      rw [pass_of_load hload, hhead]
    have hother := Scope.head_of_first? hlines (FieldLines.first?_of_others (by decide) hothers)
    cases hhead : scope.head with
    | error e =>
      rw [hhead] at hother
      exact ⟨hfails hhead, hfails hother⟩
    | ok head =>
      rw [hhead] at hother
      exact ⟨hgives hhead, hgives hother⟩

theorem pass_transparent_misdeclared :
    let coming : List Receipt := [.message (.part [1] true), .message (.part [2] false)]
    let g := { strictGate with mode := some .advisory }
    let lines : FieldLines := [("content-md5", "AA=="), ("digest", "md5=?")]
    (Arrival.ofReceipts coming).broken = none ∧
      (g.pass plainDefaults [] { postedScope with lines := some lines }
        (.ofClient coming)).verdict.Gives [1, 2] := by
  intro coming g lines
  have h := pass_transparent g plainDefaults [] postedScope coming rfl
  have hadvisory := (h.2.2 _ lines rfl rfl).2 _ load_plain rfl (by decide) (by decide)
  rw [postedScope_head] at hadvisory
  exact ⟨rfl, hadvisory.2⟩

end Gate

end DigestGate
