import DigestGate.Proofs.Check.Declared
import DigestGate.Proofs.Gate.Forwarding
import DigestGate.Proofs.Http.Header

namespace DigestGate

variable {settings : Settings} {lines lines' : FieldLines} {head : Head} {coming : List Receipt}
  {channel : Channel}

theorem Algorithm.compute_ne {a : Algorithm} {digest : Bytes} (hsize : digest.length ≠ a.size)
    (body : Bytes) : a.compute body ≠ digest := by
  intro hdigest
  apply hsize
  rw [← hdigest]
  exact a.length_compute body

namespace Gate

section Agreement

variable (hsame : ∀ f : IntegrityField, lines'.first? f.name = lines.first? f.name)
include hsame

theorem bufferAndVerify_congr (content : Solo Reader) :
    bufferAndVerify lines' content = bufferAndVerify lines content := by
  rw [bufferAndVerify, bufferAndVerify]
  cases Solo.host.ensure content with
  | mk outcome content =>
    cases outcome with
    | error e => rfl
    | ok body =>
      simp only [Host.verify_congr hsame]

/-- The verdict depends on the first line of each integrity field only. -/
theorem passUnder_congr (route verb : String) (channel : Channel) :
    passUnder settings { route, verb, lines := lines' } channel =
      passUnder settings { route, verb, lines } channel := by
  rw [passUnder, passUnder, FieldLines.hasIntegrity_congr hsame, examine, examine]
  simp only [bufferAndVerify_congr hsame]

end Agreement

theorem pass_repeated (g : Gate) (defaults : Defaults) (env : Environment) (scope : Scope)
    (channel : Channel) {before after : FieldLines} {name value : String}
    (hlines : scope.lines = some (before ++ (name, value) :: after))
    (hname : name ∈ before.map Prod.fst) :
    g.pass defaults env { scope with lines := some (before ++ after) } channel =
      g.pass defaults env scope channel := by
  have hfirst (key : String) :
      FieldLines.first? (before ++ after) key =
        FieldLines.first? (before ++ (name, value) :: after) key :=
    (FieldLines.first?_repeated hname key).symm
  cases hload : Settings.load defaults env with
  | error e => rw [pass, pass, hload]
  | ok loaded =>
    rw [pass_of_load hload, pass_of_load hload, Scope.head_of_first? hlines (hfirst "host")]
    cases hhead : scope.head with
    | error e => rfl
    | ok head =>
      obtain ⟨route, verb, lines⟩ := head
      cases Scope.lines_of_head hlines hhead
      exact passUnder_congr (fun f => hfirst f.name) route verb channel

/-- A wrong digest in the first line of a field keeps the application from being called. -/
theorem passUnder_enforced {clearance : Clearance}
    (hforward : (passUnder settings head (.ofClient coming)).verdict = .forward clearance channel)
    (hverb : head.verb ∈ settings.methods) (hmode : settings.mode ≠ .advisory) {f : IntegrityField}
    {value : String} (hvalue : head.lines.first? f.name = some value) {digests : DigestMap}
    (hparse : f.parse value = .ok digests) {a : Algorithm} {digest : Bytes}
    (hdigest : (a, digest) ∈ digests) :
    a.compute (Arrival.ofReceipts coming).parts.flatten = digest := by
  by_cases hempty : value = ""
  · rw [hempty] at hparse
    rw [IntegrityField.eq_nil_of_parse_empty hparse] at hdigest
    exact absurd hdigest List.not_mem_nil
  · have hsays : f.Says head.lines value := ⟨hempty, FieldLines.first?_eq_some_iff.1 hvalue⟩
    have hdeclares : head.lines.Declares := ⟨f, value, hvalue, hempty⟩
    have hverified := ((passUnder_forward hforward).2 hverb hdeclares).resolve_right hmode
    have hhonest := FieldLines.verified_check_iff_honest.1 hverified
    exact hhonest.equal ⟨f, a, digest⟩ ⟨value, digests, hsays, hparse, hdigest⟩

/-- A gate that enforces calls the application exactly for honest first lines. -/
theorem pass_enforced (g : Gate) (defaults : Defaults) (env : Environment) (scope : Scope)
    (coming : List Receipt) {loaded : Settings} (hload : Settings.load defaults env = .ok loaded)
    {head : Head} (hhead : scope.head = .ok head) (hverb : head.verb ∈ (g.apply loaded).methods)
    (hmode : (g.apply loaded).mode ≠ .advisory) :
    let body := (Arrival.ofReceipts coming).parts.flatten
    let verdict := (g.pass defaults env scope (.ofClient coming)).verdict
    (∀ clearance channel, verdict = .forward clearance channel →
      ∀ (f : IntegrityField) before value after, head.lines = before ++ (f.name, value) :: after →
        f.name ∉ before.map Prod.fst → ∀ digests, f.parse value = .ok digests →
          ∀ a digest, (a, digest) ∈ digests → a.compute body = digest) ∧
    ((Arrival.ofReceipts coming).broken = none → body.length ≤ (g.apply loaded).maximum →
      0 < (g.apply loaded).chunk →
        ((∃ clearance channel, verdict = .forward clearance channel) ↔
          (head.lines.Declares → head.lines.Honest body) ∧
            (¬ head.lines.Declares → (g.apply loaded).mode ≠ .require))) ∧
    (∀ before name value after, scope.lines = some (before ++ (name, value) :: after) →
      name ∈ before.map Prod.fst →
        (g.pass defaults env { scope with lines := some (before ++ after) }
          (.ofClient coming)).verdict = verdict) := by
  intro body verdict
  have hverdict : verdict = (passUnder (g.apply loaded) head (.ofClient coming)).verdict := by
    show (g.pass defaults env scope (.ofClient coming)).verdict = _
    rw [pass_of_load hload, hhead]
  refine ⟨?_, ?_, ?_⟩
  · intro clearance channel hv f before value after hlines hbefore digests hparse a digest hdigest
    have hvalue := FieldLines.first?_eq_some_iff.2 ⟨before, after, hlines, hbefore⟩
    exact passUnder_enforced (hverdict.symm.trans hv) hverb hmode hvalue hparse hdigest
  · intro hwhole hsize hchunk
    have hmaximum : 0 ≤ (g.apply loaded).maximum := Int.le_trans (Int.natCast_nonneg _) hsize
    have hpassed := passUnder_passed (Limits.make_of_pos hmaximum hchunk) head coming
    have hlet : ((head.lines.check body).verified ∨ (g.apply loaded).mode = .advisory) ↔
        head.lines.Honest body :=
      (or_iff_left hmode).trans FieldLines.verified_check_iff_honest
    rw [hverdict, hpassed.forward_iff hwhole ((Int.le_toNat hmaximum).2 hsize), hlet]
    exact ⟨fun h => h hverb, fun h _ => h⟩
  · intro before name value after hlines hname
    rw [pass_repeated g defaults env scope _ hlines hname]

def greeting : List Receipt :=
  [.message (.part [104] true), .message (.part [105] false)]

def greetingLines : FieldLines :=
  [("content-digest", "md5=:SfaKXIST7CwL9ImCHCH8Ow==:"), ("content-digest", "md5=:AA==:")]

theorem honest_greetingLines : greetingLines.Honest [104, 105] :=
  FieldLines.verified_check_iff_honest.1 (by decide +kernel)

theorem pass_enforced_greeting :
    (∃ clearance channel, (strictGate.pass plainDefaults []
      { postedScope with lines := some greetingLines } (.ofClient greeting)).verdict =
        .forward clearance channel) ∧
    ∀ clearance channel, (strictGate.pass plainDefaults [] postedScope
      (.ofClient greeting)).verdict ≠ .forward clearance channel := by
  constructor
  · have h := pass_enforced strictGate plainDefaults []
      { postedScope with lines := some greetingLines } greeting load_plain rfl (by decide)
      (by decide)
    exact (h.2.1 rfl (by decide) (by decide)).2
      ⟨fun _ => honest_greetingLines, fun _ => by decide⟩
  · intro clearance channel hv
    have h := pass_enforced strictGate plainDefaults [] postedScope greeting load_plain
      postedScope_head (by decide) (by decide)
    have hdigest : Algorithm.md5.compute [104, 105] = [0] :=
      h.1 clearance channel hv .contentDigest [] "md5=:AA==:" [] rfl List.not_mem_nil
        [(.md5, [0])] rfl .md5 [0] List.mem_cons_self
    exact Algorithm.compute_ne (by decide) _ hdigest

/-- A wrong digest in a second line of a field is not enforced. -/
theorem pass_unenforced_line :
    let v := (strictGate.pass plainDefaults [] { postedScope with lines := some greetingLines }
      (.ofClient greeting)).verdict
    (∃ clearance channel, v = .forward clearance channel) ∧
      (Arrival.ofReceipts greeting).broken = none ∧
      (Arrival.ofReceipts greeting).parts.flatten = [104, 105] ∧
      ∃ value digest, (IntegrityField.contentDigest.name, value) ∈ greetingLines ∧
        IntegrityField.contentDigest.parse value = .ok [(.md5, digest)] ∧
          Algorithm.md5.compute [104, 105] ≠ digest := by
  intro v
  have hpassed : Passed ⟨2, 4, ["POST"], .enforce⟩ ⟨2, 4, by decide⟩
      { postedHead with lines := greetingLines } greeting v :=
    passUnder_passed rfl _ greeting
  have hverified := FieldLines.verified_check_iff_honest.2 honest_greetingLines
  have hforward := (hpassed.forward_iff rfl (by decide)).2 fun _ =>
    ⟨fun _ => .inl hverified, fun _ => nofun⟩
  exact ⟨hforward, rfl, rfl, "md5=:AA==:", [0], by decide, rfl, Algorithm.compute_ne (by decide) _⟩

end Gate

end DigestGate
