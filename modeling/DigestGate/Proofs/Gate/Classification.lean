import DigestGate.Proofs.Gate.Examination

namespace DigestGate

inductive Exit where
  | unexamined
  | required
  | undeclared
  | tooLarge
  | unreadable
  | mismatch
  | checked
  | raised
deriving DecidableEq, Repr

def Verdict.exit : Verdict → Exit
  | .forward .unexamined _ => .unexamined
  | .forward (.undeclared _) _ => .undeclared
  | .forward (.checked _ _) _ => .checked
  | .reject response _ =>
    if response.status = 413 then .tooLarge
    else if response.status = 500 then .unreadable
    else if response = Gate.digestRequired then .required
    else .mismatch
  | .fail _ _ => .raised

def FieldLines.Declares (lines : FieldLines) : Prop :=
  ∃ (f : IntegrityField) (value : String), lines.first? f.name = some value ∧ value ≠ ""

theorem FieldLines.hasIntegrity_iff {lines : FieldLines} : lines.hasIntegrity ↔ lines.Declares := by
  rw [hasIntegrity, List.any_eq_true]
  refine ⟨fun ⟨f, _, hf⟩ => ?_, fun ⟨f, value, hvalue, hne⟩ => ⟨f, by cases f <;> decide, ?_⟩⟩
  · obtain ⟨value, hvalue⟩ := Option.isSome_iff_exists.1 hf
    obtain ⟨hfirst, hne⟩ := Option.filter_eq_some_iff.1 hvalue
    exact ⟨f, value, hfirst, by simpa using hne⟩
  · rw [IntegrityField.value?, hvalue, Option.filter_some, if_pos (by simpa using hne)]
    rfl

namespace Gate

variable {settings : Settings} {limits : Limits} {lines : FieldLines} {mode : Mode}
  {coming : List Receipt} {v : Verdict}

theorem mismatch_ne_digestRequired (reason : Option Reason) :
    mismatch reason ≠ digestRequired := by
  rcases reason with _ | _ | _ | f | _ | f
  · decide
  · decide
  · decide
  · cases f <;> decide
  · decide
  · cases f <;> decide

theorem exit_mismatch (reason : Option Reason) (channel : Channel) :
    (Verdict.reject (mismatch reason) channel).exit = .mismatch := by
  have hstatus : (mismatch reason).status = 400 := rfl
  simp [Verdict.exit, hstatus, mismatch_ne_digestRequired]

theorem exit_digestRequired (channel : Channel) :
    (Verdict.reject digestRequired channel).exit = .required := by
  simp [Verdict.exit, digestRequired, Response.json]

theorem Checked.exit_eq {body : Bytes} {check : Check} {left : Channel}
    (h : Checked mode limits body check left v) :
    v.exit = if check.verified ∨ mode = .advisory then .checked else .mismatch := by
  rw [Checked] at h
  by_cases hlet : check.verified ∨ mode = .advisory
  · rw [if_pos hlet] at h ⊢
    obtain ⟨content, _, rfl⟩ := h
    rfl
  · rw [if_neg hlet] at h ⊢
    rw [h, exit_mismatch]

theorem Examined.exit_eq (h : Examined mode limits lines coming v)
    (hbroken : ∀ error, (Arrival.ofReceipts coming).broken ≠ some (.body error)) :
    let a := Arrival.ofReceipts coming
    v.exit =
      if limits.maximum < a.total then .tooLarge
      else match a.broken with
        | some (.fault _) => .unreadable
        | some _ => .raised
        | none =>
          if (lines.check a.parts.flatten).verified ∨ mode = .advisory then .checked
          else .mismatch := by
  intro a
  rw [Examined] at h
  by_cases htotal : limits.maximum < a.total
  · rw [if_pos htotal] at h ⊢
    obtain ⟨k, _, rfl⟩ := h
    rfl
  · rw [if_neg htotal] at h ⊢
    cases hb : a.broken with
    | none =>
      rw [hb] at h
      exact h.exit_eq
    | some e =>
      rw [hb] at h
      cases e with
      | fault _ => exact congrArg Verdict.exit h
      | interrupted _ => exact congrArg Verdict.exit h
      | body error => exact absurd hb (hbroken error)

/-- The verdict on a request, by its method, its header and the arrival of its body. -/
structure Passed (settings : Settings) (limits : Limits) (head : Head) (coming : List Receipt)
    (v : Verdict) : Prop where
  unexamined : head.verb ∉ settings.methods → v = .forward .unexamined (.ofClient coming)
  undeclared : head.verb ∈ settings.methods → ¬ head.lines.Declares →
    v = if settings.mode = .require then .reject digestRequired (.ofClient coming)
      else .forward (.undeclared .missing) (.ofClient coming)
  examined : head.verb ∈ settings.methods → head.lines.Declares →
    Examined settings.mode limits head.lines coming v

/-- The condition for each exit. -/
structure Classified (settings : Settings) (limits : Limits) (head : Head) (a : Arrival)
    (exit : Exit) : Prop where
  unexamined : exit = .unexamined ↔ head.verb ∉ settings.methods
  required : exit = .required ↔
    head.verb ∈ settings.methods ∧ ¬ head.lines.Declares ∧ settings.mode = .require
  undeclared : exit = .undeclared ↔
    head.verb ∈ settings.methods ∧ ¬ head.lines.Declares ∧ settings.mode ≠ .require
  tooLarge : exit = .tooLarge ↔
    head.verb ∈ settings.methods ∧ head.lines.Declares ∧ limits.maximum < a.total
  unreadable : exit = .unreadable ↔
    head.verb ∈ settings.methods ∧ head.lines.Declares ∧ a.total ≤ limits.maximum ∧
      ∃ cause, a.broken = some (.fault cause)
  mismatch : exit = .mismatch ↔
    head.verb ∈ settings.methods ∧ head.lines.Declares ∧ a.total ≤ limits.maximum ∧
      a.broken = none ∧ ¬ (head.lines.check a.parts.flatten).verified ∧ settings.mode ≠ .advisory
  checked : exit = .checked ↔
    head.verb ∈ settings.methods ∧ head.lines.Declares ∧ a.total ≤ limits.maximum ∧
      a.broken = none ∧ ((head.lines.check a.parts.flatten).verified ∨ settings.mode = .advisory)

theorem Passed.classified {head : Head} (h : Passed settings limits head coming v)
    (hbroken : ∀ error, (Arrival.ofReceipts coming).broken ≠ some (.body error)) :
    Classified settings limits head (Arrival.ofReceipts coming) v.exit := by
  by_cases hverb : head.verb ∈ settings.methods
  · by_cases hdeclares : head.lines.Declares
    · have hexit := (h.examined hverb hdeclares).exit_eq hbroken
      simp only at hexit
      constructor <;> rw [hexit] <;> grind
    · have hexit := congrArg Verdict.exit (h.undeclared hverb hdeclares)
      by_cases hmode : settings.mode = .require
      · rw [if_pos hmode, exit_digestRequired] at hexit
        constructor <;> rw [hexit] <;> simp [hverb, hdeclares, hmode]
      · rw [if_neg hmode] at hexit
        have hexit' : v.exit = .undeclared := hexit
        constructor <;> rw [hexit'] <;> simp [hverb, hdeclares, hmode]
  · have hexit : v.exit = .unexamined := congrArg Verdict.exit (h.unexamined hverb)
    constructor <;> rw [hexit] <;> simp [hverb]

theorem passUnder_passed (hlimits : Limits.make settings.maximum settings.chunk = .ok limits)
    (head : Head) (coming : List Receipt) :
    Passed settings limits head coming (passUnder settings head (.ofClient coming)).verdict where
  unexamined hverb := by rw [passUnder, if_pos hverb]
  undeclared hverb hdeclares := by
    rw [← FieldLines.hasIntegrity_iff] at hdeclares
    rw [passUnder, if_neg (not_not_intro hverb), if_neg hdeclares]
    by_cases hmode : settings.mode = .require
    · rw [if_pos hmode, if_pos hmode]
    · rw [if_neg hmode, if_neg hmode]
  examined hverb hdeclares := by
    rw [passUnder, if_neg (not_not_intro hverb), if_pos (FieldLines.hasIntegrity_iff.2 hdeclares)]
    exact examine_examined hlimits head coming

/-- The verdict and the exit of every request whose scope is readable. -/
theorem pass_classified (g : Gate) (defaults : Defaults) (env : Environment) (scope : Scope)
    (coming : List Receipt) {loaded : Settings} (hload : Settings.load defaults env = .ok loaded)
    (hmaximum : 0 ≤ (g.apply loaded).maximum) (hchunk : 0 < (g.apply loaded).chunk) :
    let settings := g.apply loaded
    let limits : Limits :=
      ⟨settings.maximum.toNat, settings.chunk.toNat, Int.pos_iff_toNat_pos.1 hchunk⟩
    let v := (g.pass defaults env scope (.ofClient coming)).verdict
    match scope.head with
    | .error e => v = .fail (.fault e) (.ofClient coming)
    | .ok head =>
      Passed settings limits head coming v ∧
        ((∀ error, (Arrival.ofReceipts coming).broken ≠ some (.body error)) →
          Classified settings limits head (Arrival.ofReceipts coming) v.exit) := by
  intro settings limits v
  have hlimits : Limits.make settings.maximum settings.chunk = .ok limits :=
    Limits.make_of_pos hmaximum hchunk
  have hv : v = (g.pass defaults env scope (.ofClient coming)).verdict := rfl
  rw [pass, hload] at hv
  cases hhead : scope.head with
  | error e =>
    rw [hhead] at hv
    exact hv
  | ok head =>
    rw [hhead] at hv
    have hpassed : Passed settings limits head coming v := by
      rw [hv]
      exact passUnder_passed hlimits head coming
    exact ⟨hpassed, hpassed.classified⟩

def postedScope : Scope where
  type := some (.text "http")
  method := some (.text "post")
  path := some (.text "/upload")
  root := .text ""
  query := none
  scheme := .text "http"
  lines := some [("content-digest", "md5=:AA==:")]
  client := .null
  server := .null

def strictGate : Gate where
  maximum := some 2
  methods := some ["POST"]
  mode := some .enforce
  chunk := some 4

def plainDefaults : Defaults where
  maximum := 1048576
  chunk := 4096
  methods := ["POST", "PUT", "PATCH"]
  mode := "advisory"
  enabled := true

def plainSettings : Settings where
  maximum := 1048576
  chunk := 4096
  methods := ["POST", "PUT", "PATCH"]
  mode := .advisory

theorem load_plain : Settings.load plainDefaults [] = .ok plainSettings := rfl

def postedHead : Head :=
  { route := "/upload", verb := "POST", lines := [("content-digest", "md5=:AA==:")] }

theorem postedScope_head : postedScope.head = .ok postedHead := rfl

theorem postedHead_declares : postedHead.lines.Declares :=
  ⟨.contentDigest, "md5=:AA==:", rfl, by decide⟩

theorem pass_classified_oversized :
    (strictGate.pass plainDefaults [] postedScope
      (.ofClient [.message (.part [1, 2] true), .message (.part [3] false)])).verdict.exit =
        .tooLarge := by
  have h := pass_classified strictGate plainDefaults [] postedScope
    [.message (.part [1, 2] true), .message (.part [3] false)]
    load_plain (by decide) (by decide)
  rw [postedScope_head] at h
  exact (h.2 nofun).tooLarge.2 ⟨by decide, postedHead_declares, by decide⟩

/-- A body error raised by the client makes the gate fail within the limit. -/
theorem pass_refused :
    let coming : List Receipt := [.failure (.body (.refused "x"))]
    let v := (strictGate.pass plainDefaults [] postedScope (.ofClient coming)).verdict
    (Arrival.ofReceipts coming).total ≤ 2 ∧ (Arrival.ofReceipts coming).broken ≠ none ∧
      v = .fail (.body (.refused "x")) (.client [] 1) ∧ v.exit ≠ .unreadable := by
  intro coming v
  have hpassed : Passed ⟨2, 4, ["POST"], .enforce⟩ ⟨2, 4, by decide⟩ postedHead coming v :=
    passUnder_passed rfl postedHead coming
  have hv : v = .fail (.body (.refused "x")) (.client [] 1) :=
    hpassed.examined (by decide) postedHead_declares
  exact ⟨by decide, nofun, hv, by rw [hv]; decide⟩

end Gate

end DigestGate
