import DigestGate.Proofs.Channel.Receiving
import DigestGate.Proofs.Gate.Keeping
import DigestGate.Service

namespace DigestGate

variable {body : Bytes} {coming : List Receipt} {clearance : Clearance} {channel : Channel}
  {content : Solo Reader} {scope : Scope} {env : Environment}

namespace Bytes

def lowerDigits : List Char :=
  "0123456789abcdef".toList

def lowerHex (b : Bytes) : String :=
  String.ofList (b.flatMap fun x =>
    [lowerDigits.getD (x.toNat / 16) '0', lowerDigits.getD (x.toNat % 16) '0'])

theorem digitChar_eq {n : Nat} (h : n < 16) : Nat.digitChar n = lowerDigits.getD n '0' := by
  have hdigits : ∀ n < 16, Nat.digitChar n = lowerDigits.getD n '0' := by decide
  exact hdigits n h

theorem toHex_eq (b : Bytes) : b.toHex = b.lowerHex := by
  have hbyte (x : UInt8) : Text.hexDigits 2 x.toNat =
      [lowerDigits.getD (x.toNat / 16) '0', lowerDigits.getD (x.toNat % 16) '0'] := by
    have hlt : x.toNat < 256 := x.toNat_lt_size
    rw [← digitChar_eq (Nat.div_lt_of_lt_mul hlt), ← digitChar_eq (Nat.mod_lt _ (by decide)),
      Text.hexDigits, Text.hexDigits, Text.hexDigits, Nat.mod_eq_of_lt (Nat.div_lt_of_lt_mul hlt)]
    rfl
  rw [toHex, lowerHex, funext hbyte]

end Bytes

namespace Message

variable {m : Message}

theorem type_of_isPart (h : m.isPart) : ¬ m.type.isNone := by
  rw [isPart, beq_iff_eq] at h
  rw [h]
  exact Bool.noConfusion

end Message

namespace Channel

variable {c left : Channel}

theorem Delivers.receiveBodyWithin (h : c.Delivers body left) (hc : c.Flows) {count : Nat}
    (hcount : c.supply < count) : Channel.receiveBodyWithin count c = (.ok body, left) := by
  induction h generalizing count with
  | last hreceive hpart hlast =>
    obtain ⟨count, rfl⟩ := Nat.exists_eq_add_one_of_ne_zero (Nat.ne_zero_of_lt hcount)
    rw [Channel.receiveBodyWithin, hreceive]
    simp only
    rw [if_neg (Message.type_of_isPart hpart),
      if_neg fun hd => Message.not_isPart_of_isDisconnect hd hpart, if_pos (by simp [hpart, hlast])]
  | more hreceive hpart hmore _ ih =>
    obtain ⟨count, rfl⟩ := Nat.exists_eq_add_one_of_ne_zero (Nat.ne_zero_of_lt hcount)
    have hd : ¬ Message.isDisconnect _ := fun hd => Message.not_isPart_of_isDisconnect hd hpart
    have hnext := (supply_receive hc hreceive).resolve_left hd
    rw [Channel.receiveBodyWithin, hreceive]
    simp only
    rw [if_neg (Message.type_of_isPart hpart), if_neg hd, if_neg (by simp [hmore]),
      ih (hc.receive hreceive) (Nat.lt_of_lt_of_le hnext (Nat.le_of_lt_succ hcount))]
    simp only [if_pos hpart]

theorem Delivers.receiveBody_eq (h : c.Delivers body left) (hc : c.Flows) :
    c.receiveBody = (.ok body, left) :=
  h.receiveBodyWithin hc (Nat.lt_succ_self _)

end Channel

/-- The responses are equal but for the member `check`. -/
def Response.DifferInCheck (r r' : Response) : Prop :=
  ∃ (members : List (String × Datum)) (check check' : Datum),
    r = .json 200 (.record (members ++ [("check", check)])) ∧
      r' = .json 200 (.record (members ++ [("check", check')]))

def Clearance.check : Clearance → Check
  | .unexamined => .unchecked
  | .undeclared check => check
  | .checked check _ => check

structure Scope.Asks (scope : Scope) (page : Page) : Prop where
  type_eq : scope.type = some (.text "http")
  method_eq : scope.method = some (.text page.method)
  sought : ∃ sought path, scope.sought = .ok (sought, path) ∧
    Page.leadsTo sought page.path.toList
  query : scope.query.isSome
  lines : scope.lines.isSome

theorem Page.ofPath?_of_leadsTo {page : Page} {sought : List Char}
    (h : leadsTo sought page.path.toList) : ofPath? sought = some page := by
  rw [leadsTo, Bool.or_eq_true, decide_eq_true_iff, decide_eq_true_iff] at h
  rcases h with rfl | rfl <;> cases page <;> decide

namespace Service

variable {s : Service} {gated : Bool} {metrics : Metrics}

/-- The response to an echoed body. -/
def echoed (body : Bytes) (check : Check) : Response :=
  .json 200 (.record [
    ("length", .number body.length),
    ("digests", .record (Algorithm.all.map fun a =>
      (a.name, if body = [] then .null else .text (a.compute body).lowerHex))),
    ("check", showCheck check)])

theorem echoed_differ (body : Bytes) (check check' : Check) :
    (echoed body check).DifferInCheck (echoed body check') :=
  ⟨[_, _], _, _, rfl, rfl⟩

theorem echoOf_digestsOf (body : Bytes) (check : Check) :
    echoOf body.length (digestsOf body) check = echoed body check := by
  cases body with
  | nil => rfl
  | cons b bs =>
    simp only [echoOf, digestsOf, echoed, List.map_map, Function.comp_def, List.isEmpty_cons,
      Bool.false_eq_true, reduceCtorEq, if_false, Bytes.toHex_eq]

theorem digestsOfContent_eq {seen : List Algorithm} (hs : content.request.Holds body)
    (hc : content.request.cache.Covers body seen) (algorithms : List Algorithm) :
    (digestsOfContent algorithms content).1 =
      .ok (algorithms.map fun a => (a, if body.isEmpty then none else some (a.compute body))) := by
  induction algorithms generalizing content seen with
  | nil => rfl
  | cons a rest ih =>
    have hdigest := Solo.digest_covers hs hc a
    have hrest := ih (Solo.holds_digest hs a) (Solo.covers_digest hs hc a)
    rw [digestsOfContent]
    generalize Solo.host.digest a content = outcome at hdigest hrest ⊢
    obtain ⟨_, content'⟩ := outcome
    cases hdigest
    simp only at hrest ⊢
    generalize digestsOfContent rest content' = outcome at hrest ⊢
    obtain ⟨_, content''⟩ := outcome
    cases hrest
    simp only [List.map_cons, List.isEmpty_iff]

theorem echo_eq {left : Channel} (hreceive : channel.receiveBody = (.ok body, left))
    (hkeeps : clearance.Keeps body) (gated : Bool) :
    (echo gated clearance channel).1 = .ok (echoed body clearance.check) := by
  rw [echo, hreceive]
  cases clearance with
  | unexamined => exact congrArg Except.ok (echoOf_digestsOf body _)
  | undeclared check => exact congrArg Except.ok (echoOf_digestsOf body _)
  | checked check content =>
    have hholds : Request.Holds { content with log := [] : Solo Reader }.request body := hkeeps.1
    have hdigests := digestsOfContent_eq hholds hkeeps.2 Algorithm.all
    simp only
    generalize digestsOfContent Algorithm.all _ = outcome at hdigests ⊢
    obtain ⟨_, content'⟩ := outcome
    cases hdigests
    exact congrArg Except.ok (echoOf_digestsOf body _)

theorem route_echo (h : scope.Asks .echo) :
    route gated metrics scope clearance channel = echo gated clearance channel := by
  obtain ⟨sought, path, hsought, hleads⟩ := h.sought
  obtain ⟨query, hquery⟩ := Option.isSome_iff_exists.1 h.query
  obtain ⟨lines, hlines⟩ := Option.isSome_iff_exists.1 h.lines
  have hmethod : scope.soughtMethod = .ok (.text Page.echo.method) := by
    rw [Scope.soughtMethod, h.method_eq]
    rfl
  have hheader : scope.header = .ok lines := by rw [Scope.header, hlines]
  simp only [route, hsought, Page.ofPath?_of_leadsTo hleads, hmethod, if_true, answerWith, hquery,
    hheader]
  rfl

def verdict (s : Service) (env : Environment) (scope : Scope) (channel : Channel) : Verdict :=
  if s.defaults.enabled then (({} : Gate).pass s.defaults env scope channel).verdict
  else .forward .unexamined channel

theorem serve_eq (h : scope.Asks .echo) :
    (s.serve env scope channel).1.outcome =
      match s.verdict env scope channel with
      | .forward clearance channel => (echo s.defaults.enabled clearance channel).1
      | .reject response _ => .ok response
      | .fail e _ => .error (.failure e) := by
  have hrequest : scope.requireRequest = .ok () := by
    rw [Scope.requireRequest, h.type_eq]
    rfl
  rw [serve, hrequest]
  simp only [respond, verdict, route_echo h]
  cases s.defaults.enabled with
  | false => rfl
  | true =>
    simp only [if_true]
    cases (({} : Gate).pass s.defaults env scope channel).verdict <;> rfl

theorem verdict_onward (h : s.verdict env scope (.ofClient coming) = .forward clearance channel) :
    Gate.Onward coming clearance channel ∧
      clearance.Keeps (Arrival.ofReceipts coming).parts.flatten := by
  rw [verdict] at h
  by_cases henabled : s.defaults.enabled = true
  · rw [if_pos henabled] at h
    exact ⟨Gate.pass_onward h, Gate.pass_keeps h⟩
  · rw [if_neg henabled] at h
    cases h
    exact ⟨.unexamined, True.intro⟩

/-- The echo reports the length and the digests of the body. -/
theorem echo_of_onward (h : Gate.Onward coming clearance channel)
    (hkeeps : clearance.Keeps (Arrival.ofReceipts coming).parts.flatten)
    (hwhole : (Arrival.ofReceipts coming).broken = none) (gated : Bool) :
    (echo gated clearance channel).1 =
      .ok (echoed (Arrival.ofReceipts coming).parts.flatten clearance.check) := by
  obtain ⟨left, hdelivers, -⟩ := h.conveys hwhole
  exact echo_eq (hdelivers.receiveBody_eq h.flows) hkeeps gated

theorem serve_of_forward (hasks : scope.Asks .echo)
    (hwhole : (Arrival.ofReceipts coming).broken = none)
    (h : s.verdict env scope (.ofClient coming) = .forward clearance channel) :
    (s.serve env scope (.ofClient coming)).1.outcome =
      .ok (echoed (Arrival.ofReceipts coming).parts.flatten clearance.check) := by
  obtain ⟨honward, hkeeps⟩ := verdict_onward h
  rw [serve_eq hasks, h]
  exact echo_of_onward honward hkeeps hwhole _

/-- The length and the digests echoed do not depend on the check or on the settings. -/
theorem serve_echo (s : Service) (env : Environment) (scope : Scope) (coming : List Receipt)
    (hasks : scope.Asks .echo) (hwhole : (Arrival.ofReceipts coming).broken = none) :
    let body := (Arrival.ofReceipts coming).parts.flatten
    let outcome (s : Service) (env : Environment) (scope : Scope) (coming : List Receipt) :=
      (s.serve env scope (.ofClient coming)).1.outcome
    (match s.verdict env scope (.ofClient coming) with
      | .forward clearance _ => outcome s env scope coming = .ok (echoed body clearance.check)
      | .reject response _ => outcome s env scope coming = .ok response
      | .fail e _ => outcome s env scope coming = .error (.failure e) ∧
          s.defaults.enabled ∧ ¬ Gate.Ready {} s.defaults env scope) ∧
    (∀ (g : Gate) (defaults : Defaults) (metrics : Metrics),
      match (g.pass defaults env scope (.ofClient coming)).verdict with
      | .forward clearance channel =>
        (route true metrics scope clearance channel).1 = .ok (echoed body clearance.check)
      | .reject _ _ => True
      | .fail _ _ => ¬ g.Ready defaults env scope) ∧
    (∀ (s' : Service) (env' : Environment) (scope' : Scope) (coming' : List Receipt),
      scope'.Asks .echo → (Arrival.ofReceipts coming').broken = none →
      (Arrival.ofReceipts coming').parts.flatten = body →
      (s.verdict env scope (.ofClient coming)).Forwards →
      (s'.verdict env' scope' (.ofClient coming')).Forwards →
        ∃ r r', outcome s env scope coming = .ok r ∧ outcome s' env' scope' coming' = .ok r' ∧
          r.DifferInCheck r') := by
  intro body outcome
  refine ⟨?_, fun g defaults metrics => ?_, ?_⟩
  · cases hv : s.verdict env scope (.ofClient coming) with
    | forward clearance channel => exact serve_of_forward hasks hwhole hv
    | reject response left =>
      show (s.serve env scope (.ofClient coming)).1.outcome = .ok response
      rw [serve_eq hasks, hv]
    | fail e left =>
      have houtcome : outcome s env scope coming = .error (.failure e) := by
        show (s.serve env scope (.ofClient coming)).1.outcome = .error (.failure e)
        rw [serve_eq hasks, hv]
      rw [verdict] at hv
      by_cases henabled : s.defaults.enabled = true
      · rw [if_pos henabled] at hv
        exact ⟨houtcome, henabled, fun hready => Gate.pass_ne_fail hready hwhole e left hv⟩
      · rw [if_neg henabled] at hv
        cases hv
  · cases hv : (g.pass defaults env scope (.ofClient coming)).verdict with
    | forward clearance channel =>
      show (route true metrics scope clearance channel).1 = .ok (echoed body clearance.check)
      rw [route_echo hasks]
      exact echo_of_onward (Gate.pass_onward hv) (Gate.pass_keeps hv) hwhole true
    | reject _ _ => trivial
    | fail e left => exact fun hready => Gate.pass_ne_fail hready hwhole e left hv
  · rintro s' env' scope' coming' hasks' hwhole' hbody ⟨clearance, _, hv⟩ ⟨clearance', _, hv'⟩
    have houtcome' : outcome s' env' scope' coming' = .ok (echoed body clearance'.check) :=
      hbody ▸ serve_of_forward hasks' hwhole' hv'
    exact ⟨_, _, serve_of_forward hasks hwhole hv, houtcome', echoed_differ body _ _⟩

theorem serve_echo_misdeclared :
    let s : Service := { defaults := Gate.plainDefaults }
    let scope := { Gate.postedScope with
      method := some (.text "POST"), path := some (.text "/digest/echo"), query := some "" }
    let coming : List Receipt := [.message (.part [1] true), .message (.part [2] false)]
    ∃ check, (s.serve [] scope (.ofClient coming)).1.outcome = .ok (echoed [1, 2] check) := by
  intro s scope coming
  have hasks : scope.Asks .echo := ⟨rfl, rfl, ⟨_, _, rfl, by decide⟩, rfl, rfl⟩
  have hhead : scope.head = .ok { Gate.postedHead with route := "/digest/echo" } := rfl
  have hforwards : (s.verdict [] scope (.ofClient coming)).Forwards :=
    Gate.pass_forwards (g := {}) Gate.load_plain hhead rfl rfl (by decide) (by decide)
  obtain ⟨clearance, channel, hv⟩ := hforwards
  have h := (serve_echo s [] scope coming hasks rfl).1
  rw [hv] at h
  exact ⟨clearance.check, h⟩

end Service

end DigestGate
