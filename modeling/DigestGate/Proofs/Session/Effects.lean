import DigestGate.Proofs.Session.Confinement
import DigestGate.Proofs.Session.Wholeness

namespace DigestGate

namespace Session

variable {ρ : Type} {s s' : Session ρ} {k : Nat} {feed : Feed} {outcome : Except Failure Answer}

/-- Request `k` opens its own feed, or a new stream over its body. -/
inductive Opens (k : Nat) (s : Session ρ) : Feed → Session ρ → Prop where
  | source {feed : Feed} : (s.layers.map Layer.feed)[k]? = some feed →
      (s.request k).phase = .fresh ∨ (s.request k).phase = .handedOut →
      Opens k s feed ((bare k).setPhase .handedOut s)
  | replay {body : Bytes} : (s.request k).phase = .buffered body →
      Opens k s (.replay s.table.streams.length) (s.addStream ((s.request k).replay body))

def addHandle (feed : Feed) (s : Session ρ) : Session ρ :=
  { s with handles := s.handles ++ [feed] }

def addLayer (limits : Limits) (feed : Feed) (under : Nat) (s : Session ρ) : Session ρ :=
  { s with layers := s.layers ++ [{ request := { limits }, feed, under := some under }] }

/-- The session is valid, and every stream that it refers to exists. -/
structure Sound (s : Session ρ) : Prop where
  base_eq : (s.layers.map Layer.feed)[0]? = some .client
  valid : s.Valid
  feed_lt : ∀ i, .replay i ∈ s.layers.map Layer.feed → i < s.table.streams.length
  handle_lt : ∀ i, .replay i ∈ s.handles → i < s.table.streams.length
  walk_lt : ∀ w ∈ s.table.walks, w.1 < s.table.streams.length

theorem Sound.within (h : s.Sound) (hs' : Within k feed s s') : s'.Sound where
  base_eq := by
    rw [hs'.stays.feeds_eq]
    exact h.base_eq
  valid := hs'.valid
  feed_lt := by
    rw [hs'.stays.feeds_eq, hs'.stays.streams_length]
    exact h.feed_lt
  handle_lt := by
    rw [hs'.stays.handles_eq, hs'.stays.streams_length]
    exact h.handle_lt
  walk_lt := by
    rw [hs'.stays.walks_eq, hs'.stays.streams_length]
    exact h.walk_lt

theorem Sound.within_source (h : s.Sound)
    (hs' : ∀ P : Session ρ → Prop, (bare 0).Keeps P → (∀ s source, P s → P { s with source }) →
      P s → P s') : Within 0 .client s s' :=
  hs' _ (equipped_keeps (fun h _ => h) (fun h => h) (.inl rfl))
    (fun _ source hs => hs.putSource rfl source) (within_self h.valid h.base_eq)

theorem length_addStream (stream : BodyStream) (s : Session ρ) :
    (s.addStream stream).table.streams.length = s.table.streams.length + 1 :=
  List.length_append

theorem Sound.addStream (h : s.Sound) (stream : BodyStream) : (s.addStream stream).Sound where
  base_eq := h.base_eq
  valid := h.valid
  feed_lt i hi := by
    rw [length_addStream]
    exact Nat.lt_succ_of_lt (h.feed_lt i hi)
  handle_lt i hi := by
    rw [length_addStream]
    exact Nat.lt_succ_of_lt (h.handle_lt i hi)
  walk_lt w hw := by
    rw [length_addStream]
    exact Nat.lt_succ_of_lt (h.walk_lt w hw)

theorem Sound.addHandle (h : s.Sound) (hfeed : ∀ i, feed = .replay i → i < s.table.streams.length) :
    (s.addHandle feed).Sound where
  base_eq := h.base_eq
  valid := h.valid
  feed_lt := h.feed_lt
  handle_lt i hi := by
    obtain hi | hi := List.mem_append.1 hi
    · exact h.handle_lt i hi
    · exact hfeed i (List.mem_singleton.1 hi).symm
  walk_lt := h.walk_lt

theorem request_addLayer (limits : Limits) (feed : Feed) (under : Nat) (s : Session ρ) (m : Nat) :
    (s.addLayer limits feed under).request m = s.request m ∨
      m = s.layers.length ∧ (s.addLayer limits feed under).request m = { limits } := by
  obtain hlt | heq | hgt := Nat.lt_trichotomy m s.layers.length
  · exact .inl (request_congr (List.getElem?_append_left hlt))
  · subst heq
    refine .inr ⟨rfl, ?_⟩
    rw [request, addLayer, List.getElem?_concat_length]
  · apply Or.inl
    apply request_congr
    rw [List.getElem?_eq_none (Nat.le_of_lt hgt), List.getElem?_eq_none]
    rw [addLayer, List.length_append]
    exact hgt

theorem Sound.addLayer (h : s.Sound) (limits : Limits) (under : Nat)
    (hfeed : ∀ i, feed = .replay i → i < s.table.streams.length) :
    (s.addLayer limits feed under).Sound where
  base_eq := by
    have hbase := h.base_eq
    have hlt := (List.getElem?_eq_some_iff.1 hbase).1
    rw [Session.addLayer, List.map_append, List.getElem?_append_left hlt, hbase]
  valid m := by
    obtain heq | ⟨-, heq⟩ := request_addLayer limits feed under s m
    · rw [heq]
      exact h.valid m
    · rw [heq]
      exact Request.valid_start limits
  feed_lt i hi := by
    rw [Session.addLayer, List.map_append] at hi
    obtain hi | hi := List.mem_append.1 hi
    · exact h.feed_lt i hi
    · exact hfeed i (List.mem_singleton.1 hi).symm
  handle_lt := h.handle_lt
  walk_lt := h.walk_lt

theorem Sound.setTable (h : s.Sound) {i : Nat} {call : StreamCall} {table : StreamTable}
    {answer : Except Failure StreamAnswer}
    (hperform : s.table.perform i call = some (answer, table)) :
    Sound { s with table } where
  base_eq := h.base_eq
  valid := h.valid
  feed_lt := by
    rw [StreamTable.length_perform hperform]
    exact h.feed_lt
  handle_lt := by
    rw [StreamTable.length_perform hperform]
    exact h.handle_lt
  walk_lt := StreamTable.walk_lt_perform hperform h.walk_lt

theorem Opens.length_layers (h : Opens k s feed s') : s'.layers.length = s.layers.length := by
  cases h with
  | source => exact List.length_modify _ _ _
  | replay => rfl

theorem Opens.streams_le (h : Opens k s feed s') :
    s.table.streams.length ≤ s'.table.streams.length := by
  cases h with
  | source => exact Nat.le_refl _
  | replay =>
    rw [length_addStream]
    exact Nat.le_succ _

theorem sound_start (client : Client) (source : ρ) (limits : Limits) :
    (start client source limits).Sound where
  base_eq := rfl
  valid m := by
    cases m with
    | zero => exact Request.valid_start limits
    | succ m => exact Request.valid_start _
  feed_lt i hi := by cases List.mem_singleton.1 hi
  handle_lt i hi := absurd hi List.not_mem_nil
  walk_lt w hw := absurd hw List.not_mem_nil

variable [ClientSource ρ]

/-- The effect of a step on a session. -/
inductive Changes (s : Session ρ) : Step → Session ρ → Prop where
  | operate {k : Nat} {feed : Feed} {call : Call} {s' : Session ρ} :
      (s.layers.map Layer.feed)[k]? = some feed →
      (∀ P : Session ρ → Prop, (host k).Keeps P → P s → P s') → Changes s (.request k call) s'
  | handOut {k : Nat} {feed : Feed} {s' : Session ρ} :
      Opens k s feed s' → Changes s (.request k .openStream) (s'.addHandle feed)
  | unwrapped {k : Nat} {feed : Feed} {maximum chunk : Int} {s' : Session ρ} :
      Opens k s feed s' → Changes s (.request k (.wrap maximum chunk)) s'
  | wrap {k : Nat} {feed : Feed} {maximum chunk : Int} {limits : Limits} {s' : Session ρ} :
      Opens k s feed s' → Limits.make maximum chunk = .ok limits →
      Changes s (.request k (.wrap maximum chunk)) (s'.addLayer limits feed k)
  | source {handle : Nat} {call : StreamCall} {s' : Session ρ} :
      s.handles[handle]? = some .client →
      (∀ P : Session ρ → Prop, (bare 0).Keeps P → (∀ s source, P s → P { s with source }) →
        P s → P s') → Changes s (.stream handle call) s'
  | stream {handle i : Nat} {feed : Feed} {call : StreamCall}
      {answer : Except Failure StreamAnswer} {table : StreamTable} :
      s.handles[handle]? = some feed →
      (feed = .replay i ∨ feed = .client ∧ ∃ w ∈ s.table.walks, w.1 = i) →
      s.table.perform i call = some (answer, table) →
      Changes s (.stream handle call) { s with table }

theorem openFeed_handedOut (hp : (s.request k).phase = .handedOut) :
    s.openFeed k =
      (.ok (((bare k).setPhase .handedOut s).feed k), (bare k).setPhase .handedOut s) := by
  have hopen : (host k).openBody s = (.ok .source, (bare k).setPhase .handedOut s) := by
    rw [Host.openBody, show ((host k).request s).phase = .handedOut from hp]
    rfl
  rw [openFeed, hopen]

/-- Inversion of `openFeed`. -/
theorem openFeed_cases (hk : (s.layers.map Layer.feed)[k]? = some feed) :
    (∃ e, s.openFeed k = (.error e, s)) ∨
      ∃ feed s', s.openFeed k = (.ok feed, s') ∧ Opens k s feed s' := by
  have hfeed : ((bare k).setPhase .handedOut s).feed k = feed :=
    feed_of_feeds (by rw [← hk]; exact congrArg (·[k]?) (feeds_setRequest _ s))
  cases hp : (s.request k).phase with
  | fresh =>
    rw [openFeed_fresh hp, hfeed]
    exact .inr ⟨feed, _, rfl, .source hk (.inl hp)⟩
  | handedOut =>
    rw [openFeed_handedOut hp, hfeed]
    exact .inr ⟨feed, _, rfl, .source hk (.inr hp)⟩
  | buffering =>
    have hwithholds : (s.request k).phase.Withholds .alreadyBuffering .stillBuffering :=
      hp ▸ .buffering
    exact .inl ⟨_, openFeed_refused hwithholds⟩
  | buffered body => exact .inr ⟨_, _, openFeed_buffered hp, .replay hp⟩
  | failed e =>
    have hwithholds : (s.request k).phase.Withholds e e := hp ▸ .failed e
    exact .inl ⟨_, openFeed_refused hwithholds⟩

theorem changes_openStream (hk : (s.layers.map Layer.feed)[k]? = some feed) :
    Changes s (.request k .openStream) (s.openStream k).2 := by
  obtain ⟨e, hopen⟩ | ⟨opened, s', hopen, hopens⟩ := openFeed_cases hk
  · rw [openStream, hopen]
    exact .operate hk fun P _ hs => hs
  · rw [openStream, hopen]
    exact .handOut hopens

theorem changes_wrap (hk : (s.layers.map Layer.feed)[k]? = some feed) (maximum chunk : Int) :
    Changes s (.request k (.wrap maximum chunk)) (s.wrap k maximum chunk).2 := by
  obtain ⟨e, hopen⟩ | ⟨opened, s', hopen, hopens⟩ := openFeed_cases hk
  · rw [wrap, hopen]
    exact .operate hk fun P _ hs => hs
  · rw [wrap, hopen]
    cases hlimits : Limits.make maximum chunk with
    | error e => exact .unwrapped hopens
    | ok limits => exact .wrap hopens hlimits

theorem changes_call {layer : Layer} (hlayer : s.layers[k]? = some layer) (call : Call) :
    Changes s (.request k call) (s.call k layer call).2 := by
  have hk := feeds_of_layer hlayer
  cases call with
  | ensure =>
    rw [Session.call, answer_snd]
    exact .operate hk fun P hkeeps hs => hkeeps.ensure hs
  | digestNamed name =>
    rw [Session.call, answer_snd]
    exact .operate hk fun P hkeeps hs => hkeeps.digestNamed name hs
  | digest a =>
    rw [Session.call, answer_snd]
    exact .operate hk fun P hkeeps hs => hkeeps.digest a hs
  | verify =>
    rw [Session.call]
    cases s.headers k with
    | error e => exact .operate hk fun P _ hs => hs
    | ok lines =>
      simp only [answer_snd]
      exact .operate hk fun P hkeeps hs => hkeeps.verify lines hs
  | openStream =>
    rw [Session.call, answer_snd]
    exact changes_openStream hk
  | wrap maximum chunk =>
    rw [Session.call, answer_snd]
    exact changes_wrap hk maximum chunk
  | lookUpBare name =>
    rw [Session.call]
    cases Layer.members.lookup name <;> exact .operate hk fun P _ hs => hs
  | computed | lookUp | limits => exact .operate hk fun P _ hs => hs

theorem changes_callStream {handle : Nat} (hhandle : s.handles[handle]? = some feed)
    {call : StreamCall} (hcall : s.callStream feed call = some (outcome, s')) :
    Changes s (.stream handle call) s' := by
  cases feed with
  | client =>
    cases call with
    | next walk =>
      obtain ⟨⟨a, table⟩, hnext, heq⟩ := Option.map_eq_some_iff.1 hcall
      cases heq
      obtain ⟨i, it, stream, hwalk, hstream, -⟩ := StreamTable.next_eq hnext
      rw [← StreamTable.perform_next hstream] at hnext
      exact .stream hhandle (.inr ⟨rfl, _, List.mem_of_getElem? hwalk, rfl⟩) hnext
    | read size =>
      have hs' : (answer _ (s.readFeed .client size)).2 = s' :=
        congrArg Prod.snd (Option.some.inj hcall)
      rw [← hs', answer_snd]
      exact .source hhandle fun P hkeeps hput hs =>
        hkeeps.converse (fun hs source => hput _ source hs) _ hs
    | _ =>
      cases hcall
      exact .source hhandle fun P _ hput hs => hput _ _ hs
  | replay i =>
    obtain ⟨⟨a, table⟩, hperform, heq⟩ := Option.map_eq_some_iff.1 hcall
    cases heq
    exact .stream hhandle (.inl rfl) hperform

theorem changes_step {step : Step} (hstep : s.step step = some (outcome, s')) :
    Changes s step s' := by
  cases step with
  | request k call =>
    obtain ⟨layer, hlayer, hcall⟩ := Option.map_eq_some_iff.1 hstep
    have hchanges := changes_call hlayer call
    rwa [hcall] at hchanges
  | stream handle call =>
    obtain ⟨feed, hfeed, hcall⟩ := Option.bind_eq_some_iff.1 hstep
    exact changes_callStream hfeed hcall

theorem Sound.within_operate (h : s.Sound) (hk : (s.layers.map Layer.feed)[k]? = some feed)
    (hs' : ∀ P : Session ρ → Prop, (host k).Keeps P → P s → P s') : Within k feed s s' :=
  hs' _ within_keeps (within_self h.valid hk)

theorem Sound.within_source_opened (h : s.Sound)
    (hk : (s.layers.map Layer.feed)[k]? = some feed)
    (hp : (s.request k).phase = .fresh ∨ (s.request k).phase = .handedOut) :
    Within k feed s ((bare k).setPhase .handedOut s) :=
  within_keeps.handOut (within_self h.valid hk) hp

theorem Sound.opens (h : s.Sound) (hopens : Opens k s feed s') :
    s'.Sound ∧ ∀ i, feed = .replay i → i < s'.table.streams.length := by
  cases hopens with
  | source hk hp =>
    have hs' := h.within (h.within_source_opened hk hp)
    refine ⟨hs', ?_⟩
    rintro i rfl
    exact h.feed_lt i (List.mem_of_getElem? hk)
  | replay hp =>
    refine ⟨h.addStream _, ?_⟩
    rintro _ ⟨⟩
    rw [length_addStream]
    exact Nat.lt_succ_self _

theorem Sound.changes (h : s.Sound) {step : Step} (hs' : Changes s step s') : s'.Sound := by
  cases hs' with
  | operate hk hkeeps => exact h.within (h.within_operate hk hkeeps)
  | handOut hopens =>
    obtain ⟨hsound, hfeed⟩ := h.opens hopens
    exact hsound.addHandle hfeed
  | unwrapped hopens => exact (h.opens hopens).1
  | wrap hopens _ =>
    obtain ⟨hsound, hfeed⟩ := h.opens hopens
    exact hsound.addLayer _ _ hfeed
  | source _ hkeeps => exact h.within (h.within_source hkeeps)
  | stream _ _ hperform => exact h.setTable hperform

theorem Sound.continues_opens (h : s.Sound) (hopens : Opens k s feed s') (m : Nat) :
    (s.request m).Continues (s'.request m) := by
  cases hopens with
  | source hk hp => exact (h.within_source_opened hk hp).stays.continues m
  | replay => exact .refl _

theorem Sound.continues (h : s.Sound) {step : Step} (hs' : Changes s step s') {m : Nat}
    (hm : m < s.layers.length) : (s.request m).Continues (s'.request m) := by
  cases hs' with
  | operate hk hkeeps => exact (h.within_operate hk hkeeps).stays.continues m
  | handOut hopens => exact h.continues_opens hopens m
  | unwrapped hopens => exact h.continues_opens hopens m
  | @wrap _ feed _ _ limits s' hopens _ =>
    obtain heq | ⟨hlast, -⟩ := request_addLayer limits feed _ s' m
    · rw [heq]
      exact h.continues_opens hopens m
    · rw [hopens.length_layers] at hlast
      exact absurd hlast (Nat.ne_of_lt hm)
  | source _ hkeeps => exact (h.within_source hkeeps).stays.continues m
  | stream => exact .refl _

theorem Sound.streams_le (h : s.Sound) {step : Step} (hs' : Changes s step s') :
    s.table.streams.length ≤ s'.table.streams.length := by
  cases hs' with
  | operate hk hkeeps => exact Nat.le_of_eq (h.within_operate hk hkeeps).stays.streams_length.symm
  | handOut hopens => exact hopens.streams_le
  | unwrapped hopens => exact hopens.streams_le
  | wrap hopens _ => exact hopens.streams_le
  | source _ hkeeps => exact Nat.le_of_eq (h.within_source hkeeps).stays.streams_length.symm
  | stream _ _ hperform => exact Nat.le_of_eq (StreamTable.length_perform hperform).symm

theorem Sound.phase_eq (h : s.Sound) {step : Step} (hs' : Changes s step s') {body : Bytes}
    (hp : (s.request k).phase = .buffered body) : (s'.request k).phase = .buffered body := by
  have hk : k < s.layers.length := by
    apply Nat.lt_of_not_le
    intro hle
    rw [request, List.getElem?_eq_none hle] at hp
    cases hp
  rw [← hp]
  apply (h.continues hs' hk).phase_eq
  rw [hp]
  exact Phase.noConfusion

/-- An invariant of all changes is an invariant of steps. -/
theorem next_of_changes {P : Session ρ → Prop} {step : Step} (hs : P s)
    (hchanges : ∀ {s'}, Changes s step s' → P s') : P ((s.step step).elim s Prod.snd) := by
  cases hstep : s.step step with
  | none => exact hs
  | some next => exact hchanges (changes_step hstep)

theorem Sound.next (h : s.Sound) (step : Step) : ((s.step step).elim s Prod.snd).Sound :=
  next_of_changes h h.changes

theorem Sound.after (h : s.Sound) (steps : List Step) : (s.after steps).Sound := by
  induction steps generalizing s with
  | nil => exact h
  | cons step steps ih => exact ih (h.next step)

end Session

end DigestGate
