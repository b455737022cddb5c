import DigestGate.Proofs.Session.Riding

namespace DigestGate

namespace Session

variable {ρ : Type} {s s' s'' : Session ρ} {i j k : Nat} {feed : Feed} {limits : Limits}
  {body : Bytes} {own : List Nat}

/-- The source, the other requests and the streams outside `own` are unchanged. -/
structure Spares (j : Nat) (own : List Nat) (s s' : Session ρ) : Prop where
  source_eq : s'.source = s.source
  layers_eq : ∀ m, m ≠ j → m < s.layers.length → s'.layers[m]? = s.layers[m]?
  streams_eq : ∀ m, m ∉ own → m < s.table.streams.length →
    s'.table.streams[m]? = s.table.streams[m]?
  layers_le : s.layers.length ≤ s'.layers.length
  streams_le : s.table.streams.length ≤ s'.table.streams.length

theorem Spares.refl (j : Nat) (own : List Nat) (s : Session ρ) : s.Spares j own s :=
  ⟨rfl, fun _ _ _ => rfl, fun _ _ _ => rfl, Nat.le_refl _, Nat.le_refl _⟩

theorem Spares.trans {own' : List Nat} (h : s.Spares j own s') (h' : s'.Spares j own' s'')
    (hown : ∀ m ∈ own', m ∈ own ∨ s.table.streams.length ≤ m) : s.Spares j own s'' where
  source_eq := h'.source_eq.trans h.source_eq
  layers_eq m hm hlt :=
    (h'.layers_eq m hm (Nat.lt_of_lt_of_le hlt h.layers_le)).trans (h.layers_eq m hm hlt)
  streams_eq m hm hlt := by
    have hm' : m ∉ own' := by
      intro hmem
      obtain hmem | hle := hown m hmem
      · exact hm hmem
      · exact Nat.not_lt.2 hle hlt
    exact (h'.streams_eq m hm' (Nat.lt_of_lt_of_le hlt h.streams_le)).trans (h.streams_eq m hm hlt)
  layers_le := Nat.le_trans h.layers_le h'.layers_le
  streams_le := Nat.le_trans h.streams_le h'.streams_le

theorem Stays.spares (h : Stays j (.replay i) s s') (hi : i ∈ own) : s.Spares j own s' where
  source_eq := h.source_eq Feed.noConfusion
  layers_eq m hm _ := by
    apply h.layers_eq
    rintro (rfl | ⟨hclient, -⟩)
    · exact hm rfl
    · cases hclient
  streams_eq m hm _ := by
    apply h.streams_eq
    rintro ⟨⟩
    exact hm hi
  layers_le := by
    have hlength := congrArg List.length h.feeds_eq
    rw [List.length_map, List.length_map] at hlength
    exact Nat.le_of_eq hlength.symm
  streams_le := Nat.le_of_eq h.streams_length.symm

theorem Spares.addHandle (h : s.Spares j own s') (feed : Feed) :
    s.Spares j own (s'.addHandle feed) :=
  ⟨h.source_eq, h.layers_eq, h.streams_eq, h.layers_le, h.streams_le⟩

theorem Spares.addLayer (h : s.Spares j own s') (limits : Limits) (feed : Feed) (under : Nat) :
    s.Spares j own (s'.addLayer limits feed under) where
  source_eq := h.source_eq
  layers_eq m hm hlt := by
    rw [← h.layers_eq m hm hlt]
    exact List.getElem?_append_left (Nat.lt_of_lt_of_le hlt h.layers_le)
  streams_eq := h.streams_eq
  layers_le := by
    rw [Session.addLayer, List.length_append]
    exact Nat.le_add_right_of_le h.layers_le
  streams_le := h.streams_le

theorem spares_addStream (j : Nat) (own : List Nat) (s : Session ρ) (stream : BodyStream) :
    s.Spares j own (s.addStream stream) where
  source_eq := rfl
  layers_eq _ _ _ := rfl
  streams_eq m _ hlt := List.getElem?_append_left hlt
  layers_le := Nat.le_refl _
  streams_le := by
    rw [length_addStream]
    exact Nat.le_succ _

theorem spares_setTable {m : Nat} {call : StreamCall} {answer : Except Failure StreamAnswer}
    {table : StreamTable} (hperform : s.table.perform m call = some (answer, table))
    (htarget : s.table.target m call ∈ own) : s.Spares j own { s with table } where
  source_eq := rfl
  layers_eq _ _ _ := rfl
  streams_eq m' hm' _ := by
    obtain ⟨-, stream, -, hstreams, -⟩ := StreamTable.moves_perform hperform
    have hne : s.table.target m call ≠ m' := by
      rintro rfl
      exact hm' htarget
    rw [hstreams, List.getElem?_set_ne hne]
  layers_le := Nat.le_refl _
  streams_le := Nat.le_of_eq (StreamTable.length_perform hperform).symm

/-- The step is a call to request `j` or to a stream of its own. -/
def Owns (j : Nat) (own : List Nat) (s : Session ρ) : Step → Prop
  | .request k _ => k = j
  | .stream handle call =>
    ∃ m, s.handles[handle]? = some (.replay m) ∧ s.table.target m call ∈ own

theorem layer_of_feeds (hk : (s.layers.map Layer.feed)[k]? = some feed) :
    ∃ layer, s.layers[k]? = some layer ∧ layer.feed = feed := by
  rw [List.getElem?_map] at hk
  exact Option.map_eq_some_iff.1 hk

theorem exists_feed_of_phase (hp : (s.request k).phase ≠ .fresh) :
    ∃ feed, (s.layers.map Layer.feed)[k]? = some feed := by
  cases hlayer : s.layers[k]? with
  | none =>
    rw [request, hlayer] at hp
    exact absurd rfl hp
  | some layer => exact ⟨layer.feed, feeds_of_layer hlayer⟩

variable [ClientSource ρ]

theorem Sound.spares_opens (h : s.Sound) (hi : i ∈ own)
    (hj : (s.layers.map Layer.feed)[j]? = some (.replay i)) (hopens : Opens j s feed s') :
    s.Spares j own s' := by
  cases hopens with
  | source hk hp =>
    cases hj.symm.trans hk
    exact (h.within_source_opened hk hp).stays.spares hi
  | replay => exact spares_addStream j own s _

theorem Sound.spares (h : s.Sound) (hi : i ∈ own)
    (hj : (s.layers.map Layer.feed)[j]? = some (.replay i)) {step : Step}
    (hs' : Changes s step s') (howns : s.Owns j own step) : s.Spares j own s' := by
  cases hs' with
  | operate hk hkeeps =>
    cases howns
    cases hj.symm.trans hk
    exact (h.within_operate hk hkeeps).stays.spares hi
  | handOut hopens =>
    cases howns
    exact (h.spares_opens hi hj hopens).addHandle _
  | unwrapped hopens =>
    cases howns
    exact h.spares_opens hi hj hopens
  | wrap hopens _ =>
    cases howns
    exact (h.spares_opens hi hj hopens).addLayer _ _ _
  | source hhandle _ =>
    obtain ⟨m, hreplay, -⟩ := howns
    cases hhandle.symm.trans hreplay
  | stream hhandle hfeed hperform =>
    obtain ⟨m, hreplay, htarget⟩ := howns
    cases hhandle.symm.trans hreplay
    obtain heq | ⟨hclient, -⟩ := hfeed
    · cases heq
      exact spares_setTable hperform htarget
    · cases hclient

/-- The session after a step, with the streams that belong to request `j`. -/
def share (j : Nat) (now : Session ρ × List Nat) (step : Step) : Session ρ × List Nat :=
  let next := (now.1.step step).elim now.1 Prod.snd
  let opened := List.range' now.1.table.streams.length
    (next.table.streams.length - now.1.table.streams.length)
  (next, match step with
    | .request k _ => if k = j then now.2 ++ opened else now.2
    | .stream _ _ => now.2)

def OwnsAll (j : Nat) : Session ρ × List Nat → List Step → Prop
  | _, [] => True
  | now, step :: steps => now.1.Owns j now.2 step ∧ OwnsAll j (share j now step) steps

theorem mem_share {now : Session ρ × List Nat} (step : Step) (hi : i ∈ now.2) :
    i ∈ (share j now step).2 := by
  cases step with
  | request k call =>
    rw [share]
    by_cases hk : k = j
    · simp only [if_pos hk]
      exact List.mem_append_left _ hi
    · simp only [if_neg hk]
      exact hi
  | stream handle call => exact hi

theorem of_mem_share {now : Session ρ × List Nat} {step : Step} (hi : i ∈ (share j now step).2) :
    i ∈ now.2 ∨ now.1.table.streams.length ≤ i := by
  cases step with
  | request k call =>
    rw [share] at hi
    by_cases hk : k = j
    · simp only [if_pos hk, List.mem_append] at hi
      exact hi.imp_right fun hrange => (List.mem_range'_1.1 hrange).1
    · simp only [if_neg hk] at hi
      exact .inl hi
  | stream handle call => exact .inl hi

/-- Request `j` reads one of its own streams over the body of request `k`. -/
structure Shares (k j i : Nat) (limits : Limits) (body : Bytes) (now : Session ρ × List Nat) :
    Prop where
  sound : now.1.Sound
  rides : now.1.Rides j i limits body
  phase_eq : (now.1.request k).phase = .buffered body
  mem_own : i ∈ now.2

variable {now : Session ρ × List Nat}

theorem Shares.share (h : Shares k j i limits body now) (step : Step) :
    Shares k j i limits body (share j now step) where
  sound := h.sound.next step
  rides := next_of_changes h.rides fun hs' => h.rides.changes h.sound hs'
  phase_eq := next_of_changes (P := fun s => (s.request k).phase = .buffered body) h.phase_eq
    fun hs' => h.sound.phase_eq hs' h.phase_eq
  mem_own := mem_share step h.mem_own

theorem Shares.foldl (h : Shares k j i limits body now) (steps : List Step) :
    Shares k j i limits body (steps.foldl (Session.share j) now) := by
  induction steps generalizing now with
  | nil => exact h
  | cons step steps ih => exact ih (h.share step)

theorem foldl_share_fst (j : Nat) (now : Session ρ × List Nat) (steps : List Step) :
    (steps.foldl (Session.share j) now).1 = now.1.after steps := by
  induction steps generalizing now with
  | nil => rfl
  | cons step steps ih => exact ih (Session.share j now step)

theorem Shares.own_le {bound : Nat} (h : Shares k j i limits body now)
    (hbound : bound ≤ now.1.table.streams.length) (hown : ∀ m ∈ now.2, bound ≤ m)
    (steps : List Step) : ∀ m ∈ (steps.foldl (Session.share j) now).2, bound ≤ m := by
  induction steps generalizing now with
  | nil => exact hown
  | cons step steps ih =>
    apply ih (h.share step)
    · exact next_of_changes (P := fun s => bound ≤ s.table.streams.length) hbound
        fun hs' => Nat.le_trans hbound (h.sound.streams_le hs')
    · intro m hm
      obtain hm | hle := of_mem_share hm
      · exact hown m hm
      · exact Nat.le_trans hbound hle

theorem Shares.spares (h : Shares k j i limits body now) {steps : List Step}
    (howns : OwnsAll j now steps) :
    now.1.Spares j now.2 (steps.foldl (Session.share j) now).1 := by
  induction steps generalizing now with
  | nil => exact .refl j now.2 now.1
  | cons step steps ih =>
    obtain ⟨hstep, hsteps⟩ := howns
    have hfirst : now.1.Spares j now.2 (Session.share j now step).1 :=
      next_of_changes (Spares.refl j now.2 now.1) fun hs' =>
        h.sound.spares h.mem_own h.rides.feed_eq hs' hstep
    exact hfirst.trans (ih (h.share step) hsteps) fun m hm => of_mem_share hm

def answer? (s : Session ρ) (step : Step) : Option (Except Failure Answer) :=
  (s.step step).map Prod.fst

/-- Request `k` answers with the digests and the check of `body`. -/
structure Reveals (k : Nat) (body : Bytes) (s : Session ρ) : Prop where
  digest : ∀ a, s.answer? (.request k (.digest a)) =
    some (.ok (.digest (if body = [] then none else some (a.compute body))))
  digestNamed : ∀ name, s.answer? (.request k (.digestNamed name)) =
    match Algorithm.resolve name with
    | .error e => some (.error (.fault (.field e)))
    | .ok a => some (.ok (.digest (if body = [] then none else some (a.compute body))))
  verify : s.answer? (.request k .verify) =
    some ((s.client.headers.map fun lines => .check (lines.check body)).mapError .fault)

omit [ClientSource ρ] in
theorem answer_fst {α : Type} (wrap : α → Answer) (outcome : Except Failure α × Session ρ) :
    (answer wrap outcome).1 = outcome.1.map wrap := by
  obtain ⟨_ | _, _⟩ := outcome <;> rfl

theorem answer?_request {layer : Layer} (hlayer : s.layers[k]? = some layer) (call : Call) :
    s.answer? (.request k call) = some (s.call k layer call).1 := by
  rw [answer?, step, hlayer]
  rfl

theorem reveals_of_ensure {layer : Layer} (hlayer : s.layers[k]? = some layer) (hs : s.Valid)
    (hp : (s.request k).phase ≠ .handedOut) (hensure : ((host k).ensure s).1 = .ok body)
    (hverify : ∀ lines, ((host k).verify lines s).1 = .ok (lines.check body)) :
    s.Reveals k body where
  digest a := by
    have hdigest := Host.digest_of_ensure (h := host k) (hs k) hp hensure a
    rw [answer?_request hlayer, call, answer_fst, hdigest]
    rfl
  digestNamed name := by
    have hdigest := Host.digestNamed_of_ensure (h := host k) (hs k) hp hensure name
    rw [answer?_request hlayer, call, answer_fst, hdigest]
    cases Algorithm.resolve name <;> rfl
  verify := by
    rw [answer?_request hlayer, call, headers_eq]
    cases s.client.headers with
    | error e => rfl
    | ok lines =>
      simp only [answer_fst, hverify]
      rfl

theorem Shares.reveals_under (h : Shares k j i limits body now) : now.1.Reveals k body := by
  have hp : (now.1.request k).phase ≠ .fresh := by
    rw [h.phase_eq]
    exact Phase.noConfusion
  obtain ⟨feed, hfeed⟩ := exists_feed_of_phase hp
  obtain ⟨layer, hlayer, -⟩ := layer_of_feeds hfeed
  have hholds := (h.sound.valid k).holds h.phase_eq
  apply reveals_of_ensure hlayer h.sound.valid
  · rw [h.phase_eq]
    exact Phase.noConfusion
  · exact congrArg Prod.fst (Host.ensure_holds (h := host k) hholds)
  · exact verify_of_holds h.sound.valid hfeed hholds

theorem Shares.reveals_over (h : Shares k j i limits body now)
    (hp : (now.1.request j).phase ≠ .handedOut) (hfits : body.length ≤ limits.maximum) :
    now.1.Reveals j body := by
  obtain ⟨layer, hlayer, -⟩ := layer_of_feeds h.rides.feed_eq
  apply reveals_of_ensure hlayer h.sound.valid hp
  · rw [h.rides.ensure h.sound.valid hp, Limits.accept, if_pos hfits]
    rfl
  · exact h.rides.verify h.sound.valid hp hfits

theorem Shares.answer?_ensure (h : Shares k j i limits body now)
    (hp : (now.1.request j).phase ≠ .handedOut) :
    now.1.answer? (.request j .ensure) =
      some (((limits.accept body).mapError Failure.body).map Answer.body) := by
  obtain ⟨layer, hlayer, -⟩ := layer_of_feeds h.rides.feed_eq
  rw [answer?_request hlayer, call, answer_fst, h.rides.ensure h.sound.valid hp]

theorem Shares.handed_own (h : Shares k j i limits body now) {handle : Nat}
    (hanswer : now.1.answer? (.request j .openStream) = some (.ok (.opened handle feed))) :
    ∃ m, feed = .replay m ∧ m ∈ (Session.share j now (.request j .openStream)).2 := by
  obtain ⟨layer, hlayer, -⟩ := layer_of_feeds h.rides.feed_eq
  have hnext : now.1.step (.request j .openStream) =
      some (now.1.call j layer .openStream) := by
    rw [step, hlayer]
    rfl
  rw [answer?_request hlayer, call, answer_fst, openStream] at hanswer
  obtain ⟨e, hopen⟩ | ⟨opened, s', hopen, hopens⟩ := openFeed_cases h.rides.feed_eq
  · rw [hopen] at hanswer
    cases hanswer
  · rw [hopen] at hanswer
    cases hanswer
    cases hopens with
    | source hk _ =>
      cases h.rides.feed_eq.symm.trans hk
      exact ⟨i, rfl, mem_share _ h.mem_own⟩
    | replay hp =>
      refine ⟨_, rfl, ?_⟩
      have hlength : (now.1.call j layer .openStream).2.table.streams.length =
          now.1.table.streams.length + 1 := by
        rw [call, answer_snd, openStream, hopen]
        exact length_addStream _ _
      rw [Session.share]
      simp only [if_pos, hnext, Option.elim_some, hlength]
      exact List.mem_append_right _ (List.mem_range'_1.2 ⟨Nat.le_refl _, by omega⟩)

end Session

theorem Limits.make_self (limits : Limits) :
    make limits.maximum limits.chunk = .ok limits := by
  obtain ⟨maximum, chunk, hchunk⟩ := limits
  rw [make, if_neg (Int.not_lt.2 (Int.natCast_nonneg _)), dif_pos (Int.natCast_pos.2 hchunk)]
  rfl

namespace Session

variable {ρ : Type} [ClientSource ρ] {s : Session ρ} {k : Nat} {body : Bytes}

omit [ClientSource ρ] in
theorem Sound.pristine_wrapped (h : s.Sound) {stream : BodyStream} (hopen : stream.closed = false)
    (hrest : stream.rest = body) (limits : Limits) (under : Nat) :
    ((s.addStream stream).addLayer limits (.replay s.table.streams.length) under).Pristine
      s.layers.length s.table.streams.length body where
  exists_stream := ⟨stream, List.getElem?_concat_length, hopen, hrest⟩
  sole m hm := by
    have hfeeds : ((s.addStream stream).addLayer limits (.replay s.table.streams.length)
        under).layers.map Layer.feed =
          s.layers.map Layer.feed ++ [.replay s.table.streams.length] := List.map_append
    rw [hfeeds, List.getElem?_append] at hm
    split at hm
    · exact absurd (h.feed_lt _ (List.mem_of_getElem? hm)) (Nat.lt_irrefl _)
    · next hge =>
      have hlt := (List.getElem?_eq_some_iff.1 hm).1
      rw [List.length_singleton] at hlt
      rw [List.length_map] at hge hlt
      omega
  unhanded hmem := Nat.lt_irrefl _ (h.handle_lt _ hmem)
  unwalked w hw := Nat.ne_of_lt (h.walk_lt w hw)

/-- Wrapping a buffered request adds a stream over its body. -/
theorem Sound.wrap_buffered (h : s.Sound) (hp : (s.request k).phase = .buffered body)
    (limits : Limits) :
    ∃ wrapped, s.wrap k limits.maximum limits.chunk = (.ok s.layers.length, wrapped) ∧
      (wrapped.request s.layers.length).phase = .fresh ∧
      Shares k s.layers.length s.table.streams.length limits body
        (wrapped, [s.table.streams.length]) := by
  let i := s.table.streams.length
  let stream := (s.request k).replay body
  let wrapped := (s.addStream stream).addLayer limits (.replay i) k
  have hwrap : s.wrap k limits.maximum limits.chunk = (.ok s.layers.length, wrapped) := by
    rw [wrap, openFeed_buffered hp, limits.make_self]
    rfl
  have hlayer : wrapped.layers[s.layers.length]? =
      some { request := { limits }, feed := .replay i, under := some k } :=
    List.getElem?_concat_length
  have hrequest : wrapped.request s.layers.length = { limits } := by rw [request, hlayer]
  have hfresh : (wrapped.request s.layers.length).phase = .fresh := congrArg Request.phase hrequest
  have hp' : (s.request k).phase ≠ .fresh := by
    rw [hp]
    exact Phase.noConfusion
  obtain ⟨feed, hk⟩ := exists_feed_of_phase hp'
  have hchanges := changes_wrap hk limits.maximum limits.chunk
  rw [hwrap] at hchanges
  have hpristine : wrapped.Pristine s.layers.length i body :=
    have hopen : stream.closed = false := rfl
    h.pristine_wrapped hopen rfl limits k
  refine ⟨wrapped, hwrap, hfresh, h.changes hchanges, ?_, h.phase_eq hchanges hp,
    List.mem_singleton_self i⟩
  exact ⟨feeds_of_layer hlayer, by rw [hrequest], .inl ⟨hfresh, hpristine⟩⟩

/-- Request `j`, made from request `k`, answers by `body`, and only its own state changes. -/
structure Wraps (k j bound : Nat) (limits : Limits) (body : Bytes) (now : Session ρ × List Nat) :
    Prop where
  ensure : (now.1.request j).phase ≠ .handedOut →
    now.1.answer? (.request j .ensure) = some (
      if body.length ≤ limits.maximum then .ok (.body body)
      else .error (.body (.tooLarge limits.maximum
        (min body.length (limits.chunk * (limits.maximum / limits.chunk + 1))))))
  reveals_over : (now.1.request j).phase ≠ .handedOut → body.length ≤ limits.maximum →
    now.1.Reveals j body
  reveals_under : now.1.Reveals k body
  spares : ∀ later, OwnsAll j now later → now.1.Spares j now.2 (later.foldl (share j) now).1
  own_ge : ∀ m ∈ now.2, bound ≤ m
  handed : ∀ handle feed,
    now.1.answer? (.request j .openStream) = some (.ok (.opened handle feed)) →
      ∃ m, feed = .replay m ∧ m ∈ (share j now (.request j .openStream)).2

/-- A request wrapped around a buffered one, in any session and after any further steps. -/
theorem wrap_rides (client : Client) (source : ρ) (bounds : Limits) (before : List Step) (k : Nat)
    (body : Bytes)
    (hbody : (((start client source bounds).after before).request k).phase = .buffered body)
    (limits : Limits) :
    let inner := (start client source bounds).after before
    let j := inner.layers.length
    ∃ wrapped, inner.wrap k limits.maximum limits.chunk = (.ok j, wrapped) ∧
      (wrapped.request j).phase = .fresh ∧
      ∀ steps : List Step,
        let now := steps.foldl (share j) (wrapped, [inner.table.streams.length])
        now.1 = wrapped.after steps ∧ Wraps k j inner.table.streams.length limits body now := by
  intro inner j
  have hsound : inner.Sound := (sound_start client source bounds).after before
  obtain ⟨wrapped, hwrap, hfresh, hshares⟩ := hsound.wrap_buffered hbody limits
  refine ⟨wrapped, hwrap, hfresh, fun steps => ?_⟩
  intro now
  have hnow := hshares.foldl steps
  refine ⟨foldl_share_fst j _ steps, fun hp => ?_, hnow.reveals_over, hnow.reveals_under,
    fun later howns => hnow.spares howns, ?_, fun handle feed hanswer => hnow.handed_own hanswer⟩
  · rw [hnow.answer?_ensure hp, Limits.accept]
    by_cases hfits : body.length ≤ limits.maximum
    · rw [if_pos hfits, if_pos hfits]
      rfl
    · rw [if_neg hfits, if_neg hfits]
      rfl
  · obtain ⟨stream, hstream, -⟩ := (hshares.rides.pristine hfresh).exists_stream
    apply hshares.own_le (Nat.le_of_lt (List.getElem?_eq_some_iff.1 hstream).1)
    intro m hm
    exact Nat.le_of_eq (List.mem_singleton.1 hm).symm

theorem wrap_rides_greeted :
    let inner := greeted.after [.request 0 .ensure]
    (inner.request 0).phase = .buffered greeting ∧
      ∃ wrapped, inner.wrap 0 3 2 = (.ok inner.layers.length, wrapped) ∧
        wrapped.answer? (.request inner.layers.length .ensure) =
          some (.error (.body (.tooLarge 3 4))) := by
  intro inner
  have hbrings : Brings ((host 0).read 8) ((host 0).setPhase .buffering greeted)
      (greeting ++ []) :=
    .more (Prod.ext rfl rfl) (by decide) (.last (Prod.ext rfl rfl))
  obtain ⟨kept, hensure⟩ := exists_ensure_eq (s := greeted) (k := 0) rfl hbrings (by decide)
  have hinner : inner = ((host 0).ensure greeted).2 := answer_snd _ _
  have hsound : greeted.Sound := sound_start _ _ _
  have hbody : (inner.request 0).phase = .buffered greeting := by
    rw [hinner]
    have hwithin : Within 0 .client greeted greeted := within_self hsound.valid hsound.base_eq
    exact within_keeps.phase_of_ensure hwithin (congrArg Prod.fst hensure)
  obtain ⟨wrapped, hwrap, hfresh, hruns⟩ :=
    wrap_rides _ _ _ [.request 0 .ensure] 0 greeting hbody ⟨3, 2, by decide⟩
  obtain ⟨-, hwraps⟩ := hruns []
  have hanswer := hwraps.ensure fun hout => by cases hfresh.symm.trans hout
  rw [if_neg (by decide)] at hanswer
  exact ⟨hbody, wrapped, hwrap, hanswer⟩

end Session

end DigestGate
