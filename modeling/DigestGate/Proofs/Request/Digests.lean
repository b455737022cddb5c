import Mathlib.Data.List.Nodup
import DigestGate.Proofs.Check.Buffered
import DigestGate.Proofs.Check.Computed

namespace DigestGate

variable {body : Bytes} {a : Algorithm} {named : List Algorithm}

namespace Log

def Entry.reused? : Entry → Option Algorithm
  | .digestReused a => some a
  | _ => none

def reused (log : List Entry) : List Algorithm :=
  log.filterMap Entry.reused?

theorem reused_concat (log : List Entry) (entry : Entry) :
    reused (log ++ [entry]) = reused log ++ entry.reused?.toList := by
  rw [reused, List.filterMap_append]
  rfl

end Log

inductive Asked where
  | named (name : Datum)
  | algorithm (a : Algorithm)

namespace Asked

def resolve : Asked → Except FieldError Algorithm
  | .named name => Algorithm.resolve name
  | .algorithm a => .ok a

def algorithm? (call : Asked) : Option Algorithm :=
  call.resolve.toOption

def algorithms (calls : List Asked) : List Algorithm :=
  calls.filterMap algorithm?

end Asked

namespace Host

variable {σ : Type} {h : Host σ}

def digestAsked (h : Host σ) : Asked → σ → Except Failure (Option Bytes) × σ
  | .named name => h.digestNamed name
  | .algorithm a => h.digest a

/-- `Host.digest` with a tally of the algorithms that it computes. -/
def digestTallied (h : Host σ) (a : Algorithm) (t : σ × List Algorithm) :
    Except Failure (Option Bytes) × σ × List Algorithm :=
  if (h.request t.1).phase = .handedOut then (.error (.body .handedOut), t)
  else
    match (h.request t.1).cache.get? a with
    | some digest => (.ok (some digest), h.note (.digestReused a) t.1, t.2)
    | none =>
      match h.ensure t.1 with
      | (.error e, s) => (.error e, s, t.2)
      | (.ok [], s) => (.ok none, s, t.2)
      | (.ok body, s) =>
        let digest := a.compute body
        let r := h.request s
        (.ok (some digest), h.setRequest { r with cache := r.cache.set digest a } s, t.2 ++ [a])

def askedTallied (h : Host σ) (call : Asked) (t : σ × List Algorithm) :
    Except Failure (Option Bytes) × σ × List Algorithm :=
  if (h.request t.1).phase = .handedOut then (.error (.body .handedOut), t)
  else
    match call.resolve with
    | .error e => (.error (.fault (.field e)), t)
    | .ok a => h.digestTallied a t

def askAll (h : Host σ) (calls : List Asked) (s : σ) : σ :=
  calls.foldl (fun s call => (h.digestAsked call s).2) s

def askAllTallied (h : Host σ) (calls : List Asked) (t : σ × List Algorithm) :
    σ × List Algorithm :=
  calls.foldl (fun t call => (h.askedTallied call t).2) t

/-- The tally does not affect the result. -/
theorem digestTallied_fst (a : Algorithm) (t : σ × List Algorithm) :
    h.digest a t.1 = Prod.map id Prod.fst (h.digestTallied a t) := by
  rw [digest, digestTallied]
  split
  · rfl
  cases (h.request t.1).cache.get? a with
  | some digest => rfl
  | none => rcases h.ensure t.1 with ⟨_ | (_ | ⟨_, _⟩), _⟩ <;> rfl

theorem askedTallied_of_resolve {call : Asked} (hcall : call.resolve = .ok a)
    (t : σ × List Algorithm) : h.askedTallied call t = h.digestTallied a t := by
  rw [askedTallied, hcall]
  split
  · next hout => rw [digestTallied, if_pos hout]
  · rfl

theorem askedTallied_fst (call : Asked) (t : σ × List Algorithm) :
    h.digestAsked call t.1 = Prod.map id Prod.fst (h.askedTallied call t) := by
  cases call with
  | named name =>
    rw [digestAsked, digestNamed, askedTallied, Asked.resolve]
    split
    · rfl
    cases Algorithm.resolve name with
    | error e => rfl
    | ok a => exact digestTallied_fst a t
  | algorithm a => rw [askedTallied_of_resolve rfl, ← digestTallied_fst]; rfl

theorem askAllTallied_fst (calls : List Asked) (t : σ × List Algorithm) :
    h.askAll calls t.1 = (h.askAllTallied calls t).1 := by
  induction calls generalizing t with
  | nil => rfl
  | cons call calls ih =>
    rw [askAll, List.foldl_cons, askedTallied_fst call t]
    exact ih (h.askedTallied call t).2

end Host

namespace Solo

theorem reused_settled {ρ : Type} (closing : Closing × ρ) (s : Solo ρ) :
    Log.reused (bare.settled putSource closing s).log = Log.reused s.log := by
  rcases closing with ⟨_ | message | message, x⟩
  · rfl
  · exact (Log.reused_concat s.log (.closeIgnored message)).trans (List.append_nil _)
  · rfl

variable {ρ : Type} [BodySource ρ] {s : Solo ρ} {t : Solo ρ × List Algorithm}
  {known : List Algorithm}

/-- The request holds `body` or obtains it on demand. -/
inductive Offers (body : Bytes) (s : Solo ρ) : Prop
  | unread (hp : s.request.phase = .fresh) (hc : s.request.cache = {})
    (hbody : (host.ensure s).1 = .ok body)
  | held (h : s.request.Holds body)

theorem Offers.of_ensure (hs : s.request.Valid) (hbody : (host.ensure s).1 = .ok body) :
    Offers body s := by
  rcases Host.phase_of_ensure_ok hbody with hp | hp
  · have hphase : s.request.phase = .fresh := hp
    exact .unread hphase (hs.cache_eq fun _ => by rw [hphase]; exact Phase.noConfusion) hbody
  · exact .held (hs.holds hp)

theorem Offers.phase_ne (hs : Offers body s) : s.request.phase ≠ .handedOut := by
  intro hp
  cases hs with
  | unread hfresh => rw [hfresh] at hp; cases hp
  | held hholds => rw [hholds.phase] at hp; cases hp

theorem reused_of_buffer {s' : Solo ρ} (hc : s.request.cache = {})
    (hbuffer : host.buffer s = (.ok body, s')) : Log.reused s'.log = Log.reused s.log := by
  obtain ⟨last, hkept⟩ := apart.exists_kept_of_buffer hc (congrArg Prod.fst hbuffer)
  have hs' : s' = _ := (congrArg Prod.snd hbuffer).symm.trans hkept
  rw [hs', Host.kept]
  refine (Log.reused_concat _ (.buffered _ _)).trans ?_
  refine (List.append_nil _).trans ?_
  exact reused_settled _ _

theorem Offers.ensure (hs : Offers body s) :
    ∃ s', host.ensure s = (.ok body, s') ∧ s'.request.Holds body ∧
      s'.request.cache = s.request.cache ∧ Log.reused s'.log = Log.reused s.log := by
  cases hs with
  | held hholds => exact ⟨s, Host.ensure_holds (h := host) hholds, hholds, rfl, rfl⟩
  | unread hp hc hbody =>
    have hensure : host.ensure s = host.buffer s := Host.ensure_of_fresh hp
    rcases hbuffer : host.buffer s with ⟨e | held, s'⟩
    · rw [hensure, hbuffer] at hbody
      cases hbody
    · rw [hensure, hbuffer] at hbody
      cases hbody
      obtain ⟨hphase, hcache⟩ := (fresh_of_phase hp hc).buffered hbuffer
      exact ⟨s', hensure.trans hbuffer, Request.holds_of_cache_eq hphase hcache,
        Eq.trans hcache hc.symm, reused_of_buffer hc hbuffer⟩

theorem Offers.held_of_cached {digest : Bytes} (hs : Offers body s)
    (hcached : s.request.cache.get? a = some digest) : s.request.Holds body := by
  cases hs with
  | held hholds => exact hholds
  | unread _ hc =>
    rw [hc, DigestCache.get?_empty] at hcached
    cases hcached

/-- The request offers `body` and has computed the algorithms `named` that were not `known`. -/
structure Serves (body : Bytes) (known named : List Algorithm) (t : Solo ρ × List Algorithm) :
    Prop where
  offers : Offers body t.1
  covers : t.1.request.cache.Covers body named
  subset : known ⊆ named
  nodup : t.2.Nodup
  mem_iff : ∀ a, a ∈ t.2 ↔ (t.1.request.cache.get? a).isSome ∧ a ∉ known

namespace Serves

theorem isSome_get?_of_mem (ht : Serves body known named t) (ha : a ∈ t.2) :
    (t.1.request.cache.get? a).isSome :=
  ((ht.mem_iff a).1 ha).1

theorem ensure (ht : Serves body known named t) :
    ∃ s, host.ensure t.1 = (.ok body, s) ∧ s.request.Holds body ∧
      Log.reused s.log = Log.reused t.1.log ∧ Serves body known named (s, t.2) := by
  obtain ⟨s, hensure, hholds, hcache, hlog⟩ := ht.offers.ensure
  refine ⟨s, hensure, hholds, hlog, .held hholds, ?_, ht.subset, ht.nodup, ?_⟩
  · rw [hcache]
    exact ht.covers
  · rw [hcache]
    exact ht.mem_iff

theorem again (ht : Serves body known named t) (h : body = [] ∨ a ∈ named) :
    Serves body known (named ++ [a]) t := by
  refine ⟨ht.offers, ?_, List.subset_append_of_subset_left _ ht.subset, ht.nodup, ht.mem_iff⟩
  rcases h with rfl | ha
  · exact ht.covers.of_empty _
  · apply ht.covers.congr
    intro b
    rw [List.mem_append, List.mem_singleton, iff_self_or]
    rintro rfl
    exact ha

theorem store (ht : Serves body known named t) (hholds : t.1.request.Holds body) (hbody : body ≠ [])
    (ha : a ∉ named) :
    let r := t.1.request
    Serves body known (named ++ [a])
      ({ t.1 with request := { r with cache := r.cache.set (a.compute body) a } }, t.2 ++ [a]) where
  offers := .held (hholds.store a)
  covers := ht.covers.set hbody _ a
  subset := List.subset_append_of_subset_left _ ht.subset
  nodup := by
    change (t.2 ++ [a]).Nodup
    rw [← List.concat_eq_append, List.nodup_concat]
    exact ⟨fun htold => ha ((ht.covers a).1 (ht.isSome_get?_of_mem htold)).2, ht.nodup⟩
  mem_iff b := by
    rw [List.mem_append, List.mem_singleton, ht.mem_iff b, DigestCache.get?_set]
    by_cases hab : a = b
    · subst hab
      rw [if_pos rfl]
      exact ⟨fun _ => ⟨rfl, fun h => ha (ht.subset h)⟩, fun _ => .inr rfl⟩
    · rw [if_neg hab]
      exact ⟨fun h => h.resolve_right (Ne.symm hab), .inl⟩

end Serves

/-- A digest that was not computed before is computed and stored. -/
theorem Serves.digest (ht : Serves body known named t) (a : Algorithm) :
    (host.digestTallied a t).1 = .ok (if body = [] then none else some (a.compute body)) ∧
      Log.reused (host.digestTallied a t).2.1.log =
        Log.reused t.1.log ++ (if body ≠ [] ∧ a ∈ named then [a] else []) ∧
      Serves body known (named ++ [a]) (host.digestTallied a t).2 := by
  have hsome := ht.covers a
  rw [Host.digestTallied, if_neg (show (host.request t.1).phase ≠ _ from ht.offers.phase_ne)]
  cases hcached : t.1.request.cache.get? a with
  | some digest =>
    have hheld := ht.offers.held_of_cached hcached
    obtain ⟨hbody, hnamed⟩ := hsome.1 (by rw [hcached]; rfl)
    have hagain := ht.again (.inr hnamed)
    rw [show (host.request t.1).cache.get? a = _ from hcached, if_neg hbody,
      if_pos ⟨hbody, hnamed⟩, hheld.computed a digest hcached]
    exact ⟨rfl, Log.reused_concat _ _, .held hheld, hagain.covers, hagain.subset, hagain.nodup,
      hagain.mem_iff⟩
  | none =>
    have hnew : ¬ (body ≠ [] ∧ a ∈ named) := fun h => by
      have hget := hsome.2 h
      rw [hcached] at hget
      cases hget
    obtain ⟨s, hensure, hholds, hlog, hserves⟩ := ht.ensure
    rw [show (host.request t.1).cache.get? a = none from hcached, hensure, if_neg hnew,
      List.append_nil]
    cases body with
    | nil => exact ⟨rfl, hlog, hserves.again (.inl rfl)⟩
    | cons x xs =>
      have hbody := List.cons_ne_nil x xs
      exact ⟨rfl, hlog, hserves.store hholds hbody fun ha => hnew ⟨hbody, ha⟩⟩

theorem Offers.asked_unknown {call : Asked} {e : FieldError} (hs : Offers body s)
    (hcall : call.resolve = .error e) :
    host.digestAsked call s = (.error (.fault (.field e)), s) := by
  cases call with
  | named name =>
    rw [Host.digestAsked, Host.digestNamed,
      if_neg (show (host.request s).phase ≠ _ from hs.phase_ne)]
    rw [Asked.resolve] at hcall
    rw [hcall]
  | algorithm a => cases hcall

theorem Serves.asked (ht : Serves body known named t) (call : Asked) :
    Serves body known (named ++ call.algorithm?.toList) (host.askedTallied call t).2 := by
  rw [Asked.algorithm?]
  cases hcall : call.resolve with
  | error e =>
    rw [Host.askedTallied, if_neg (show (host.request t.1).phase ≠ _ from ht.offers.phase_ne),
      hcall]
    exact (List.append_nil named).symm ▸ ht
  | ok a =>
    rw [Host.askedTallied_of_resolve hcall]
    exact (ht.digest a).2.2

theorem Serves.askAll (ht : Serves body known named t) (calls : List Asked) :
    Serves body known (named ++ Asked.algorithms calls) (host.askAllTallied calls t) := by
  induction calls generalizing named t with
  | nil => exact (List.append_nil named).symm ▸ ht
  | cons call calls ih =>
    have hrest := ih (ht.asked call)
    rw [List.append_assoc] at hrest
    have hsplit : Asked.algorithms (call :: calls) =
        call.algorithm?.toList ++ Asked.algorithms calls := by
      rw [Asked.algorithms, List.filterMap_cons]
      cases call.algorithm? <;> rfl
    rw [hsplit]
    exact hrest

theorem Offers.computed (hs : Offers body s) (a : Algorithm) (digest : Bytes)
    (hcached : s.request.cache.get? a = some digest) : digest = a.compute body :=
  (hs.held_of_cached hcached).computed a digest hcached

theorem serves_valid (hs : s.request.Valid) (hbody : (host.ensure s).1 = .ok body) :
    Serves body s.request.cache.computed s.request.cache.computed (s, []) where
  offers := .of_ensure hs hbody
  covers := by
    refine DigestCache.covers_computed fun hempty => List.filter_eq_nil_iff.2 fun a _ ha => ?_
    obtain ⟨digest, hdigest⟩ := Option.isSome_iff_exists.1 ha
    obtain ⟨held, hheld, hne, _⟩ := hs.computed a digest hdigest
    have hphase : (host.request s).phase = .buffered held := hs.phase_eq_iff.2 hheld
    rw [Host.ensure, hphase] at hbody
    cases hbody
    exact hne hempty
  subset := List.Subset.refl _
  nodup := List.nodup_nil
  mem_iff a := by
    rw [DigestCache.mem_computed]
    exact ⟨fun h => absurd h List.not_mem_nil, fun h => absurd h.1 h.2⟩

/-- Every digest is computed at most once, whatever the order and the names of the calls. -/
theorem digests_memoized (limits : Limits) (source : ρ) (operations : List Operation)
    (hbody : (host.ensure (host.run operations (start limits source))).1 = .ok body)
    (calls : List Asked) :
    let s₀ := host.run operations (start limits source)
    let s := host.askAll calls s₀
    let known := s₀.request.cache.computed
    let named := known ++ Asked.algorithms calls
    let tallied := host.askAllTallied calls (s₀, [])
    (∀ call e, call.resolve = .error e →
      host.digestAsked call s = (.error (.fault (.field e)), s)) ∧
    (∀ call a, call.resolve = .ok a →
      (host.digestAsked call s).1 = .ok (if body = [] then none else some (a.compute body)) ∧
        Log.reused (host.digestAsked call s).2.log =
          Log.reused s.log ++ if body ≠ [] ∧ a ∈ named then [a] else []) ∧
    s.request.cache.computed = (if body = [] then [] else Algorithm.all.filter (· ∈ named)) ∧
    (tallied.1 = s ∧ tallied.2.Nodup ∧
      ∀ a, a ∈ tallied.2 ↔ body ≠ [] ∧ a ∈ Asked.algorithms calls ∧ a ∉ known) ∧
    ∀ calls', (∀ a, a ∈ Asked.algorithms calls' ↔ a ∈ Asked.algorithms calls) →
      (host.askAll calls' s₀).request.cache = s.request.cache := by
  intro s₀ s known named tallied
  have hstart := serves_valid (valid_run limits source operations) hbody
  have hserves (calls : List Asked) := hstart.askAll calls
  have hfst (calls : List Asked) := (Host.askAllTallied_fst (h := host) calls (s₀, [])).symm
  have hs : tallied.1 = s := hfst calls
  have ht : Serves body known named tallied := hserves calls
  refine ⟨?_, ?_, ?_, ⟨hs, ht.nodup, fun a => ?_⟩, ?_⟩
  · intro call e hcall
    rw [← hs]
    exact ht.offers.asked_unknown hcall
  · intro call a hcall
    have hasked := Host.askedTallied_fst (h := host) call tallied
    rw [Host.askedTallied_of_resolve hcall, hs] at hasked
    obtain ⟨houtcome, hlog, _⟩ := ht.digest a
    rw [hasked]
    rw [hs] at hlog
    exact ⟨houtcome, hlog⟩
  · rw [← hs]
    exact ht.covers.computed_eq
  · rw [ht.mem_iff a, ht.covers a, List.mem_append, and_assoc]
    refine and_congr_right fun _ => ⟨fun h => ⟨h.1.resolve_left h.2, h.2⟩, fun h => ⟨.inr h.1, h.2⟩⟩
  · intro calls' hsame
    have hnamed (a : Algorithm) : a ∈ known ++ Asked.algorithms calls' ↔ a ∈ named := by
      rw [List.mem_append, List.mem_append, hsame a]
    have ht' := hserves calls'
    have hcache := ht'.covers.cache_eq ht.covers hnamed ht'.offers.computed ht.offers.computed
    rw [← hs, ← hcache, hfst calls']

theorem digests_memoized_aliases :
    let source : Source := { supply := .script [.piece (.bytes [1, 2]), .piece .nothing] }
    let calls := [.named (.text " SHA-1"), .named (.text "sha"), .named (.text "sha-512"),
      .algorithm .md5]
    let s := host.askAll calls (start tightLimits source)
    (host.digestAsked (.named (.text "sha1")) s).1 = .ok (some (Algorithm.sha1.compute [1, 2])) ∧
      s.request.cache.computed = [.md5, .sha1] := by
  intro source calls s
  have hsource : Brings (BodySource.draw tightLimits.chunk) source ([1, 2] ++ []) :=
    .more rfl (by decide) (.absent rfl (by decide))
  obtain ⟨_, hdigest, hcomputed, _⟩ :=
    digests_memoized tightLimits source [] (ensure_of_brings hsource (by decide)) calls
  have hname : Asked.resolve (.named (.text "sha1")) = .ok .sha1 := by rfl
  exact ⟨(hdigest _ .sha1 hname).1, hcomputed⟩

end Solo

end DigestGate
