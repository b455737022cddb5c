import DigestGate.Proofs.Channel.Reading
import Mathlib.Order.Bounds.Basic

namespace DigestGate

variable {limit held n : Nat} {limits : Limits}

namespace Reader

variable {r' : Reader} {e : Failure} {receipt : Receipt} {part : Bytes} {more : Bool}
  {coming : List Receipt} {pulled messages : Nat}

theorem gather_broken (hpull : (waiting coming pulled messages).pull = (.error e, r')) :
    gather (BodySource.draw n) limit held (waiting coming pulled messages) =
      (.error (.unread e), r') :=
  gather_decisive (draw_pull_error rfl rfl rfl hpull n) trivial

theorem gather_part (hpart : receipt.part = .ok (part, more)) :
    gather (BodySource.draw n) limit held (waiting (receipt :: coming) pulled messages) =
      gather (BodySource.draw n) limit held {
        channel := .client coming (pulled + 1)
        pending := part
        ended := !more
        messages := messages + 1 } :=
  gather_congr (draw_pull rfl rfl rfl (pull_part hpart coming pulled messages) rfl
    (Nat.lt_succ_self _) n)

theorem gather_part_over (hn : 0 < n) (hpart : receipt.part = .ok (part, more))
    (hheld : held ≤ limit) (hover : limit < held + part.length) (coming : List Receipt)
    (pulled messages : Nat) :
    ∃ observed r', limit < observed ∧ observed ≤ limit + n ∧
      r'.channel = .client coming (pulled + 1) ∧
      gather (BodySource.draw n) limit held (waiting (receipt :: coming) pulled messages) =
        (.error (.tooLarge limit observed), r') := by
  rw [gather_part hpart]
  obtain ⟨observed, rest, hlt, hle, hstop⟩ := gather_overflow hn
    (Reader.mk (.client coming (pulled + 1)) part (!more) (messages + 1) false) held rfl hheld hover
  exact ⟨observed, _, hlt, hle, rfl, hstop⟩

theorem gather_part_last (hn : 0 < n) (hpart : receipt.part = .ok (part, false))
    (hle : held + part.length ≤ limit) (coming : List Receipt) (pulled messages : Nat) :
    ∃ r', r'.channel = .client coming (pulled + 1) ∧
      gather (BodySource.draw n) limit held (waiting (receipt :: coming) pulled messages) =
        (.ok part, r') := by
  rw [gather_part hpart, gather_pending hn _ held rfl hle,
    gather_decisive (draw_ended rfl rfl rfl n) (.inl rfl)]
  exact ⟨_, rfl, congrArg (Prod.mk · _) (congrArg Except.ok (List.append_nil part))⟩

theorem gather_part_more (hn : 0 < n) (hpart : receipt.part = .ok (part, true))
    (hle : held + part.length ≤ limit) (coming : List Receipt) (pulled messages : Nat) :
    let rest := gather (BodySource.draw n) limit (held + part.length)
      (waiting coming (pulled + 1) (messages + 1))
    gather (BodySource.draw n) limit held (waiting (receipt :: coming) pulled messages) =
      (prepend part rest.1, rest.2) := by
  rw [gather_part hpart, gather_pending hn _ held rfl hle]
  rfl

/-- Gathering over a client consumes the receipts through the decisive one. -/
theorem gather_client (hn : 0 < n) (coming : List Receipt) (pulled messages held : Nat)
    (hheld : held ≤ limit) :
    let outcome := gather (BodySource.draw n) limit held (waiting coming pulled messages)
    ∃ k, outcome.2.channel = .client (coming.drop k) (pulled + k) ∧
      (Arrival.ofReceipts coming).Gathers limit n held outcome.1 k := by
  intro outcome
  induction coming generalizing pulled messages held with
  | nil =>
    have houtcome : outcome = (.error (.unread (.fault .disconnected)), _) := gather_broken rfl
    refine ⟨1, by rw [houtcome]; rfl, ?_⟩
    rw [houtcome]
    exact Arrival.gathers_broken hheld
  | cons receipt coming ih =>
    cases hpart : receipt.part with
    | error e =>
      obtain ⟨r', hpull, hchannel⟩ := pull_error hpart coming pulled messages
      have houtcome : outcome = (.error (.unread e), r') := gather_broken hpull
      refine ⟨1, by rw [houtcome, hchannel]; rfl, ?_⟩
      rw [houtcome, Arrival.ofReceipts, hpart]
      exact Arrival.gathers_broken hheld
    | ok brought =>
      obtain ⟨part, more⟩ := brought
      by_cases hover : limit < held + part.length
      · obtain ⟨observed, r', hlt, hle, hchannel, hstop⟩ :=
          gather_part_over hn hpart hheld hover coming pulled messages
        obtain ⟨a, ha⟩ := Arrival.ofReceipts_part coming hpart
        refine ⟨1, by simp only [outcome, hstop, hchannel]; rfl, ?_⟩
        simp only [outcome, hstop, ha]
        exact Arrival.gathers_tooLarge hheld hover hlt hle
      · have hwithin := Nat.not_lt.1 hover
        cases more with
        | false =>
          obtain ⟨r', hchannel, hlast⟩ :=
            gather_part_last hn hpart hwithin coming pulled messages
          refine ⟨1, by simp only [outcome, hlast, hchannel]; rfl, ?_⟩
          simp only [outcome, hlast, Arrival.ofReceipts, hpart]
          exact Arrival.gathers_last hwithin
        | true =>
          have hmore := gather_part_more hn hpart hwithin coming pulled messages
          obtain ⟨k, hchannel, hgathers⟩ := ih (pulled + 1) (messages + 1) _ hwithin
          refine ⟨k + 1, ?_, ?_⟩
          · simp only [outcome, hmore, hchannel, List.drop_succ_cons, Nat.add_assoc, Nat.add_comm 1]
          · simp only [outcome, hmore, Arrival.ofReceipts, hpart]
            exact hgathers.after hwithin

end Reader

namespace Arrival

/-- The outcome within the limit, where ordinary faults are reported as unreadable bodies. -/
def outcome (a : Arrival) : Except Failure Bytes :=
  match a.broken with
  | none => .ok a.parts.flatten
  | some (.fault cause) => .error (.body (.unreadable cause))
  | some e => .error e

/-- The outcome of buffering the arrival, and the number of receipts consumed. -/
def Settles (a : Arrival) (limits : Limits) (outcome : Except Failure Bytes) (pulled : Nat) :
    Prop :=
  if limits.maximum < a.total then
    a.Exceeds limits.maximum 0 pulled ∧
      ∃ observed, limits.maximum < observed ∧ observed ≤ limits.maximum + limits.chunk ∧
        outcome = .error (.body (.tooLarge limits.maximum observed))
  else pulled = a.received ∧ outcome = a.outcome

/-- The outcomes are equal up to the observed size of a body that is too large. -/
def Alike (outcome outcome' : Except Failure Bytes) : Prop :=
  outcome = outcome' ∨ ∃ limit observed observed',
    outcome = .error (.body (.tooLarge limit observed)) ∧
      outcome' = .error (.body (.tooLarge limit observed'))

variable {a a' : Arrival} {limits' : Limits} {outcome outcome' : Except Failure Bytes}
  {pulled pulled' : Nat}

theorem Gathers.settles {gathered : Except Shortfall Bytes}
    (h : a.Gathers limits.maximum limits.chunk 0 gathered pulled) :
    a.Settles limits (gathered.mapError Shortfall.reported) pulled := by
  rw [Gathers, Nat.zero_add] at h
  rw [Settles]
  by_cases htotal : limits.maximum < a.total
  · rw [if_pos htotal] at h ⊢
    obtain ⟨hleast, observed, hlt, hle, rfl⟩ := h
    exact ⟨hleast, observed, hlt, hle, rfl⟩
  · rw [if_neg htotal] at h ⊢
    obtain ⟨hpulled, rfl⟩ := h
    refine ⟨hpulled, ?_⟩
    rw [Arrival.outcome]
    rcases a.broken with _ | (_ | _ | _)
    · rfl
    · rfl
    · rfl
    · rfl

theorem Settles.pulled_eq (h : a.Settles limits outcome pulled)
    (h' : a.Settles limits' outcome' pulled') (hmaximum : limits'.maximum = limits.maximum) :
    pulled' = pulled := by
  rw [Settles] at h h'
  rw [hmaximum] at h'
  by_cases htotal : limits.maximum < a.total
  · rw [if_pos htotal] at h h'
    exact h'.1.unique h.1
  · rw [if_neg htotal] at h h'
    exact h'.1.trans h.1.symm

theorem Settles.alike (h : a.Settles limits outcome pulled)
    (h' : a'.Settles limits' outcome' pulled') (hmaximum : limits'.maximum = limits.maximum)
    (hbytes : a'.parts.flatten = a.parts.flatten) (hbroken : a'.broken = a.broken) :
    Alike outcome outcome' := by
  have htotal' : a'.total = a.total := congrArg List.length hbytes
  have hout : a'.outcome = a.outcome := by
    rw [Arrival.outcome, Arrival.outcome, hbytes, hbroken]
  rw [Settles] at h h'
  rw [hmaximum, htotal', hout] at h'
  by_cases htotal : limits.maximum < a.total
  · rw [if_pos htotal] at h h'
    obtain ⟨_, observed, _, _, rfl⟩ := h
    obtain ⟨_, observed', _, _, rfl⟩ := h'
    exact .inr ⟨_, _, _, rfl, rfl⟩
  · rw [if_neg htotal] at h h'
    exact .inl (h.2.trans h'.2.symm)

end Arrival

namespace Solo

theorem ensure_client (limits : Limits) (coming : List Receipt) (log : List Log.Entry) :
    let after := host.ensure
      ({ request := { limits }, source := { channel := .ofClient coming }, log } : Solo Reader)
    ∃ pulled, after.2.source.channel = .client (coming.drop pulled) pulled ∧
      (Arrival.ofReceipts coming).Settles limits after.1 pulled := by
  intro after
  obtain ⟨k, hchannel, hgathers⟩ :=
    Reader.gather_client limits.chunk_pos coming 0 0 0 (Nat.zero_le limits.maximum)
  obtain ⟨_, _, hsource⟩ := ensure_source limits (Reader.waiting coming 0 0) log
  refine ⟨k, ?_, ?_⟩
  · rw [Nat.zero_add] at hchannel
    exact (congrArg Reader.channel hsource).trans hchannel
  · exact (ensure_outcome limits (Reader.waiting coming 0 0) log) ▸ hgathers.settles

/-- The outcome and the receipts consumed depend on the arrival and on the maximum only. -/
theorem ensure_settles (limits : Limits) (coming : List Receipt) (log : List Log.Entry) :
    let after (limits : Limits) (coming : List Receipt) := host.ensure
      ({ request := { limits }, source := { channel := .ofClient coming }, log } : Solo Reader)
    let pulled (limits : Limits) (coming : List Receipt) :=
      (after limits coming).2.source.channel.pulled
    (Arrival.ofReceipts coming).Settles limits (after limits coming).1 (pulled limits coming) ∧
      ∀ other : Limits, other.maximum = limits.maximum →
        pulled other coming = pulled limits coming ∧
          ∀ coming' : List Receipt,
            (Arrival.ofReceipts coming').parts.flatten = (Arrival.ofReceipts coming).parts.flatten →
            (Arrival.ofReceipts coming').broken = (Arrival.ofReceipts coming).broken →
            Arrival.Alike (after limits coming).1 (after other coming').1 := by
  intro after pulled
  have hsettles (limits : Limits) (coming : List Receipt) :
      (Arrival.ofReceipts coming).Settles limits (after limits coming).1
        (pulled limits coming) := by
    obtain ⟨k, hchannel, h⟩ := ensure_client limits coming log
    have hpulled : pulled limits coming = k := congrArg Channel.pulled hchannel
    rwa [hpulled]
  refine ⟨hsettles limits coming, fun other hmaximum => ⟨?_, fun coming' hbytes hbroken => ?_⟩⟩
  · exact (hsettles limits coming).pulled_eq (hsettles other coming) hmaximum
  · exact (hsettles limits coming).alike (hsettles other coming') hmaximum hbytes hbroken

theorem ensure_settles_split :
    let after (limits : Limits) (coming : List Receipt) := (host.ensure
      ({ request := { limits }, source := { channel := .ofClient coming } } : Solo Reader)).1
    Arrival.Alike
      (after ⟨10, 4, by decide⟩ [.message (.part [1, 2] true), .message (.part [3] false)])
      (after ⟨10, 1, by decide⟩ [.message (.part [1, 2, 3] false)]) :=
  ((ensure_settles ⟨10, 4, by decide⟩
    [.message (.part [1, 2] true), .message (.part [3] false)] []).2 ⟨10, 1, by decide⟩ rfl).2
      [.message (.part [1, 2, 3] false)] rfl rfl

/-- A body error raised by the client is stored unchanged. -/
theorem ensure_refused :
    let coming : List Receipt := [.failure (.body (.refused "x"))]
    let after := host.ensure ({
      request := { limits := ⟨10, 4, by decide⟩ }
      source := { channel := .ofClient coming } } : Solo Reader)
    (Arrival.ofReceipts coming).total ≤ 10 ∧ after.1 = .error (.body (.refused "x")) ∧
      ∀ cause, after.1 ≠ .error (.body (.unreadable cause)) := by
  intro coming after
  obtain ⟨_, _, hsettles⟩ := ensure_client ⟨10, 4, by decide⟩ coming []
  have hout : after.1 = .error (.body (.refused "x")) := hsettles.2
  exact ⟨by decide, hout, fun cause h => by rw [hout] at h; cases h⟩

end Solo

end DigestGate
