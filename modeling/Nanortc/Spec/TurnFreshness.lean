import Mathlib
import Nanortc.Spec.TurnAgreement

/-!
# Freshness of channels

A TURN client on a clock that keeps the time of the last successful ChannelBind response of every
channel number. A refresh begins nine minutes after it, and its seven transmissions take less than
the minute that is left, so a bound channel is fresh as long as its refreshes are answered.

## Key results

- `turnHandleResponse_eq`: a response is ignored, taken for a stale nonce, or dispatched
- `FreshEntry`: how long a bound entry has been confirmed, by what its request is up to
- `FreshChannels.handleResponse`, `FreshChannels.wait`, `FreshClock.step`: calls and the clock keep bound
  entries fresh
- `channel_fresh`: in every run that polls timers when they are due and loses no refresh for good
-/

namespace Nanortc.Spec

open Nanortc.ForStd Nanortc.Native

/-! ### Responses that are accepted -/

/-- The message, if `turn_handle_response` does not ignore it. -/
def turnAccepted (crypto : CryptoProvider) (turn : NanoTurn) (data : List UInt8) :
    Option StunMsg :=
  match stunParse data with
  | .error _ => none
  | .ok msg =>
    let type := TurnMsgType.ofType msg.type
    let allocation := type == .allocateResponse || type == .allocateError
    let refresh := type == .refreshResponse || type == .refreshError
    let perm := turnAnsweredPermission turn msg
    let chan := turnAnsweredChannel turn msg
    let authenticated := (turnTxidMatch turn msg && turn.transactionAuthenticated) ||
      perm.isSome || chan.isSome
    let error := type == .allocateError || type == .refreshError ||
      type == .channelBindError || type == .permissionError
    let challenge := error && (msg.errorCode == 401 || msg.errorCode == 438)
    if turnTxidMatch turn msg ∧ ((turn.transaction = .allocate ∧ !allocation) ∨
        (turn.transaction = .refresh ∧ !refresh)) then none
    else if !turnTxidMatch turn msg ∧ perm = none ∧ chan = none then none
    else if msg.hasFingerprint ∧ stunVerifyFingerprint data ≠ .ok then none
    else if authenticated ∧ (msg.hasIntegrity ∨ !challenge) ∧
        stunVerifyIntegrity crypto data msg turn.hmacKey ≠ .ok then none
    else some msg

/-- The message is an error with code 438. -/
def IsStaleNonce (msg : StunMsg) : Prop :=
  let type := TurnMsgType.ofType msg.type
  (type == .allocateError || type == .refreshError || type == .channelBindError ||
    type == .permissionError) = true ∧ msg.errorCode = 438

instance (msg : StunMsg) : Decidable (IsStaleNonce msg) := inferInstanceAs (Decidable (_ ∧ _))

/-- What a response makes of the client. -/
theorem turnHandleResponse_eq (crypto : CryptoProvider) (turn : NanoTurn) (nowMs : UInt32)
    (data : List UInt8) :
    (turnHandleResponse crypto turn nowMs data).1 =
      match turnAccepted crypto turn data with
      | none => turn
      | some msg =>
        let perm := turnAnsweredPermission turn msg
        let chan := turnAnsweredChannel turn msg
        if IsStaleNonce msg then
          (turnHandleStaleNonce turn nowMs msg (turnTxidMatch turn msg)
            ((turnTxidMatch turn msg && turn.transactionAuthenticated) || perm.isSome ||
              chan.isSome) perm chan).1
        else (turnDispatchResponse crypto turn nowMs msg perm chan).1 := by
  unfold turnHandleResponse turnAccepted turnTxidMatch
  cases hparse : stunParse data with
  | error e => rfl
  | ok msg =>
    dsimp only
    split
    · rfl
    split
    · rfl
    split
    · rfl
    split
    · rfl
    exact apply_ite Prod.fst (IsStaleNonce msg) _ _

/-- An accepted message answers the transaction or an entry of a table. -/
theorem turnAccepted_some {crypto : CryptoProvider} {turn : NanoTurn} {data : List UInt8}
    {msg : StunMsg} (h : turnAccepted crypto turn data = some msg) :
    turnTxidMatch turn msg = true ∨ (turnAnsweredPermission turn msg).isSome ∨
      (turnAnsweredChannel turn msg).isSome := by
  unfold turnAccepted at h
  split at h
  · exact nomatch h
  rename_i parsed _
  dsimp only at h
  split at h
  · exact nomatch h
  split at h
  · exact nomatch h
  rename_i hmine
  split at h
  · exact nomatch h
  split at h
  · exact nomatch h
  obtain rfl := Option.some.inj h
  by_cases hmatch : turnTxidMatch turn parsed = true
  · exact .inl hmatch
  right
  rw [Option.isSome_iff_ne_none, Option.isSome_iff_ne_none, ← not_and_or]
  exact fun hnone => hmine ⟨by rw [Bool.eq_false_iff.mpr hmatch]; rfl, hnone⟩

/-! ### Clocked runs -/

/-- A client at a time in milliseconds, with the time of the last successful ChannelBind response
for each channel number. -/
structure TurnClock where
  turn : NanoTurn
  time : Nat
  confirmed : UInt16 → Option Nat

/-- The 32-bit clock that the client sees. -/
def TurnClock.nowMs (s : TurnClock) : UInt32 := UInt32.ofNat s.time

/-- The same call at another time. -/
def TurnInput.at (nowMs : UInt32) : TurnInput → TurnInput
  | .handleResponse _ data => .handleResponse nowMs data
  | .generateRefresh _ random bufLen => .generateRefresh nowMs random bufLen
  | .generateRetransmit _ random bufLen => .generateRetransmit nowMs random bufLen
  | .pollOutput _ random bufLen => .pollOutput nowMs random bufLen
  | i => i

/-- The channel number that an accepted message confirms, if it is a ChannelBind success. -/
def turnMessageConfirms (turn : NanoTurn) (msg : StunMsg) : Option UInt16 :=
  if TurnMsgType.ofType msg.type = .channelBindResponse then
    (turnAnsweredChannel turn msg).map fun i => (turn.channels.getD i default).channel
  else none

/-- The channel number that a call confirms. -/
def turnConfirms (crypto : CryptoProvider) (turn : NanoTurn) : TurnInput → Option UInt16
  | .handleResponse _ data =>
    (turnAccepted crypto turn data).bind (turnMessageConfirms turn)
  | _ => none

/-- A call, or time that passes. -/
inductive ClockInput where
  | call (i : TurnInput)
  | wait (ms : Nat)

/-- One step on the clock. -/
def clockStep (crypto : CryptoProvider) (s : TurnClock) : ClockInput → TurnClock
  | .wait ms => { s with time := s.time + ms }
  | .call i =>
    { s with
      turn := turnStep crypto s.turn (i.at s.nowMs)
      confirmed := match turnConfirms crypto s.turn i with
        | some channel => Function.update s.confirmed channel (some s.time)
        | none => s.confirmed }

/-- Timers are polled when they are due: no time passes beyond the next timeout, or that is zero and
a poll has nothing to show for it. -/
def TimersPolled (crypto : CryptoProvider) (s : TurnClock) : ClockInput → Prop
  | .wait ms => ms ≤ (turnNextTimeoutMs s.turn s.nowMs).toNat ∨
    (turnNextTimeoutMs s.turn s.nowMs = 0 ∧ ∃ random bufLen, Supplied random bufLen ∧
      ¬ PollActs crypto s.turn s.nowMs random bufLen)
  | .call _ => True

/-- The entry is bound, and its request has run out of transmissions. -/
def RefreshExhausted (nowMs : UInt32) (c : TurnChannel) : Prop :=
  c.bound = true ∧ turnDue nowMs c.pending c.deadlineMs c.transmissions = .expire

/-- A step that gives no refresh of a bound channel up: time passes while the client holds its
allocation and no stranded request is in the way, no ChannelBind error is accepted but a stale nonce,
and no request runs out of transmissions. -/
def KeepsRefreshing (crypto : CryptoProvider) (s : TurnClock) : ClockInput → Prop
  | .wait _ => (∃ c ∈ s.turn.channels, c.bound = true) →
    s.turn.configured = true ∧ s.turn.state = .allocated ∧
      (TurnStranded s.turn s.nowMs → TurnServed s.turn s.nowMs)
  | .call (.handleResponse _ data) => ∀ msg ∈ turnAccepted crypto s.turn data,
    TurnMsgType.ofType msg.type = .channelBindError → msg.errorCode ≠ 438 →
    ∀ i ∈ turnAnsweredChannel s.turn msg, (s.turn.channels.getD i default).bound = false
  | .call (.generateRetransmit _ _ _) | .call (.pollOutput _ _ _) =>
    ∀ c ∈ s.turn.channels, ¬ RefreshExhausted s.nowMs c
  | .call _ => True

instance (crypto : CryptoProvider) (s : TurnClock) (i : ClockInput) :
    Decidable (KeepsRefreshing crypto s i) :=
  match i with
  | .wait _ => inferInstanceAs (Decidable ((∃ c ∈ s.turn.channels, _) → _ ∧ _ ∧ _))
  | .call (.handleResponse _ data) =>
    match h : turnAccepted crypto s.turn data with
    | none => isTrue fun _ hmsg => nomatch h.symm.trans hmsg
    | some msg =>
      decidable_of_iff (TurnMsgType.ofType msg.type = .channelBindError → msg.errorCode ≠ 438 →
        ∀ i ∈ turnAnsweredChannel s.turn msg, (s.turn.channels.getD i default).bound = false)
        ⟨fun hkeep _ hmsg => Option.some.inj (h.symm.trans hmsg) ▸ hkeep, fun hkeep => hkeep msg h⟩
  | .call (.generateRetransmit _ _ _) | .call (.pollOutput _ _ _) =>
    inferInstanceAs (Decidable (∀ c ∈ s.turn.channels, ¬ (_ ∧ _)))
  | .call (.configure _ _ _) | .call (.startAllocate _ _) | .call (.generateRefresh _ _ _)
  | .call (.createPermission _ _ _) | .call (.channelBind _ _ _) | .call (.deallocate _ _)
  | .call .resetPeerState => instDecidableTrue

/-! ### Fresh entries -/

/-- The lifetime of a binding. -/
def turnChannelLifetimeMs : Nat := 600000

/-- A bound entry was confirmed at time `t`, and its timer runs out at `due`: by then, and with a
backoff of at most 8001 ms for every transmission made or begun, the refresh that starts after 540 s
is still within the lifetime. -/
structure FreshSince (time t due : Nat) (c : TurnChannel) : Prop where
  past : t ≤ time
  ahead : time ≤ due
  bound : due + (if c.pending = .waiting ∧ c.deadlineMs = 0 then 8001 else 0) ≤
    t + 540001 + if c.pending = .none then 0 else 8001 * c.transmissions
  few : c.pending ≠ .none → c.transmissions ≤ turnMaxTransmissions
  armed : c.deadlineMs ≠ 0 → c.deadlineMs = UInt32.ofNat due
  timed : c.pending = .none → c.deadlineMs ≠ 0

/-- A bound entry was confirmed within its lifetime, and its timer will see to its refresh. -/
def FreshEntry (time : Nat) (confirmed : UInt16 → Option Nat) (c : TurnChannel) : Prop :=
  c.bound = true → ∃ t due, confirmed c.channel = some t ∧ FreshSince time t due c

/-- Every bound entry of the table is fresh. -/
def FreshChannels (time : Nat) (confirmed : UInt16 → Option Nat) (cs : List TurnChannel) : Prop :=
  ∀ c ∈ cs, FreshEntry time confirmed c

/-- A deadline on the clock is a moment in time, a millisecond late where the clock is zero. -/
theorem nanoTimeDeadline_ofNat (time : Nat) (delayMs : UInt32) :
    ∃ due, nanoTimeDeadline (UInt32.ofNat time) delayMs = UInt32.ofNat due ∧
      time + delayMs.toNat ≤ due ∧ due ≤ time + delayMs.toNat + 1 := by
  unfold nanoTimeDeadline
  have hsum : UInt32.ofNat time + delayMs = UInt32.ofNat (time + delayMs.toNat) := by
    rw [UInt32.ofNat_add, UInt32.ofNat_toNat]
  dsimp only
  rw [hsum]
  split
  · rename_i hzero
    refine ⟨time + delayMs.toNat + 1, ?_, Nat.le_succ _, Nat.le_refl _⟩
    rw [UInt32.ofNat_add, hzero]
    rfl
  · exact ⟨_, rfl, Nat.le_refl _, Nat.le_succ _⟩

theorem FreshSince.lifetime {time t due : Nat} {c : TurnChannel} (h : FreshSince time t due c) :
    time < t + turnChannelLifetimeMs := by
  have hahead := h.ahead
  have hbound := h.bound
  have hfew := h.few
  unfold turnChannelLifetimeMs
  unfold turnMaxTransmissions at hfew
  by_cases hnone : c.pending = .none
  · rw [if_pos hnone] at hbound
    omega
  · rw [if_neg hnone] at hbound
    have := hfew hnone
    omega

section

variable {time t due : Nat} {c : TurnChannel}

/-- A request of a fresh entry. -/
theorem FreshSince.refresh (h : FreshSince time t due c) (hidle : c.pending = .none)
    (port : UInt16) (txid : List UInt8) :
    FreshSince time t due { c with
      port := port, txid := txid, pending := .waiting, deadlineMs := 0, transmissions := 1 } where
  past := h.past
  ahead := h.ahead
  bound := by
    have hbound := h.bound
    rw [if_pos hidle] at hbound
    show due + 8001 ≤ t + 540001 + 8001 * 1
    omega
  few _ := by
    show 1 ≤ turnMaxTransmissions
    decide
  armed hne := absurd rfl hne
  timed := nofun

theorem FreshSince.relabel (h : FreshSince time t due c) (port : UInt16) (txid : List UInt8) :
    FreshSince time t due { c with port := port, txid := txid } :=
  ⟨h.past, h.ahead, h.bound, h.few, h.armed, h.timed⟩

theorem FreshSince.renew (h : FreshSince time t due c) :
    FreshSince time t due { c with pending := c.pending.renew } := by
  cases hpending : c.pending with
  | none =>
    have hsame : ({ c with pending := TurnRequest.renew .none } : TurnChannel) = c := by
      rw [← hpending]
      cases c
      simp only at hpending
      rw [hpending]
      rfl
    rw [hsame]
    exact h
  | waiting =>
    have hbound := h.bound
    rw [hpending] at hbound
    refine ⟨h.past, h.ahead, ?_, fun _ => h.few (by rw [hpending]; exact nofun), h.armed, nofun⟩
    show due + 0 ≤ t + 540001 + 8001 * c.transmissions
    have hbound : due + (if TurnRequest.waiting = .waiting ∧ c.deadlineMs = 0 then 8001 else 0) ≤
      t + 540001 + 8001 * c.transmissions := hbound
    omega
  | reauth =>
    have hbound := h.bound
    rw [hpending] at hbound
    exact ⟨h.past, h.ahead, hbound, fun _ => h.few (by rw [hpending]; exact nofun), h.armed, nofun⟩

/-- A request that is challenged is due now. -/
theorem FreshSince.challenge (h : FreshSince time t due c) (hreauth : c.pending = .reauth) :
    FreshSince time t time { c with deadlineMs := UInt32.ofNat time } where
  past := h.past
  ahead := Nat.le_refl time
  bound := by
    have hbound := h.bound
    have hahead := h.ahead
    rw [hreauth] at hbound ⊢
    show time + 0 ≤ t + 540001 + 8001 * c.transmissions
    have hbound : due + 0 ≤ t + 540001 + 8001 * c.transmissions := hbound
    omega
  few := h.few
  armed _ := rfl
  timed hnone := by
    rw [hreauth] at hnone
    exact nomatch hnone

/-- A request whose timer is started. -/
theorem FreshSince.arm (h : FreshSince time t due c) (hwaiting : c.pending = .waiting)
    (hzero : c.deadlineMs = 0) :
    ∃ due', FreshSince time t due' { c with
      deadlineMs := nanoTimeDeadline (UInt32.ofNat time) (turnRetryDelayMs c.transmissions) } := by
  obtain ⟨due', heq, hle, hge⟩ :=
    nanoTimeDeadline_ofNat time (turnRetryDelayMs c.transmissions)
  have hdelay := turnRetryDelayMs_bounds c.transmissions
  have hne := (turnRetry_ahead (UInt32.ofNat time) c.transmissions).1
  refine ⟨due', h.past, by omega, ?_, h.few, fun _ => heq, fun _ => hne⟩
  have hbound := h.bound
  have hahead := h.ahead
  rw [if_pos ⟨hwaiting, hzero⟩, hwaiting] at hbound
  have hbound : due + 8001 ≤ t + 540001 + 8001 * c.transmissions := hbound
  rw [if_neg (fun hand => hne hand.2), hwaiting]
  show due' + 0 ≤ t + 540001 + 8001 * c.transmissions
  omega

/-- A request that is sent again. -/
theorem FreshSince.resend (h : FreshSince time t due c) (hpending : c.pending ≠ .none)
    (hleft : c.transmissions < turnMaxTransmissions) (txid : List UInt8) :
    ∃ due', FreshSince time t due' { c with
      txid := txid
      pending := .waiting
      transmissions := c.transmissions + 1
      deadlineMs :=
        nanoTimeDeadline (UInt32.ofNat time) (turnRetryDelayMs (c.transmissions + 1)) } := by
  obtain ⟨due', heq, hle, hge⟩ :=
    nanoTimeDeadline_ofNat time (turnRetryDelayMs (c.transmissions + 1))
  have hdelay := turnRetryDelayMs_bounds (c.transmissions + 1)
  have hne := (turnRetry_ahead (UInt32.ofNat time) (c.transmissions + 1)).1
  refine ⟨due', h.past, by omega, ?_, fun _ => hleft, fun _ => heq, nofun⟩
  have hbound := h.bound
  have hahead := h.ahead
  rw [if_neg hpending] at hbound
  rw [if_neg (fun hand => hne hand.2)]
  show due' + 0 ≤ t + 540001 + 8001 * (c.transmissions + 1)
  omega

end

/-- A binding confirmed now. -/
theorem freshSince_confirmed (time : Nat) (c : TurnChannel) :
    ∃ due, FreshSince time time due { c with
      pending := .none
      bound := true
      deadlineMs := nanoTimeDeadline (UInt32.ofNat time) turnChannelRefreshMs } := by
  have hrefresh : turnChannelRefreshMs.toNat = 540000 := rfl
  obtain ⟨due, heq, hle, hge⟩ := nanoTimeDeadline_ofNat time turnChannelRefreshMs
  have hne : nanoTimeDeadline (UInt32.ofNat time) turnChannelRefreshMs ≠ 0 :=
    And.left (nanoTimeDeadline_ahead _ (by omega) (by omega))
  generalize nanoTimeDeadline (UInt32.ofNat time) turnChannelRefreshMs = deadlineMs at *
  refine ⟨due, Nat.le_refl time, by omega, ?_, fun h => absurd rfl h, fun _ => heq, fun _ => hne⟩
  show due + 0 ≤ time + 540001 + 0
  omega

/-! ### Calls -/

section

variable {time : Nat} {confirmed : UInt16 → Option Nat} {turn : NanoTurn}

theorem FreshChannels.set {cs : List TurnChannel} (h : FreshChannels time confirmed cs) (i : Nat)
    {c : TurnChannel} (hc : FreshEntry time confirmed c) :
    FreshChannels time confirmed (cs.set i c) := by
  intro d hd
  rcases List.mem_or_eq_of_mem_set hd with hd | rfl
  · exact h d hd
  · exact hc

/-- The entry at an index, the default one included: that is not bound. -/
theorem FreshChannels.getD {cs : List TurnChannel} (h : FreshChannels time confirmed cs) (i : Nat) :
    FreshEntry time confirmed (cs.getD i default) := by
  rw [List.getD_eq_getElem?_getD]
  cases hi : cs[i]? with
  | none => exact fun hbound => nomatch hbound
  | some c => exact h c (List.mem_of_getElem? hi)

theorem FreshChannels.storeNonce (h : FreshChannels time confirmed turn.channels) (nonce : List UInt8) :
    FreshChannels time confirmed (turnStoreNonce turn nonce).channels := by
  intro d hd
  obtain ⟨c, hc, rfl⟩ := List.mem_map.mp hd
  intro hbound
  obtain ⟨t, due, hconfirmed, hsince⟩ := h c hc hbound
  exact ⟨t, due, hconfirmed, hsince.renew⟩

/-- The channel loop, where no bound entry has run out of transmissions. -/
theorem FreshChannels.retransmit (crypto : CryptoProvider) (random : Option (List UInt8))
    (bufLen : Nat) {cs : List TurnChannel} (h : FreshChannels time confirmed cs)
    (hkeep : ∀ c ∈ cs, ¬ RefreshExhausted (UInt32.ofNat time) c) :
    FreshChannels time confirmed
      (turnRetransmitChannels crypto turn (UInt32.ofNat time) random bufLen cs).1 := by
  induction cs with
  | nil => exact h
  | cons c cs ih =>
    have hc := h c List.mem_cons_self
    have hrest : FreshChannels time confirmed cs := fun d hd => h d (List.mem_cons_of_mem c hd)
    have htail := ih hrest fun d hd => hkeep d (List.mem_cons_of_mem c hd)
    have hcons {d : TurnChannel} {ds : List TurnChannel} (hd : FreshEntry time confirmed d)
        (hds : FreshChannels time confirmed ds) : FreshChannels time confirmed (d :: ds) := by
      intro e he
      rcases List.mem_cons.mp he with rfl | he
      · exact hd
      · exact hds e he
    have hcases := turnDue_cases (UInt32.ofNat time) c.pending c.deadlineMs c.transmissions
    unfold turnRetransmitChannels
    dsimp only
    cases hdue : turnDue (UInt32.ofNat time) c.pending c.deadlineMs c.transmissions with
    | skip => exact hcons hc htail
    | arm =>
      rw [hdue] at hcases
      refine hcons (fun hbound => ?_) htail
      obtain ⟨t, due, hconfirmed, hsince⟩ := hc hbound
      obtain ⟨due', harmed⟩ := hsince.arm hcases.1 hcases.2
      exact ⟨t, due', hconfirmed, harmed⟩
    | expire =>
      -- an entry that is not bound may give up
      refine hcons (fun hbound => ?_) htail
      exact absurd ⟨hbound, hdue⟩ (hkeep c List.mem_cons_self)
    | send =>
      rw [hdue] at hcases
      dsimp only
      cases turnRetransmitTxid c.pending c.txid random with
      | none => exact h
      | some txid =>
        dsimp only
        cases turnBuildChannelBind crypto turn c txid bufLen with
        | error e => exact h
        | ok out =>
          refine hcons (fun hbound => ?_) hrest
          obtain ⟨t, due, hconfirmed, hsince⟩ := hc hbound
          obtain ⟨due', hsent⟩ := hsince.resend hcases.1 hcases.2.2.2 txid
          exact ⟨t, due', hconfirmed, hsent⟩

theorem FreshChannels.tables (crypto : CryptoProvider) (random : Option (List UInt8)) (bufLen : Nat)
    (h : FreshChannels time confirmed turn.channels)
    (hkeep : ∀ c ∈ turn.channels, ¬ RefreshExhausted (UInt32.ofNat time) c) :
    FreshChannels time confirmed
      (turnRetransmitTables crypto turn (UInt32.ofNat time) random bufLen).1.channels := by
  unfold turnRetransmitTables
  dsimp only
  split
  · exact h
  · exact h.retransmit crypto random bufLen hkeep

theorem FreshChannels.generateRetransmit (crypto : CryptoProvider) (random : Option (List UInt8))
    (bufLen : Nat) (h : FreshChannels time confirmed turn.channels)
    (hkeep : ∀ c ∈ turn.channels, ¬ RefreshExhausted (UInt32.ofNat time) c) :
    FreshChannels time confirmed
      (turnGenerateRetransmit crypto turn (UInt32.ofNat time) random bufLen).1.channels := by
  have htables := h.tables crypto random bufLen hkeep
  unfold turnGenerateRetransmit
  split
  · exact htables
  split
  · exact @FreshChannels.tables time confirmed { turn with transactionRetryAtMs := _ } crypto random
      bufLen h hkeep
  split
  · exact htables
  split
  · exact h
  split
  · exact h
  · dsimp only
    split
    · exact h
    · exact h

theorem FreshChannels.channelBind (crypto : CryptoProvider) (peer : NanortcAddr)
    (random : Option (List UInt8)) (bufLen : Nat) (h : FreshChannels time confirmed turn.channels) :
    FreshChannels time confirmed
      (turnChannelBind crypto turn peer random bufLen).1.channels := by
  unfold turnChannelBind
  split
  · exact h
  split
  · exact h
  split
  · split
    · exact h
    split
    · exact h
    cases random with
    | none => exact h
    | some txid =>
      dsimp only
      split
      · exact h
      · -- a new entry is not bound
        intro d hd
        rcases List.mem_append.mp hd with hd | hd
        · exact h d hd
        · obtain rfl := List.mem_singleton.mp hd
          exact fun hbound => nomatch hbound
  · rename_i i _
    have hc := h.getD i
    dsimp only
    split
    · exact h
    rename_i hidle
    have hidle := not_not.mp hidle
    cases random with
    | none => exact h
    | some txid =>
      dsimp only
      split
      · refine h.set i fun hbound => ?_
        obtain ⟨t, due, hconfirmed, hsince⟩ := hc hbound
        exact ⟨t, due, hconfirmed, hsince.relabel peer.port txid⟩
      · refine h.set i fun hbound => ?_
        obtain ⟨t, due, hconfirmed, hsince⟩ := hc hbound
        exact ⟨t, due, hconfirmed, hsince.refresh hidle peer.port txid⟩

theorem turnStartAllocate_channels (crypto : CryptoProvider) (turn : NanoTurn)
    (random : Option (List UInt8)) (bufLen : Nat) :
    (turnStartAllocate crypto turn random bufLen).1.channels = turn.channels := by
  unfold turnStartAllocate
  split
  · rfl
  split
  · rfl
  cases random with
  | none => rfl
  | some txid =>
    dsimp only
    split <;> rfl

theorem turnGenerateRefresh_channels (crypto : CryptoProvider) (turn : NanoTurn) (nowMs : UInt32)
    (random : Option (List UInt8)) (bufLen : Nat) :
    (turnGenerateRefresh crypto turn nowMs random bufLen).1.channels = turn.channels := by
  unfold turnGenerateRefresh
  iterate 3
    split
    · rfl
  cases random with
  | none => rfl
  | some txid =>
    dsimp only
    split <;> rfl

theorem turnCreatePermission_channels (crypto : CryptoProvider) (turn : NanoTurn)
    (peer : NanortcAddr) (random : Option (List UInt8)) (bufLen : Nat) :
    (turnCreatePermission crypto turn peer random bufLen).1.channels = turn.channels := by
  unfold turnCreatePermission
  split
  · rfl
  split
  · rfl
  dsimp only
  split
  · rfl
  split
  · rfl
  cases random with
  | none => rfl
  | some txid =>
    dsimp only
    split <;> rfl

theorem FreshChannels.doWork (crypto : CryptoProvider) (nowMs : UInt32) (work : TurnWork)
    (random : Option (List UInt8)) (bufLen : Nat) (h : FreshChannels time confirmed turn.channels) :
    FreshChannels time confirmed
      (turnDoWork crypto turn nowMs work random bufLen).1.channels := by
  unfold turnDoWork
  cases work.type with
  | none => exact h
  | retransmit => exact h
  | allocate =>
    rw [turnStartAllocate_channels]
    exact h
  | refresh =>
    rw [turnGenerateRefresh_channels]
    exact h
  | permission =>
    rw [turnCreatePermission_channels]
    exact h
  | channel => exact FreshChannels.channelBind crypto _ random bufLen h

theorem FreshChannels.pollOutput (crypto : CryptoProvider) (random : Option (List UInt8))
    (bufLen : Nat) (h : FreshChannels time confirmed turn.channels)
    (hkeep : ∀ c ∈ turn.channels, ¬ RefreshExhausted (UInt32.ofNat time) c) :
    FreshChannels time confirmed
      (turnPollOutput crypto turn (UInt32.ofNat time) random bufLen).1.channels := by
  unfold turnPollOutput
  dsimp only
  split
  · exact h
  split
  · have hretx := h.generateRetransmit crypto random bufLen hkeep
    revert hretx
    generalize turnGenerateRetransmit crypto turn (UInt32.ofNat time) random bufLen = r
    intro hretx
    split
    · split
      · exact hretx
      · exact FreshChannels.doWork crypto _ _ random bufLen hretx
    · exact hretx
  · exact FreshChannels.doWork crypto _ _ random bufLen h

end

/-! ### Responses -/

/-- A later confirmation is as good. -/
theorem FreshSince.later {time t due : Nat} {c : TurnChannel} (h : FreshSince time t due c) :
    FreshSince time time due c := by
  have hpast := h.past
  have hbound := h.bound
  exact ⟨Nat.le_refl time, h.ahead, by omega, h.few, h.armed, h.timed⟩

section

variable {time : Nat} {confirmed : UInt16 → Option Nat} {turn : NanoTurn}

/-- The channel numbers confirmed so far, and one confirmed now. -/
def confirmedNow (time : Nat) (confirmed : UInt16 → Option Nat) (channel : Option UInt16) :
    UInt16 → Option Nat :=
  match channel with
  | some channel => Function.update confirmed channel (some time)
  | none => confirmed

theorem FreshEntry.confirm {c : TurnChannel} (h : FreshEntry time confirmed c)
    (channel : Option UInt16) : FreshEntry time (confirmedNow time confirmed channel) c := by
  intro hbound
  obtain ⟨t, due, hconfirmed, hsince⟩ := h hbound
  cases channel with
  | none => exact ⟨t, due, hconfirmed, hsince⟩
  | some channel =>
    unfold confirmedNow
    by_cases hsame : c.channel = channel
    · refine ⟨time, due, ?_, hsince.later⟩
      rw [hsame]
      exact Function.update_self ..
    · refine ⟨t, due, ?_, hsince⟩
      rw [← hconfirmed]
      exact Function.update_of_ne hsame ..

theorem FreshChannels.stale (h : FreshChannels time confirmed turn.channels) (msg : StunMsg)
    (txidMatch authenticated : Bool) (perm : Option Nat)
    (hmine : txidMatch = true ∨ perm.isSome ∨ (turnAnsweredChannel turn msg).isSome) :
    FreshChannels time confirmed
      (turnHandleStaleNonce turn (UInt32.ofNat time) msg txidMatch authenticated perm
        (turnAnsweredChannel turn msg)).1.channels := by
  unfold turnHandleStaleNonce
  dsimp only
  generalize (if txidMatch then turn.transactionTransmissions else _ : Nat) = transmissions
  cases msg.nonce with
  | none => exact h
  | some nonce =>
    have hstore := h.storeNonce nonce
    dsimp only
    split
    · exact h
    split
    · exact hstore
    rename_i hmatch
    cases perm with
    | some i => exact hstore
    | none =>
      cases hchan : turnAnsweredChannel turn msg with
      | none =>
        rw [hchan] at hmine
        rcases hmine with hm | hm | hm
        · exact absurd hm hmatch
        · exact nomatch hm
        · exact nomatch hm
      | some i =>
        -- the answered request was waiting
        obtain ⟨-, c, hi, hwaiting, -⟩ := turnAnsweredChannel_some hchan
        have hget : (turnStoreNonce turn nonce).channels.getD i default =
            { c with pending := .reauth } := by
          show (turn.channels.map _).getD i default = _
          rw [List.getD_eq_getElem?_getD, List.getElem?_map, hi]
          show ({ c with pending := c.pending.renew } : TurnChannel) = _
          rw [hwaiting]
          rfl
        have hc := FreshChannels.getD hstore i
        dsimp only
        rw [Option.getD_some]
        rw [hget] at hc ⊢
        refine FreshChannels.set hstore i fun hbound => ?_
        obtain ⟨t, due, hconfirmed, hsince⟩ := hc hbound
        exact ⟨t, time, hconfirmed, hsince.challenge rfl⟩

/-- An answer to a channel's request confirms it, or refuses one that is not bound. -/
theorem FreshChannels.dispatch (crypto : CryptoProvider)
    (h : FreshChannels time confirmed turn.channels) (msg : StunMsg) (perm chan : Option Nat)
    (hkeep : TurnMsgType.ofType msg.type = .channelBindError → ∀ i ∈ chan,
      (turn.channels.getD i default).bound = false) :
    FreshChannels time
      (confirmedNow time confirmed (if TurnMsgType.ofType msg.type = .channelBindResponse then
        chan.map fun i => (turn.channels.getD i default).channel else none))
      (turnDispatchResponse crypto turn (UInt32.ofNat time) msg perm chan).1.channels := by
  unfold turnDispatchResponse
  dsimp only
  cases htype : TurnMsgType.ofType msg.type with
  | allocateResponse =>
    show FreshChannels time confirmed (if msg.relayed.family = 0 then (turn, Rc.protocol) else
      (turnClearTransaction { turn with
        relay := msg.relayed
        lifetimeS := _
        refreshAtMs := _
        state := .allocated }, Rc.ok)).1.channels
    split
    · exact h
    · exact h
  | allocateError =>
    show FreshChannels time confirmed (turnHandleAllocateError crypto turn msg).1.channels
    unfold turnHandleAllocateError
    split
    · split
      · exact h
      · cases msg.realm with
        | none => exact h
        | some realm =>
          cases msg.nonce with
          | none => exact h
          | some nonce => exact h.storeNonce nonce
    · exact h
  | refreshResponse => exact h
  | refreshError => exact h
  | permissionResponse => cases perm <;> exact h
  | permissionError =>
    cases perm with
    | none => exact h
    | some i =>
      show FreshChannels time confirmed
        (turnHandlePermissionError turn (UInt32.ofNat time) msg i _).1.channels
      unfold turnHandlePermissionError
      dsimp only
      split
      · exact h
      split
      · exact h
      · exact h
  | channelBindResponse =>
    cases chan with
    | none => exact h
    | some i =>
      have hold : FreshChannels time (confirmedNow time confirmed
          (some (turn.channels.getD i default).channel)) turn.channels :=
        fun c hc => (h c hc).confirm _
      refine FreshChannels.set hold i fun _ => ?_
      obtain ⟨due, hsince⟩ := freshSince_confirmed time (turn.channels.getD i default)
      exact ⟨time, due, Function.update_self .., hsince⟩
  | channelBindError =>
    cases chan with
    | none => exact h
    | some i =>
      refine FreshChannels.set h i fun hbound => ?_
      rw [htype] at hkeep
      have hfree := hkeep rfl i rfl
      exact absurd (hfree.symm.trans hbound) Bool.false_ne_true
  | other => exact h

theorem turnMessageConfirms_stale {msg : StunMsg} (h : IsStaleNonce msg) (turn : NanoTurn) :
    turnMessageConfirms turn msg = none := by
  unfold turnMessageConfirms
  rw [if_neg]
  intro htype
  have herror := h.1
  rw [htype] at herror
  exact nomatch herror

theorem FreshChannels.handleResponse (crypto : CryptoProvider) (data : List UInt8)
    (h : FreshChannels time confirmed turn.channels)
    (hkeep : ∀ msg ∈ turnAccepted crypto turn data,
      TurnMsgType.ofType msg.type = .channelBindError → msg.errorCode ≠ 438 →
      ∀ i ∈ turnAnsweredChannel turn msg, (turn.channels.getD i default).bound = false) :
    FreshChannels time
      (confirmedNow time confirmed
        ((turnAccepted crypto turn data).bind (turnMessageConfirms turn)))
      (turnHandleResponse crypto turn (UInt32.ofNat time) data).1.channels := by
  rw [turnHandleResponse_eq]
  cases hmsg : turnAccepted crypto turn data with
  | none => exact h
  | some msg =>
    dsimp only
    rw [Option.bind_some]
    split
    · rename_i hstale
      rw [turnMessageConfirms_stale hstale]
      exact h.stale msg _ _ _ (turnAccepted_some hmsg)
    · rename_i hfresh
      apply h.dispatch
      intro htype
      refine hkeep msg hmsg htype fun hcode => hfresh ⟨?_, hcode⟩
      rw [htype]
      rfl

end

/-! ### Time -/

theorem FreshSince.wait {time t due ms : Nat} {c : TurnChannel} (h : FreshSince time t due c)
    (hms : time + ms ≤ due) : FreshSince (time + ms) t due c :=
  ⟨Nat.le_add_right_of_le h.past, hms, h.bound, h.few, h.armed, h.timed⟩

/-- The delay to a moment in time. -/
theorem nanoTimeUntil_ofNat {time due : Nat} (h : time ≤ due) :
    (nanoTimeUntil (UInt32.ofNat time) (UInt32.ofNat due)).toNat ≤ due - time := by
  unfold nanoTimeUntil
  split
  · exact Nat.zero_le _
  · have hsub : UInt32.ofNat due - UInt32.ofNat time = UInt32.ofNat (due - time) := by
      rw [UInt32.sub_eq_iff_eq_add, ← UInt32.ofNat_add, Nat.sub_add_cancel h]
    rw [hsub, UInt32.toNat_ofNat']
    exact Nat.mod_le _ _

/-- The timer of a bound entry is among the client's work. -/
theorem scheduled_bound {turn : NanoTurn} (hstate : turn.state = .allocated) {c : TurnChannel}
    (hc : c ∈ turn.channels) (hbound : c.bound = true) :
    ∃ type i, Scheduled turn type i c.deadlineMs := by
  obtain ⟨i, hi⟩ := List.mem_iff_getElem?.mp hc
  by_cases hidle : c.pending = .none
  · exact ⟨_, i, .channel hstate hi hbound hidle⟩
  · exact ⟨_, i, .channelRequest hstate hi hidle⟩

/-- Time that passes up to the next timeout. -/
theorem FreshChannels.wait {time : Nat} {confirmed : UInt16 → Option Nat} {turn : NanoTurn} {ms : Nat}
    (h : FreshChannels time confirmed turn.channels)
    (hkeep : (∃ c ∈ turn.channels, c.bound = true) →
      turn.configured = true ∧ turn.state = .allocated ∧
        ms ≤ (turnNextTimeoutMs turn (UInt32.ofNat time)).toNat) :
    FreshChannels (time + ms) confirmed turn.channels := by
  intro c hc hbound
  obtain ⟨t, due, hconfirmed, hsince⟩ := h c hc hbound
  obtain ⟨hconf, hstate, hms⟩ := hkeep ⟨c, hc, hbound⟩
  refine ⟨t, due, hconfirmed, hsince.wait ?_⟩
  have hactive : TurnActive turn := ⟨hconf, by rw [hstate]; exact nofun⟩
  obtain ⟨type, i, hwork⟩ := scheduled_bound hstate hc hbound
  have hle := UInt32.le_iff_toNat_le.mp (hwork.timeout_le hactive (UInt32.ofNat time))
  have hahead := hsince.ahead
  have hdelay : (turnItem (UInt32.ofNat time) type i c.deadlineMs).delayMs.toNat ≤ due - time := by
    show (if c.deadlineMs = 0 then 0 else nanoTimeUntil (UInt32.ofNat time) c.deadlineMs).toNat ≤ _
    split
    · exact Nat.zero_le _
    · rename_i hne
      rw [hsince.armed hne]
      exact nanoTimeUntil_ofNat hahead
  omega

/-! ### Runs -/

/-- The client's tables are well formed, and its bound channels are fresh. -/
structure FreshClock (s : TurnClock) : Prop where
  schedulable : Schedulable s.turn
  fresh : FreshChannels s.time s.confirmed s.turn.channels

theorem FreshClock.step (crypto : CryptoProvider) {s : TurnClock} {i : ClockInput}
    (hpolled : TimersPolled crypto s i) (hkeeps : KeepsRefreshing crypto s i) (h : FreshClock s) :
    FreshClock (clockStep crypto s i) := by
  cases i with
  | wait ms =>
    refine ⟨h.schedulable, h.fresh.wait fun hbound => ?_⟩
    obtain ⟨hconf, hstate, hfree⟩ := hkeeps hbound
    refine ⟨hconf, hstate, ?_⟩
    rcases hpolled with hms | ⟨hzero, random, bufLen, hs, hidle⟩
    · exact hms
    · exact absurd (pollActs_due crypto h.schedulable hs hfree hzero) hidle
  | call i =>
    refine ⟨h.schedulable.step crypto _, ?_⟩
    have hfresh := h.fresh
    cases i with
    | configure server username password =>
      show FreshChannels s.time s.confirmed
        (turnConfigure s.turn server username password).1.channels
      unfold turnConfigure
      split
      · exact hfresh
      · exact hfresh
    | startAllocate random bufLen =>
      show FreshChannels s.time s.confirmed (turnStartAllocate crypto s.turn random bufLen).1.channels
      rw [turnStartAllocate_channels]
      exact hfresh
    | handleResponse nowMs data => exact hfresh.handleResponse crypto data hkeeps
    | generateRefresh nowMs random bufLen =>
      show FreshChannels s.time s.confirmed
        (turnGenerateRefresh crypto s.turn s.nowMs random bufLen).1.channels
      rw [turnGenerateRefresh_channels]
      exact hfresh
    | createPermission peer random bufLen =>
      show FreshChannels s.time s.confirmed
        (turnCreatePermission crypto s.turn peer random bufLen).1.channels
      rw [turnCreatePermission_channels]
      exact hfresh
    | channelBind peer random bufLen => exact hfresh.channelBind crypto peer random bufLen
    | generateRetransmit nowMs random bufLen =>
      exact hfresh.generateRetransmit crypto random bufLen hkeeps
    | pollOutput nowMs random bufLen => exact hfresh.pollOutput crypto random bufLen hkeeps
    | deallocate random bufLen =>
      show FreshChannels s.time s.confirmed (turnDeallocate crypto s.turn random bufLen).1.channels
      unfold turnDeallocate
      split
      · exact hfresh
      split
      · exact hfresh
      cases random with
      | none => exact hfresh
      | some txid =>
        dsimp only
        split
        · exact hfresh
        · exact fun c hc => absurd hc List.not_mem_nil
    | resetPeerState => exact fun c hc => absurd hc List.not_mem_nil

/-- The client at its start. -/
def turnClockStart (time : Nat) : TurnClock := ⟨turnInit, time, fun _ => none⟩

/-- **A channel in use was confirmed within its lifetime.** In every run on any clock whose timers
are polled when they are due, and in which no refresh of a bound channel is given up: a channel that
is returned for sending was confirmed by a ChannelBind success less than ten minutes ago. -/
theorem channel_fresh (crypto : CryptoProvider) (time : Nat) (is : List ClockInput)
    (hpolled : AllSteps (clockStep crypto) (turnClockStart time) (TimersPolled crypto) is)
    (hkeeps : AllSteps (clockStep crypto) (turnClockStart time) (KeepsRefreshing crypto) is)
    (peer : NanortcAddr) (channel : UInt16) :
    let s := run (clockStep crypto) (turnClockStart time) is
    turnFindChannelForPeer s.turn peer = some channel →
    ∃ t, s.confirmed channel = some t ∧ t ≤ s.time ∧ s.time < t + turnChannelLifetimeMs := by
  intro s hfound
  have hfresh : FreshClock s :=
    run_allSteps (P := FreshClock) (fun s i h => FreshClock.step crypto h.1 h.2)
      (allSteps_and.mpr ⟨hpolled, hkeeps⟩)
      ⟨.dropped rfl rfl, fun c hc => absurd hc List.not_mem_nil⟩
  obtain ⟨c, hc, rfl⟩ := Option.map_eq_some_iff.mp hfound
  have hmatch := List.find?_some hc
  rw [Bool.and_eq_true] at hmatch
  have hbound := hmatch.1
  obtain ⟨t, due, hconfirmed, hsince⟩ := hfresh.fresh c (List.mem_of_find?_eq_some hc) hbound
  exact ⟨t, hconfirmed, hsince.past, hsince.lifetime⟩

/-- An allocation with a bound channel, and the nine minutes to its refresh. -/
def demoRefreshDue : List ClockInput := (demoAllocation 4).map .call ++ [.wait 540000]

/-- The channel is in use when its refresh is due. -/
theorem channel_fresh_allocated :
    turnFindChannelForPeer (run (clockStep .checksum) (turnClockStart 5) demoRefreshDue).turn
        (demoHost 4 8 6000) = some 0x4000 ∧
      ∃ t, (run (clockStep .checksum) (turnClockStart 5) demoRefreshDue).confirmed 0x4000 = some t ∧
        t ≤ (run (clockStep .checksum) (turnClockStart 5) demoRefreshDue).time ∧
        (run (clockStep .checksum) (turnClockStart 5) demoRefreshDue).time <
          t + turnChannelLifetimeMs := by
  have hfound : turnFindChannelForPeer
      (run (clockStep .checksum) (turnClockStart 5) demoRefreshDue).turn (demoHost 4 8 6000) =
        some 0x4000 := by decide +kernel
  refine ⟨hfound, channel_fresh .checksum 5 demoRefreshDue ?_ ?_ (demoHost 4 8 6000) 0x4000 hfound⟩
  · exact ⟨trivial, trivial, trivial, trivial, trivial, trivial, trivial,
      .inl (by decide +kernel), trivial⟩
  · decide +kernel

/-- The refresh of the allocation is refused, and a minute passes. -/
def demoRefused : List ClockInput :=
  demoRefreshDue ++ [.call (.pollOutput 0 (some (demoTxid 4)) 400),
    .call (demoAnswer 0x0114 (demoTxid 4) (stunAttr 0x0009 [0, 0, 4, 37])), .wait 60001]

/-- A client that has failed still returns its channel, ten minutes after it was confirmed. -/
theorem refused_stale :
    ¬ ∀ (crypto : CryptoProvider) (time : Nat) (is : List ClockInput),
      AllSteps (clockStep crypto) (turnClockStart time) (TimersPolled crypto) is →
      ∀ (peer : NanortcAddr) (channel : UInt16),
        let s := run (clockStep crypto) (turnClockStart time) is
        turnFindChannelForPeer s.turn peer = some channel →
        ∃ t, s.confirmed channel = some t ∧ t ≤ s.time ∧
          s.time < t + turnChannelLifetimeMs := by
  intro h
  obtain ⟨t, hconfirmed, -, hlt⟩ := h .checksum 5 demoRefused
    ⟨trivial, trivial, trivial, trivial, trivial, trivial, trivial,
      .inl (by decide +kernel), trivial, trivial, .inl (by decide +kernel), trivial⟩
    (demoHost 4 8 6000) 0x4000 (by decide +kernel)
  have hfive : (run (clockStep .checksum) (turnClockStart 5) demoRefused).confirmed 0x4000 =
      some 5 := by decide +kernel
  have htime : (run (clockStep .checksum) (turnClockStart 5) demoRefused).time = 600006 := by
    decide +kernel
  rw [hfive] at hconfirmed
  obtain rfl := Option.some.inj hconfirmed
  rw [htime] at hlt
  exact absurd hlt (by decide)

end Nanortc.Spec
