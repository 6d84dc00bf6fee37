import Nanortc.Spec.IceConsent
import Nanortc.Spec.RtcFrame

/-!
# Steps of a session

The invariant that ties the state of a connection to the states of its layers, and what each part
of the timers does to it. Parts that do not end the session neither break the invariant nor lower
the state; the parts that end it emit one event and leave the state CLOSED.

## Key results

- `Layered`: the invariant
- `sound_processTimers`: the timers keep it
-/

namespace Nanortc.Spec

open Nanortc.ForStd Nanortc.Native

variable {Ctx Rx : Type}

/-- The states of the layers agree with the state of the connection and with what it has
announced. -/
structure Layered (l : Layers) : Prop where
  dtls : ConnState.dtlsConnected.rank ≤ l.state.rank → l.state ≠ .closed → l.dtls = .established
  sctp : l.state = .connected → l.negotiated → l.sctp = .established
  alive : l.failed = false
  checks : l.state ≠ .new → l.ice ≠ .new ∧ l.ice ≠ .checking
  gone : l.ice = .failed ∨ l.ice = .disconnected → l.state = .closed
  quiet : l.state.rank < ConnState.connected.rank → l.connects = 0
  once : l.connects ≤ 1
  ended : l.disconnects = if l.state = .closed then 1 else 0

/-- The invariant survives, and the state of the connection does not fall. -/
def Sound (rtc rtc' : Rtc Ctx Rx) : Prop :=
  Layered (layers rtc) → Layered (layers rtc') ∧ rtc.state.rank ≤ rtc'.state.rank

instance : Std.Refl (@Sound Ctx Rx) := ⟨fun _ h => ⟨h, Nat.le_refl _⟩⟩

instance : Trans (@Sound Ctx Rx) Sound Sound :=
  ⟨fun h h' hl => ⟨(h' (h hl).1).1, Nat.le_trans (h hl).2 (h' (h hl).1).2⟩⟩

/-- The invariant survives, and the state of the connection stays. -/
def Calm (rtc rtc' : Rtc Ctx Rx) : Prop :=
  (Layered (layers rtc) → Layered (layers rtc')) ∧ rtc'.state = rtc.state

instance : Std.Refl (@Calm Ctx Rx) := ⟨fun _ => ⟨id, rfl⟩⟩

instance : Trans (@Calm Ctx Rx) Calm Calm :=
  ⟨fun h h' => ⟨h'.1 ∘ h.1, h'.2.trans h.2⟩⟩

theorem Calm.sound {rtc rtc' : Rtc Ctx Rx} (h : Calm rtc rtc') : Sound rtc rtc' :=
  fun hl => ⟨h.1 hl, Nat.le_of_eq (congrArg ConnState.rank h.2.symm)⟩

theorem calm_of_same {rtc rtc' : Rtc Ctx Rx} (h : Same layers rtc rtc') : Calm rtc rtc' :=
  ⟨fun hl => by rw [show layers rtc' = layers rtc from h]; exact hl, congrArg Layers.state h⟩

theorem sound_of_same {rtc rtc' : Rtc Ctx Rx} (h : Same layers rtc rtc') : Sound rtc rtc' :=
  (calm_of_same h).sound

theorem MovesAt.sound {α : Type} {m : RtcM Ctx Rx α} {rtc : Rtc Ctx Rx}
    (h : MovesAt (Same layers) m rtc) : MovesAt Sound m rtc := sound_of_same h

/-! ### What a layer may do by itself -/

/-- DTLS may do anything before the connection relies on it, and afterwards only stay
ESTABLISHED. -/
theorem calm_dtls {rtc : Rtc Ctx Rx} {dtls : NanoDtls Ctx}
    (h : ConnState.dtlsConnected.rank ≤ rtc.state.rank → rtc.dtls.state = .established →
      dtls.state = .established) : Calm rtc { rtc with dtls := dtls } :=
  ⟨fun hl => { hl with dtls := fun hrank hopen => h hrank (hl.dtls hrank hopen) }, rfl⟩

/-- The association may do anything while no session depends on it. -/
theorem calm_sctp {rtc : Rtc Ctx Rx} {sctp : NanoSctp}
    (h : rtc.state = .connected → rtc.dcNegotiated → rtc.sctp.state = .established →
      sctp.state = .established)
    (hfailed : sctp.closedDueToFailure = rtc.sctp.closedDueToFailure) :
    Calm rtc { rtc with sctp := sctp } :=
  ⟨fun hl => { hl with
    sctp := fun hconn hneg => h hconn hneg (hl.sctp hconn hneg)
    alive := hfailed.trans hl.alive }, rfl⟩

/-- A connected agent fits every state. -/
theorem calm_iceConnected {rtc : Rtc Ctx Rx} {ice : NanoIce} (h : ice.state = .connected) :
    Calm rtc (rtc.withIce ice) := by
  have hice : (layers (rtc.withIce ice)).ice = .connected := h
  refine ⟨fun hl => { hl with checks := ?_, gone := ?_ }, rfl⟩
  · intro _
    rw [hice]
    exact ⟨nofun, nofun⟩
  · intro hg
    rw [hice] at hg
    cases hg <;> contradiction

/-! ### The end of a session -/

/-- A session that is open may end, whatever the layers below do. -/
theorem Layered.close {l : Layers} (h : Layered l) (hopen : l.state ≠ .closed) {ice : IceState}
    (hice : ice ≠ .new ∧ ice ≠ .checking) (dtls : DtlsState) (sctp : SctpState) :
    Layered { l with
      state := .closed, ice := ice, dtls := dtls, sctp := sctp, disconnects := l.disconnects + 1 } where
  dtls _ hstate := absurd rfl hstate
  sctp hstate := by cases hstate
  alive := h.alive
  checks _ := hice
  gone _ := rfl
  quiet hrank := by
    have hnot : ¬ ConnState.closed.rank < ConnState.connected.rank := by decide
    exact absurd hrank hnot
  once := h.once
  ended := by
    have hnone := h.ended
    rw [if_neg hopen] at hnone
    rw [if_pos rfl, hnone]

/-- The event that opens a session is the first one. -/
theorem Layered.open {l : Layers} (h : Layered l) (hstate : l.state.rank < ConnState.connected.rank)
    (hnew : l.state ≠ .new) (hdtls : l.dtls = .established)
    (hsctp : l.negotiated → l.sctp = .established) :
    Layered { l with state := .connected, connects := l.connects + 1 } where
  dtls _ _ := hdtls
  sctp _ := hsctp
  alive := h.alive
  checks _ := h.checks hnew
  gone hgone := by
    have hclosed := h.gone hgone
    rw [hclosed] at hstate
    exact absurd hstate (by decide)
  quiet hrank := absurd hrank (Nat.lt_irrefl _)
  once := by
    have hnone := h.quiet hstate
    show l.connects + 1 ≤ 1
    omega
  ended := by
    have hopen : l.state ≠ .closed := fun hclosed => by
      rw [hclosed] at hstate
      exact absurd hstate (by decide)
    have hnone := h.ended
    rw [if_neg hopen] at hnone
    exact hnone

/-- A session on its way to CONNECTED goes on. -/
theorem Layered.advance {l : Layers} (h : Layered l) {state : ConnState} (negotiated : Bool)
    (hup : l.state.rank ≤ state.rank) (hlt : state.rank < ConnState.connected.rank)
    (hdtls : ConnState.dtlsConnected.rank ≤ state.rank → l.dtls = .established)
    (hice : l.ice ≠ .new ∧ l.ice ≠ .checking) :
    Layered { l with state := state, negotiated := negotiated } := by
  have hopen : state ≠ .closed := fun hclosed => by
    rw [hclosed] at hlt
    exact absurd hlt (by decide)
  have hbefore : l.state ≠ .closed := fun hclosed => by
    rw [hclosed] at hup
    exact absurd (Nat.lt_of_le_of_lt hup hlt) (by decide)
  exact {
    dtls := fun hrank _ => hdtls hrank
    sctp := fun hconn => by
      have hconn : state = .connected := hconn
      rw [hconn] at hlt
      exact absurd hlt (Nat.lt_irrefl _)
    alive := h.alive
    checks := fun _ => hice
    gone := fun hgone => absurd (h.gone hgone) hbefore
    quiet := fun _ => h.quiet (Nat.lt_of_le_of_lt hup hlt)
    once := h.once
    ended := by
      have hnone := h.ended
      rw [if_neg hbefore] at hnone
      rw [if_neg hopen]
      exact hnone }

theorem rank_le_closed (s : ConnState) : s.rank ≤ ConnState.closed.rank := by
  cases s <;> decide

/-! ### Checks -/

/-- A check is due of an agent that looks for a pair. -/
theorem iceGetCheck_due {ice : NanoIce} {nowMs : UInt32} {ready : Option (List Bool)}
    (h : (iceGetCheck ice nowMs ready).1 = 0) : ice.state = .new ∨ ice.state = .checking := by
  unfold iceGetCheck at h
  dsimp only at h
  by_cases hs : ice.state ≠ .new ∧ ice.state ≠ .checking
  · rw [if_pos hs] at h
    exact absurd h (by decide)
  · by_cases hnew : ice.state = .new
    · exact .inl hnew
    · exact .inr (by
        by_contra hne
        exact hs ⟨hnew, hne⟩)

/-- A check leaves the agent's state alone, starts the search or ends it. -/
theorem iceSendCheck_cases (crypto : CryptoProvider) (ice : NanoIce) (nowMs : UInt32)
    (check : IceCheck) (random : Option (List UInt8)) (bufLen : Nat) :
    let r := iceSendCheck crypto ice nowMs check random bufLen
    r.1.state = ice.state ∨ r.1.state = .checking ∨ (r.1.state = .failed ∧ r.2 = (.ok, none)) := by
  unfold iceSendCheck
  dsimp only
  split
  · split
    · exact .inr (.inr ⟨rfl, rfl⟩)
    · exact .inl (iceUnqueueCheck_same ice _).2
  · split
    · exact .inl rfl
    split
    · exact .inl rfl
    split
    · exact .inl rfl
    split
    · exact .inl rfl
    split
    · exact .inl rfl
    · exact .inr (.inl rfl)

variable (p : Platform Ctx Rx) (e : Entropy)

theorem layers_sendCheck (slot : Nat) (check : SentCheck) :
    Moves (Same layers) (rtcSendCheck slot check : RtcM Ctx Rx Unit) := by
  intro rtc
  unfold rtcSendCheck
  apply movesAt_get_bind.mpr
  dsimp only
  split
  · apply MovesAt.ite
    · exact fun _ => layers_txSlotSend _ _ _ _ _ rtc
    · exact fun _ => layers_txSlotSend _ _ _ _ _ rtc
  · exact movesAt_pure _

/-- The checks have failed of a session that had not begun. -/
structure Failing (rtc : Rtc Ctx Rx) : Prop where
  new : rtc.state = .new
  failed : rtc.ice.state = .failed
  rest : Layered { layers rtc with ice := .new }

/-- The failure of the checks ends the session. -/
def EndsFailing (rtc rtc' : Rtc Ctx Rx) : Prop :=
  Failing rtc → Layered (layers rtc') ∧ rtc.state.rank ≤ rtc'.state.rank

theorem layers_emitIceStateChange :
    Moves (Same layers) (emitIceStateChange : RtcM Ctx Rx Unit) :=
  layers_emit nofun nofun

theorem failIce_failing : Moves EndsFailing (rtcFailIce : RtcM Ctx Rx Unit) := by
  intro rtc
  unfold rtcFailIce
  apply movesAt_get_bind.mpr
  apply MovesAt.ite
  · intro _ h
    have hemit : layers (after emitIceStateChange rtc) = layers rtc := layers_emitIceStateChange rtc
    have hafter := layers_after_emitDisconnected (after emitIceStateChange rtc)
    rw [hemit] at hafter
    show Layered (layers (after rtcEmitDisconnected (after emitIceStateChange rtc))) ∧ _ ≤
      (layers (after rtcEmitDisconnected (after emitIceStateChange rtc))).state.rank
    rw [hafter]
    have hopen : (layers rtc).state ≠ .closed := by
      show rtc.state ≠ .closed
      rw [h.new]
      decide
    have hice : rtc.ice.state ≠ .new ∧ rtc.ice.state ≠ .checking := by
      rw [h.failed]
      decide
    exact ⟨h.rest.close hopen hice _ _, rank_le_closed _⟩
  · intro hne h
    exact absurd h.failed hne

theorem failIce_alive {rtc : Rtc Ctx Rx} (h : rtc.ice.state ≠ .failed) :
    MovesAt Sound rtcFailIce rtc := by
  unfold rtcFailIce
  apply movesAt_get_bind.mpr
  apply MovesAt.ite_pure
  intro hfailed
  exact absurd hfailed h

/-- An agent that has not given up fits a session that has not begun. -/
theorem calm_iceNew {rtc : Rtc Ctx Rx} {ice : NanoIce} (hnew : rtc.state = .new)
    (hice : ice.state ≠ .failed ∧ ice.state ≠ .disconnected) : Calm rtc (rtc.withIce ice) := by
  refine ⟨fun hl => { hl with checks := ?_, gone := ?_ }, rfl⟩
  · intro hne
    exact absurd hnew hne
  · intro hgone
    cases hgone with
    | inl h => exact absurd h hice.1
    | inr h => exact absurd h hice.2

theorem movesAt_sound {α : Type} {m : RtcM Ctx Rx α} {rtc : Rtc Ctx Rx}
    (h : Layered (layers rtc) → MovesAt Sound m rtc) : MovesAt Sound m rtc := fun hl => h hl hl

/-- The end of the connectivity checks in the timers: the search is announced, its failure ends the
session. -/
def afterCheck (before : IceState) : RtcM Ctx Rx Unit := do
  let ice := (← get).ice.state
  if ice ≠ before ∧ ice = .checking then emitIceStateChange
  rtcFailIce

theorem afterCheck_alive {rtc : Rtc Ctx Rx} (before : IceState) (h : rtc.ice.state ≠ .failed) :
    MovesAt Sound (afterCheck before) rtc := by
  unfold afterCheck
  apply movesAt_get_bind.mpr
  dsimp only
  apply MovesAt.ite
  · intro _
    apply MovesAt.bind (MovesAt.sound (layers_emitIceStateChange rtc))
    intro _ rtc' hemit
    have hsame : layers rtc' = layers rtc := layers_ok (layers_emitIceStateChange rtc) hemit
    apply failIce_alive
    rw [show rtc'.ice.state = rtc.ice.state from congrArg Layers.ice hsame]
    exact h
  · exact fun _ => failIce_alive h

theorem afterCheck_failing (before : IceState) :
    Moves EndsFailing (afterCheck before : RtcM Ctx Rx Unit) := by
  intro rtc
  unfold afterCheck
  apply movesAt_get_bind.mpr
  dsimp only
  apply MovesAt.ite
  · intro hc h
    rw [h.failed] at hc
    exact absurd hc.2 (by decide)
  · exact fun _ => failIce_failing rtc

/-- A connectivity check gives up, with nothing to send, or leaves the agent at work. -/
theorem iceSendCheck_goes (crypto : CryptoProvider) {ice : NanoIce}
    (hice : ice.state = .new ∨ ice.state = .checking) (nowMs : UInt32) (check : IceCheck)
    (random : Option (List UInt8)) (bufLen : Nat) :
    let r := iceSendCheck crypto ice nowMs check random bufLen
    (r.1.state ≠ .failed ∧ r.1.state ≠ .disconnected) ∨
      (r.1.state = .failed ∧ r.2 = (.ok, none)) := by
  intro r
  obtain hstate | hstate | hgone := iceSendCheck_cases crypto ice nowMs check random bufLen
  · refine .inl ?_
    rw [hstate]
    cases hice with
    | inl h => rw [h]; decide
    | inr h => rw [h]; decide
  · refine .inl ?_
    rw [hstate]
    decide
  · exact .inr hgone

theorem sound_timersCheck (nowMs : UInt32) : Moves Sound (rtcTimersCheck p e nowMs) := by
  intro rtc
  apply movesAt_sound
  intro hl
  unfold rtcTimersCheck
  apply movesAt_get_bind.mpr
  dsimp only
  apply MovesAt.ite_pure
  intro hwait
  -- a check is due only before the session has begun
  have hnew : rtc.state = .new := by
    by_contra hne
    have hchecks := hl.checks hne
    cases iceGetCheck_due hwait with
    | inl h => exact hchecks.1 h
    | inr h => exact hchecks.2 h
  have hice : rtc.ice.state = .new ∨ rtc.ice.state = .checking := iceGetCheck_due hwait
  apply MovesAt.bind (movesAt_deferred.mpr (MovesAt.sound (layers_txSlotAcquire rtc)))
  intro slot rtc₁ hslot
  have hsame : layers rtc₁ = layers rtc :=
    layers_ok (movesAt_deferred.mpr (layers_txSlotAcquire rtc)) hslot
  have hnew : rtc₁.state = .new := (congrArg Layers.state hsame).trans hnew
  have hice : rtc₁.ice.state = .new ∨ rtc₁.ice.state = .checking := by
    rw [show rtc₁.ice.state = rtc.ice.state from congrArg Layers.ice hsame]
    exact hice
  have hl : Layered (layers rtc₁) := hsame ▸ hl
  apply movesAt_get_bind.mpr
  obtain h | ⟨hstate, hnone⟩ := iceSendCheck_goes p.crypto hice nowMs
    (rtcIceGetCheck rtc.toNanoRtc nowMs).2 e.iceTxid txSlotSize
  · -- an agent that has not given up goes on, whatever comes of the datagram
    apply MovesAt.bind
    · exact movesAt_onIce.mpr (calm_iceNew hnew h).sound
    intro sent rtc₂ hsent
    have hice₂ : rtc₂.ice.state ≠ .failed := by
      have hice := MovesAt.ok (R := fun _ rtc' => rtc'.ice.state ≠ .failed)
        (movesAt_onIce.mpr h.1) hsent
      exact hice
    split
    · rename_i check
      apply MovesAt.bind (MovesAt.sound (layers_sendCheck slot check rtc₂))
      intro _ rtc₃ hcheck
      have hsame₃ : layers rtc₃ = layers rtc₂ := layers_ok (layers_sendCheck slot check rtc₂) hcheck
      refine afterCheck_alive rtc₁.ice.state ?_
      rw [show rtc₃.ice.state = rtc₂.ice.state from congrArg Layers.ice hsame₃]
      exact hice₂
    · exact afterCheck_alive rtc₁.ice.state hice₂
  · generalize hr : iceSendCheck p.crypto rtc₁.ice nowMs (rtcIceGetCheck rtc.toNanoRtc nowMs).2
      e.iceTxid txSlotSize = r at hstate hnone
    obtain ⟨ice, out⟩ := r
    obtain rfl : out = (.ok, none) := hnone
    have hok : onIce (fun ice => iceSendCheck p.crypto ice nowMs
        (rtcIceGetCheck rtc.toNanoRtc nowMs).2 e.iceTxid txSlotSize) rtc₁ =
        .ok none (rtc₁.withIce ice) := by
      unfold onIce
      dsimp only
      rw [hr]
    have hfailing : Failing (rtc₁.withIce ice) := ⟨hnew, hstate, by
      exact { hl with
        checks := fun hne => absurd hnew hne
        gone := fun hgone => by cases hgone <;> contradiction }⟩
    intro _
    rw [after_bind_ok hok]
    exact afterCheck_failing rtc₁.ice.state (rtc₁.withIce ice) hfailing

/-- No pair is selected. -/
def Unconnected (rtc : Rtc Ctx Rx) : Prop := rtc.ice.state ≠ .connected

theorem unconnected_of_same {rtc rtc' : Rtc Ctx Rx} (h : Same layers rtc rtc') :
    Keeps Unconnected rtc rtc' := by
  intro hne
  have hice : rtc'.ice.state = rtc.ice.state := congrArg Layers.ice h
  rw [Unconnected, hice]
  exact hne

theorem MovesAt.unconnected {α : Type} {m : RtcM Ctx Rx α} {rtc : Rtc Ctx Rx}
    (h : MovesAt (Same layers) m rtc) : MovesAt (Keeps Unconnected) m rtc := unconnected_of_same h

/-- A check selects no pair. -/
theorem timersCheck_unconnected (nowMs : UInt32) :
    Moves (Keeps Unconnected) (rtcTimersCheck p e nowMs) := by
  have hfail : Moves (Keeps Unconnected) (rtcFailIce : RtcM Ctx Rx Unit) := by
    intro rtc
    unfold rtcFailIce
    apply movesAt_get_bind.mpr
    apply MovesAt.ite_pure
    intro _
    apply MovesAt.bind (MovesAt.unconnected (layers_emitIceStateChange rtc))
    intro _ rtc' _ hne
    have hice : (after rtcEmitDisconnected rtc').ice.state = rtc'.ice.state :=
      congrArg Layers.ice (layers_after_emitDisconnected rtc')
    rw [Unconnected, hice]
    exact hne
  have hafter (before : IceState) :
      Moves (Keeps Unconnected) (afterCheck before : RtcM Ctx Rx Unit) := by
    intro rtc
    unfold afterCheck
    apply movesAt_get_bind.mpr
    dsimp only
    apply MovesAt.ite
    · intro _
      apply MovesAt.bind (MovesAt.unconnected (layers_emitIceStateChange rtc))
      exact fun _ rtc' _ => hfail rtc'
    · exact fun _ => hfail rtc
  intro rtc
  unfold rtcTimersCheck
  apply movesAt_get_bind.mpr
  dsimp only
  apply MovesAt.ite_pure
  intro _
  apply MovesAt.bind (movesAt_deferred.mpr (MovesAt.unconnected (layers_txSlotAcquire rtc)))
  intro slot rtc₁ _
  apply movesAt_get_bind.mpr
  apply MovesAt.bind
  · apply movesAt_onIce.mpr
    intro hne
    show (iceSendCheck p.crypto rtc₁.ice nowMs _ e.iceTxid txSlotSize).1.state ≠ .connected
    obtain h | h | ⟨h, _⟩ := iceSendCheck_cases p.crypto rtc₁.ice nowMs
      (rtcIceGetCheck rtc.toNanoRtc nowMs).2 e.iceTxid txSlotSize
    · rw [h]
      exact hne
    · rw [h]
      decide
    · rw [h]
      decide
  · intro sent rtc₂ hsent
    split
    · rename_i check
      apply MovesAt.bind (MovesAt.unconnected (layers_sendCheck slot check rtc₂))
      exact fun _ rtc₃ _ => hafter _ rtc₃
    · exact hafter _ rtc₂

/-- No check is due while a pair is selected. -/
theorem timersCheck_connected {rtc : Rtc Ctx Rx} (h : rtc.ice.state = .connected)
    (nowMs : UInt32) : rtcTimersCheck p e nowMs rtc = .ok () rtc := by
  have hwait : ¬ (rtcIceGetCheck rtc.toNanoRtc nowMs).1 = 0 := by
    intro h0
    have hdue : rtc.ice.state = .new ∨ rtc.ice.state = .checking := iceGetCheck_due h0
    rw [h] at hdue
    exact absurd hdue (by decide)
  show (if (rtcIceGetCheck rtc.toNanoRtc nowMs).1 = 0 then _ else _ : RtcM Ctx Rx Unit) rtc = _
  rw [if_neg hwait]
  rfl

/-! ### Consent and TURN -/

theorem iceGenerateConsent_state (crypto : CryptoProvider) (ice : NanoIce) (nowMs : UInt32)
    (random : Option (List UInt8)) (bufLen : Nat) :
    (iceGenerateConsent crypto ice nowMs random bufLen).1.state = ice.state := by
  unfold iceGenerateConsent
  split
  · rfl
  split
  · rfl
  split
  · rfl
  split
  · rfl
  split <;> rfl

theorem layers_sendConsent (nowMs : UInt32) : Moves (Same layers) (rtcSendConsent p e nowMs) := by
  unfold rtcSendConsent
  apply Moves.bind fun rtc => movesAt_deferred.mpr (layers_txSlotAcquire rtc)
  intro slot
  apply Moves.bind
  · exact fun rtc => layers_onIce (iceGenerateConsent_state ..)
  · intro packet rtc
    apply MovesAt.ite
    · intro _
      exact movesAt_get_bind.mpr (layers_txSlotSend _ _ _ _ _ rtc)
    · exact fun _ => movesAt_pure _

/-- The session ends by consent expiry while it is open; a session that is over must not see
another one. -/
theorem sound_timersConsent {rtc : Rtc Ctx Rx} {nowMs : UInt32}
    (h : rtc.state = .closed → iceConsentExpired rtc.ice nowMs = false) :
    MovesAt Sound (rtcTimersConsent p e nowMs) rtc := by
  unfold rtcTimersConsent
  apply movesAt_get_bind.mpr
  apply MovesAt.ite_pure
  intro _
  apply MovesAt.ite
  · intro hexpired hl
    have hopen : rtc.state ≠ .closed := fun hclosed => by
      rw [h hclosed] at hexpired
      exact absurd hexpired Bool.false_ne_true
    let lost := rtc.withIce { rtc.ice with state := .disconnected }
    have hemit : layers (after emitIceStateChange lost) = layers lost :=
      layers_emitIceStateChange lost
    have hafter := layers_after_emitDisconnected (after emitIceStateChange lost)
    rw [hemit] at hafter
    show Layered (layers (after rtcEmitDisconnected (after emitIceStateChange lost))) ∧ _ ≤
      (layers (after rtcEmitDisconnected (after emitIceStateChange lost))).state.rank
    rw [hafter]
    have hice : IceState.disconnected ≠ .new ∧ IceState.disconnected ≠ .checking := by decide
    exact ⟨hl.close hopen hice _ _, rank_le_closed _⟩
  · intro _
    apply MovesAt.ite_pure
    exact fun _ => MovesAt.sound (layers_sendConsent p e nowMs rtc)

theorem layers_turnPeerRequest (nowMs : UInt32) :
    Moves (Same layers) (rtcTurnPeerRequest p e nowMs) := by
  intro rtc
  unfold rtcTurnPeerRequest
  apply movesAt_get_bind.mpr
  split
  · exact layers_onTurn rtc
  · apply MovesAt.ite
    · exact fun _ => layers_onTurn rtc
    · exact fun _ => movesAt_pure _

theorem layers_timersTurn (nowMs : UInt32) : Moves (Same layers) (rtcTimersTurn p e nowMs) := by
  intro rtc
  unfold rtcTimersTurn
  apply movesAt_get_bind.mpr
  apply MovesAt.ite_pure
  intro _
  apply MovesAt.bind (movesAt_deferred.mpr (layers_txSlotAcquire rtc))
  intro slot rtc₁ _
  apply MovesAt.bind (layers_onTurn rtc₁)
  intro packet rtc₂ _
  have hsend (packet : List UInt8) : Moves (Same layers)
      (if packet ≠ [] then do
        txSlotSend slot packet (rtcTurnServerAddr (← get).turn) none .direct
      else pure () : RtcM Ctx Rx Unit) := by
    intro rtc
    apply MovesAt.ite_pure
    exact fun _ => movesAt_get_bind.mpr (layers_txSlotSend _ _ _ _ _ rtc)
  apply MovesAt.ite
  · intro _
    exact MovesAt.bind (layers_turnPeerRequest p e nowMs rtc₂) fun packet rtc₃ _ =>
      hsend packet rtc₃
  · exact fun _ => hsend packet rtc₂

/-! ### DTLS -/

theorem layers_timersDtlsOutput : Moves (Same layers) (rtcTimersDtlsOutput : RtcM Ctx Rx Unit) := by
  intro rtc
  unfold rtcTimersDtlsOutput
  apply movesAt_get_bind.mpr
  apply MovesAt.ite_pure
  exact fun _ => movesAt_deferred.mpr (layers_drainDtls _ rtc)

theorem dtlsHandleTimeout_established (crypto : DtlsProvider Ctx) {d : NanoDtls Ctx}
    (h : d.state = .established) (nowMs : UInt32) :
    (dtlsHandleTimeout crypto d nowMs).1.state = .established := by
  unfold dtlsHandleTimeout
  dsimp only
  split
  · exact h
  · have hstate : (dtlsSetTime crypto d nowMs).state ≠ .handshaking := by
      show d.state ≠ .handshaking
      rw [h]
      decide
    rw [if_pos hstate]
    exact h

theorem dtlsDrive_established (crypto : DtlsProvider Ctx) {d : NanoDtls Ctx}
    (h : d.state = .established) (ctx : Ctx) :
    (dtlsDrive crypto d ctx).1.state = .established := by
  unfold dtlsDrive
  rw [h]
  dsimp only
  split <;> exact h

theorem dtlsTryReassembleChlo_state (d : NanoDtls Ctx) (data : List UInt8) :
    (dtlsTryReassembleChlo d data).1.state = d.state := by
  unfold dtlsTryReassembleChlo
  split
  · rfl
  dsimp only
  split
  · rfl
  repeat' split
  all_goals rfl

/-- An established session is left by closing only. -/
theorem dtlsHandleData_established (crypto : DtlsProvider Ctx) {d : NanoDtls Ctx}
    (h : d.state = .established) (data : List UInt8) :
    (dtlsHandleData crypto d data).1.state = .established := by
  have hchlo := (dtlsTryReassembleChlo_state d data).trans h
  unfold dtlsHandleData
  split
  · exact h
  split
  · exact h
  revert hchlo
  generalize dtlsTryReassembleChlo d data = r
  intro hchlo
  split
  · exact hchlo
  · exact dtlsDrive_established crypto hchlo _
  · split
    · exact hchlo
    · apply dtlsDrive_established
      exact hchlo

theorem nsctpStart_failed (s : NanoSctp) (random : Option AssociationSeed) :
    (nsctpStart s random).1.closedDueToFailure = s.closedDueToFailure := by
  unfold nsctpStart
  split
  · rfl
  split
  · rfl
  split
  · rfl
  · rename_i seed _
    dsimp only
    exact (sameState_send.queueOutput { s with
      localVtag := seed.vtag, nextTsn := seed.tsn, cookieSecret := seed.secret } 0 _).2

/-- The application part after DTLS: without a data channel the session opens. -/
theorem sound_startApplication {rtc : Rtc Ctx Rx} (hstate : rtc.state = .dtlsConnected)
    (hneg : rtc.dcNegotiated = rtc.sdp.hasDatachannel) (src : NanortcAddr) :
    MovesAt Sound (rtcStartApplication p e src) rtc := by
  unfold rtcStartApplication
  apply movesAt_get_bind.mpr
  apply MovesAt.ite
  · intro _
    apply MovesAt.ite_pure
    intro _
    have hstart : MovesAt Calm (onSctp fun sctp => nsctpStart sctp e.startSeed) rtc := by
      apply movesAt_onSctp.mpr
      apply calm_sctp
      · intro hconn
        rw [hstate] at hconn
        exact absurd hconn (by decide)
      · exact nsctpStart_failed rtc.sctp e.startSeed
    apply MovesAt.bind (hstart.mono fun _ => Calm.sound)
    intro _ rtc' hok
    have hstate' : rtc'.state = .dtlsConnected := (MovesAt.ok hstart hok).2.trans hstate
    apply movesAt_modify_bind
    · intro hl
      have hup : rtc'.state.rank ≤ ConnState.sctpConnecting.rank := by
        rw [hstate']
        decide
      have hdtls : (layers rtc').dtls = .established := by
        apply hl.dtls
        · show _ ≤ rtc'.state.rank
          rw [hstate']
        · show rtc'.state ≠ .closed
          rw [hstate']
          decide
      have hice := hl.checks (by
        show rtc'.state ≠ .new
        rw [hstate']
        decide)
      have hlt : ConnState.sctpConnecting.rank < ConnState.connected.rank := by decide
      exact ⟨hl.advance rtc'.dcNegotiated hup hlt (fun _ => hdtls) hice, hup⟩
    · exact MovesAt.sound (movesAt_unblock.mpr (layers_pumpSctp p src _))
  · intro hno hl
    have hlt : rtc.state.rank < ConnState.connected.rank := by
      rw [hstate]
      decide
    have hnew : rtc.state ≠ .new := by
      rw [hstate]
      decide
    have hdtls : rtc.dtls.state = .established := by
      apply hl.dtls
      · show _ ≤ rtc.state.rank
        rw [hstate]
      · show rtc.state ≠ .closed
        rw [hstate]
        decide
    have hafter := layers_after_emitConnected (rtc.withState .connected)
    show Layered (layers (after rtcEmitConnected (rtc.withState .connected))) ∧ _ ≤
      (layers (after rtcEmitConnected (rtc.withState .connected))).state.rank
    rw [hafter]
    refine ⟨hl.open hlt hnew hdtls ?_, Nat.le_of_lt hlt⟩
    intro hyes
    exact absurd (hneg.symm.trans hyes) hno

theorem cacheFingerprint_layers (rtc : Rtc Ctx Rx) :
    layers (nanoRtcCacheFingerprint rtc) = layers rtc ∧
      (nanoRtcCacheFingerprint rtc).sdp.hasDatachannel = rtc.sdp.hasDatachannel := by
  unfold nanoRtcCacheFingerprint
  dsimp only
  split
  · exact ⟨rfl, rfl⟩
  split
  · exact ⟨rfl, rfl⟩
  · exact ⟨rfl, rfl⟩

/-- The connection as `rtc_finish_dtls` leaves it before the application part. -/
def dtlsCompleted (src : NanortcAddr) (rtc : Rtc Ctx Rx) : Rtc Ctx Rx :=
  let rtc := rtc.withState .dtlsConnected
  let rtc := rtc.withOut { rtc.toNanoRtc with remoteAddr := src }
  let rtc := nanoRtcCacheFingerprint { rtc with dcNegotiated := rtc.sdp.hasDatachannel }
  if rtc.dtls.keyingMaterialReady then rtcActivateMedia p e.trackSeeds rtc else rtc

theorem dtlsCompleted_layers (src : NanortcAddr) (rtc : Rtc Ctx Rx) :
    layers (dtlsCompleted p e src rtc) = { layers rtc with
        state := .dtlsConnected, negotiated := rtc.sdp.hasDatachannel } ∧
      (dtlsCompleted p e src rtc).sdp.hasDatachannel = rtc.sdp.hasDatachannel := by
  have hcache := cacheFingerprint_layers { (rtc.withState .dtlsConnected).withOut
    { (rtc.withState .dtlsConnected).toNanoRtc with remoteAddr := src } with
      dcNegotiated := rtc.sdp.hasDatachannel }
  unfold dtlsCompleted
  dsimp only
  split
  · exact hcache
  · exact hcache

/-- DTLS completes a handshake that the connection has begun. -/
theorem sound_finishDtls {rtc : Rtc Ctx Rx} (hnew : rtc.state ≠ .new) (src : NanortcAddr) :
    MovesAt Sound (rtcFinishDtls p e src) rtc := by
  unfold rtcFinishDtls
  apply movesAt_get_bind.mpr
  apply MovesAt.ite_pure
  intro ⟨hdtls, hrank⟩
  apply MovesAt.ite
  · exact fun _ => movesAt_throw _
  · intro _
    show MovesAt Sound (set (dtlsCompleted p e src rtc) >>= fun _ => rtcStartApplication p e src) rtc
    obtain ⟨hlayers, hchannel⟩ := dtlsCompleted_layers p e src rtc
    have hstate : (dtlsCompleted p e src rtc).state = .dtlsConnected :=
      congrArg Layers.state hlayers
    have hneg : (dtlsCompleted p e src rtc).dcNegotiated = rtc.sdp.hasDatachannel :=
      congrArg Layers.negotiated hlayers
    apply movesAt_set_bind
    · intro hl
      have hup : rtc.state.rank ≤ ConnState.dtlsConnected.rank := Nat.le_of_lt hrank
      have hlt : ConnState.dtlsConnected.rank < ConnState.connected.rank := by decide
      rw [hlayers, hstate]
      exact ⟨hl.advance rtc.sdp.hasDatachannel hup hlt (fun _ => hdtls) (hl.checks hnew), hup⟩
    · exact sound_startApplication p e hstate (hneg.trans hchannel.symm) src

/-- The DTLS handshake begins in a session whose checks have succeeded. -/
theorem sound_beginDtls {rtc : Rtc Ctx Rx} (hstate : rtc.state = .iceConnected)
    (src : NanortcAddr) : MovesAt Sound (rtcBeginDtlsHandshake p src) rtc := by
  -- DTLS does as it likes while the connection does not rely on it
  have hfree {rtc : Rtc Ctx Rx} (h : rtc.state = .iceConnected) (dtls : NanoDtls Ctx) :
      Calm rtc { rtc with dtls := dtls } := by
    apply calm_dtls
    intro hrank
    rw [h] at hrank
    exact absurd hrank (by decide)
  have hbegun {rtc : Rtc Ctx Rx} (h : rtc.state = .iceConnected) :
      Sound rtc (rtc.withState .dtlsHandshaking) := by
    intro hl
    have hup : rtc.state.rank ≤ ConnState.dtlsHandshaking.rank := by
      rw [h]
      decide
    have hlt : ConnState.dtlsHandshaking.rank < ConnState.connected.rank := by decide
    have hnew : rtc.state ≠ .new := by
      rw [h]
      decide
    refine ⟨hl.advance rtc.dcNegotiated hup hlt ?_ (hl.checks hnew), hup⟩
    intro hrank
    have hnot : ¬ ConnState.dtlsConnected.rank ≤ ConnState.dtlsHandshaking.rank := by decide
    exact absurd hrank hnot
  have hclient {rtc : Rtc Ctx Rx} (h : rtc.state = .iceConnected) :
      MovesAt Sound (do
        onDtls (dtlsStart p.dtls)
        modify (·.withState .dtlsHandshaking)
        unblock (rtcDrainDtlsOutput src)) rtc := by
    have hstart : MovesAt Calm (onDtls (dtlsStart p.dtls)) rtc := movesAt_onDtls.mpr (hfree h _)
    apply MovesAt.bind (hstart.mono fun _ => Calm.sound)
    intro _ rtc' hok
    have h' : rtc'.state = .iceConnected := (MovesAt.ok hstart hok).2.trans h
    apply movesAt_modify_bind (hbegun h')
    exact MovesAt.sound (movesAt_unblock.mpr (layers_drainDtls src _))
  have hrest {rtc : Rtc Ctx Rx} (h : rtc.state = .iceConnected) (isServer : Bool) :
      MovesAt Sound (do
        modify fun (rtc : Rtc Ctx Rx) =>
          let rtc := rtc.withOut { rtc.toNanoRtc with remoteAddr := src }
          { rtc with dtls := dtlsSetTime p.dtls rtc.dtls rtc.nowMs }
        if isServer then modify (·.withState .dtlsHandshaking)
        else
          onDtls (dtlsStart p.dtls)
          modify (·.withState .dtlsHandshaking)
          unblock (rtcDrainDtlsOutput src)) rtc := by
    apply movesAt_modify_bind
    · exact sound_of_same rfl
    apply MovesAt.ite
    · intro _
      exact movesAt_modify.mpr (hbegun h)
    · intro _
      exact hclient h
  unfold rtcBeginDtlsHandshake
  apply movesAt_get_bind.mpr
  dsimp only
  apply MovesAt.ite
  · intro _
    have hinit : MovesAt Calm (onDtls fun _ => dtlsInit p.dtls (rtc.sdp.localSetup == .passive)) rtc :=
      movesAt_onDtls.mpr (hfree hstate _)
    apply MovesAt.bind (hinit.mono fun _ => Calm.sound)
    intro _ rtc' hok
    exact hrest ((MovesAt.ok hinit hok).2.trans hstate) _
  · intro _
    exact hrest hstate _

theorem sound_timersDtls (nowMs : UInt32) : Moves Sound (rtcTimersDtls p e nowMs) := by
  intro rtc
  unfold rtcTimersDtls
  apply movesAt_get_bind.mpr
  apply MovesAt.ite_pure
  intro hstate
  have htimeout : MovesAt Calm (onDtls fun dtls => dtlsHandleTimeout p.dtls dtls nowMs) rtc :=
    movesAt_onDtls.mpr (calm_dtls fun _ h => dtlsHandleTimeout_established p.dtls h nowMs)
  apply MovesAt.bind (htimeout.mono fun _ => Calm.sound)
  intro _ rtc' hok
  have hnew : rtc'.state ≠ .new := by
    rw [(MovesAt.ok htimeout hok).2, hstate]
    decide
  apply movesAt_get_bind.mpr
  apply MovesAt.bind (sound_finishDtls p e hnew _)
  intro _ rtc'' _
  apply movesAt_get_bind.mpr
  exact MovesAt.sound (movesAt_unblock.mpr (layers_drainDtls _ _))

theorem layers_timersStun (nowMs : UInt32) :
    Moves (Same layers) (rtcTimersStun e nowMs : RtcM Ctx Rx Unit) := by
  intro rtc
  unfold rtcTimersStun
  apply movesAt_get_bind.mpr
  apply MovesAt.ite_pure
  intro _
  apply MovesAt.bind (movesAt_deferred.mpr (layers_txSlotAcquire rtc))
  intro slot rtc₁ _
  apply movesAt_get_bind.mpr
  dsimp only
  split
  · exact movesAt_throw _
  · apply movesAt_set_bind
    · exact layers_withIce rfl
    · apply MovesAt.bind (layers_txSlotSend _ _ _ _ _ _)
      intro _ rtc₂ _
      apply movesAt_modify.mpr
      show layers _ = layers rtc₂
      rfl

/-! ### SCTP and RTCP -/

/-- The timeout handler fails the association or leaves its state and its flag alone. -/
def KeepsOrFails (s s' : NanoSctp) : Prop :=
  (s'.state = s.state ∧ s'.closedDueToFailure = s.closedDueToFailure) ∨
    (s'.state = .closed ∧ s'.closedDueToFailure = true)

theorem keepsOrFails_timer : TimerRule KeepsOrFails where
  refl _ := .inl ⟨rfl, rfl⟩
  trans h h' := by
    cases h' with
    | inl h' =>
      cases h with
      | inl h => exact .inl ⟨h'.1.trans h.1, h'.2.trans h.2⟩
      | inr h => exact .inr ⟨h'.1.trans h.1, h'.2.trans h.2⟩
    | inr h' => exact .inr h'
  output _ _ := .inl ⟨rfl, rfl⟩
  sack _ := .inl ⟨rfl, rfl⟩
  sent _ _ _ _ _ := .inl ⟨rfl, rfl⟩
  abandon _ _ := .inl ⟨rfl, rfl⟩
  forward _ _ _ := .inl ⟨rfl, rfl⟩
  clock _ _ := .inl ⟨rfl, rfl⟩
  backoff _ := .inl ⟨rfl, rfl⟩
  fail _ := .inr ⟨rfl, rfl⟩
  heartbeat _ _ _ _ := .inl ⟨rfl, rfl⟩

theorem layers_timersPump : Moves (Same layers) (rtcTimersPump p) := by
  intro rtc
  unfold rtcTimersPump
  apply movesAt_get_bind.mpr
  apply MovesAt.ite_pure
  intro _
  apply MovesAt.bind (movesAt_unblock.mpr (layers_pumpSctp p _ rtc))
  intro _ rtc' _
  exact movesAt_unblock.mpr (layers_pumpDc p _ rtc')

/-- The cadence of sender reports. -/
theorem layers_timersReport (nowMs : UInt32) : Moves (Same layers)
    (unblock (onMedia fun m => nanoRtcMediaEmitRtcpSrCadence p.crypto m nowMs) :
      RtcM Ctx Rx Unit) :=
  fun rtc => movesAt_unblock.mpr (layers_onMedia (fun m => rtcSrCadence_layers p.crypto m nowMs) rtc)

/-- The end of the timers from the retransmission timer on. -/
def timersTail (nowMs : UInt32) : RtcM Ctx Rx Unit := do
  rtcTimersSctp e nowMs
  rtcTimersPump p
  rtcTimersFailure
  unblock (onMedia fun m => nanoRtcMediaEmitRtcpSrCadence p.crypto m nowMs)

/-- The association has failed and the connection has not noticed yet. -/
structure Exhausted (rtc : Rtc Ctx Rx) : Prop where
  flag : rtc.sctp.closedDueToFailure = true
  closed : rtc.sctp.state = .closed
  rest : Layered { layers rtc with sctp := .established, failed := false }

/-- The failure of the association is taken notice of. -/
def EndsExhausted (rtc rtc' : Rtc Ctx Rx) : Prop :=
  Exhausted rtc → Layered (layers rtc') ∧ rtc.state.rank ≤ rtc'.state.rank

instance : Trans (@EndsExhausted Ctx Rx) (Same layers) EndsExhausted :=
  ⟨fun {rtc rtc' rtc''} h hsame hx => by
    obtain ⟨hl, hrank⟩ := h hx
    have hsame : layers rtc'' = layers rtc' := hsame
    have hstate : rtc''.state = rtc'.state := congrArg Layers.state hsame
    rw [hsame, hstate]
    exact ⟨hl, hrank⟩⟩

theorem failure_exhausted : Moves EndsExhausted (rtcTimersFailure : RtcM Ctx Rx Unit) := by
  intro rtc
  unfold rtcTimersFailure
  apply movesAt_get_bind.mpr
  apply MovesAt.ite
  · intro _ h
    let cleared := { rtc with sctp := { rtc.sctp with closedDueToFailure := false } }
    have hcleared : layers cleared = { layers rtc with failed := false } := rfl
    by_cases hconn : rtc.state = .connected
    · rw [if_pos hconn]
      have hafter := layers_after_emitDisconnected cleared
      rw [hcleared] at hafter
      show Layered (layers (after rtcEmitDisconnected cleared)) ∧ _ ≤
        (layers (after rtcEmitDisconnected cleared)).state.rank
      rw [hafter]
      have hopen : rtc.state ≠ .closed := by
        rw [hconn]
        decide
      have hnew : rtc.state ≠ .new := by
        rw [hconn]
        decide
      exact ⟨h.rest.close hopen (h.rest.checks hnew) rtc.dtls.state rtc.sctp.state,
        rank_le_closed _⟩
    · rw [if_neg hconn]
      show Layered (layers cleared) ∧ _
      rw [hcleared]
      exact ⟨{ h.rest with sctp := fun hc => absurd hc hconn }, Nat.le_refl _⟩
  · intro hflag h
    exact absurd h.flag hflag

/-- Nothing is pumped for an association that has failed. -/
theorem timersPump_closed {rtc : Rtc Ctx Rx} (h : rtc.sctp.state = .closed) :
    rtcTimersPump p rtc = .ok () rtc := by
  have hnot : ¬ (rtc.sctp.state ≠ .closed ∧ rtc.dtls.state = .established) := fun hc => hc.1 h
  show (if rtc.sctp.state ≠ .closed ∧ rtc.dtls.state = .established then _ else _ :
    RtcM Ctx Rx Unit) rtc = _
  rw [if_neg hnot]
  rfl

theorem failure_alive {rtc : Rtc Ctx Rx} (h : rtc.sctp.closedDueToFailure = false) :
    MovesAt (Same layers) rtcTimersFailure rtc := by
  unfold rtcTimersFailure
  apply movesAt_get_bind.mpr
  apply MovesAt.ite_pure
  intro hflag
  rw [h] at hflag
  exact absurd hflag Bool.false_ne_true

/-- The retransmission timer keeps the layers, or the association fails without an error. -/
theorem timersSctp_cases (rtc : Rtc Ctx Rx) (nowMs : UInt32) :
    MovesAt (Same layers) (rtcTimersSctp e nowMs) rtc ∨
      ∃ sctp, rtcTimersSctp e nowMs rtc = .ok () { rtc with sctp := sctp } ∧
        rtc.sctp.state = .established ∧ sctp.state = .closed ∧ sctp.closedDueToFailure = true := by
  by_cases hstate : rtc.sctp.state = .established
  · obtain ⟨hkeeps, hflag⟩ | ⟨hclosed, hflag⟩ :=
      keepsOrFails_timer.handleTimeout rtc.sctp nowMs e.sctpNonce
    · left
      unfold rtcTimersSctp
      apply movesAt_get_bind.mpr
      rw [if_pos hstate]
      dsimp only
      apply movesAt_set_bind
      · exact layers_sctp hkeeps hflag
      · apply MovesAt.ite_pure
        exact fun _ => movesAt_throw _
    · right
      refine ⟨(nsctpHandleTimeout rtc.sctp nowMs e.sctpNonce).1, ?_, hstate, hclosed, hflag⟩
      show (if rtc.sctp.state = .established then _ else _ : RtcM Ctx Rx Unit) rtc = _
      rw [if_pos hstate]
      show (if (nsctpHandleTimeout rtc.sctp nowMs e.sctpNonce).2 ≠ .ok ∧
        !(nsctpHandleTimeout rtc.sctp nowMs e.sctpNonce).1.closedDueToFailure then _ else _ :
          RtcM Ctx Rx Unit) _ = _
      rw [hflag, if_neg (by simp)]
      rfl
  · left
    unfold rtcTimersSctp
    apply movesAt_get_bind.mpr
    rw [if_neg hstate]
    exact movesAt_pure _

theorem sound_timersTail (nowMs : UInt32) : Moves Sound (timersTail p e nowMs) := by
  intro rtc
  apply movesAt_sound
  intro hl
  unfold timersTail
  obtain hsame | ⟨sctp, hok, hstate, hclosed, hflag⟩ := timersSctp_cases e rtc nowMs
  · apply MovesAt.sound
    apply MovesAt.bind hsame
    intro _ rtc₁ h₁
    have hsame₁ : layers rtc₁ = layers rtc := layers_ok hsame h₁
    apply MovesAt.bind (layers_timersPump p rtc₁)
    intro _ rtc₂ h₂
    have hsame₂ : layers rtc₂ = layers rtc := (layers_ok (layers_timersPump p rtc₁) h₂).trans hsame₁
    have halive : rtc₂.sctp.closedDueToFailure = false :=
      (congrArg Layers.failed hsame₂).trans hl.alive
    apply MovesAt.bind (failure_alive halive)
    intro _ rtc₃ _
    exact layers_timersReport p nowMs rtc₃
  · have hexhausted : Exhausted { rtc with sctp := sctp } := ⟨hflag, hclosed, by
      have hrest : { layers { rtc with sctp := sctp } with
          sctp := .established, failed := false } = layers rtc := by
        have halive : rtc.sctp.closedDueToFailure = false := hl.alive
        unfold layers
        dsimp only
        rw [hstate, halive]
      rw [hrest]
      exact hl⟩
    intro _
    rw [after_bind_ok hok, after_bind_ok (timersPump_closed p hclosed)]
    have hends : MovesAt EndsExhausted (rtcTimersFailure >>= fun _ =>
        unblock (onMedia fun m => nanoRtcMediaEmitRtcpSrCadence p.crypto m nowMs))
        { rtc with sctp := sctp } :=
      MovesAt.append (failure_exhausted _) fun _ rtc' _ => layers_timersReport p nowMs rtc'
    exact hends hexhausted

/-- The timers after the checks. -/
def timersRest (nowMs : UInt32) : RtcM Ctx Rx Unit := do
  rtcTimersConsent p e nowMs
  rtcTimersTurn p e nowMs
  rtcTimersDtlsOutput
  rtcTimersDtls p e nowMs
  rtcTimersStun e nowMs
  timersTail p e nowMs

theorem sound_timersRest {rtc : Rtc Ctx Rx} {nowMs : UInt32}
    (h : rtc.state = .closed → iceConsentExpired rtc.ice nowMs = false) :
    MovesAt Sound (timersRest p e nowMs) rtc := by
  unfold timersRest
  apply MovesAt.bind (sound_timersConsent p e h)
  intro _ rtc₁ _
  apply MovesAt.bind (MovesAt.sound (layers_timersTurn p e nowMs rtc₁))
  intro _ rtc₂ _
  apply MovesAt.bind (MovesAt.sound (layers_timersDtlsOutput rtc₂))
  intro _ rtc₃ _
  apply MovesAt.bind (sound_timersDtls p e nowMs rtc₃)
  intro _ rtc₄ _
  apply MovesAt.bind (MovesAt.sound (layers_timersStun e nowMs rtc₄))
  intro _ rtc₅ _
  exact sound_timersTail p e nowMs rtc₅

/-- The timers keep the invariant, unless consent expires once more after the end. -/
theorem sound_processTimers {rtc : Rtc Ctx Rx} {nowMs : UInt32}
    (h : rtc.state = .closed → iceConsentExpired rtc.ice nowMs = false) :
    MovesAt Sound (rtcProcessTimers p e nowMs) rtc := by
  show MovesAt Sound (rtcTimersCheck p e nowMs >>= fun _ => timersRest p e nowMs) rtc
  apply MovesAt.bind (sound_timersCheck p e nowMs rtc)
  intro _ rtc' hok
  apply sound_timersRest
  by_cases hconn : rtc.ice.state = .connected
  · rw [timersCheck_connected p e hconn] at hok
    cases hok
    exact h
  · intro _
    have hne : rtc'.ice.state ≠ .connected :=
      MovesAt.ok (timersCheck_unconnected p e nowMs rtc) hok hconn
    unfold iceConsentExpired
    rw [if_pos hne]

end Nanortc.Spec
