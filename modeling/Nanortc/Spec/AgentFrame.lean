import Nanortc.Spec.SdpText
import Nanortc.Spec.SessionState

/-!
# Frames of the ICE agent

Most of what a connection does leaves its ICE agent and the candidates that it announces alone.
Such a step raises the state of the connection only once the checks have succeeded.

## Key results

- `aside_timersTail`, `aside_receiveDtls`: the timers behind the checks, and records of DTLS
- `aside_disconnect`, `negotiates_pollOutput`: the end of a session, and its output
- `negotiates_step`: the calls that concern neither input nor local candidates
-/

namespace Nanortc.Spec

open Nanortc.ForStd Nanortc.Native

variable {Ctx Rx : Type}

/-- The state stays, or the session is over, or the state rises behind the checks. -/
def Advances (s s' : ConnState) : Prop :=
  s' = s ∨ s' = .closed ∨ (ConnState.iceConnected.rank ≤ s.rank ∧ s.rank ≤ s'.rank)

theorem Advances.rank {s s' : ConnState} (h : Advances s s') : s.rank ≤ s'.rank := by
  obtain rfl | rfl | h := h
  · exact Nat.le_refl _
  · exact rank_le_closed s
  · exact h.2

theorem Advances.trans {s s' s'' : ConnState} (h : Advances s s') (h' : Advances s' s'') :
    Advances s s'' := by
  obtain rfl | rfl | ⟨hs, hle⟩ := h
  · exact h'
  · exact .inr (.inl (closed_of_rank h'.rank))
  · exact .inr (.inr ⟨hs, Nat.le_trans hle h'.rank⟩)

/-- The candidates of a connection that its description names, and whether those of the servers are
still to be handed out. -/
structure Announced where
  hosts : List (SdpCandidate LineText)
  srflx : SdpCandidate LineText
  hasSrflx : Bool
  relay : SdpCandidate LineText
  hasRelay : Bool
  srflxPending : Bool
  relayPending : Bool

/-- What a connection announces. -/
def announced (rtc : Rtc Ctx Rx) : Announced where
  hosts := rtc.sdp.localCandidates
  srflx := rtc.sdp.srflxCandidate
  hasSrflx := rtc.sdp.hasSrflxCandidate
  relay := rtc.sdp.relayCandidate
  hasRelay := rtc.sdp.hasRelayCandidate
  srflxPending := rtc.srflxCandidatePending
  relayPending := rtc.relayCandidatePending

/-- The agent and the candidates announced stay as they are. -/
structure Aside (rtc rtc' : Rtc Ctx Rx) : Prop where
  ice : rtc'.ice = rtc.ice
  hosts : announced rtc' = announced rtc
  state : Advances rtc.state rtc'.state

instance : Std.Refl (@Aside Ctx Rx) := ⟨fun _ => ⟨rfl, rfl, .inl rfl⟩⟩

instance : Trans (@Aside Ctx Rx) Aside Aside :=
  ⟨fun h h' => ⟨h'.ice.trans h.ice, h'.hosts.trans h.hosts, h.state.trans h'.state⟩⟩

/-! ### Steps of one layer -/

theorem aside_withMedia {rtc : Rtc Ctx Rx} {m : MediaRtc}
    (h : mediaLayers m = mediaLayers rtc.toMediaRtc) : Aside rtc (rtc.withMedia m) :=
  ⟨(Prod.mk.inj h).2, rfl, .inl (Prod.mk.inj h).1⟩

theorem aside_withOut {rtc : Rtc Ctx Rx} {out : NanoRtc} (h : out.ice = rtc.ice) :
    Aside rtc (rtc.withOut out) := ⟨h, rfl, .inl rfl⟩

theorem aside_onOut {f : NanoRtc → NanoRtc × Rc} (h : ∀ out, (f out).1.ice = out.ice) :
    Moves Aside (onOut f : RtcM Ctx Rx Unit) :=
  fun rtc => movesAt_onOut.mpr (aside_withOut (h rtc.toNanoRtc))

theorem aside_onMedia {f : MediaRtc → MediaRtc × Rc}
    (h : ∀ m, mediaLayers (f m).1 = mediaLayers m) :
    Moves Aside (onMedia f : RtcM Ctx Rx Unit) :=
  fun rtc => movesAt_onMedia.mpr (aside_withMedia (h rtc.toMediaRtc))

theorem aside_onTurn {α : Type} {f : NanoTurn → NanoTurn × Except Rc α} :
    Moves Aside (onTurn f : RtcM Ctx Rx α) :=
  fun _ => movesAt_onTurn.mpr (aside_withOut rfl)

theorem aside_onDtls {f : NanoDtls Ctx → NanoDtls Ctx × Rc} :
    Moves Aside (onDtls f : RtcM Ctx Rx Unit) :=
  fun _ => movesAt_onDtls.mpr ⟨rfl, rfl, .inl rfl⟩

theorem aside_onSctp {f : NanoSctp → NanoSctp × Rc} :
    Moves Aside (onSctp f : RtcM Ctx Rx Unit) :=
  fun _ => movesAt_onSctp.mpr ⟨rfl, rfl, .inl rfl⟩

theorem aside_txSlotAcquire : Moves Aside (txSlotAcquire : RtcM Ctx Rx Nat) :=
  fun _ => movesAt_txSlotAcquire.mpr (aside_withOut (nanoRtcTxSlotAcquire_ice _))

theorem aside_deferredAcquire : Moves Aside (deferred txSlotAcquire : RtcM Ctx Rx Nat) :=
  fun rtc => movesAt_deferred.mpr (aside_txSlotAcquire rtc)

theorem aside_txSlotSend (slot : Nat) (packet : List UInt8) (dest : NanortcAddr)
    (localSrc : Option NanortcAddr) (route : TxRoute) :
    Moves Aside (txSlotSend slot packet dest localSrc route : RtcM Ctx Rx Unit) := by
  unfold txSlotSend
  apply Moves.bind
  · exact fun rtc => movesAt_modify.mpr (aside_withOut rfl)
  · intro _
    exact aside_onOut fun out => rtcTxSlotCommitRoute_ice ..

theorem aside_emit (e : NanortcEvent) :
    Moves Aside (nanoRtcEmitEventFull e : RtcM Ctx Rx Unit) := by
  intro rtc
  apply movesAt_modify.mpr
  dsimp only
  split
  · exact ⟨rfl, rfl, .inl rfl⟩
  · exact ⟨rtcEnqueueOutput_ice .., rfl, .inl rfl⟩

theorem aside_emitDisconnected : Moves Aside (rtcEmitDisconnected : RtcM Ctx Rx Unit) := by
  unfold rtcEmitDisconnected
  apply Moves.bind (aside_emit _)
  exact fun _ rtc => movesAt_modify.mpr ⟨rfl, rfl, .inr (.inl rfl)⟩

theorem aside_unblock {m : RtcM Ctx Rx Unit} (h : Moves Aside m) : Moves Aside (unblock m) :=
  fun rtc => movesAt_unblock.mpr (h rtc)

theorem aside_ignoring {m : RtcM Ctx Rx Unit} (h : Moves Aside m) : Moves Aside (ignoring m) :=
  fun rtc => movesAt_ignoring.mpr (h rtc)

/-! ### Pumps -/

theorem aside_drainDtls (dest : NanortcAddr) :
    Moves Aside (rtcDrainDtlsOutput dest : RtcM Ctx Rx Unit) := by
  intro rtc
  unfold rtcDrainDtlsOutput
  apply movesAt_get_bind.mpr
  apply MovesAt.ite_pure
  intro _
  apply MovesAt.bind (aside_txSlotAcquire rtc)
  intro slot rtc' _
  apply movesAt_get_bind.mpr
  split
  · exact MovesAt.ite (fun _ => movesAt_pure _) fun _ => movesAt_throw _
  · apply movesAt_set_bind
    · exact ⟨rfl, rfl, .inl rfl⟩
    · exact aside_txSlotSend slot _ dest none .selected _

variable (p : Platform Ctx Rx) (e : Entropy)

theorem aside_sendSctpPacket (slot : Nat) (packet : List UInt8) (dest : NanortcAddr) :
    Moves Aside (rtcSendSctpPacket p slot packet dest) := by
  unfold rtcSendSctpPacket
  apply Moves.bind aside_onDtls
  intro _ rtc
  apply movesAt_get_bind.mpr
  split
  · exact movesAt_throw _
  · apply movesAt_set_bind
    · exact ⟨rfl, rfl, .inl rfl⟩
    · exact aside_txSlotSend slot _ dest none .selected _

theorem aside_pumpLoop (dest : NanortcAddr) (turns : Nat) :
    Moves Aside (rtcPumpSctpLoop p dest turns) := by
  induction turns with
  | zero => exact fun _ => movesAt_throw _
  | succ turns ih =>
    unfold rtcPumpSctpLoop
    apply Moves.bind aside_txSlotAcquire
    intro slot rtc
    apply movesAt_get_bind.mpr
    dsimp only
    apply movesAt_set_bind
    · exact ⟨rfl, rfl, .inl rfl⟩
    · split
      · exact MovesAt.ite (fun _ => movesAt_pure _) fun _ => movesAt_throw _
      · rename_i packet _
        apply MovesAt.ite
        · exact fun _ => movesAt_pure _
        · intro _
          exact Moves.bind (aside_sendSctpPacket p slot packet dest) (fun _ => ih) _

theorem aside_pumpSctp (dest : NanortcAddr) : Moves Aside (rtcPumpSctpThroughDtls p dest) := by
  unfold rtcPumpSctpThroughDtls
  exact Moves.bind (aside_drainDtls dest) fun _ => aside_pumpLoop p dest (txSlotCount + 1)

theorem aside_pumpDc (dest : NanortcAddr) : Moves Aside (rtcPumpDcThroughSctp p dest) := by
  intro rtc
  unfold rtcPumpDcThroughSctp
  apply movesAt_get_bind.mpr
  apply MovesAt.ite_pure
  intro _
  split
  · exact MovesAt.ite (fun _ => movesAt_pure _) fun _ => movesAt_throw _
  · apply MovesAt.bind (aside_onSctp rtc)
    intro _ rtc' _
    apply movesAt_modify_bind ⟨rfl, rfl, .inl rfl⟩
    exact aside_pumpSctp p dest _

/-! ### DTLS -/

/-- A state behind the checks, raised. -/
theorem aside_raise {rtc : Rtc Ctx Rx} (h : ConnState.iceConnected.rank ≤ rtc.state.rank)
    {state : ConnState} (hup : rtc.state.rank ≤ state.rank) : Aside rtc (rtc.withState state) :=
  ⟨rfl, rfl, .inr (.inr ⟨h, hup⟩)⟩

theorem aside_startApplication {rtc : Rtc Ctx Rx} (hstate : rtc.state = .dtlsConnected)
    (src : NanortcAddr) : MovesAt Aside (rtcStartApplication p e src) rtc := by
  have hbegun {rtc' : Rtc Ctx Rx} (h : Advances rtc.state rtc'.state) :
      ConnState.iceConnected.rank ≤ rtc'.state.rank := by
    refine Nat.le_trans ?_ h.rank
    rw [hstate]
    decide
  unfold rtcStartApplication
  apply movesAt_get_bind.mpr
  apply MovesAt.ite
  · intro _
    apply MovesAt.ite_pure
    intro _
    have hstart : MovesAt (Same fun rtc => rtc.state)
      (onSctp fun sctp => nsctpStart sctp e.startSeed) rtc := movesAt_onSctp.mpr rfl
    apply MovesAt.bind (aside_onSctp rtc)
    intro _ rtc' hok
    have hsame : rtc'.state = rtc.state :=
      MovesAt.ok (R := Same fun (rtc : Rtc Ctx Rx) => rtc.state) hstart hok
    apply movesAt_modify_bind
    · apply aside_raise (hbegun (.inl hsame))
      rw [hsame, hstate]
      decide
    · exact aside_unblock (aside_pumpSctp p src) _
  · intro _
    apply movesAt_set_bind
    · apply aside_raise (hbegun (.inl rfl))
      rw [hstate]
      decide
    · exact aside_emit _ _

theorem dtlsCompleted_aside (src : NanortcAddr) {rtc : Rtc Ctx Rx}
    (h : ConnState.iceConnected.rank ≤ rtc.state.rank)
    (hup : rtc.state.rank < ConnState.dtlsConnected.rank) :
    Aside rtc (dtlsCompleted p e src rtc) ∧ (dtlsCompleted p e src rtc).state = .dtlsConnected := by
  have hcache (rtc : Rtc Ctx Rx) : (nanoRtcCacheFingerprint rtc).toMediaRtc = rtc.toMediaRtc ∧
      announced (nanoRtcCacheFingerprint rtc) = announced rtc := by
    unfold nanoRtcCacheFingerprint
    dsimp only
    split
    · exact ⟨rfl, rfl⟩
    split <;> exact ⟨rfl, rfl⟩
  have hrest := hcache { (rtc.withState .dtlsConnected).withOut
    { (rtc.withState .dtlsConnected).toNanoRtc with remoteAddr := src } with
      dcNegotiated := rtc.sdp.hasDatachannel }
  have hice := congrArg (fun m : MediaRtc => m.ice) hrest.1
  have hstate := congrArg (fun m : MediaRtc => m.state) hrest.1
  have hadv : Advances rtc.state .dtlsConnected := .inr (.inr ⟨h, Nat.le_of_lt hup⟩)
  unfold dtlsCompleted
  dsimp only
  split
  · exact ⟨⟨hice, hrest.2, hstate ▸ hadv⟩, hstate⟩
  · exact ⟨⟨hice, hrest.2, hstate ▸ hadv⟩, hstate⟩

theorem aside_finishDtls {rtc : Rtc Ctx Rx} (h : ConnState.iceConnected.rank ≤ rtc.state.rank)
    (src : NanortcAddr) : MovesAt Aside (rtcFinishDtls p e src) rtc := by
  unfold rtcFinishDtls
  apply movesAt_get_bind.mpr
  apply MovesAt.ite_pure
  intro ⟨_, hrank⟩
  apply MovesAt.ite
  · exact fun _ => movesAt_throw _
  · intro _
    show MovesAt Aside (set (dtlsCompleted p e src rtc) >>= fun _ => rtcStartApplication p e src) rtc
    obtain ⟨haside, hstate⟩ := dtlsCompleted_aside p e src h hrank
    exact movesAt_set_bind haside (aside_startApplication p e hstate src)

theorem aside_beginDtls {rtc : Rtc Ctx Rx} (hstate : rtc.state = .iceConnected)
    (src : NanortcAddr) : MovesAt Aside (rtcBeginDtlsHandshake p src) rtc := by
  have hbegun {rtc : Rtc Ctx Rx} (h : rtc.state = .iceConnected) :
      Aside rtc (rtc.withState .dtlsHandshaking) := by
    apply aside_raise
    · rw [h]
    · rw [h]
      decide
  have hkept {f : NanoDtls Ctx → NanoDtls Ctx × Rc} {rtc rtc' : Rtc Ctx Rx}
      (h : rtc.state = .iceConnected) (hok : onDtls f rtc = .ok () rtc') :
      rtc'.state = .iceConnected := by
    have hsame : MovesAt (Same fun rtc => rtc.state) (onDtls f) rtc := movesAt_onDtls.mpr rfl
    exact (MovesAt.ok (R := Same fun (rtc : Rtc Ctx Rx) => rtc.state) hsame hok).trans h
  have hclient {rtc : Rtc Ctx Rx} (h : rtc.state = .iceConnected) :
      MovesAt Aside (do
        onDtls (dtlsStart p.dtls)
        modify (·.withState .dtlsHandshaking)
        unblock (rtcDrainDtlsOutput src)) rtc := by
    apply MovesAt.bind (aside_onDtls rtc)
    intro _ rtc' hok
    apply movesAt_modify_bind (hbegun (hkept h hok))
    exact aside_unblock (aside_drainDtls src) _
  have hrest {rtc : Rtc Ctx Rx} (h : rtc.state = .iceConnected) (isServer : Bool) :
      MovesAt Aside (do
        modify fun (rtc : Rtc Ctx Rx) =>
          let rtc := rtc.withOut { rtc.toNanoRtc with remoteAddr := src }
          { rtc with dtls := dtlsSetTime p.dtls rtc.dtls rtc.nowMs }
        if isServer then modify (·.withState .dtlsHandshaking)
        else
          onDtls (dtlsStart p.dtls)
          modify (·.withState .dtlsHandshaking)
          unblock (rtcDrainDtlsOutput src)) rtc := by
    apply movesAt_modify_bind ⟨rfl, rfl, .inl rfl⟩
    apply MovesAt.ite
    · intro _
      exact movesAt_modify.mpr (hbegun h)
    · exact fun _ => hclient h
  unfold rtcBeginDtlsHandshake
  apply movesAt_get_bind.mpr
  dsimp only
  apply MovesAt.ite
  · intro _
    apply MovesAt.bind (aside_onDtls rtc)
    intro _ rtc' hok
    exact hrest (hkept hstate hok) _
  · exact fun _ => hrest hstate _

/-! ### Timers -/

theorem aside_timersTurn (nowMs : UInt32) : Moves Aside (rtcTimersTurn p e nowMs) := by
  have hpeer : Moves Aside (rtcTurnPeerRequest p e nowMs) := by
    intro rtc
    unfold rtcTurnPeerRequest
    apply movesAt_get_bind.mpr
    split
    · exact aside_onTurn rtc
    · apply MovesAt.ite
      · exact fun _ => aside_onTurn rtc
      · exact fun _ => movesAt_pure _
  have hsend (slot : Nat) (packet : List UInt8) : Moves Aside (do
      if packet ≠ [] then
        txSlotSend slot packet (rtcTurnServerAddr (← get).turn) none .direct :
          RtcM Ctx Rx Unit) := by
    intro rtc
    apply MovesAt.ite_pure
    intro _
    exact movesAt_get_bind.mpr (aside_txSlotSend _ _ _ _ _ rtc)
  intro rtc
  unfold rtcTimersTurn
  apply movesAt_get_bind.mpr
  apply MovesAt.ite_pure
  intro _
  apply MovesAt.bind (aside_deferredAcquire rtc)
  intro slot rtc₁ _
  apply MovesAt.bind (aside_onTurn rtc₁)
  intro packet rtc₂ _
  dsimp only
  apply MovesAt.ite
  · intro _
    apply MovesAt.bind (hpeer rtc₂)
    exact fun packet rtc₃ _ => hsend slot packet rtc₃
  · exact fun _ => hsend slot packet rtc₂

theorem aside_timersDtlsOutput : Moves Aside (rtcTimersDtlsOutput : RtcM Ctx Rx Unit) := by
  intro rtc
  unfold rtcTimersDtlsOutput
  apply movesAt_get_bind.mpr
  apply MovesAt.ite_pure
  exact fun _ => movesAt_deferred.mpr (aside_drainDtls _ rtc)

theorem aside_timersDtls (nowMs : UInt32) : Moves Aside (rtcTimersDtls p e nowMs) := by
  intro rtc
  unfold rtcTimersDtls
  apply movesAt_get_bind.mpr
  apply MovesAt.ite_pure
  intro hstate
  have hsame : MovesAt (Same fun rtc => rtc.state)
    (onDtls fun dtls => dtlsHandleTimeout p.dtls dtls nowMs) rtc := movesAt_onDtls.mpr rfl
  apply MovesAt.bind (aside_onDtls rtc)
  intro _ rtc' hok
  have hstate' : rtc'.state = .dtlsHandshaking :=
    (MovesAt.ok (R := Same fun (rtc : Rtc Ctx Rx) => rtc.state) hsame hok).trans hstate
  apply movesAt_get_bind.mpr
  apply MovesAt.bind
  · apply aside_finishDtls
    rw [hstate']
    decide
  · intro _ rtc'' _
    apply movesAt_get_bind.mpr
    exact aside_unblock (aside_drainDtls _) rtc''

theorem aside_timersSctp (nowMs : UInt32) :
    Moves Aside (rtcTimersSctp e nowMs : RtcM Ctx Rx Unit) := by
  intro rtc
  unfold rtcTimersSctp
  apply movesAt_get_bind.mpr
  apply MovesAt.ite_pure
  intro _
  dsimp only
  apply movesAt_set_bind ⟨rfl, rfl, .inl rfl⟩
  apply MovesAt.ite_pure
  exact fun _ => movesAt_throw _

theorem aside_timersPump : Moves Aside (rtcTimersPump p) := by
  intro rtc
  unfold rtcTimersPump
  apply movesAt_get_bind.mpr
  apply MovesAt.ite_pure
  intro _
  apply MovesAt.bind (aside_unblock (aside_pumpSctp p _) rtc)
  exact fun _ rtc' _ => aside_unblock (aside_pumpDc p _) rtc'

theorem aside_timersFailure : Moves Aside (rtcTimersFailure : RtcM Ctx Rx Unit) := by
  intro rtc
  unfold rtcTimersFailure
  apply movesAt_get_bind.mpr
  apply MovesAt.ite_pure
  intro _
  apply movesAt_set_bind ⟨rfl, rfl, .inl rfl⟩
  apply MovesAt.ite_pure
  exact fun _ => aside_emitDisconnected _

theorem aside_timersTail (nowMs : UInt32) : Moves Aside (timersTail p e nowMs) := by
  unfold timersTail
  apply Moves.bind (aside_timersSctp e nowMs)
  intro _
  apply Moves.bind (aside_timersPump p)
  intro _
  apply Moves.bind aside_timersFailure
  intro _
  exact aside_unblock (aside_onMedia fun m => rtcSrCadence_layers p.crypto m nowMs)

/-! ### Checks and their answers -/

theorem aside_sendCheck (slot : Nat) (check : SentCheck) :
    Moves Aside (rtcSendCheck slot check : RtcM Ctx Rx Unit) := by
  intro rtc
  unfold rtcSendCheck
  apply movesAt_get_bind.mpr
  dsimp only
  split
  · apply MovesAt.ite
    · exact fun _ => aside_txSlotSend _ _ _ _ _ rtc
    · exact fun _ => aside_txSlotSend _ _ _ _ _ rtc
  · exact movesAt_pure _

theorem aside_afterCheck (before : IceState) :
    Moves Aside (afterCheck before : RtcM Ctx Rx Unit) := by
  have hfail : Moves Aside (rtcFailIce : RtcM Ctx Rx Unit) := by
    intro rtc
    unfold rtcFailIce
    apply movesAt_get_bind.mpr
    apply MovesAt.ite_pure
    intro _
    apply MovesAt.bind (aside_emit _ rtc)
    exact fun _ rtc' _ => aside_emitDisconnected rtc'
  intro rtc
  unfold afterCheck
  apply movesAt_get_bind.mpr
  dsimp only
  apply MovesAt.ite
  · intro _
    apply MovesAt.bind (aside_emit _ rtc)
    exact fun _ rtc' _ => hfail rtc'
  · exact fun _ => hfail rtc

theorem aside_sendStunResponse (slot : Nat) (packet : List UInt8) (src : NanortcAddr)
    (localIdx : Nat) (viaTurn : Bool) :
    Moves Aside (rtcSendStunResponse slot packet src localIdx viaTurn : RtcM Ctx Rx Unit) := by
  intro rtc
  unfold rtcSendStunResponse
  apply movesAt_get_bind.mpr
  dsimp only
  split
  · apply MovesAt.ite
    · exact fun _ => aside_txSlotSend _ _ _ _ _ rtc
    · exact fun _ => aside_txSlotSend _ _ _ _ _ rtc
  · exact aside_txSlotSend _ _ _ _ _ rtc

/-! ### Datagrams -/

theorem aside_receiveSctp {rtc : Rtc Ctx Rx} (h : ConnState.iceConnected.rank ≤ rtc.state.rank)
    (src : NanortcAddr) (packet : List UInt8) :
    MovesAt Aside (rtcReceiveSctp p e src packet) rtc := by
  have hpump : Moves Aside (unblock (rtcPumpSctpThroughDtls p src) >>= fun _ =>
      unblock (rtcPumpDcThroughSctp p src)) :=
    Moves.bind (aside_unblock (aside_pumpSctp p src)) fun _ => aside_unblock (aside_pumpDc p src)
  have hsame : MovesAt (Same fun rtc => rtc.state)
    (onSctp fun sctp => nsctpHandleData sctp e.initSeed packet) rtc := movesAt_onSctp.mpr rfl
  unfold rtcReceiveSctp
  apply MovesAt.bind (aside_onSctp rtc)
  intro _ rtc₁ hok
  have hstate₁ : rtc₁.state = rtc.state :=
    MovesAt.ok (R := Same fun (rtc : Rtc Ctx Rx) => rtc.state) hsame hok
  apply movesAt_get_bind.mpr
  dsimp only
  apply MovesAt.ite
  · intro ⟨_, hrank⟩
    apply movesAt_set_bind
    · refine ⟨rfl, rfl, .inr (.inr ⟨?_, Nat.le_of_lt hrank⟩)⟩
      rw [hstate₁]
      exact h
    · apply MovesAt.bind (aside_emit _ _)
      exact fun _ rtc₂ _ => hpump rtc₂
  · exact fun _ => hpump rtc₁

theorem aside_decryptHead (data : List UInt8) (src : NanortcAddr) :
    Moves Aside (decryptHead p e data src) := by
  intro rtc
  unfold decryptHead
  apply movesAt_get_bind.mpr
  apply MovesAt.ite
  · exact fun _ => movesAt_throw_bind _ _
  · intro hrank
    have hbegun {rtc' : Rtc Ctx Rx} (h : Aside rtc rtc') :
        ConnState.iceConnected.rank ≤ rtc'.state.rank :=
      Nat.le_trans (Nat.le_of_not_lt hrank) h.state.rank
    let timed := { rtc with dtls := dtlsSetTime p.dtls rtc.dtls rtc.nowMs }
    have htimed : Aside rtc timed := ⟨rfl, rfl, .inl rfl⟩
    apply movesAt_set_bind htimed
    apply MovesAt.bind (aside_onDtls timed)
    intro _ rtc₁ h₁
    have haside₁ : Aside timed rtc₁ := MovesAt.ok (aside_onDtls timed) h₁
    apply MovesAt.bind (aside_unblock (aside_drainDtls src) rtc₁)
    intro _ rtc₂ h₂
    have haside₂ : Aside rtc₁ rtc₂ := MovesAt.ok (aside_unblock (aside_drainDtls src) rtc₁) h₂
    apply aside_finishDtls
    exact hbegun (Trans.trans htimed (Trans.trans haside₁ haside₂))

theorem aside_takeAppData : Moves Aside (takeAppData : RtcM Ctx Rx _) := by
  intro rtc
  unfold takeAppData
  apply movesAt_get_bind.mpr
  apply MovesAt.ite
  · intro _
    exact movesAt_set_bind ⟨rfl, rfl, .inl rfl⟩ (movesAt_pure _)
  · exact fun _ => movesAt_pure _

theorem aside_receiveDtls (data : List UInt8) (src : NanortcAddr) :
    Moves Aside (rtcReceiveDtls p e data src) := by
  have hdecrypt : Moves Aside (rtcDecryptDtls p e data src) := by
    rw [decryptDtls_eq]
    exact Moves.bind (aside_decryptHead p e data src) fun _ => aside_takeAppData
  intro rtc
  unfold rtcReceiveDtls
  apply MovesAt.bind (hdecrypt rtc)
  intro r rtc' hok
  split
  · exact movesAt_pure _
  · -- a datagram decrypts only behind the checks
    have hrank : ¬ rtc.state.rank < ConnState.iceConnected.rank := by
      intro hearly
      have hthrow : decryptHead p e data src rtc = .error .state rtc := by
        show (if rtc.state.rank < ConnState.iceConnected.rank then throw .state >>= fun _ => _
          else _ : RtcM Ctx Rx Unit) rtc = _
        rw [if_pos hearly]
        rfl
      rw [decryptDtls_eq] at hok
      obtain ⟨_, _, hhead, _⟩ := ok_of_bind hok
      rw [hthrow] at hhead
      cases hhead
    have haside : Aside rtc rtc' := MovesAt.ok (hdecrypt rtc) hok
    apply aside_receiveSctp
    exact Nat.le_trans (Nat.le_of_not_lt hrank) haside.state.rank

theorem aside_receiveMedia (data : List UInt8) : Moves Aside (rtcReceiveMedia p data) := by
  intro rtc
  unfold rtcReceiveMedia
  apply movesAt_get_bind.mpr
  apply MovesAt.ite_pure
  intro _
  dsimp only
  apply movesAt_set_bind ⟨rfl, rfl, .inl rfl⟩
  apply MovesAt.bind (Moves.forM (fun ev : MediaEvent => aside_emit ev.event) _ _)
  intro _ rtc' _
  apply MovesAt.ite_pure
  exact fun _ => movesAt_throw _

/-! ### Calls -/

theorem aside_createDatachannel (label : List UInt8) (options : DatachannelOptions) :
    Moves Aside (nanortcCreateDatachannel p label options) := by
  intro rtc
  unfold nanortcCreateDatachannel
  apply movesAt_modify_bind
  · split
    · exact Std.Refl.refl (r := Aside) rtc
    · exact ⟨rfl, rfl, .inl rfl⟩
  · apply movesAt_get_bind.mpr
    dsimp only
    apply movesAt_set_bind ⟨rfl, rfl, .inl rfl⟩
    apply MovesAt.ite
    · exact fun _ => movesAt_throw_bind _ _
    · intro _
      apply MovesAt.ite_pure
      exact fun _ => aside_ignoring (aside_pumpDc p _) _

theorem aside_datachannelSend (id : UInt16) (data : List UInt8) (binary : Bool) :
    Moves Aside (rtcDatachannelSend id data binary : RtcM Ctx Rx Unit) := by
  intro rtc
  unfold rtcDatachannelSend
  apply movesAt_get_bind.mpr
  apply MovesAt.ite
  · exact fun _ => movesAt_throw_bind _ _
  · intro _
    split
    · exact movesAt_throw _
    · apply MovesAt.ite
      · exact fun _ => movesAt_throw_bind _ _
      · exact fun _ => aside_onSctp rtc

theorem aside_datachannelClose (id : UInt16) :
    Moves Aside (nanortcDatachannelClose id : RtcM Ctx Rx Unit) := by
  intro rtc
  unfold nanortcDatachannelClose
  apply movesAt_get_bind.mpr
  apply MovesAt.ite
  · exact fun _ => movesAt_throw_bind _ _
  · intro _
    apply movesAt_set_bind ⟨rfl, rfl, .inl rfl⟩
    exact aside_emit _ _

theorem aside_addTrack (kind : TrackKind) (direction : Direction) (pt : UInt8)
    (sampleRate : UInt32) (channels : UInt8) :
    Moves Aside (nanortcAddTrack kind direction pt sampleRate channels : RtcM Ctx Rx Unit) := by
  intro rtc
  unfold nanortcAddTrack
  apply movesAt_get_bind.mpr
  apply MovesAt.ite
  · exact fun _ => movesAt_throw_bind _ _
  · exact fun _ => movesAt_set.mpr ⟨rfl, rfl, .inl rfl⟩

theorem aside_setDirection (mid : UInt8) (direction : Direction) :
    Moves Aside (nanortcSetDirection mid direction : RtcM Ctx Rx Unit) := by
  intro rtc
  unfold nanortcSetDirection
  apply movesAt_get_bind.mpr
  split
  · exact movesAt_pure _
  · dsimp only
    apply movesAt_set_bind ⟨rfl, rfl, .inl rfl⟩
    exact MovesAt.ite_pure fun _ => aside_emit _ _

theorem aside_disconnect : Moves Aside (nanortcDisconnect p) := by
  have hshutdown : Moves Aside (rtcShutdownSctp p) := by
    intro rtc
    unfold rtcShutdownSctp
    apply movesAt_get_bind.mpr
    apply MovesAt.ite_pure
    intro _
    apply MovesAt.bind (aside_ignoring aside_onDtls rtc)
    intro _ rtc₁ _
    apply MovesAt.bind (aside_ignoring (aside_drainDtls _) rtc₁)
    exact fun _ rtc₂ _ => movesAt_modify.mpr ⟨rfl, rfl, .inl rfl⟩
  intro rtc
  unfold nanortcDisconnect
  apply movesAt_get_bind.mpr
  apply MovesAt.ite_pure
  intro _
  apply MovesAt.bind (hshutdown rtc)
  intro _ rtc₁ _
  apply movesAt_modify_bind ⟨rfl, rfl, .inl rfl⟩
  apply MovesAt.bind (aside_ignoring (aside_drainDtls _) _)
  intro _ rtc₂ _
  apply movesAt_modify_bind ⟨rfl, rfl, .inr (.inl rfl)⟩
  exact aside_emit _ _

/-! ### Negotiation -/

/-- The agent without what a negotiation sets. -/
def NanoIce.bare (ice : NanoIce) : NanoIce :=
  { ice with
    localUfrag := [], localPwd := [], remoteUfrag := [], remotePwd := []
    remoteCandidates := [], endOfCandidates := false }

/-- The candidates stay, and none is to be handed out that was not before. -/
structure Announced.HandsOut (a a' : Announced) : Prop where
  same : a' = { a with srflxPending := a'.srflxPending, relayPending := a'.relayPending }
  srflx : a'.srflxPending = true → a.srflxPending = true
  relay : a'.relayPending = true → a.relayPending = true

theorem Announced.HandsOut.refl (a : Announced) : a.HandsOut a := ⟨rfl, id, id⟩

theorem Announced.HandsOut.trans {a b c : Announced} (h : a.HandsOut b) (h' : b.HandsOut c) :
    a.HandsOut c := by
  refine ⟨?_, fun hc => h.srflx (h'.srflx hc), fun hc => h.relay (h'.relay hc)⟩
  rw [h'.same, h.same]

/-- In the agent only what a negotiation sets changes. -/
structure Negotiates (rtc rtc' : Rtc Ctx Rx) : Prop where
  ice : NanoIce.bare rtc'.ice = NanoIce.bare rtc.ice
  hosts : (announced rtc).HandsOut (announced rtc')
  state : Advances rtc.state rtc'.state

instance : Std.Refl (@Negotiates Ctx Rx) := ⟨fun _ => ⟨rfl, .refl _, .inl rfl⟩⟩

instance : Trans (@Negotiates Ctx Rx) Negotiates Negotiates :=
  ⟨fun h h' => ⟨h'.ice.trans h.ice, h.hosts.trans h'.hosts, h.state.trans h'.state⟩⟩

theorem Aside.negotiates {rtc rtc' : Rtc Ctx Rx} (h : Aside rtc rtc') : Negotiates rtc rtc' :=
  ⟨congrArg NanoIce.bare h.ice, h.hosts ▸ .refl _, h.state⟩

theorem MovesAt.negotiates {α : Type} {m : RtcM Ctx Rx α} {rtc : Rtc Ctx Rx}
    (h : MovesAt Aside m rtc) : MovesAt Negotiates m rtc := Aside.negotiates h

/-! ### Output -/

/-- A candidate handed out is not handed out again. -/
theorem negotiates_candidateProduce {rtc rtc' : Rtc Ctx Rx}
    (h : nanoRtcCandidateProduce rtc = some rtc') : Negotiates rtc rtc' := by
  unfold nanoRtcCandidateProduce at h
  split at h
  · cases h
    exact ⟨rfl, .refl _, .inl rfl⟩
  split at h
  · rename_i hsrflx
    cases h
    exact ⟨rfl, ⟨rfl, fun _ => hsrflx, id⟩, .inl rfl⟩
  split at h
  · rename_i hrelay
    cases h
    exact ⟨rfl, ⟨rfl, id, fun _ => hrelay⟩, .inl rfl⟩
  · cases h

theorem negotiates_pollOutput (rtc : Rtc Ctx Rx) : Negotiates rtc (nanortcPollOutput p rtc).1 := by
  have hqueue : Aside rtc (rtc.withOut (rtcPollQueuedOutput (nanoRtcPacerPump rtc.toNanoRtc)).1) :=
    aside_withOut ((rtcPollQueuedOutput_ice _).trans (nanoRtcPacerPump_ice _))
  have hturn (rtc : Rtc Ctx Rx) : Aside rtc (rtcPollDeliveryTurn rtc).1 := by
    unfold rtcPollDeliveryTurn
    split
    · exact ⟨rfl, rfl, .inl rfl⟩
    · dsimp only
      split <;> exact ⟨rfl, rfl, .inl rfl⟩
  have hdelivery (turns : Nat) (rtc : Rtc Ctx Rx) : Aside rtc (rtcPollDelivery turns rtc).1 :=
    turnsUntil_invariant (P := fun rtc' => Aside rtc rtc')
      (fun rtc' h => Trans.trans h (hturn rtc')) turns (Std.Refl.refl (r := Aside) rtc)
  have hmedia (rtc : Rtc Ctx Rx) : Aside rtc (rtcPollMedia p rtc).1 := by
    unfold rtcPollMedia
    dsimp only
    split
    · exact ⟨rfl, rfl, .inl rfl⟩
    · exact ⟨rtcPollQueuedOutput_ice _, rfl, .inl rfl⟩
  unfold nanortcPollOutput
  dsimp only
  revert hqueue
  generalize rtcPollQueuedOutput (nanoRtcPacerPump rtc.toNanoRtc) = polled
  intro hqueue
  split
  · exact hqueue.negotiates
  · exact Aside.negotiates (Trans.trans (r := Aside) (s := Aside) hqueue ⟨rfl, rfl, .inl rfl⟩)
  · split
    · rename_i hproduce
      exact Trans.trans hqueue.negotiates (negotiates_candidateProduce hproduce)
    · have hdeliver := hdelivery (sctpMaxRecvGap + 1) (rtc.withOut polled.1)
      revert hdeliver
      generalize rtcPollDelivery (sctpMaxRecvGap + 1) (rtc.withOut polled.1) = r
      intro hdeliver
      split
      · exact Aside.negotiates (Trans.trans hqueue (Trans.trans hdeliver (hmedia _)))
      · exact Aside.negotiates (Trans.trans hqueue hdeliver)

/-! ### Descriptions -/

theorem iceAddRemote_bare (ice : NanoIce) (c : IceCandidate) :
    NanoIce.bare (iceAddRemote ice c).1 = NanoIce.bare ice := by
  unfold iceAddRemote
  dsimp only
  split
  · rfl
  split <;> rfl

theorem negotiates_addSdpCandidates (rtc : Rtc Ctx Rx) :
    Negotiates rtc (rtcAddSdpCandidates rtc) := by
  refine ⟨?_, .refl _, .inl rfl⟩
  unfold rtcAddSdpCandidates
  refine List.foldlRecOn _ _ (motive := fun ice : NanoIce => NanoIce.bare ice = NanoIce.bare rtc.ice) rfl ?_
  intro ice h c _
  split
  · exact h
  · exact (iceAddRemote_bare _ _).trans h

theorem aside_sdpParse (text : List UInt8) :
    Moves Aside (rtcSdpParse text : RtcM Ctx Rx Unit) := by
  intro rtc
  have hhosts : announced { rtc with sdp := (sdpParse rtc.sdp text).1 } = announced rtc := by
    rw [← sdpParse_local rtc.sdp text]
    rfl
  show Aside rtc (after (rtcSdpParse text) rtc)
  unfold after rtcSdpParse
  revert hhosts
  cases sdpParse rtc.sdp text with
  | mk sdp rc =>
    intro hhosts
    cases rc <;> exact ⟨rfl, hhosts, .inl rfl⟩

theorem aside_sdpGenerate (bufLen : Nat) :
    Moves Aside (rtcSdpGenerate bufLen : RtcM Ctx Rx (List UInt8)) := by
  intro rtc
  have hhosts : announced { rtc with sdp := (sdpGenerateAnswer rtc.sdp bufLen).1 } =
      announced rtc := by
    rw [(sdpGenerateAnswer_same rtc.sdp bufLen).1]
    rfl
  show Aside rtc (after (rtcSdpGenerate bufLen) rtc)
  unfold after rtcSdpGenerate
  revert hhosts
  cases sdpGenerateAnswer rtc.sdp bufLen with
  | mk sdp text =>
    intro hhosts
    cases text <;> exact ⟨rfl, hhosts, .inl rfl⟩

theorem aside_applyMedia : Moves Aside (rtcApplyNegotiatedMedia : RtcM Ctx Rx Unit) := by
  have hline (i : Nat) : Moves Aside (rtcApplyMline i : RtcM Ctx Rx PUnit) := by
    intro rtc
    unfold rtcApplyMline
    apply movesAt_get_bind.mpr
    split
    · exact movesAt_pure _
    rename_i ml _
    apply MovesAt.ite_pure
    intro _
    dsimp only
    apply MovesAt.ite_pure
    intro _
    apply MovesAt.ite
    · intro _
      apply movesAt_set_bind ⟨rfl, rfl, .inl rfl⟩
      apply MovesAt.bind (aside_emit _ _)
      exact fun _ rtc' _ => movesAt_modify.mpr ⟨rfl, rfl, .inl rfl⟩
    · exact fun _ => movesAt_modify.mpr ⟨rfl, rfl, .inl rfl⟩
  intro rtc
  unfold rtcApplyNegotiatedMedia
  apply movesAt_get_bind.mpr
  exact Moves.forM hline _ rtc

theorem aside_earlyDtls (isServer : Bool) : Moves Aside (rtcEarlyDtls p isServer) := by
  have hcache (rtc : Rtc Ctx Rx) : Aside rtc (nanoRtcCacheFingerprint rtc) := by
    unfold nanoRtcCacheFingerprint
    dsimp only
    split
    · exact Std.Refl.refl (r := Aside) rtc
    split
    · exact ⟨rfl, rfl, .inl rfl⟩
    · exact Std.Refl.refl (r := Aside) rtc
  intro rtc
  unfold rtcEarlyDtls
  apply movesAt_get_bind.mpr
  apply MovesAt.ite_pure
  intro _
  apply MovesAt.bind (aside_onDtls rtc)
  exact fun _ rtc' _ => movesAt_modify.mpr (hcache rtc')

theorem negotiates_iceCredentials (credentials : Option (List UInt8 × List UInt8)) :
    Moves Negotiates (rtcGenerateIceCredentials credentials : RtcM Ctx Rx Unit) := by
  intro rtc
  cases credentials with
  | none => exact movesAt_throw _
  | some c => exact movesAt_modify.mpr ⟨rfl, .refl _, .inl rfl⟩

theorem negotiates_acceptOffer (offer : List UInt8) (bufLen : Nat) :
    Moves Negotiates (dropping (nanortcAcceptOffer p e offer bufLen)) := by
  apply moves_dropping
  intro rtc
  unfold nanortcAcceptOffer
  apply movesAt_get_bind.mpr
  apply MovesAt.ite
  · exact fun _ => movesAt_throw_bind _ _
  intro _
  apply MovesAt.bind (negotiates_iceCredentials _ rtc)
  intro _ rtc₁ _
  apply MovesAt.bind (MovesAt.negotiates (aside_sdpParse _ rtc₁))
  intro _ rtc₂ _
  apply movesAt_modify_bind ⟨rfl, .refl _, .inl rfl⟩
  apply MovesAt.bind (MovesAt.negotiates (aside_applyMedia _))
  intro _ rtc₃ _
  apply movesAt_modify_bind ⟨rfl, .refl _, .inl rfl⟩
  apply movesAt_get_bind.mpr
  apply MovesAt.bind (MovesAt.negotiates (aside_earlyDtls p _ _))
  intro _ rtc₄ _
  apply MovesAt.bind (MovesAt.negotiates (aside_sdpGenerate bufLen rtc₄))
  intro _ rtc₅ _
  exact movesAt_modify_bind (negotiates_addSdpCandidates rtc₅) (movesAt_pure _)

theorem negotiates_createOffer (bufLen : Nat) :
    Moves Negotiates (dropping (nanortcCreateOffer p e bufLen)) := by
  apply moves_dropping
  intro rtc
  unfold nanortcCreateOffer
  apply movesAt_get_bind.mpr
  apply MovesAt.ite
  · exact fun _ => movesAt_throw_bind _ _
  intro _
  apply MovesAt.bind (negotiates_iceCredentials _ rtc)
  intro _ rtc₁ _
  apply movesAt_modify_bind ⟨rfl, .refl _, .inl rfl⟩
  apply MovesAt.bind (MovesAt.negotiates (aside_earlyDtls p _ _))
  exact fun _ rtc₂ _ => MovesAt.negotiates (aside_sdpGenerate bufLen rtc₂)

theorem negotiates_acceptAnswer (answer : List UInt8) :
    Moves Negotiates (nanortcAcceptAnswer p answer) := by
  intro rtc
  unfold nanortcAcceptAnswer
  apply movesAt_get_bind.mpr
  apply MovesAt.ite
  · exact fun _ => movesAt_throw_bind _ _
  intro _
  apply MovesAt.bind (MovesAt.negotiates (aside_sdpParse _ rtc))
  intro _ rtc₁ _
  apply movesAt_modify_bind ⟨rfl, .refl _, .inl rfl⟩
  apply movesAt_modify_bind ⟨rfl, .refl _, .inl rfl⟩
  apply MovesAt.bind (MovesAt.negotiates (aside_applyMedia _))
  exact fun _ rtc₂ _ => movesAt_modify.mpr (negotiates_addSdpCandidates rtc₂)

theorem negotiates_addRemoteCandidate (text : List UInt8) :
    Moves Negotiates (nanortcAddRemoteCandidate text : RtcM Ctx Rx Unit) := by
  intro rtc
  unfold nanortcAddRemoteCandidate
  split
  · exact movesAt_throw _
  · exact movesAt_onIce.mpr ⟨iceAddRemote_bare _ _, .refl _, .inl rfl⟩

/-- A call that neither takes input in nor adds a local candidate nor restarts. -/
def BesideAgent : RtcCall → Prop
  | .handleInput _ _ | .addLocalCandidate _ _ | .iceRestart _ => False
  | _ => True

theorem negotiates_callBody {call : RtcCall} (hcall : BesideAgent call) :
    Moves Negotiates (rtcCallBody p call) := by
  intro rtc
  cases call with
  | handleInput e input => exact hcall.elim
  | pollOutput => exact movesAt_pure _
  | acceptOffer e offer bufLen => exact negotiates_acceptOffer p e offer bufLen rtc
  | createOffer e bufLen => exact negotiates_createOffer p e bufLen rtc
  | acceptAnswer answer => exact negotiates_acceptAnswer p answer rtc
  | addLocalCandidate ip port => exact hcall.elim
  | addRemoteCandidate text => exact negotiates_addRemoteCandidate text rtc
  | endOfCandidates => exact movesAt_modify.mpr ⟨rfl, .refl _, .inl rfl⟩
  | setIceServers urls =>
    exact MovesAt.negotiates (aside_onOut (fun out => applyIceServers_ice out urls) rtc)
  | addTrack kind direction pt sampleRate channels =>
    exact MovesAt.negotiates (aside_addTrack kind direction pt sampleRate channels rtc)
  | setDirection mid direction => exact MovesAt.negotiates (aside_setDirection mid direction rtc)
  | sendAudio mid ptsMs data =>
    exact MovesAt.negotiates
      (aside_onMedia (fun m => nanortcSendAudio_layers p.crypto m mid ptsMs data) rtc)
  | sendVideo mid ptsMs data =>
    exact MovesAt.negotiates
      (aside_onMedia (fun m => nanortcSendVideo_layers p.crypto m mid ptsMs data) rtc)
  | requestKeyframe mid =>
    exact MovesAt.negotiates
      (aside_onMedia (fun m => nanortcRequestKeyframe_layers p.crypto m mid) rtc)
  | setBitrate estimate => exact movesAt_modify.mpr ⟨rfl, .refl _, .inl rfl⟩
  | createDatachannel label options =>
    exact MovesAt.negotiates (aside_createDatachannel p label options rtc)
  | datachannelSend id data binary =>
    exact MovesAt.negotiates (aside_datachannelSend id data binary rtc)
  | datachannelClose id => exact MovesAt.negotiates (aside_datachannelClose id rtc)
  | iceRestart e => exact hcall.elim
  | disconnect => exact MovesAt.negotiates (aside_disconnect p rtc)

/-- A call beside the agent changes in it only what a negotiation sets. -/
theorem negotiates_step {rtc : Rtc Ctx Rx} {call : RtcCall} (hcall : BesideAgent call) :
    Negotiates rtc (rtcStep p rtc call) := by
  have hbody : Negotiates rtc (rtcRun (rtcCallBody p call) rtc).1 := by
    rw [rtcRun_fst]
    exact negotiates_callBody p hcall rtc
  unfold rtcStep
  cases call with
  | handleInput e input => exact hcall.elim
  | pollOutput =>
    have hpoll := negotiates_pollOutput p rtc
    unfold rtcCall
    dsimp only
    revert hpoll
    generalize nanortcPollOutput p rtc = r
    intro hpoll
    split <;> exact hpoll
  | _ => exact hbody

end Nanortc.Spec
