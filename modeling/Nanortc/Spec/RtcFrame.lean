import Nanortc.ForStd.Action
import Nanortc.Native.RtcApi
import Nanortc.Spec.SctpFrame

/-!
# Frames of a connection

What the layers of a connection show of their states, and the actions that leave all of it alone:
the output path, the pumps, the receive side of media and most of negotiation.

## Key results

- `layers_onOut`, `layers_onDtls`, `layers_onSctp`: one layer changed behind its state
- `layers_pumpSctp`, `layers_pumpDc`: the pumps
- `layers_emit`: an event that neither opens nor ends a session
-/

namespace Nanortc.Spec

open Nanortc.ForStd Nanortc.Native

variable {Ctx Rx : Type}

/-- The states of the layers, and the events that open and end a session counted. -/
structure Layers where
  state : ConnState
  ice : IceState
  dtls : DtlsState
  sctp : SctpState
  failed : Bool
  negotiated : Bool
  connects : Nat
  disconnects : Nat
deriving DecidableEq

/-- The layers of a connection. -/
def layers (rtc : Rtc Ctx Rx) : Layers where
  state := rtc.state
  ice := rtc.ice.state
  dtls := rtc.dtls.state
  sctp := rtc.sctp.state
  failed := rtc.sctp.closedDueToFailure
  negotiated := rtc.dcNegotiated
  connects := rtc.emitted.count ⟨.connected, 0⟩
  disconnects := rtc.emitted.count ⟨.disconnected, 0⟩

/-! ### Steps of one layer -/

section

variable {R : Rtc Ctx Rx → Rtc Ctx Rx → Prop} {rtc : Rtc Ctx Rx}

theorem movesAt_onOut {f : NanoRtc → NanoRtc × Rc} :
    MovesAt R (onOut f) rtc ↔ R rtc (rtc.withOut (f rtc.toNanoRtc).1) := by
  unfold MovesAt after onOut
  cases f rtc.toNanoRtc with
  | mk out rc => cases rc <;> rfl

theorem movesAt_onMedia {f : MediaRtc → MediaRtc × Rc} :
    MovesAt R (onMedia f) rtc ↔ R rtc (rtc.withMedia (f rtc.toMediaRtc).1) := by
  unfold MovesAt after onMedia
  cases f rtc.toMediaRtc with
  | mk m rc => cases rc <;> rfl

theorem movesAt_onIce {α : Type} {f : NanoIce → NanoIce × Rc × α} :
    MovesAt R (onIce f) rtc ↔ R rtc (rtc.withIce (f rtc.ice).1) := by
  unfold MovesAt after onIce
  obtain ⟨ice, rc, a⟩ := f rtc.ice
  cases rc <;> rfl

theorem movesAt_onTurn {α : Type} {f : NanoTurn → NanoTurn × Except Rc α} :
    MovesAt R (onTurn f) rtc ↔ R rtc (rtc.withTurn (f rtc.turn).1) := by
  unfold MovesAt after onTurn
  obtain ⟨turn, r⟩ := f rtc.turn
  cases r <;> rfl

theorem movesAt_onDtls {f : NanoDtls Ctx → NanoDtls Ctx × Rc} :
    MovesAt R (onDtls f) rtc ↔ R rtc { rtc with dtls := (f rtc.dtls).1 } := by
  unfold MovesAt after onDtls
  cases f rtc.dtls with
  | mk dtls rc => cases rc <;> rfl

theorem movesAt_onSctp {f : NanoSctp → NanoSctp × Rc} :
    MovesAt R (onSctp f) rtc ↔ R rtc { rtc with sctp := (f rtc.sctp).1 } := by
  unfold MovesAt after onSctp
  cases f rtc.sctp with
  | mk sctp rc => cases rc <;> rfl

/-- An action that does not stop on `WOULD_BLOCK` leaves the same state behind. -/
theorem movesAt_unblock {m : RtcM Ctx Rx Unit} : MovesAt R (unblock m) rtc ↔ MovesAt R m rtc := by
  unfold MovesAt after unblock
  cases m rtc with
  | ok => rfl
  | error rc => cases rc <;> rfl

theorem movesAt_deferred {α : Type} {m : RtcM Ctx Rx α} :
    MovesAt R (deferred m) rtc ↔ MovesAt R m rtc := by
  unfold MovesAt after deferred
  cases m rtc with
  | ok => rfl
  | error rc => cases rc <;> rfl

theorem movesAt_ignoring {m : RtcM Ctx Rx Unit} :
    MovesAt R (ignoring m) rtc ↔ MovesAt R m rtc := by
  unfold MovesAt after ignoring rtcRun EStateM.run
  cases m rtc <;> rfl

theorem movesAt_txSlotAcquire :
    MovesAt R txSlotAcquire rtc ↔ R rtc (rtc.withOut (nanoRtcTxSlotAcquire rtc.toNanoRtc).1) := by
  unfold MovesAt after txSlotAcquire
  obtain ⟨out, r⟩ := nanoRtcTxSlotAcquire rtc.toNanoRtc
  cases r <;> rfl

/-- What a call leaves behind. -/
theorem rtcRun_fst (m : RtcM Ctx Rx Unit) (rtc : Rtc Ctx Rx) : (rtcRun m rtc).1 = after m rtc := by
  unfold rtcRun after EStateM.run
  cases m rtc <;> rfl

end

/-! ### The output path -/

theorem rtcEnqueueOutput_ice (out : NanoRtc) (o : NanortcOutput) :
    (rtcEnqueueOutput out o).1.ice = out.ice := by
  unfold rtcEnqueueOutput
  split <;> rfl

theorem rtcEnqueueTransmitRef_ice (out : NanoRtc) (data : Backing) (len : Nat) (dest : NanortcAddr)
    (localSrc : Option NanortcAddr) (route : TxRoute) :
    (rtcEnqueueTransmitRef out data len dest localSrc route).1.ice = out.ice := by
  unfold rtcEnqueueTransmitRef
  dsimp only
  generalize hq : rtcEnqueueOutput out
    (.transmit ⟨data, len, dest, localSrc.getD (rtcDefaultSrc out)⟩) = r
  have hr : r.1.ice = out.ice := by rw [← hq, rtcEnqueueOutput_ice]
  split
  · split <;> exact hr
  · exact hr

theorem rtcTxSlotCommitRoute_ice (out : NanoRtc) (slot len : Nat) (dest : NanortcAddr)
    (localSrc : Option NanortcAddr) (route : TxRoute) :
    (rtcTxSlotCommitRoute out slot len dest localSrc route).1.ice = out.ice := by
  unfold rtcTxSlotCommitRoute
  split
  · rfl
  split
  · rfl
  generalize hq : rtcEnqueueTransmitRef out (.txSlot slot) len dest localSrc route = r
  have hr : r.1.ice = out.ice := by rw [← hq, rtcEnqueueTransmitRef_ice]
  split <;> exact hr

theorem nanoRtcTxSlotAcquire_ice (out : NanoRtc) : (nanoRtcTxSlotAcquire out).1.ice = out.ice := by
  unfold nanoRtcTxSlotAcquire
  split
  · rfl
  · dsimp only
    split <;> rfl

theorem pacerRelease_ice (turns : Nat) (out : NanoRtc) : (pacerRelease turns out).ice = out.ice := by
  induction turns generalizing out with
  | zero => rfl
  | succ turns ih =>
    unfold pacerRelease
    dsimp only
    split
    · rfl
    split
    · rw [ih]
    split
    · rfl
    split
    · rfl
    generalize hq : nanoRtcEnqueueTransmit out _ _ _ _ = r
    have hr : r.1.ice = out.ice := by
      rw [← hq]
      exact rtcEnqueueTransmitRef_ice ..
    split
    · rw [ih]
      exact hr
    · exact hr

theorem nanoRtcPacerPump_ice (out : NanoRtc) : (nanoRtcPacerPump out).ice = out.ice := by
  unfold nanoRtcPacerPump
  split
  · rfl
  · exact pacerRelease_ice _ _

theorem rtcPollQueuedOutput_ice (out : NanoRtc) : (rtcPollQueuedOutput out).1.ice = out.ice := by
  have hloop (turns : Nat) (out : NanoRtc) : (rtcPollQueuedLoop turns out).1.ice = out.ice := by
    induction turns generalizing out with
    | zero => rfl
    | succ turns ih =>
      unfold rtcPollQueuedLoop
      split
      · rfl
      split
      · rfl
      · rw [ih]
        rfl
  exact hloop _ _

/-! ### Media -/

/-- What the media paths show of the layers. -/
def mediaLayers (m : MediaRtc) : ConnState × NanoIce := (m.state, m.ice)

theorem rtcSendRtcp_layers (crypto : CryptoProvider) (m : MediaRtc) (packet : List UInt8) :
    mediaLayers (rtcSendRtcp crypto m packet).1 = mediaLayers m := by
  have hslot := nanoRtcTxSlotAcquire_ice m.toNanoRtc
  unfold rtcSendRtcp
  revert hslot
  generalize nanoRtcTxSlotAcquire m.toNanoRtc = r
  intro hslot
  have hice (out : NanoRtc) (h : out.ice = m.ice) : mediaLayers (m.withOut out) = mediaLayers m := by
    show (m.state, out.ice) = (m.state, m.ice)
    rw [h]
  split
  · exact hice _ hslot
  · split
    · exact hice _ hslot
    · apply hice
      exact (rtcTxSlotCommitRoute_ice ..).trans hslot

theorem rtcSrCadence_layers (crypto : CryptoProvider) (m : MediaRtc) (nowMs : UInt32) :
    mediaLayers (nanoRtcMediaEmitRtcpSrCadence crypto m nowMs).1 = mediaLayers m := by
  unfold nanoRtcMediaEmitRtcpSrCadence
  split
  · rfl
  split
  · rfl
  dsimp only
  generalize hq : rtcSendRtcp crypto m _ = r
  have hr : mediaLayers r.1 = mediaLayers m := by rw [← hq, rtcSendRtcp_layers]
  split <;> exact hr

theorem rtcSendAudio_layers (crypto : CryptoProvider) (m : MediaRtc) (i : Nat) (timestamp : UInt32)
    (data : List UInt8) : mediaLayers (rtcSendAudio crypto m i timestamp data).1 = mediaLayers m := by
  have hslot := nanoRtcTxSlotAcquire_ice m.toNanoRtc
  unfold rtcSendAudio
  dsimp only
  split
  · rfl
  revert hslot
  generalize nanoRtcTxSlotAcquire m.toNanoRtc = r
  intro hslot
  have hice (out : NanoRtc) (h : out.ice = m.ice) : mediaLayers (m.withOut out) = mediaLayers m := by
    show (m.state, out.ice) = (m.state, m.ice)
    rw [h]
  split
  · exact hice _ hslot
  split
  · exact hice _ hslot
  split
  · exact hice _ hslot
  · generalize hc : nanoRtcTxSlotCommit _ _ _ _ _ = c
    have hcommit : c.1.ice = m.ice := by
      rw [← hc]
      exact (rtcTxSlotCommitRoute_ice ..).trans hslot
    split <;> exact hice _ hcommit

theorem nanortcSendAudio_layers (crypto : CryptoProvider) (m : MediaRtc) (mid : UInt8)
    (ptsMs : UInt32) (data : List UInt8) :
    mediaLayers (nanortcSendAudio crypto m mid ptsMs data).1 = mediaLayers m := by
  unfold nanortcSendAudio
  split
  · rfl
  split
  · rfl
  split
  · rfl
  dsimp only
  split
  · rfl
  split
  · rfl
  · exact rtcSendAudio_layers ..

theorem rtcSendFragment_layers (crypto : CryptoProvider) (i : Nat) (timestamp : UInt32)
    (isLastNal : Bool) (m : MediaRtc) (f : H264Fragment) :
    mediaLayers (rtcSendFragment crypto i timestamp isLastNal m f).1 = mediaLayers m := by
  unfold rtcSendFragment
  dsimp only
  split
  · rfl
  split
  · rfl
  split <;> rfl

theorem nanortcSendVideo_layers (crypto : CryptoProvider) (m : MediaRtc) (mid : UInt8)
    (ptsMs : UInt32) (data : List UInt8) :
    mediaLayers (nanortcSendVideo crypto m mid ptsMs data).1 = mediaLayers m := by
  unfold nanortcSendVideo
  split
  · rfl
  split
  · rfl
  split
  · rfl
  dsimp only
  iterate 5
    split
    · rfl
  apply runUntil_invariant (P := fun m' => mediaLayers m' = mediaLayers m)
  · intro m' nal hm'
    apply runUntil_invariant (P := fun m' => mediaLayers m' = mediaLayers m)
    · intro m'' f hm''
      exact (rtcSendFragment_layers ..).trans hm''
    · exact hm'
  · rfl

theorem nanortcRequestKeyframe_layers (crypto : CryptoProvider) (m : MediaRtc) (mid : UInt8) :
    mediaLayers (nanortcRequestKeyframe crypto m mid).1 = mediaLayers m := by
  unfold nanortcRequestKeyframe
  split
  · rfl
  split
  · rfl
  split
  · rfl
  · exact rtcSendRtcp_layers ..

/-! ### Actions that keep the layers -/

theorem layers_ok {α : Type} {m : RtcM Ctx Rx α} {rtc rtc' : Rtc Ctx Rx} {a : α}
    (h : MovesAt (Same layers) m rtc) (hm : m rtc = .ok a rtc') : layers rtc' = layers rtc :=
  MovesAt.ok (R := Same layers) h hm

theorem layers_withMedia {rtc : Rtc Ctx Rx} {m : MediaRtc}
    (h : mediaLayers m = mediaLayers rtc.toMediaRtc) : Same layers rtc (rtc.withMedia m) := by
  obtain ⟨hstate, hice⟩ := Prod.mk.inj h
  show layers (rtc.withMedia m) = layers rtc
  unfold layers
  show (Layers.mk m.state m.ice.state _ _ _ _ _ _ : Layers) = _
  rw [hstate, hice]
  rfl

theorem layers_withOut {rtc : Rtc Ctx Rx} {out : NanoRtc} (h : out.ice = rtc.ice) :
    Same layers rtc (rtc.withOut out) :=
  layers_withMedia (by
    show (rtc.state, out.ice) = (rtc.state, rtc.ice)
    rw [h])

theorem layers_withIce {rtc : Rtc Ctx Rx} {ice : NanoIce} (h : ice.state = rtc.ice.state) :
    Same layers rtc (rtc.withIce ice) := by
  show layers (rtc.withIce ice) = layers rtc
  unfold layers
  show (Layers.mk _ ice.state _ _ _ _ _ _ : Layers) = _
  rw [h]
  rfl

theorem layers_dtls {rtc : Rtc Ctx Rx} {dtls : NanoDtls Ctx} (h : dtls.state = rtc.dtls.state) :
    Same layers rtc { rtc with dtls := dtls } := by
  show layers { rtc with dtls := dtls } = layers rtc
  unfold layers
  rw [h]

theorem layers_sctp {rtc : Rtc Ctx Rx} {sctp : NanoSctp} (h : sctp.state = rtc.sctp.state)
    (hfailed : sctp.closedDueToFailure = rtc.sctp.closedDueToFailure) :
    Same layers rtc { rtc with sctp := sctp } := by
  show layers { rtc with sctp := sctp } = layers rtc
  unfold layers
  rw [h, hfailed]

theorem layers_onOut {f : NanoRtc → NanoRtc × Rc} (h : ∀ out, (f out).1.ice = out.ice) :
    Moves (Same layers) (onOut f : RtcM Ctx Rx Unit) :=
  fun rtc => movesAt_onOut.mpr (layers_withOut (h rtc.toNanoRtc))

theorem layers_onMedia {f : MediaRtc → MediaRtc × Rc}
    (h : ∀ m, mediaLayers (f m).1 = mediaLayers m) :
    Moves (Same layers) (onMedia f : RtcM Ctx Rx Unit) :=
  fun rtc => movesAt_onMedia.mpr (layers_withMedia (h rtc.toMediaRtc))

theorem layers_onTurn {α : Type} {f : NanoTurn → NanoTurn × Except Rc α} :
    Moves (Same layers) (onTurn f : RtcM Ctx Rx α) :=
  fun _ => movesAt_onTurn.mpr (layers_withOut rfl)

theorem layers_onIce {α : Type} {f : NanoIce → NanoIce × Rc × α} {rtc : Rtc Ctx Rx}
    (h : (f rtc.ice).1.state = rtc.ice.state) :
    MovesAt (Same layers) (onIce f : RtcM Ctx Rx α) rtc :=
  movesAt_onIce.mpr (layers_withIce h)

theorem layers_onDtls {f : NanoDtls Ctx → NanoDtls Ctx × Rc} (h : ∀ d, (f d).1.state = d.state) :
    Moves (Same layers) (onDtls f : RtcM Ctx Rx Unit) :=
  fun rtc => movesAt_onDtls.mpr (layers_dtls (h rtc.dtls))

theorem layers_onSctp {f : NanoSctp → NanoSctp × Rc}
    (h : ∀ s, (f s).1.state = s.state ∧ (f s).1.closedDueToFailure = s.closedDueToFailure) :
    Moves (Same layers) (onSctp f : RtcM Ctx Rx Unit) :=
  fun rtc => movesAt_onSctp.mpr (layers_sctp (h rtc.sctp).1 (h rtc.sctp).2)

theorem layers_txSlotAcquire : Moves (Same layers) (txSlotAcquire : RtcM Ctx Rx Nat) :=
  fun _ => movesAt_txSlotAcquire.mpr (layers_withOut (nanoRtcTxSlotAcquire_ice _))

theorem layers_txSlotSend (slot : Nat) (packet : List UInt8) (dest : NanortcAddr)
    (localSrc : Option NanortcAddr) (route : TxRoute) :
    Moves (Same layers) (txSlotSend slot packet dest localSrc route : RtcM Ctx Rx Unit) := by
  unfold txSlotSend
  apply Moves.bind
  · exact fun rtc => movesAt_modify.mpr (layers_withOut rfl)
  · intro _
    exact layers_onOut fun out => rtcTxSlotCommitRoute_ice ..

/-- An event is added to the history and changes nothing else the layers show. -/
theorem layers_after_emit (e : NanortcEvent) (rtc : Rtc Ctx Rx) :
    layers (after (nanoRtcEmitEventFull e) rtc) = { layers rtc with
      connects := (rtc.emitted ++ [e]).count ⟨.connected, 0⟩
      disconnects := (rtc.emitted ++ [e]).count ⟨.disconnected, 0⟩ } := by
  show layers (if rtc.pendingEvents ≠ [] ∨ !rtcOutputHasSpace rtc.toNanoRtc then _ else _) = _
  split
  · rfl
  · exact @layers_withOut Ctx Rx { rtc with emitted := rtc.emitted ++ [e] } _
      (rtcEnqueueOutput_ice ..)

theorem layers_after_emitConnected (rtc : Rtc Ctx Rx) :
    layers (after rtcEmitConnected rtc) =
      { layers rtc with connects := (layers rtc).connects + 1 } := by
  unfold rtcEmitConnected
  rw [layers_after_emit, List.count_append, List.count_append]
  rfl

/-- The event that ends a session, and the state it ends in. -/
theorem layers_after_emitDisconnected (rtc : Rtc Ctx Rx) :
    layers (after rtcEmitDisconnected rtc) =
      { layers rtc with state := .closed, disconnects := (layers rtc).disconnects + 1 } := by
  have hemit := layers_after_emit ⟨.disconnected, 0⟩ rtc
  rw [List.count_append, List.count_append] at hemit
  show { layers (after (nanoRtcEmitEventFull ⟨.disconnected, 0⟩) rtc) with state := .closed } = _
  rw [hemit]
  rfl

/-- An event that neither opens nor ends a session. -/
theorem layers_emit {e : NanortcEvent} (hc : e.type ≠ .connected) (hd : e.type ≠ .disconnected) :
    Moves (Same layers) (nanoRtcEmitEventFull e : RtcM Ctx Rx Unit) := by
  intro rtc
  have hcount (t : EventType) (h : e.type ≠ t) :
      (rtc.emitted ++ [e]).count ⟨t, 0⟩ = rtc.emitted.count ⟨t, 0⟩ := by
    rw [List.count_append, List.count_singleton]
    have hne : e ≠ ⟨t, 0⟩ := fun heq => h (by rw [heq])
    simp [hne]
  show layers (after (nanoRtcEmitEventFull e) rtc) = layers rtc
  rw [layers_after_emit, hcount _ hc, hcount _ hd]
  rfl

/-! ### Pumps -/

theorem dtlsPollOutput_state {d d' : NanoDtls Ctx} {n : Nat} {r : Except Rc (List UInt8)}
    (h : dtlsPollOutput d n = (d', r)) : d'.state = d.state := by
  unfold dtlsPollOutput at h
  split at h
  · cases h
    rfl
  split at h <;> cases h <;> rfl

theorem dtlsEncrypt_state (crypto : DtlsProvider Ctx) (d : NanoDtls Ctx) (plain : List UInt8) :
    (dtlsEncrypt crypto d plain).1.state = d.state := by
  unfold dtlsEncrypt
  split
  · rfl
  split
  · rfl
  split <;> rfl

theorem layers_drainDtls (dest : NanortcAddr) :
    Moves (Same layers) (rtcDrainDtlsOutput dest : RtcM Ctx Rx Unit) := by
  intro rtc
  unfold rtcDrainDtlsOutput
  apply movesAt_get_bind.mpr
  apply MovesAt.ite_pure
  intro _
  apply MovesAt.bind (layers_txSlotAcquire rtc)
  intro slot rtc' _
  apply movesAt_get_bind.mpr
  split
  · exact MovesAt.ite (fun _ => movesAt_pure _) fun _ => movesAt_throw _
  · rename_i hpoll
    apply movesAt_set_bind
    · exact layers_dtls (dtlsPollOutput_state hpoll)
    · exact layers_txSlotSend slot _ dest none .selected _

variable (p : Platform Ctx Rx)

theorem layers_sendSctpPacket (slot : Nat) (packet : List UInt8) (dest : NanortcAddr) :
    Moves (Same layers) (rtcSendSctpPacket p slot packet dest) := by
  unfold rtcSendSctpPacket
  apply Moves.bind (layers_onDtls fun d => dtlsEncrypt_state p.dtls d packet)
  intro _ rtc
  apply movesAt_get_bind.mpr
  split
  · exact movesAt_throw _
  · rename_i hpoll
    apply movesAt_set_bind
    · exact layers_dtls (dtlsPollOutput_state hpoll)
    · exact layers_txSlotSend slot _ dest none .selected _

/-- Sending and its clock change neither the state of an association nor its failure. -/
theorem sameState_send : SendRule fun s s' =>
    s'.state = s.state ∧ s'.closedDueToFailure = s.closedDueToFailure where
  refl _ := ⟨rfl, rfl⟩
  trans h h' := ⟨h'.1.trans h.1, h'.2.trans h.2⟩
  output _ _ := ⟨rfl, rfl⟩
  sack _ := ⟨rfl, rfl⟩
  sent _ _ _ _ _ := ⟨rfl, rfl⟩
  abandon _ _ := ⟨rfl, rfl⟩
  forward _ _ _ := ⟨rfl, rfl⟩

theorem layers_pumpLoop (dest : NanortcAddr) (turns : Nat) :
    Moves (Same layers) (rtcPumpSctpLoop p dest turns) := by
  induction turns with
  | zero => exact fun _ => movesAt_throw _
  | succ turns ih =>
    unfold rtcPumpSctpLoop
    apply Moves.bind layers_txSlotAcquire
    intro slot rtc
    apply movesAt_get_bind.mpr
    dsimp only
    apply movesAt_set_bind
    · have hpoll := sameState_send.pollOutput { rtc.sctp with nowMs := rtc.nowMs } sctpMtu
      exact layers_sctp hpoll.1 hpoll.2
    · split
      · exact MovesAt.ite (fun _ => movesAt_pure _) fun _ => movesAt_throw _
      · rename_i packet _
        apply MovesAt.ite
        · exact fun _ => movesAt_pure _
        · intro _
          exact Moves.bind (layers_sendSctpPacket p slot packet dest) (fun _ => ih) _

theorem layers_pumpSctp (dest : NanortcAddr) :
    Moves (Same layers) (rtcPumpSctpThroughDtls p dest) := by
  unfold rtcPumpSctpThroughDtls
  exact Moves.bind (layers_drainDtls dest) fun _ => layers_pumpLoop p dest (txSlotCount + 1)

theorem layers_sendOptions (stream : UInt16) (ppid : UInt32) (message : List UInt8)
    (unordered : Bool) (limit : Int) :
    Moves (Same layers) (onSctp fun sctp =>
      nsctpSendOptions sctp stream ppid message unordered limit : RtcM Ctx Rx Unit) :=
  layers_onSctp fun s => sameState_send.sendOptions (fun _ _ _ _ _ _ _ => ⟨rfl, rfl⟩) s stream ppid
    message unordered limit

theorem layers_pumpDc (dest : NanortcAddr) :
    Moves (Same layers) (rtcPumpDcThroughSctp p dest) := by
  intro rtc
  unfold rtcPumpDcThroughSctp
  apply movesAt_get_bind.mpr
  apply MovesAt.ite_pure
  intro _
  split
  · exact MovesAt.ite (fun _ => movesAt_pure _) fun _ => movesAt_throw _
  · rename_i message stream _
    apply Moves.bind (layers_sendOptions stream dcepPpidControl message false (-1))
    intro _
    apply Moves.bind
    · exact fun rtc => movesAt_modify.mpr rfl
    · intro _
      exact layers_pumpSctp p dest

end Nanortc.Spec
