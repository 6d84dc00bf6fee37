import Nanortc.Native.Rtc

/-!
# Input

`nanortc_handle_input` after `nano_rtc.c`: the timers of all layers in the order in which
`rtc_process_timers` runs them, and the datagrams that `rtc_process_receive` tells apart by their
first byte.
-/

namespace Nanortc.Native

open Nanortc.ForStd

variable {Ctx Rx : Type} (p : Platform Ctx Rx) (e : Entropy)

/-! ### ICE -/

/-- A local candidate learned from a server, unless it is known or the table is full. -/
def iceAddLocal (ice : NanoIce) (type : IceCandType) (addr : NanortcAddr) : NanoIce :=
  if ice.localCandidates.length < maxLocalCandidates ∧
      !ice.localCandidates.any (iceAddrMatches · addr) then
    { ice with
      localCandidates := ice.localCandidates ++ [⟨addr.addr, addr.port, addr.family, type⟩] }
  else ice

/-- Address of a local candidate. -/
def iceLocalAddr (ice : NanoIce) (i : Nat) : Option NanortcAddr :=
  ice.localCandidates[i]?.map fun c => ⟨c.family, c.addr, c.port⟩

/-- A check put on the wire: through the relay if its local candidate is a relayed one, else from
the socket of its base. -/
def rtcSendCheck (slot : Nat) (check : SentCheck) : RtcM Ctx Rx Unit := do
  let ice := (← get).ice
  match ice.remoteCandidates[check.remoteIdx]?, ice.localCandidates[check.localIdx]? with
  | some r, some l =>
    let dest : NanortcAddr := ⟨r.family, r.addr, r.port⟩
    if l.type = .relay then txSlotSend slot check.packet dest none .forceTurn
    else
      let base := (iceLocalAddr ice (iceLocalBaseIdx ice check.localIdx)).getD
        ⟨0, List.replicate addrSize 0, 0⟩
      txSlotSend slot check.packet dest (some base) .direct
  | _, _ => pure ()

/-- The end of a session by failed checks. -/
def rtcFailIce : RtcM Ctx Rx Unit := do
  if (← get).ice.state = .failed then
    emitIceStateChange
    rtcEmitDisconnected

/-- The connectivity checks of `rtc_process_timers`. -/
def rtcTimersCheck (nowMs : UInt32) : RtcM Ctx Rx Unit := do
  let rtc ← get
  let (wait, check) := rtcIceGetCheck rtc.toNanoRtc nowMs
  if wait = 0 then
    let slot ← deferred txSlotAcquire
    let before := (← get).ice.state
    let sent ← onIce fun ice => iceSendCheck p.crypto ice nowMs check e.iceTxid txSlotSize
    match sent with
    | some sent => rtcSendCheck slot sent
    | none => pure ()
    let after := (← get).ice.state
    if after ≠ before ∧ after = .checking then emitIceStateChange
    rtcFailIce

/-- The consent check of `rtc_process_timers`. -/
def rtcSendConsent (nowMs : UInt32) : RtcM Ctx Rx Unit := do
  let slot ← deferred txSlotAcquire
  let packet ← onIce fun ice => iceGenerateConsent p.crypto ice nowMs e.consentTxid txSlotSize
  if packet ≠ [] then txSlotSend slot packet (rtcSelectedPeer (← get).ice) none .selected

/-- Consent freshness in `rtc_process_timers`. -/
def rtcTimersConsent (nowMs : UInt32) : RtcM Ctx Rx Unit := do
  let rtc ← get
  if rtc.ice.state = .connected then
    if iceConsentExpired rtc.ice nowMs then
      set (rtc.withIce { rtc.ice with state := .disconnected })
      emitIceStateChange
      rtcEmitDisconnected
    else if rtc.ice.consentNextMs = 0 ∨ nanoTimeIsDue nowMs rtc.ice.consentNextMs then
      rtcSendConsent p e nowMs

/-! ### TURN -/

/-- A permission or a channel that a peer needs; no packet if none does. -/
def rtcTurnPeerRequest (nowMs : UInt32) : RtcM Ctx Rx (List UInt8) := do
  let rtc ← get
  match rtcTurnNextPermissionCandidate rtc.toNanoRtc nowMs with
  | some c =>
    onTurn fun turn =>
      turnCreatePermission p.crypto turn ⟨c.family, c.addr, c.port⟩ e.peerTxid txSlotSize
  | none =>
    if rtcTurnCanBindChannel rtc.toNanoRtc then
      onTurn fun turn =>
        turnChannelBind p.crypto turn (rtcSelectedPeer rtc.ice) e.peerTxid txSlotSize
    else pure []

/-- The TURN client in `rtc_process_timers`. -/
def rtcTimersTurn (nowMs : UInt32) : RtcM Ctx Rx Unit := do
  if (← get).turn.configured then
    let slot ← deferred txSlotAcquire
    let packet ← onTurn fun turn => turnPollOutput p.crypto turn nowMs e.turnTxid txSlotSize
    let packet ← if packet = [] then rtcTurnPeerRequest p e nowMs else pure packet
    if packet ≠ [] then
      txSlotSend slot packet (rtcTurnServerAddr (← get).turn) none .direct

/-! ### DTLS and STUN -/

/-- Records of DTLS that found no transmit slot before. -/
def rtcTimersDtlsOutput : RtcM Ctx Rx Unit := do
  let rtc ← get
  if rtc.dtls.outBuf ≠ [] ∧ rtc.remoteAddr.family ≠ 0 then
    deferred (rtcDrainDtlsOutput rtc.remoteAddr)

/-- The handshake timer in `rtc_process_timers`. -/
def rtcTimersDtls (nowMs : UInt32) : RtcM Ctx Rx Unit := do
  if (← get).state = .dtlsHandshaking then
    onDtls fun dtls => dtlsHandleTimeout p.dtls dtls nowMs
    rtcFinishDtls p e (← get).remoteAddr
    unblock (rtcDrainDtlsOutput (← get).remoteAddr)

/-- The host candidate that a request to the reflexive server leaves from. -/
def iceSrflxBase (ice : NanoIce) (family : UInt8) : Nat :=
  (ice.localCandidates.findIdx? fun c => c.family == family && c.type == .host).getD
    iceLocalIdxUnknown

/-- Discovery of the reflexive candidate in `rtc_process_timers`; all three requests carry the
transaction of the first. -/
def rtcTimersStun (nowMs : UInt32) : RtcM Ctx Rx Unit := do
  let rtc ← get
  if rtc.stunServerConfigured ∧ !rtc.srflxDiscovered ∧ rtc.stunRetries < 3 ∧
      (rtc.stunRetryAtMs = 0 ∨ nanoTimeIsDue nowMs rtc.stunRetryAtMs) then
    let slot ← deferred txSlotAcquire
    let rtc ← get
    let txid := if rtc.stunRetries = 0 then e.stunTxid else some rtc.stunTxid
    match txid with
    | none => throw .crypto
    | some txid =>
      let base :=
        if rtc.stunRetries = 0 then iceSrflxBase rtc.ice rtc.stunServer.family
        else rtc.ice.srflxBaseIdx
      set (rtc.withIce { rtc.ice with srflxBaseIdx := base })
      txSlotSend slot (stunHeader 0x0001 0 txid) rtc.stunServer (iceLocalAddr rtc.ice base) .direct
      modify fun rtc =>
        { rtc.withOut { rtc.toNanoRtc with stunTxid := txid } with
          stunRetries := rtc.stunRetries + 1
          stunRetryAtMs := nanoTimeDeadline nowMs 500 }

/-! ### SCTP and RTCP -/

/-- The retransmission timer in `rtc_process_timers`; the failure of the association itself is read
from its flag later. -/
def rtcTimersSctp (nowMs : UInt32) : RtcM Ctx Rx Unit := do
  let rtc ← get
  if rtc.sctp.state = .established then
    let r := nsctpHandleTimeout rtc.sctp nowMs e.sctpNonce
    set { rtc with sctp := r.1 }
    if r.2 ≠ .ok ∧ !r.1.closedDueToFailure then throw r.2

/-- Output of a live association and then of the data channels. -/
def rtcTimersPump : RtcM Ctx Rx Unit := do
  let rtc ← get
  if rtc.sctp.state ≠ .closed ∧ rtc.dtls.state = .established then
    unblock (rtcPumpSctpThroughDtls p rtc.remoteAddr)
    unblock (rtcPumpDcThroughSctp p rtc.remoteAddr)

/-- The end of a session by retransmit exhaustion. -/
def rtcTimersFailure : RtcM Ctx Rx Unit := do
  let rtc ← get
  if rtc.sctp.closedDueToFailure then
    set { rtc with sctp := { rtc.sctp with closedDueToFailure := false } }
    if rtc.state = .connected then rtcEmitDisconnected

/-- `rtc_process_timers`. -/
def rtcProcessTimers (nowMs : UInt32) : RtcM Ctx Rx Unit := do
  rtcTimersCheck p e nowMs
  rtcTimersConsent p e nowMs
  rtcTimersTurn p e nowMs
  rtcTimersDtlsOutput
  rtcTimersDtls p e nowMs
  rtcTimersStun e nowMs
  rtcTimersSctp e nowMs
  rtcTimersPump p
  rtcTimersFailure
  unblock (onMedia fun m => nanoRtcMediaEmitRtcpSrCadence p.crypto m nowMs)

/-! ### STUN datagrams -/

/-- The text of an address in a buffer of the description, which keeps what it has if the address
cannot be written. -/
def sdpWriteAddr (old : SdpCandidate LineText) (addr : NanortcAddr) : SdpCandidate LineText where
  addr := match addrFormat addr.addr addr.family ipv6StrSize with
    | .ok text => text
    | .error _ => old.addr
  port := addr.port

/-- A response of the TURN server; an allocation brings the relayed candidate. -/
def rtcReceiveTurn (data : List UInt8) : RtcM Ctx Rx Unit := do
  let rtc ← get
  let before := rtc.turn.state
  let nowMs := rtc.nowMs
  onTurn fun turn =>
    let r := turnHandleResponse p.crypto turn nowMs data
    (r.1, r.2.outcome)
  let rtc ← get
  if before ≠ .allocated ∧ rtc.turn.state = .allocated then
    let relay := rtcPeerSrc rtc.turn.relay.family rtc.turn.relay.addr rtc.turn.relay.port
    set { rtc.withIce (iceAddLocal rtc.ice .relay relay) with
      sdp := { rtc.sdp with
        relayCandidate := sdpWriteAddr rtc.sdp.relayCandidate relay, hasRelayCandidate := true }
      relayCandidatePending := true }

/-- The datagram is from the server asked for the reflexive candidate. -/
def rtcFromStunServer (rtc : NanoRtc) (src : NanortcAddr) : Bool :=
  rtc.stunServerConfigured && !rtc.srflxDiscovered && src.family == rtc.stunServer.family &&
    src.port == rtc.stunServer.port && addrEq src.family src.addr rtc.stunServer.addr

/-- A datagram of the server asked for the reflexive candidate. -/
def rtcReceiveSrflx (data : List UInt8) : RtcM Ctx Rx Unit := do
  match stunParse data with
  | .error _ => pure ()
  | .ok msg =>
    let rtc ← get
    if msg.type = stunBindingResponse ∧ msg.transactionId = rtc.stunTxid ∧ msg.mapped.family ≠ 0 then
      let mapped := rtcPeerSrc msg.mapped.family msg.mapped.addr msg.mapped.port
      let out := { rtc.toNanoRtc with srflxDiscovered := true }
      set { rtc.withOut { out with ice := iceAddLocal out.ice .srflx mapped } with
        sdp := { rtc.sdp with
          srflxCandidate := sdpWriteAddr rtc.sdp.srflxCandidate mapped, hasSrflxCandidate := true }
        srflxCandidatePending := true }

/-- Consent refreshed by a message from the selected peer or by the answer to a consent check. -/
def rtcRefreshConsent (wasPending : Bool) (src : NanortcAddr) (ice : NanoIce) (nowMs : UInt32) :
    NanoIce :=
  let deadline := nanoTimeDeadline nowMs iceConsentTimeoutMs
  let ice :=
    if ice.state = .connected ∧ ice.consentExpiryMs > 0 ∧ src = rtcSelectedPeer ice then
      { ice with consentExpiryMs := deadline }
    else ice
  if wasPending ∧ !ice.consentPending then { ice with consentExpiryMs := deadline } else ice

/-- The answer to a Binding Request goes back the way the request came. -/
def rtcSendStunResponse (slot : Nat) (packet : List UInt8) (src : NanortcAddr) (localIdx : Nat)
    (viaTurn : Bool) : RtcM Ctx Rx Unit := do
  let ice := (← get).ice
  match iceLocalAddr ice (iceLocalBaseIdx ice localIdx) with
  | some base =>
    if viaTurn then txSlotSend slot packet src none .forceTurn
    else txSlotSend slot packet src (some base) .direct
  | none => txSlotSend slot packet src none (if viaTurn then .forceTurn else .selected)

/-- The first nomination: consent is armed and DTLS starts. -/
def rtcIceConnected (src : NanortcAddr) : RtcM Ctx Rx Unit := do
  let rtc ← get
  if rtc.ice.state = .connected ∧ rtc.state.rank < ConnState.iceConnected.rank then
    let ice := { rtc.ice with
      consentNextMs := nanoTimeDeadline rtc.nowMs iceConsentIntervalMs
      consentExpiryMs := nanoTimeDeadline rtc.nowMs iceConsentTimeoutMs }
    set ((rtc.withIce ice).withState .iceConnected)
    emitIceStateChange
    rtcBeginDtlsHandshake p src

/-- A STUN datagram of a peer. A request is refused while no transmit slot is free for its
answer. -/
def rtcReceiveStun (data : List UInt8) (src : NanortcAddr) (localIdx : Nat) (viaTurn : Bool) :
    RtcM Ctx Rx Unit := do
  let wasPending := (← get).ice.consentPending
  let isRequest : Bool := readU16be data 0 == stunBindingRequest
  let slot ← if isRequest then txSlotAcquire else pure 0
  let room := if isRequest then txSlotSize else stunBufSize
  let packet ← onIce fun ice => iceHandleStun p.crypto ice data src localIdx viaTurn room
  modify fun rtc => rtc.withIce (rtcRefreshConsent wasPending src rtc.ice rtc.nowMs)
  if packet ≠ [] then
    if !isRequest then throw .protocol
    rtcSendStunResponse slot packet src localIdx viaTurn
  rtcIceConnected p src

/-! ### Receive -/

/-- Decrypted data handed to the association, and what it has to answer. -/
def rtcReceiveSctp (src : NanortcAddr) (packet : List UInt8) : RtcM Ctx Rx Unit := do
  onSctp fun sctp => nsctpHandleData sctp e.initSeed packet
  let rtc ← get
  if rtc.sctp.state = .established ∧ rtc.state.rank < ConnState.connected.rank then
    set { rtc.withState .connected with sctp := { rtc.sctp with lastHeartbeatMs := rtc.nowMs } }
    rtcEmitConnected
  unblock (rtcPumpSctpThroughDtls p src)
  unblock (rtcPumpDcThroughSctp p src)

/-- A DTLS datagram as far as the application data it decrypts to, if any. -/
def rtcDecryptDtls (data : List UInt8) (src : NanortcAddr) :
    RtcM Ctx Rx (Option (List UInt8)) := do
  let rtc ← get
  if rtc.state.rank < ConnState.iceConnected.rank then throw .state
  set { rtc with dtls := dtlsSetTime p.dtls rtc.dtls rtc.nowMs }
  onDtls fun dtls => dtlsHandleData p.dtls dtls data
  unblock (rtcDrainDtlsOutput src)
  rtcFinishDtls p e src
  let rtc ← get
  if rtc.dtls.state = .established then
    let r := dtlsPollAppData rtc.dtls
    set { rtc with dtls := r.1 }
    pure r.2
  else pure none

/-- A DTLS datagram. One record holds one packet of the association, so the loop of the source
takes one turn. -/
def rtcReceiveDtls (data : List UInt8) (src : NanortcAddr) : RtcM Ctx Rx Unit := do
  match ← rtcDecryptDtls p e data src with
  | none => pure ()
  | some packet => rtcReceiveSctp p e src packet

/-- An RTP or RTCP datagram. -/
def rtcReceiveMedia (data : List UInt8) : RtcM Ctx Rx Unit := do
  let rtc ← get
  if rtc.srtp.ready then
    let u := p.receiver.handleRtpOrRtcp rtc.rx rtc.toMediaRtc data
    set (rtc.withUpdate u)
    u.events.forM fun ev => nanoRtcEmitEventFull ev.event
    if u.rc ≠ .ok then throw u.rc

/-- What `rtc_process_receive` does with a datagram that carries no relayed one. -/
def rtcReceivePlain (data : List UInt8) (src : NanortcAddr) (localIdx : Nat) (viaTurn : Bool) :
    RtcM Ctx Rx Unit := do
  let rtc ← get
  let first := byteAt data 0
  if first ≤ 3 then
    if !rtcSrflxPending rtc.toNanoRtc data src ∧ turnIsFromServer rtc.turn src then
      rtcReceiveTurn p data
    else if rtcFromStunServer rtc.toNanoRtc src then rtcReceiveSrflx data
    else rtcReceiveStun p data src localIdx viaTurn
  else if 20 ≤ first ∧ first ≤ 63 then rtcReceiveDtls p e data src
  else if 128 ≤ first ∧ first ≤ 191 then rtcReceiveMedia p data
  else throw .protocol

/-- The datagram inside all relay framing, with the address it is passed on under and whether it
came through the relay; none is framing without a datagram. The framing is at most `depth` deep. -/
def rtcInnermost (rtc : NanoRtc) : (depth : Nat) → List UInt8 → NanortcAddr → (viaTurn : Bool) →
    Option (List UInt8 × NanortcAddr × Bool)
  | 0, data, src, viaTurn => some (data, src, viaTurn)
  | depth + 1, data, src, viaTurn =>
    match rtcUnwrapRelayed rtc data src with
    | .inner payload peer => rtcInnermost rtc depth payload peer true
    | .consumed => none
    | .other => some (data, src, viaTurn)

/-- `rtc_process_receive` of the whole connection. Taking framing off changes nothing, and a relayed
datagram is shorter than the one that carries it. -/
def rtcReceive (data : List UInt8) (src : NanortcAddr) (localIdx : Nat) (viaTurn : Bool) :
    RtcM Ctx Rx Unit := do
  match rtcInnermost (← get).toNanoRtc (data.length + 1) data src viaTurn with
  | none => pure ()
  | some (data, src, viaTurn) => rtcReceivePlain p e data src localIdx viaTurn

/-- `rtc_resolve_local_idx`: the candidate with the address, else one bound to any address. -/
def rtcResolveLocalIdx (ice : NanoIce) (dst : NanortcAddr) : Nat :=
  if dst.family = 0 then iceLocalIdxUnknown
  else
    match ice.localCandidates.findIdx? (iceAddrMatches · dst) with
    | some i => i
    | none =>
      (ice.localCandidates.findIdx? fun c =>
        c.family == dst.family && c.port == dst.port && c.addr.all (· == 0)).getD iceLocalIdxUnknown

/-- `nanortc_input_t`; a source without a family is a tick. -/
structure NanortcInput where
  nowMs : UInt32
  data : List UInt8 := []
  src : NanortcAddr := ⟨0, List.replicate addrSize 0, 0⟩
  dst : NanortcAddr := ⟨0, List.replicate addrSize 0, 0⟩
deriving Repr, DecidableEq

/-- The time of an input taken over. -/
def rtcSetTime (nowMs : UInt32) (rtc : Rtc Ctx Rx) : Rtc Ctx Rx :=
  { rtc.withOut { rtc.toNanoRtc with nowMs := nowMs } with
    dtls := dtlsSetTime p.dtls rtc.dtls nowMs }

/-- `nanortc_handle_input`. -/
def nanortcHandleInput (rtc : Rtc Ctx Rx) (input : NanortcInput) : Rtc Ctx Rx × Rc :=
  match rtcRun (rtcProcessTimers p e input.nowMs) (rtcSetTime p input.nowMs rtc) with
  | (rtc, .ok) =>
    if input.data ≠ [] ∧ input.src.family ≠ 0 then
      let localIdx := rtcResolveLocalIdx rtc.ice input.dst
      rtcRun (rtcReceive p e input.data input.src localIdx false) rtc
    else (rtc, .ok)
  | r => r

end Nanortc.Native
