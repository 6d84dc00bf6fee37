import Nanortc.Native.DataChannel
import Nanortc.Native.Dtls
import Nanortc.Native.Sdp

/-!
# Connection object

`nanortc_t` with all layers, its event queue, the output poll, the deadline aggregator and the
pumps between the layers, after `nano_rtc.c`. An action of the connection is a state transformer
that may end early with a result code, as the source's functions return early. What `random_bytes`
delivers during a call is an argument of the call. The receive side of media (jitter and reorder
buffers, depacketizers, bandwidth estimators) is a parameter: it gets the datagram and hands back
what it owns.
-/

namespace Nanortc.Native

open Nanortc.ForStd

/-- `NANORTC_MAX_LOCAL_CANDIDATES`. -/
def maxLocalCandidates : Nat := 4

/-- `NANORTC_ICE_CONSENT_TIMEOUT_MS`. -/
def iceConsentTimeoutMs : UInt32 := 30000

/-- `NANORTC_STUN_BUF_SIZE`. -/
def stunBufSize : Nat := mediaBufSize

/-- `NANORTC_TIMEOUT_IDLE_CAP_MS`. -/
def timeoutIdleCapMs : UInt32 := 1000

/-- `NANORTC_PENDING_EVENT_SLOTS`. -/
def pendingEventSlots : Nat := 3 + 3 * maxMediaTracks + 2 * maxDatachannels + 2

/-! ### Events -/

/-- `nanortc_event_type_t`, the types that pass through `nano_rtc_emit_event_full`. -/
inductive EventType where
  | connected
  | disconnected
  | iceStateChange
  | mediaAdded
  | mediaChanged
  | keyframeRequest
  | datachannelClose
  | bitrateEstimate
  | specRecommendation
deriving Repr, DecidableEq, Inhabited

/-- The value of the enumerator. -/
def EventType.code : EventType → Nat
  | .connected => 0
  | .disconnected => 1
  | .iceStateChange => 2
  | .mediaAdded => 3
  | .mediaChanged => 4
  | .keyframeRequest => 6
  | .datachannelClose => 9
  | .bitrateEstimate => 11
  | .specRecommendation => 13

/-- `nanortc_event_t`: the type and what `rtc_event_key` tells events of one type apart by. -/
structure NanortcEvent where
  type : EventType
  key : Nat := 0
deriving Repr, DecidableEq, Inhabited

/-- The events the receive side of media raises. -/
inductive MediaEvent where
  | keyframeRequest (mid : UInt8)
  | bitrateEstimate
  | specRecommendation
deriving Repr, DecidableEq

/-- The event as the queue takes it. -/
def MediaEvent.event : MediaEvent → NanortcEvent
  | .keyframeRequest mid => ⟨.keyframeRequest, mid.toNat⟩
  | .bitrateEstimate => ⟨.bitrateEstimate, 0⟩
  | .specRecommendation => ⟨.specRecommendation, 0⟩

/-! ### Parameters -/

/-- What `random_bytes` delivers during one call, by the place that draws; `none` is a failure. -/
structure Entropy where
  iceTxid : Option (List UInt8) := none
  consentTxid : Option (List UInt8) := none
  turnTxid : Option (List UInt8) := none
  peerTxid : Option (List UInt8) := none
  stunTxid : Option (List UInt8) := none
  trackSeeds : List (Option (List UInt8)) := []
  startSeed : Option AssociationSeed := none
  initSeed : Option AssociationSeed := none
  sctpNonce : Option (List UInt8) := none
  credentials : Option (List UInt8 × List UInt8) := none

/-- What the receive side of media may change. -/
structure MediaUpdate (Rx : Type) where
  rx : Rx
  srtp : NanoSrtp
  media : List MediaTrack
  ssrcMap : List SsrcEntry
  bweEstimate : UInt32
  bweLossQ8 : UInt16
  outQueue : List NanortcOutput
  outWrapMeta : List WrapMeta
  outTail : UInt16
  txSlots : List BackingSlot
  txSlotCursor : Nat
  nackRetx : List BackingSlot
  events : List MediaEvent := []
  rc : Rc := .ok

/-- The receive side of media. -/
structure MediaReceiver (Rx : Type) where
  handleRtpOrRtcp : Rx → MediaRtc → List UInt8 → MediaUpdate Rx
  produce : Rx → MediaRtc → MediaUpdate Rx × Bool
  nextTimeoutMs : Rx → List MediaTrack → (nowMs : UInt32) → UInt32

/-- What a receive side of media without buffers leaves behind. -/
def MediaUpdate.same {Rx : Type} (rx : Rx) (rtc : MediaRtc) : MediaUpdate Rx where
  rx := rx
  srtp := rtc.srtp
  media := rtc.media
  ssrcMap := rtc.ssrcMap
  bweEstimate := rtc.bweEstimate
  bweLossQ8 := rtc.bweLossQ8
  outQueue := rtc.outQueue
  outWrapMeta := rtc.outWrapMeta
  outTail := rtc.outTail
  txSlots := rtc.txSlots
  txSlotCursor := rtc.txSlotCursor
  nackRetx := rtc.nackRetx

/-- A receive side of media that takes nothing in. -/
def MediaReceiver.deaf : MediaReceiver Unit where
  handleRtpOrRtcp rx rtc _ := .same rx rtc
  produce rx rtc := (.same rx rtc, false)
  nextTimeoutMs _ _ _ := 0xFFFFFFFF

/-- The crypto provider and the receive side of media. -/
structure Platform (Ctx Rx : Type) where
  crypto : CryptoProvider
  dtls : DtlsProvider Ctx
  receiver : MediaReceiver Rx

/-! ### State -/

/-- `nanortc_t`. The last two fields are history that no function reads: the events handed to
`nano_rtc_emit_event_full` since the last restart, and whether the description named a data channel
when DTLS completed. -/
structure Rtc (Ctx Rx : Type) extends MediaRtc where
  dtls : NanoDtls Ctx
  sctp : NanoSctp
  datachannel : NanoDc
  sdp : NanoSdp
  rx : Rx
  pendingEvents : List NanortcEvent
  hostCandidatePending : List Bool
  srflxCandidatePending : Bool
  relayCandidatePending : Bool
  stunRetryAtMs : UInt32
  stunRetries : Nat
  emitted : List NanortcEvent
  dcNegotiated : Bool

/-- A platform that computes. -/
def Platform.plain : Platform Unit Unit := ⟨.checksum, .plain, .deaf⟩

variable {Ctx Rx : Type}

/-- An action on a connection: it changes the state and may return early with a result code. -/
abbrev RtcM (Ctx Rx : Type) := EStateM Rc (Rtc Ctx Rx)

/-- The state after an action and the result code of the function it is the body of. -/
def rtcRun (m : RtcM Ctx Rx Unit) (rtc : Rtc Ctx Rx) : Rtc Ctx Rx × Rc :=
  match m.run rtc with
  | .ok () rtc => (rtc, .ok)
  | .error rc rtc => (rtc, rc)

/-- The part the media paths use, replaced. -/
def Rtc.withMedia (rtc : Rtc Ctx Rx) (m : MediaRtc) : Rtc Ctx Rx := { rtc with toMediaRtc := m }

/-- The output path replaced. -/
def Rtc.withOut (rtc : Rtc Ctx Rx) (out : NanoRtc) : Rtc Ctx Rx :=
  rtc.withMedia (rtc.toMediaRtc.withOut out)

/-- The ICE agent replaced. -/
def Rtc.withIce (rtc : Rtc Ctx Rx) (ice : NanoIce) : Rtc Ctx Rx :=
  rtc.withOut { rtc.toNanoRtc with ice := ice }

/-- The TURN client replaced. -/
def Rtc.withTurn (rtc : Rtc Ctx Rx) (turn : NanoTurn) : Rtc Ctx Rx :=
  rtc.withOut { rtc.toNanoRtc with turn := turn }

/-- The connection state replaced. -/
def Rtc.withState (rtc : Rtc Ctx Rx) (state : ConnState) : Rtc Ctx Rx :=
  rtc.withMedia { rtc.toMediaRtc with state := state }

/-- What the receive side of media hands back, taken over. -/
def Rtc.withUpdate (rtc : Rtc Ctx Rx) (u : MediaUpdate Rx) : Rtc Ctx Rx :=
  { rtc with
    rx := u.rx
    srtp := u.srtp
    media := u.media
    ssrcMap := u.ssrcMap
    bweEstimate := u.bweEstimate
    bweLossQ8 := u.bweLossQ8
    outQueue := u.outQueue
    outWrapMeta := u.outWrapMeta
    outTail := u.outTail
    txSlots := u.txSlots
    txSlotCursor := u.txSlotCursor
    nackRetx := u.nackRetx }

/-- A step of the output path, its failure the caller's. -/
def onOut (f : NanoRtc → NanoRtc × Rc) : RtcM Ctx Rx Unit := fun rtc =>
  match f rtc.toNanoRtc with
  | (out, .ok) => .ok () (rtc.withOut out)
  | (out, rc) => .error rc (rtc.withOut out)

/-- A step of the media paths, its failure the caller's. -/
def onMedia (f : MediaRtc → MediaRtc × Rc) : RtcM Ctx Rx Unit := fun rtc =>
  match f rtc.toMediaRtc with
  | (m, .ok) => .ok () (rtc.withMedia m)
  | (m, rc) => .error rc (rtc.withMedia m)

/-- A step of the ICE agent, its failure the caller's. -/
def onIce {α : Type} (f : NanoIce → NanoIce × Rc × α) : RtcM Ctx Rx α := fun rtc =>
  match f rtc.ice with
  | (ice, .ok, a) => .ok a (rtc.withIce ice)
  | (ice, rc, _) => .error rc (rtc.withIce ice)

/-- A step of the TURN client, its failure the caller's. -/
def onTurn {α : Type} (f : NanoTurn → NanoTurn × Except Rc α) : RtcM Ctx Rx α := fun rtc =>
  match f rtc.turn with
  | (turn, .ok a) => .ok a (rtc.withTurn turn)
  | (turn, .error rc) => .error rc (rtc.withTurn turn)

/-- A result code as the outcome of a step that yields nothing. -/
def Rc.outcome : Rc → Except Rc Unit
  | .ok => .ok ()
  | rc => .error rc

/-- A step of DTLS, its failure the caller's. -/
def onDtls (f : NanoDtls Ctx → NanoDtls Ctx × Rc) : RtcM Ctx Rx Unit := fun rtc =>
  match f rtc.dtls with
  | (dtls, .ok) => .ok () { rtc with dtls := dtls }
  | (dtls, rc) => .error rc { rtc with dtls := dtls }

/-- A step of the association, its failure the caller's. -/
def onSctp (f : NanoSctp → NanoSctp × Rc) : RtcM Ctx Rx Unit := fun rtc =>
  match f rtc.sctp with
  | (sctp, .ok) => .ok () { rtc with sctp := sctp }
  | (sctp, rc) => .error rc { rtc with sctp := sctp }

/-- An action whose `WOULD_BLOCK` is no failure. -/
def unblock (m : RtcM Ctx Rx Unit) : RtcM Ctx Rx Unit := fun rtc =>
  match m rtc with
  | .error .wouldBlock rtc => .ok () rtc
  | r => r

/-- An action whose `WOULD_BLOCK` makes the caller return `OK` at once. -/
def deferred {α : Type} (m : RtcM Ctx Rx α) : RtcM Ctx Rx α := fun rtc =>
  match m rtc with
  | .error .wouldBlock rtc => .error .ok rtc
  | r => r

/-- `nano_rtc_tx_slot_acquire`. -/
def txSlotAcquire : RtcM Ctx Rx Nat := fun rtc =>
  match nanoRtcTxSlotAcquire rtc.toNanoRtc with
  | (out, .ok slot) => .ok slot (rtc.withOut out)
  | (out, .error rc) => .error rc (rtc.withOut out)

/-- A packet put into its transmit slot. -/
def writeTxSlot (slot : Nat) (packet : List UInt8) : RtcM Ctx Rx Unit :=
  modify fun rtc => rtc.withOut (rtc.toNanoRtc.writeTxSlot slot packet)

/-- A packet put into its transmit slot and queued on a route. -/
def txSlotSend (slot : Nat) (packet : List UInt8) (dest : NanortcAddr)
    (localSrc : Option NanortcAddr) (route : TxRoute) : RtcM Ctx Rx Unit := do
  writeTxSlot slot packet
  onOut fun out => rtcTxSlotCommitRoute out slot packet.length dest localSrc route

/-! ### Events -/

/-- An event that waits for room in the queue; it replaces one of its type and key. -/
def rtcPendEvent (pending : List NanortcEvent) (e : NanortcEvent) :
    Option (List NanortcEvent) :=
  if e ∈ pending then some (pending.erase e ++ [e])
  else if pending.length = pendingEventSlots then none
  else some (pending ++ [e])

/-- `nano_rtc_emit_event_full`; no caller looks at its result. -/
def nanoRtcEmitEventFull (e : NanortcEvent) : RtcM Ctx Rx Unit := modify fun rtc =>
  let rtc := { rtc with emitted := rtc.emitted ++ [e] }
  if rtc.pendingEvents ≠ [] ∨ !rtcOutputHasSpace rtc.toNanoRtc then
    { rtc with pendingEvents := (rtcPendEvent rtc.pendingEvents e).getD rtc.pendingEvents }
  else rtc.withOut (rtcEnqueueOutput rtc.toNanoRtc (.event e.type.code e.key)).1

/-- `rtc_emit_connected`. -/
def rtcEmitConnected : RtcM Ctx Rx Unit := nanoRtcEmitEventFull ⟨.connected, 0⟩

/-- `NANORTC_EV_ICE_STATE_CHANGE`. -/
def emitIceStateChange : RtcM Ctx Rx Unit := nanoRtcEmitEventFull ⟨.iceStateChange, 0⟩

/-- The end of a session: `NANORTC_EV_DISCONNECTED` and state CLOSED. -/
def rtcEmitDisconnected : RtcM Ctx Rx Unit := do
  nanoRtcEmitEventFull ⟨.disconnected, 0⟩
  modify (·.withState .closed)

/-! ### Pumps -/

variable (p : Platform Ctx Rx)

/-- `rtc_drain_dtls_output`: one poll takes everything DTLS holds. -/
def rtcDrainDtlsOutput (dest : NanortcAddr) : RtcM Ctx Rx Unit := do
  if (← get).dtls.outBuf ≠ [] then
    let slot ← txSlotAcquire
    let rtc ← get
    match dtlsPollOutput rtc.dtls txSlotSize with
    | (_, .error rc) => if rc = .noData then pure () else throw rc
    | (dtls, .ok record) =>
      set { rtc with dtls := dtls }
      txSlotSend slot record dest none .selected

/-- One packet of the association encrypted into a transmit slot and queued. -/
def rtcSendSctpPacket (slot : Nat) (packet : List UInt8) (dest : NanortcAddr) :
    RtcM Ctx Rx Unit := do
  onDtls fun dtls => dtlsEncrypt p.dtls dtls packet
  let rtc ← get
  match dtlsPollOutput rtc.dtls txSlotSize with
  | (_, .error rc) => throw rc
  | (dtls, .ok record) =>
    set { rtc with dtls := dtls }
    txSlotSend slot record dest none .selected

/-- The loop of `rtc_pump_sctp_through_dtls`, at most `turns` times: it ends when the association
has nothing to send or no transmit slot is free. -/
def rtcPumpSctpLoop (dest : NanortcAddr) : (turns : Nat) → RtcM Ctx Rx Unit
  | 0 => throw .wouldBlock
  | turns + 1 => do
    let slot ← txSlotAcquire
    let rtc ← get
    let r := nsctpPollOutput { rtc.sctp with nowMs := rtc.nowMs } sctpMtu
    set { rtc with sctp := r.1 }
    match r.2 with
    | .error rc => if rc = .noData then pure () else throw rc
    | .ok packet =>
      if packet = [] then pure ()
      else
        rtcSendSctpPacket p slot packet dest
        rtcPumpSctpLoop dest turns

/-- `rtc_pump_sctp_through_dtls`. -/
def rtcPumpSctpThroughDtls (dest : NanortcAddr) : RtcM Ctx Rx Unit := do
  rtcDrainDtlsOutput dest
  rtcPumpSctpLoop p dest (txSlotCount + 1)

/-- `rtc_pump_dc_through_sctp`. -/
def rtcPumpDcThroughSctp (dest : NanortcAddr) : RtcM Ctx Rx Unit := do
  let rtc ← get
  if rtc.sctp.state = .established then
    match dcPeekOutput rtc.datachannel dcOutBufSize with
    | .error rc => if rc = .noData then pure () else throw rc
    | .ok (message, stream) =>
      onSctp fun sctp => nsctpSendOptions sctp stream dcepPpidControl message false (-1)
      modify fun rtc => { rtc with datachannel := dcCommitOutput rtc.datachannel stream }
      rtcPumpSctpThroughDtls p dest

/-! ### DTLS completion -/

/-- `nano_rtc_cache_fingerprint`. -/
def nanoRtcCacheFingerprint (rtc : Rtc Ctx Rx) : Rtc Ctx Rx :=
  let fp := rtc.dtls.localFingerprint
  if rtc.sdp.localFingerprint ≠ .nil ∨ fp = .nil then rtc
  else if 8 + fp.bytes.length < sdpFingerprintSize then
    { rtc with sdp := { rtc.sdp with localFingerprint := .lit "sha-256 " ++ fp } }
  else rtc

/-- Every active track has its seed. -/
def rtcSeedsDrawn (media : List MediaTrack) (seeds : List (Option (List UInt8))) : Bool :=
  media.zipIdx.all fun (m, i) => !m.active || (seeds.getD i none).isSome

/-- A track with SSRC and first sequence number from its seed and the negotiated payload type. -/
def rtcSeedTrack (sdp : NanoSdp) (m : MediaTrack) (seed : List UInt8) : MediaTrack :=
  let ssrc := readU32be seed 0
  let pt := match sdpFindMline sdp m.mid with
    | some ml => if ml.pt ≠ 0 then ml.pt else m.rtp.payloadType
    | none => m.rtp.payloadType
  { m with
    rtp := { rtpInit ssrc pt with seq := readU16be seed 4 }
    rtcp := { m.rtcp with ssrc := ssrc } }

/-- The RTP part of `rtc_finish_dtls`: SRTP keys, the anchor of the report cadence and the seeds of
all tracks. The result of `nano_srtp_derive_keys` is not looked at. -/
def rtcActivateMedia (seeds : List (Option (List UInt8))) (rtc : Rtc Ctx Rx) : Rtc Ctx Rx :=
  let blank := nanoSrtpInit maxSsrcMap (!rtc.dtls.isServer)
  let srtp := match nanoSrtpDeriveKeys p.crypto blank rtc.dtls.keyingMaterial with
    | .ok srtp => srtp
    | .error _ => blank
  let media := rtc.media.zipIdx.map fun (m, i) =>
    if m.active then rtcSeedTrack rtc.sdp m ((seeds.getD i none).getD []) else m
  { rtc with
    srtp := srtp
    lastRtcpSendMs := rtc.nowMs
    lastRtcpSendValid := true
    media := media
    ssrcMap := media.foldl
      (fun map m => if m.active then ssrcMapRegister map m.rtcp.ssrc m.mid else map) rtc.ssrcMap }

/-- The data channel part of `rtc_finish_dtls`: the DTLS client starts the association; without a
data channel the session is connected. -/
def rtcStartApplication (e : Entropy) (src : NanortcAddr) : RtcM Ctx Rx Unit := do
  let rtc ← get
  if rtc.sdp.hasDatachannel then
    if !rtc.dtls.isServer then
      onSctp fun sctp => nsctpStart sctp e.startSeed
      modify (·.withState .sctpConnecting)
      unblock (rtcPumpSctpThroughDtls p src)
  else
    set (rtc.withState .connected)
    rtcEmitConnected

/-- `rtc_finish_dtls`. -/
def rtcFinishDtls (e : Entropy) (src : NanortcAddr) : RtcM Ctx Rx Unit := do
  let rtc ← get
  if rtc.dtls.state = .established ∧ rtc.state.rank < ConnState.dtlsConnected.rank then
    if rtc.dtls.keyingMaterialReady ∧ !rtcSeedsDrawn rtc.media e.trackSeeds then throw .crypto
    else
      let rtc := rtc.withState .dtlsConnected
      let rtc := rtc.withOut { rtc.toNanoRtc with remoteAddr := src }
      let rtc := nanoRtcCacheFingerprint { rtc with dcNegotiated := rtc.sdp.hasDatachannel }
      set (if rtc.dtls.keyingMaterialReady then rtcActivateMedia p e.trackSeeds rtc else rtc)
      rtcStartApplication p e src

/-- `rtc_begin_dtls_handshake`. -/
def rtcBeginDtlsHandshake (src : NanortcAddr) : RtcM Ctx Rx Unit := do
  let rtc ← get
  let isServer : Bool := rtc.sdp.localSetup == .passive
  if rtc.dtls.cryptoCtx.isNone then onDtls fun _ => dtlsInit p.dtls isServer
  modify fun rtc =>
    let rtc := rtc.withOut { rtc.toNanoRtc with remoteAddr := src }
    { rtc with dtls := dtlsSetTime p.dtls rtc.dtls rtc.nowMs }
  if isServer then modify (·.withState .dtlsHandshaking)
  else
    onDtls (dtlsStart p.dtls)
    modify (·.withState .dtlsHandshaking)
    unblock (rtcDrainDtlsOutput src)

/-! ### Output poll -/

/-- What `nanortc_poll_output` hands out. -/
inductive RtcOutput where
  | queued (out : PolledOutput)
  | iceCandidate
  | datachannelOpen (ch : DcChannel)
  | datachannelData (id : UInt16) (data : List UInt8) (binary : Bool)
  | mediaData
deriving Repr, DecidableEq

/-- `nano_rtc_candidate_produce`, with the text left to `nanoRtcCandidateStr`. -/
def nanoRtcCandidateProduce (rtc : Rtc Ctx Rx) : Option (Rtc Ctx Rx) :=
  match (rtc.hostCandidatePending.take rtc.sdp.localCandidates.length).findIdx? id with
  | some i => some { rtc with hostCandidatePending := rtc.hostCandidatePending.set i false }
  | none =>
    if rtc.srflxCandidatePending then some { rtc with srflxCandidatePending := false }
    else if rtc.relayCandidatePending then some { rtc with relayCandidatePending := false }
    else none

/-- `rtc_deliver_sctp_to_dc`; no output stands for `NO_DATA`. -/
def rtcDeliverSctpToDc (dc : NanoDc) (m : SctpMessage) : NanoDc × Except Rc (Option RtcOutput) :=
  match dcHandleMessage dc m.streamId m.ppid m.data with
  | (dc, .error rc) => (dc, .error rc)
  | (dc, .ok opened) =>
    if m.ppid = dcepPpidControl then
      (dc, .ok (if opened then (dcFindChannel dc m.streamId).map .datachannelOpen else none))
    else
      let isEmpty := m.ppid == dcepPpidBinaryEmpty || m.ppid == dcepPpidStringEmpty
      (dc, .ok (some (.datachannelData m.streamId (if isEmpty then [] else m.data)
        (m.ppid == dcepPpidBinary || m.ppid == dcepPpidBinaryEmpty))))

/-- One turn of the delivery loop of `nanortc_poll_output`; the second result ends it. -/
def rtcPollDeliveryTurn (rtc : Rtc Ctx Rx) :
    Rtc Ctx Rx × Option (Except Rc (Option RtcOutput)) :=
  match nsctpPollDelivery rtc.sctp with
  | (sctp, .error rc) =>
    ({ rtc with sctp := sctp }, some (if rc = .wouldBlock then .ok none else .error rc))
  | (sctp, .ok message) =>
    let r := rtcDeliverSctpToDc rtc.datachannel message
    let rtc := { rtc with sctp := sctp, datachannel := r.1 }
    match r.2 with
    | .error .noData | .ok none => (rtc, none)
    | .error rc => (rtc, some (.error rc))
    | .ok (some out) => (rtc, some (.ok (some out)))

/-- The delivery loop of `nanortc_poll_output`, at most `turns` times; every turn but the last frees
a receive slot. -/
def rtcPollDelivery (turns : Nat) (rtc : Rtc Ctx Rx) :
    Rtc Ctx Rx × Except Rc (Option RtcOutput) :=
  turnsUntil rtcPollDeliveryTurn (.ok none) turns rtc

/-- The media part of `nanortc_poll_output`: one reordered NAL unit or audio frame, else what the
receive side has queued meanwhile. -/
def rtcPollMedia (rtc : Rtc Ctx Rx) : Rtc Ctx Rx × Option RtcOutput :=
  let (u, produced) := p.receiver.produce rtc.rx rtc.toMediaRtc
  let rtc := rtc.withUpdate u
  if produced then (rtc, some .mediaData)
  else
    let (out, polled) := rtcPollQueuedOutput rtc.toNanoRtc
    (rtc.withOut out, polled.map .queued)

/-- `nanortc_poll_output`; `none` is `NO_DATA`. -/
def nanortcPollOutput (rtc : Rtc Ctx Rx) : Rtc Ctx Rx × Except Rc (Option RtcOutput) :=
  let (out, polled) := rtcPollQueuedOutput (nanoRtcPacerPump rtc.toNanoRtc)
  let rtc := rtc.withOut out
  match polled, rtc.pendingEvents with
  | some o, _ => (rtc, .ok (some (.queued o)))
  | none, e :: es =>
    ({ rtc with pendingEvents := es }, .ok (some (.queued (.event e.type.code e.key))))
  | none, [] =>
    match nanoRtcCandidateProduce rtc with
    | some rtc => (rtc, .ok (some .iceCandidate))
    | none =>
      match rtcPollDelivery (sctpMaxRecvGap + 1) rtc with
      | (rtc, .ok none) =>
        let (rtc, out) := rtcPollMedia p rtc
        (rtc, .ok out)
      | r => r

/-! ### Deadlines -/

/-- Readiness of the relay for each remote candidate, as `rtc_ice_get_check` collects it. -/
def rtcRelayReady (rtc : NanoRtc) : List Bool :=
  rtc.ice.remoteCandidates.map fun c => turnPeerIsReady rtc.turn c.addr c.family

/-- `rtc_ice_get_check`. -/
def rtcIceGetCheck (rtc : NanoRtc) (nowMs : UInt32) : UInt32 × IceCheck :=
  iceGetCheck rtc.ice nowMs (some (rtcRelayReady rtc))

/-- `rtc_turn_next_permission_candidate`. -/
def rtcTurnNextPermissionCandidate (rtc : NanoRtc) (nowMs : UInt32) : Option IceCandidate :=
  rtc.ice.remoteCandidates.find? fun c => turnCanCreatePermission rtc.turn c.addr c.family nowMs

/-- Address of the selected remote candidate. -/
def rtcSelectedPeer (ice : NanoIce) : NanortcAddr :=
  ⟨ice.selectedFamily, ice.selectedAddr, ice.selectedPort⟩

/-- `rtc_turn_can_bind_channel`. -/
def rtcTurnCanBindChannel (rtc : NanoRtc) : Bool :=
  rtc.ice.selectedLocalType == .relay && turnCanBindChannel rtc.turn (rtcSelectedPeer rtc.ice)

/-- `ice_next_timeout_ms` of a connected agent, which has no check to send: consent check and
consent expiry, each where it is armed. -/
def iceNextTimeoutMs (ice : NanoIce) (nowMs : UInt32) : UInt32 :=
  let left (deadline : UInt32) : UInt32 :=
    if deadline = 0 then 0xFFFFFFFF else nanoTimeUntil nowMs deadline
  min (left ice.consentNextMs) (left ice.consentExpiryMs)

/-- The deadline of the server-reflexive request. -/
def rtcStunTimeoutMs (rtc : Rtc Ctx Rx) (nowMs : UInt32) : UInt32 :=
  if rtc.stunServerConfigured ∧ !rtc.srflxDiscovered ∧ rtc.stunRetries < 3 then
    if rtc.stunRetryAtMs = 0 then 0 else nanoTimeUntil nowMs rtc.stunRetryAtMs
  else 0xFFFFFFFF

/-- The deadline of the next sender report. -/
def rtcSrTimeoutMs (rtc : MediaRtc) (nowMs : UInt32) : UInt32 :=
  if !rtc.srtp.ready then 0xFFFFFFFF
  else if !rtc.lastRtcpSendValid then 0
  else
    let since := nanoTimeElapsed nowMs rtc.lastRtcpSendMs
    if since ≥ rtcpIntervalMs then 0 else rtcpIntervalMs - since

/-- Work that makes `nanortc_next_timeout_ms` report zero at once. -/
def rtcReadyNow (rtc : Rtc Ctx Rx) (nowMs : UInt32) : Bool :=
  rtc.outHead != rtc.outTail || !rtc.pendingEvents.isEmpty || !rtc.dtls.outBuf.isEmpty ||
    rtc.srflxCandidatePending || rtc.hostCandidatePending.any id || rtc.relayCandidatePending ||
    (rtcTurnNextPermissionCandidate rtc.toNanoRtc nowMs).isSome ||
    rtcTurnCanBindChannel rtc.toNanoRtc || nsctpHasPendingOutput rtc.sctp ||
    (rtc.sctp.state == .established && dcHasPendingOutput rtc.datachannel)

/-- The deadlines that `nanortc_next_timeout_ms` takes the least of. -/
def rtcDeadlines (rtc : Rtc Ctx Rx) (nowMs : UInt32) : List UInt32 :=
  [if rtc.ice.state = .connected then iceNextTimeoutMs rtc.ice nowMs
    else (rtcIceGetCheck rtc.toNanoRtc nowMs).1,
    rtcStunTimeoutMs rtc nowMs,
    turnNextTimeoutMs rtc.turn nowMs,
    nsctpNextTimeoutMs rtc.sctp nowMs,
    rtcSrTimeoutMs rtc.toMediaRtc nowMs,
    nanoRtcPacerNextDeadlineMs rtc.toNanoRtc nowMs,
    dtlsNextTimeoutMs rtc.dtls nowMs,
    p.receiver.nextTimeoutMs rtc.rx rtc.media nowMs]

/-- `nanortc_next_timeout_ms`. -/
def nanortcNextTimeoutMs (rtc : Rtc Ctx Rx) (nowMs : UInt32) : UInt32 :=
  if rtcReadyNow rtc nowMs then 0
  else
    let best := (rtcDeadlines p rtc nowMs).foldl min 0xFFFFFFFF
    if best = 0xFFFFFFFF then timeoutIdleCapMs else best

end Nanortc.Native
