import Nanortc.Native.RtcInput

/-!
# Public API

Construction, negotiation, candidates, tracks, data channels, restart and disconnect after
`nano_rtc.c` and `nano_rtc_negotiate.c`, and one step of the connection for each call. Descriptions
and candidates are handed over as texts; the URLs of the servers are arguments in the form in which
their parser leaves them. Functions that change nothing the model holds have no call here.
-/

namespace Nanortc.Native

open Nanortc.ForStd

variable {Ctx Rx : Type} (p : Platform Ctx Rx)

/-! ### Construction -/

/-- One URL of `nanortc_ice_server_t`, parsed; an address is none when it does not resolve. -/
inductive IceUrl where
  | stun (addr : Option NanortcAddr)
  | turn (credentials : Option (List UInt8 × List UInt8)) (addr : Option NanortcAddr)
  | other
deriving Repr, DecidableEq

/-- One turn of `nano_rtc_apply_ice_servers`: the first server of a kind wins. -/
def rtcApplyIceUrl (rtc : NanoRtc) : IceUrl → NanoRtc × Option Rc
  | .stun (some addr) =>
    if rtc.stunServerConfigured then (rtc, none)
    else ({ rtc with stunServer := addr, stunServerConfigured := true }, none)
  | .turn credentials addr =>
    if rtc.turn.configured then (rtc, none)
    else
      match credentials, addr with
      | none, _ => (rtc, some .invalidParam)
      | some (username, password), some addr =>
        ({ rtc with turn := (turnConfigure rtc.turn addr username password).1 }, none)
      | some _, none => (rtc, none)
  | _ => (rtc, none)

/-- `nano_rtc_apply_ice_servers`. -/
def nanoRtcApplyIceServers (rtc : NanoRtc) (urls : List IceUrl) : NanoRtc × Rc :=
  let r := runUntil rtcApplyIceUrl rtc urls
  (r.1, r.2.getD .ok)

/-- The connection that `nanortc_init` sets up before it looks at the servers. -/
def rtcBlank (isControlling : Bool) (tieBreaker : UInt64) (rx : Rx) : Rtc Ctx Rx :=
  let out := nanortcInit isControlling maxSsrcMap
  { out with
    ice := { out.ice with tieBreaker := tieBreaker }
    state := .new
    media := []
    ssrcMap := []
    lastRtcpSendMs := 0
    lastRtcpSendValid := false
    srCursor := 0
    dtls := .zero
    sctp := nsctpInit
    datachannel := []
    sdp := { localSetup := if isControlling then .active else .passive }
    rx := rx
    pendingEvents := []
    hostCandidatePending := List.replicate maxLocalCandidates false
    srflxCandidatePending := false
    relayCandidatePending := false
    stunRetryAtMs := 0
    stunRetries := 0
    emitted := []
    dcNegotiated := false }

/-- `nanortc_init` with a tie breaker drawn. -/
def rtcInit (isControlling : Bool) (tieBreaker : UInt64) (rx : Rx) (urls : List IceUrl) :
    Rtc Ctx Rx × Rc :=
  rtcRun (onOut (nanoRtcApplyIceServers · urls)) (rtcBlank isControlling tieBreaker rx)

/-! ### Negotiation -/

/-- The hexadecimal text of random bytes. -/
def hexText (b : List UInt8) : LineText :=
  b.foldl (fun t x => t ++ hexChar (x.toNat / 16) ++ hexChar (x.toNat % 16)) .nil

/-- The credentials of a negotiation in the description and the ICE agent. -/
def rtcSetCredentials (rtc : Rtc Ctx Rx) (ufrag pwd : List UInt8) : Rtc Ctx Rx :=
  let ufrag := hexText (ufrag.take 4)
  let pwd := hexText (pwd.take 11)
  { rtc.withIce { rtc.ice with localUfrag := ufrag.bytes, localPwd := pwd.bytes } with
    sdp := { rtc.sdp with localUfrag := ufrag, localPwd := pwd } }

/-- `rtc_generate_ice_credentials`. -/
def rtcGenerateIceCredentials (credentials : Option (List UInt8 × List UInt8)) :
    RtcM Ctx Rx Unit :=
  match credentials with
  | none => throw .crypto
  | some (ufrag, pwd) => modify fun rtc => rtcSetCredentials rtc ufrag pwd

/-- `rtc_apply_remote_sdp`; the arrays of the description end with a zero byte. -/
def rtcApplyRemoteSdp (rtc : Rtc Ctx Rx) : Rtc Ctx Rx :=
  let ice := { rtc.ice with
    remoteUfrag := rtc.sdp.remoteUfrag.take (iceRemoteUfragSize - 1)
    remotePwd := rtc.sdp.remotePwd }
  { rtc.withIce ice with
    sctp := { rtc.sctp with
      remotePort := if rtc.sdp.remoteSctpPort > 0 then rtc.sdp.remoteSctpPort
        else rtc.sctp.remotePort
      peerMaxMessageSize := rtc.sdp.remoteMaxMessageSize } }

/-- `direction_complement`. -/
def directionComplement : Direction → Direction
  | .recvonly => .sendonly
  | .sendonly => .recvonly
  | .inactive => .inactive
  | .sendrecv => .sendrecv

/-- The direction and the payload type of an m-line applied to its track, and the line as it is
answered. -/
def rtcNegotiateTrack (ml : SdpMline) (m : MediaTrack) : SdpMline × MediaTrack :=
  let direction :=
    if ml.remoteDirection ≠ .sendrecv ∨ m.direction = .sendrecv then
      directionComplement ml.remoteDirection
    else m.direction
  let m := { m with direction := direction }
  let ml := { ml with direction := direction }
  if ml.kind = .video ∧ ml.pt ≠ 0 then
    (ml, { m with rtp := { m.rtp with payloadType := ml.pt, twccExtId := ml.twccExtId } })
  else
    let (ml, m) :=
      if ml.remotePt ≠ 0 then
        ({ ml with pt := ml.remotePt }, { m with rtp := { m.rtp with payloadType := ml.remotePt } })
      else (ml, m)
    if ml.kind = .video then (ml, { m with rtp := { m.rtp with twccExtId := ml.twccExtId } })
    else (ml, m)

/-- One turn of `rtc_apply_negotiated_media`: a line without a track makes one while there is
room. -/
def rtcApplyMline (i : Nat) : RtcM Ctx Rx Unit := do
  let rtc ← get
  match rtc.sdp.mlines[i]? with
  | none => pure ()
  | some ml =>
    if ml.active then
      let found := trackFindByMid rtc.media ml.mid
      if found.isSome ∨ rtc.media.length < maxMediaTracks then
        if found.isNone then
          let track :=
            trackInit ml.mid ml.kind (directionComplement ml.remoteDirection) ml.sampleRate
          set (rtc.withMedia { rtc.toMediaRtc with media := rtc.media ++ [track] })
          nanoRtcEmitEventFull ⟨.mediaAdded, ml.mid.toNat⟩
        modify fun rtc =>
          let k := found.getD (rtc.media.length - 1)
          let (ml, m) := rtcNegotiateTrack ml (rtc.track k)
          { rtc.withMedia (rtc.toMediaRtc.setTrack k m) with
            sdp := { rtc.sdp with mlines := rtc.sdp.mlines.set i ml } }

/-- `rtc_apply_negotiated_media`. -/
def rtcApplyNegotiatedMedia : RtcM Ctx Rx Unit := do
  (List.range (← get).sdp.mlines.length).forM rtcApplyMline

/-- A remote candidate, parsed; a known one may only rise in type. -/
def iceAddRemote (ice : NanoIce) (c : IceCandidate) : NanoIce × Rc :=
  let known (d : IceCandidate) : Bool :=
    d.family == c.family && d.port == c.port && addrEq c.family d.addr c.addr
  match ice.remoteCandidates.findIdx? known with
  | some i =>
    let d := ice.remoteCandidates.getD i default
    let type := if c.type.ctorIdx > d.type.ctorIdx then c.type else d.type
    ({ ice with remoteCandidates := ice.remoteCandidates.set i { d with type := type } }, .ok)
  | none =>
    if ice.remoteCandidates.length ≥ maxIceCandidates then (ice, .bufferTooSmall)
    else ({ ice with remoteCandidates := ice.remoteCandidates ++ [c] }, .ok)

/-- `rtc_add_sdp_candidates`: each candidate as the short form of its text; one that is refused is
passed over. -/
def rtcAddSdpCandidates (rtc : Rtc Ctx Rx) : Rtc Ctx Rx :=
  let ice := rtc.sdp.remoteCandidates.foldl
    (fun ice c =>
      match candidateParse (c.addr ++ [0x20] ++ (decimal c.port.toNat).bytes) with
      | .error _ => ice
      | .ok c => (iceAddRemote ice c).1)
    rtc.ice
  rtc.withIce { ice with endOfCandidates := ice.endOfCandidates || rtc.sdp.endOfCandidates }

/-- `sdp_parse` on the description of the connection. -/
def rtcSdpParse (text : List UInt8) : RtcM Ctx Rx Unit := fun rtc =>
  match sdpParse rtc.sdp text with
  | (sdp, .ok) => .ok () { rtc with sdp := sdp }
  | (sdp, rc) => .error rc { rtc with sdp := sdp }

/-- DTLS set up early for its fingerprint. -/
def rtcEarlyDtls (isServer : Bool) : RtcM Ctx Rx Unit := do
  if (← get).dtls.cryptoCtx.isNone then
    onDtls fun _ => dtlsInit p.dtls isServer
    modify nanoRtcCacheFingerprint

/-- `sdp_generate_answer` on the description of the connection. -/
def rtcSdpGenerate (bufLen : Nat) : RtcM Ctx Rx (List UInt8) := fun rtc =>
  match sdpGenerateAnswer rtc.sdp bufLen with
  | (sdp, .ok text) => .ok text { rtc with sdp := sdp }
  | (sdp, .error rc) => .error rc { rtc with sdp := sdp }

/-- `nanortc_accept_offer`: the answer. -/
def nanortcAcceptOffer (e : Entropy) (offer : List UInt8) (bufLen : Nat) :
    RtcM Ctx Rx (List UInt8) := do
  if (← get).state ≠ .new then throw .state
  rtcGenerateIceCredentials e.credentials
  rtcSdpParse (cText offer)
  modify rtcApplyRemoteSdp
  rtcApplyNegotiatedMedia
  modify fun rtc =>
    let setup : SdpSetup := if rtc.sdp.remoteSetup = .passive then .active else .passive
    { rtc with sdp := { rtc.sdp with localSetup := setup } }
  rtcEarlyDtls p ((← get).sdp.localSetup == .passive)
  let answer ← rtcSdpGenerate bufLen
  modify rtcAddSdpCandidates
  return answer

/-- `nanortc_create_offer`: the offer. -/
def nanortcCreateOffer (e : Entropy) (bufLen : Nat) : RtcM Ctx Rx (List UInt8) := do
  if (← get).state ≠ .new then throw .state
  rtcGenerateIceCredentials e.credentials
  modify fun rtc => { rtc with sdp := { rtc.sdp with localSetup := .actpass } }
  rtcEarlyDtls p false
  rtcSdpGenerate bufLen

/-- `nanortc_accept_answer`. -/
def nanortcAcceptAnswer (answer : List UInt8) : RtcM Ctx Rx Unit := do
  if (← get).state ≠ .new then throw .state
  rtcSdpParse (cText answer)
  modify rtcApplyRemoteSdp
  modify fun rtc =>
    let setup : SdpSetup := if rtc.sdp.remoteSetup = .active then .passive else .active
    let isServer := setup == .passive
    let dtls := if rtc.dtls.cryptoCtx.isSome then
        { rtc.dtls with
          cryptoCtx := rtc.dtls.cryptoCtx.map (p.dtls.setRole · isServer), isServer := isServer }
      else rtc.dtls
    { rtc with sdp := { rtc.sdp with localSetup := setup }, dtls := dtls }
  rtcApplyNegotiatedMedia
  modify rtcAddSdpCandidates

/-! ### Candidates and tracks -/

/-- `nanortc_add_local_candidate`. The agent's table is written at the index of the description and
ends there. -/
def nanortcAddLocalCandidate (ip : List UInt8) (port : UInt16) : RtcM Ctx Rx Unit := do
  let rtc ← get
  let idx := rtc.sdp.localCandidates.length
  if idx ≥ maxLocalCandidates then throw .bufferTooSmall
  if (cText ip).length ≥ ipv6StrSize then throw .bufferTooSmall
  match h : addrParseAuto (cText ip) with
  | .error rc => throw rc
  | .ok (family, addr) =>
    let host : SdpCandidate LineText := ⟨⟨cText ip, printable_of_addrParseAuto h⟩, port⟩
    let c : IceCandidate := ⟨addr, port, family, .host⟩
    set { rtc.withIce { rtc.ice with localCandidates := rtc.ice.localCandidates.take idx ++ [c] } with
      sdp := { rtc.sdp with localCandidates := rtc.sdp.localCandidates ++ [host] }
      hostCandidatePending := rtc.hostCandidatePending.set idx true }

/-- `nanortc_add_remote_candidate`. -/
def nanortcAddRemoteCandidate (text : List UInt8) : RtcM Ctx Rx Unit :=
  match candidateParse (cText text) with
  | .error rc => throw rc
  | .ok c => onIce fun ice => ((iceAddRemote ice c).1, (iceAddRemote ice c).2, ())

/-- `nanortc_end_of_candidates`. -/
def nanortcEndOfCandidates : RtcM Ctx Rx Unit := modify fun rtc =>
  { rtc.withIce { rtc.ice with endOfCandidates := true } with
    sdp := { rtc.sdp with endOfCandidates := true } }

/-- `nanortc_add_track` with the payload type of its codec. -/
def nanortcAddTrack (kind : TrackKind) (direction : Direction) (pt : UInt8) (sampleRate : UInt32)
    (channels : UInt8) : RtcM Ctx Rx Unit := do
  let rtc ← get
  if rtc.media.length ≥ maxMediaTracks ∨ rtc.sdp.mlines.length ≥ maxMediaTracks then
    throw .bufferTooSmall
  let mid := rtc.sdp.midCount
  let ml : SdpMline :=
    { kind := kind
      mid := mid
      pt := pt
      sampleRate := sampleRate
      channels := channels
      direction := direction }
  let track := trackInit mid kind direction sampleRate
  set { rtc.withMedia { rtc.toMediaRtc with media := rtc.media ++ [track] } with
    sdp := { rtc.sdp with mlines := rtc.sdp.mlines ++ [ml], midCount := rtc.sdp.midCount + 1 } }

/-- `nanortc_set_direction`. -/
def nanortcSetDirection (mid : UInt8) (direction : Direction) : RtcM Ctx Rx Unit := do
  let rtc ← get
  match trackFindByMid rtc.media mid with
  | none => pure ()
  | some i =>
    let m := rtc.track i
    set (rtc.withMedia (rtc.toMediaRtc.setTrack i { m with direction := direction }))
    if m.direction ≠ direction then nanoRtcEmitEventFull ⟨.mediaChanged, mid.toNat⟩

/-! ### Data channels -/

/-- `rtc_alloc_stream_id`: the DTLS client takes even streams, the server odd ones. -/
def rtcAllocStreamId (dc : NanoDc) (isServer : Bool) : UInt16 :=
  dc.foldl
    (fun maxId ch =>
      if ch.streamId % 2 = (if isServer then 1 else 0) ∧ ch.streamId ≥ maxId then ch.streamId + 2
      else maxId)
    (if isServer then 1 else 0)

/-- An action whose result nobody looks at. -/
def ignoring (m : RtcM Ctx Rx Unit) : RtcM Ctx Rx Unit := fun rtc => .ok () (rtcRun m rtc).1

/-- `nanortc_datachannel_options_t`. -/
structure DatachannelOptions where
  protocol : List UInt8 := []
  unordered : Bool := false
  partialReliability : Bool := false
  maxRetransmits : UInt16 := 0
deriving Repr, DecidableEq

/-- `nanortc_create_datachannel`. -/
def nanortcCreateDatachannel (label : List UInt8) (options : DatachannelOptions) :
    RtcM Ctx Rx Unit := do
  modify fun rtc =>
    if rtc.sdp.hasDatachannel then rtc
    else { rtc with sdp := { rtc.sdp with
      hasDatachannel := true, dcMid := rtc.sdp.midCount, midCount := rtc.sdp.midCount + 1 } }
  let rtc ← get
  let r := dcOpenOptions rtc.datachannel (rtcAllocStreamId rtc.datachannel rtc.dtls.isServer) label
    options.protocol (!options.unordered)
    (options.partialReliability || options.maxRetransmits != 0) options.maxRetransmits
  set { rtc with datachannel := r.1 }
  if r.2 ≠ .ok then throw r.2
  if rtc.state = .connected then ignoring (rtcPumpDcThroughSctp p rtc.remoteAddr)

/-- `rtc_datachannel_send`; an empty message goes out as one byte. -/
def rtcDatachannelSend (id : UInt16) (data : List UInt8) (binary : Bool) : RtcM Ctx Rx Unit := do
  let rtc ← get
  if rtc.state ≠ .connected then throw .state
  match dcFindChannel rtc.datachannel id with
  | none => throw .state
  | some ch =>
    if ch.state ≠ .isOpen then throw .state
    let ppid :=
      if binary then if data = [] then dcepPpidBinaryEmpty else dcepPpidBinary
      else if data = [] then dcepPpidStringEmpty else dcepPpidString
    let limit : Int :=
      if ch.channelType &&& 0x7F = dcepChannelRexmit then ch.maxRetransmits.toNat else -1
    onSctp fun sctp =>
      nsctpSendOptions sctp id ppid (if data = [] then [0] else data) (!ch.ordered) limit

/-- `nanortc_datachannel_close`. -/
def nanortcDatachannelClose (id : UInt16) : RtcM Ctx Rx Unit := do
  let rtc ← get
  if (dcFindChannel rtc.datachannel id).isNone then throw .invalidParam
  set { rtc with
    datachannel := dcUpdateChannel (fun ch => { ch with state := .closed }) id rtc.datachannel }
  nanoRtcEmitEventFull ⟨.datachannelClose, id.toNat⟩

/-! ### Restart and disconnect -/

/-- `nanortc_ice_restart`. The association, the data channels and the SRTP state stay. -/
def nanortcIceRestart (e : Entropy) : RtcM Ctx Rx Unit := do
  match e.credentials with
  | none => throw .crypto
  | some (ufrag, pwd) =>
    modify fun rtc =>
      let out := { rtc.toNanoRtc with
        ice := iceRestart rtc.ice, turn := turnResetPeerState rtc.turn }
      let rtc := { (rtc.withOut out).withState .new with
        dtls := { dtlsDestroy rtc.dtls with localFingerprint := .nil }
        sdp := { rtc.sdp with
          localFingerprint := .nil, remoteCandidates := [], endOfCandidates := false }
        emitted := [] }
      rtcSetCredentials rtc ufrag pwd
    emitIceStateChange

/-- `nsctp_encode_shutdown`. -/
def nsctpEncodeShutdown (cumulativeTsn : UInt32) : List UInt8 :=
  sctpChunkHdr 7 0 (sctpChunkHdrSize + 4) ++ u32be cumulativeTsn

/-- The SHUTDOWN of `nanortc_disconnect`. -/
def rtcShutdownSctp : RtcM Ctx Rx Unit := do
  let rtc ← get
  if rtc.sctp.state = .established then
    let packet := nsctpFinalizeChecksum
      (nsctpEncodeHeader rtc.sctp.localPort rtc.sctp.remotePort rtc.sctp.remoteVtag ++
        nsctpEncodeShutdown rtc.sctp.recv.cumulativeTsn)
    ignoring (onDtls fun dtls => dtlsEncrypt p.dtls dtls packet)
    ignoring (rtcDrainDtlsOutput rtc.remoteAddr)
    modify fun rtc => { rtc with sctp := { rtc.sctp with state := .shutdownSent } }

/-- `nanortc_disconnect`. -/
def nanortcDisconnect : RtcM Ctx Rx Unit := do
  let rtc ← get
  if rtc.state ≠ .closed ∧ rtc.state ≠ .new then
    rtcShutdownSctp p
    modify fun rtc => { rtc with dtls := dtlsClose p.dtls rtc.dtls }
    ignoring (rtcDrainDtlsOutput rtc.remoteAddr)
    modify (·.withState .closed)
    nanoRtcEmitEventFull ⟨.disconnected, 0⟩

/-! ### Calls -/

/-- A call of the public API with its arguments. -/
inductive RtcCall where
  | handleInput (e : Entropy) (input : NanortcInput)
  | pollOutput
  | acceptOffer (e : Entropy) (offer : List UInt8) (bufLen : Nat)
  | createOffer (e : Entropy) (bufLen : Nat)
  | acceptAnswer (answer : List UInt8)
  | addLocalCandidate (ip : List UInt8) (port : UInt16)
  | addRemoteCandidate (text : List UInt8)
  | endOfCandidates
  | setIceServers (urls : List IceUrl)
  | addTrack (kind : TrackKind) (direction : Direction) (pt : UInt8) (sampleRate : UInt32)
    (channels : UInt8)
  | setDirection (mid : UInt8) (direction : Direction)
  | sendAudio (mid : UInt8) (ptsMs : UInt32) (data : List UInt8)
  | sendVideo (mid : UInt8) (ptsMs : UInt32) (data : List UInt8)
  | requestKeyframe (mid : UInt8)
  | setBitrate (estimate : UInt32)
  | createDatachannel (label : List UInt8) (options : DatachannelOptions)
  | datachannelSend (id : UInt16) (data : List UInt8) (binary : Bool)
  | datachannelClose (id : UInt16)
  | iceRestart (e : Entropy)
  | disconnect

/-- A call without its result. -/
def dropping {α : Type} (m : RtcM Ctx Rx α) : RtcM Ctx Rx Unit := do
  let _ ← m

/-- The body of a call, `nanortc_handle_input` and `nanortc_poll_output` apart. -/
def rtcCallBody : RtcCall → RtcM Ctx Rx Unit
  | .handleInput _ _ | .pollOutput => pure ()
  | .acceptOffer e offer bufLen => dropping (nanortcAcceptOffer p e offer bufLen)
  | .createOffer e bufLen => dropping (nanortcCreateOffer p e bufLen)
  | .acceptAnswer answer => nanortcAcceptAnswer p answer
  | .addLocalCandidate ip port => nanortcAddLocalCandidate ip port
  | .addRemoteCandidate text => nanortcAddRemoteCandidate text
  | .endOfCandidates => nanortcEndOfCandidates
  | .setIceServers urls => onOut (nanoRtcApplyIceServers · urls)
  | .addTrack kind direction pt sampleRate channels =>
    nanortcAddTrack kind direction pt sampleRate channels
  | .setDirection mid direction => nanortcSetDirection mid direction
  | .sendAudio mid ptsMs data => onMedia (nanortcSendAudio p.crypto · mid ptsMs data)
  | .sendVideo mid ptsMs data => onMedia (nanortcSendVideo p.crypto · mid ptsMs data)
  | .requestKeyframe mid => onMedia (nanortcRequestKeyframe p.crypto · mid)
  | .setBitrate estimate =>
    modify fun rtc => rtc.withOut { rtc.toNanoRtc with bweEstimate := estimate }
  | .createDatachannel label options => nanortcCreateDatachannel p label options
  | .datachannelSend id data binary => rtcDatachannelSend id data binary
  | .datachannelClose id => nanortcDatachannelClose id
  | .iceRestart e => nanortcIceRestart e
  | .disconnect => nanortcDisconnect p

/-- The connection after a call, and the result code of the call. -/
def rtcCall (rtc : Rtc Ctx Rx) : RtcCall → Rtc Ctx Rx × Rc
  | .handleInput e input => nanortcHandleInput p e rtc input
  | .pollOutput =>
    match nanortcPollOutput p rtc with
    | (rtc, .ok (some _)) => (rtc, .ok)
    | (rtc, .ok none) => (rtc, .noData)
    | (rtc, .error rc) => (rtc, rc)
  | call => rtcRun (rtcCallBody p call) rtc

end Nanortc.Native
