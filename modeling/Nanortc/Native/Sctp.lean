import Nanortc.ForStd.Run
import Nanortc.Native.SctpReceive

/-!
# SCTP association

The association of `nano_sctp.c`: handshake, chunk handlers, send queue, retransmission timer and
output. The rings of the source are lists from head to tail; `out_bufs` holds the bytes of each
packet. What a call draws from the crypto provider is an argument, `none` when the provider fails.
-/

namespace Nanortc.Native

open Nanortc.ForStd

/-! ### Constants -/

/-- `NANORTC_SCTP_RECV_BUF_SIZE`. -/
def sctpRecvBufSize : Nat := 4096

/-- `NANORTC_SCTP_SEND_BUF_SIZE`. -/
def sctpSendBufSize : Nat := 4096

/-- `NANORTC_SCTP_MAX_SEND_QUEUE`. -/
def sctpMaxSendQueue : Nat := 16

/-- `NANORTC_SCTP_OUT_QUEUE_SIZE`. -/
def sctpOutQueueSize : Nat := 4

/-- `NANORTC_SCTP_COOKIE_SIZE`. -/
def sctpCookieSize : Nat := 32

/-- `NSCTP_MAX_SACK_SIZE`. -/
def nsctpMaxSackSize : Nat := 16 + 4 * sctpMaxGapBlocks

/-- `NANORTC_SCTP_RTO_INITIAL_MS`. -/
def sctpRtoInitialMs : UInt32 := 1000

/-- `NANORTC_SCTP_RTO_MAX_MS`. -/
def sctpRtoMaxMs : UInt32 := 10000

/-- `NANORTC_SCTP_MAX_RETRANSMITS`. -/
def sctpMaxRetransmits : Nat := 10

/-- `NANORTC_SCTP_HEARTBEAT_INTERVAL_MS`. -/
def sctpHeartbeatIntervalMs : UInt32 := 30000

/-! ### State -/

/-- `nano_sctp_state_t`. No call of the association itself enters a shutdown state; SHUTDOWN_SENT is
set by `nanortc_disconnect`, the other one by nothing. -/
inductive SctpState where
  | closed
  | cookieWait
  | cookieEchoed
  | established
  | shutdownSent
deriving Repr, DecidableEq

/-- `nsctp_send_entry_t`. -/
structure SendEntry where
  tsn : UInt32
  streamId : UInt16
  ssn : UInt16
  ppid : UInt32
  dataOffset : Nat
  dataLen : Nat
  sentAtMs : UInt32 := 0
  retransmitCount : Nat := 0
  maxRetransmits : Int
  abandoned : Bool := false
  flags : UInt8
  acked : Bool := false
  inFlight : Bool := false
deriving Repr, DecidableEq, Inhabited

/-- `nano_sctp_t`. -/
structure NanoSctp where
  state : SctpState
  closedDueToFailure : Bool
  localVtag : UInt32
  remoteVtag : UInt32
  localPort : UInt16
  remotePort : UInt16
  nextTsn : UInt32
  peerInitialTsn : UInt32
  streams : List SctpStream
  nowMs : UInt32
  peerForwardTsn : Bool
  peerMaxMessageSize : Nat
  recv : SctpRecv
  sendQueue : List SendEntry
  sendBuf : List UInt8
  sendBufUsed : Nat
  rtoMs : UInt32
  forwardSentAtMs : UInt32
  forwardPending : Bool
  lastHeartbeatMs : UInt32
  heartbeatPending : Bool
  heartbeatNonce : List UInt8
  cookie : List UInt8
  cookieSecret : List UInt8
  peerARwnd : UInt32
  peerNumIstreams : UInt16
  peerNumOstreams : UInt16
  outQueue : List (List UInt8)
deriving DecidableEq

/-- `nsctp_init`. -/
def nsctpInit : NanoSctp where
  state := .closed
  closedDueToFailure := false
  localVtag := 0
  remoteVtag := 0
  localPort := 5000
  remotePort := 5000
  nextTsn := 0
  peerInitialTsn := 0
  streams := []
  nowMs := 0
  peerForwardTsn := false
  peerMaxMessageSize := 0
  recv := {}
  sendQueue := []
  sendBuf := List.replicate sctpSendBufSize 0
  sendBufUsed := 0
  rtoMs := sctpRtoInitialMs
  forwardSentAtMs := 0
  forwardPending := false
  lastHeartbeatMs := 0
  heartbeatPending := false
  heartbeatNonce := List.replicate 8 0
  cookie := []
  cookieSecret := List.replicate 16 0
  peerARwnd := 0
  peerNumIstreams := 0
  peerNumOstreams := 0
  outQueue := []

/-! ### Output queue -/

/-- `nsctp_out_full`. -/
def nsctpOutFull (sctp : NanoSctp) : Bool := sctp.outQueue.length ≥ sctpOutQueueSize

/-- `nsctp_begin_packet` and `nsctp_queue_output`: header and chunk as the next packet. Chunks are
padded by their builders, so the packet needs no padding. -/
def nsctpQueueOutput (sctp : NanoSctp) (vtag : UInt32) (chunk : List UInt8) : NanoSctp :=
  let packet := nsctpEncodeHeader sctp.localPort sctp.remotePort vtag ++ chunk
  if nsctpOutFull sctp ∨ packet.length > sctpMtu then sctp
  else { sctp with outQueue := sctp.outQueue ++ [nsctpFinalizeChecksum packet] }

/-! ### Handshake -/

/-- What `nsctp_generate_association_seed` draws. -/
structure AssociationSeed where
  vtag : UInt32
  tsn : UInt32
  secret : List UInt8
deriving Repr, DecidableEq

/-- `nsctp_generate_association_seed`. -/
def nsctpGenerateAssociationSeed (random : Option AssociationSeed) : Except Rc AssociationSeed :=
  match random with
  | none => .error .crypto
  | some seed =>
    .ok { seed with
      vtag := if seed.vtag = 0 then 1 else seed.vtag
      tsn := if seed.tsn = 0 then 1 else seed.tsn }

/-- `nsctp_start`. -/
def nsctpStart (sctp : NanoSctp) (random : Option AssociationSeed) : NanoSctp × Rc :=
  if sctp.state ≠ .closed then (sctp, .state)
  else if nsctpOutFull sctp then (sctp, .wouldBlock)
  else
    match nsctpGenerateAssociationSeed random with
    | .error rc => (sctp, rc)
    | .ok seed =>
      let sctp := { sctp with
        localVtag := seed.vtag, nextTsn := seed.tsn, cookieSecret := seed.secret }
      let chunk := nsctpEncodeInit (sctpMtu - sctpHeaderSize) 1 sctp.localVtag
        (UInt32.ofNat sctpRecvBufSize) 0xFFFF 0xFFFF sctp.nextTsn []
      ({ nsctpQueueOutput sctp 0 chunk with state := .cookieWait }, .ok)

/-- The state cookie: the secret with the peer's tag mixed in. -/
def nsctpCookie (secret : List UInt8) (remoteVtag : UInt32) : List UInt8 :=
  List.zipWith (· ^^^ ·) (secret.take 4) (u32be remoteVtag) ++ (secret.drop 4).take 4

/-- `nsctp_handle_init`. -/
def nsctpHandleInit (sctp : NanoSctp) (random : Option AssociationSeed) (chunk : List UInt8)
    (_hdr : NsctpHeader) : NanoSctp × Rc :=
  match nsctpParseInit chunk with
  | none => (sctp, .parse)
  | some init =>
    let own : Except Rc AssociationSeed :=
      if sctp.localVtag = 0 then nsctpGenerateAssociationSeed random
      else .ok ⟨sctp.localVtag, sctp.nextTsn, sctp.cookieSecret⟩
    match own with
    | .error rc => (sctp, rc)
    | .ok own =>
      let sctp := { sctp with
        localVtag := own.vtag
        nextTsn := own.tsn
        cookieSecret := own.secret
        remoteVtag := init.initiateTag
        peerInitialTsn := init.initialTsn
        recv := { sctp.recv with cumulativeTsn := init.initialTsn - 1 }
        peerARwnd := init.aRwnd
        peerForwardTsn := init.forwardTsnSupported
        peerNumIstreams := init.numIstreams
        peerNumOstreams := init.numOstreams }
      let chunk := nsctpEncodeInit (sctpMtu - sctpHeaderSize) 2 sctp.localVtag
        (UInt32.ofNat sctpRecvBufSize) 0xFFFF 0xFFFF sctp.nextTsn
        (nsctpCookie sctp.cookieSecret init.initiateTag)
      (nsctpQueueOutput sctp sctp.remoteVtag chunk, .ok)

/-- `nsctp_handle_init_ack`. -/
def nsctpHandleInitAck (sctp : NanoSctp) (chunk : List UInt8) : NanoSctp × Rc :=
  if sctp.state ≠ .cookieWait then (sctp, .state)
  else
    match nsctpParseInit chunk with
    | none => (sctp, .parse)
    | some init =>
      if init.cookie.length = 0 ∨ init.cookie.length > sctpCookieSize then (sctp, .protocol)
      else
        let sctp := { sctp with
          remoteVtag := init.initiateTag
          peerInitialTsn := init.initialTsn
          recv := { sctp.recv with cumulativeTsn := init.initialTsn - 1 }
          peerARwnd := init.aRwnd
          peerForwardTsn := init.forwardTsnSupported
          cookie := init.cookie }
        let chunk := nsctpEncodeCookieEcho (sctpMtu - sctpHeaderSize) sctp.cookie
        ({ nsctpQueueOutput sctp sctp.remoteVtag chunk with state := .cookieEchoed }, .ok)

/-- `nsctp_handle_cookie_echo`. -/
def nsctpHandleCookieEcho (sctp : NanoSctp) (chunk : List UInt8) : NanoSctp × Rc :=
  let received := chunk.drop sctpChunkHdrSize
  if received.length < 8 ∨ received.take 8 ≠ nsctpCookie sctp.cookieSecret sctp.remoteVtag then
    (sctp, .protocol)
  else
    ({ nsctpQueueOutput sctp sctp.remoteVtag nsctpEncodeCookieAck with state := .established }, .ok)

/-- `nsctp_handle_cookie_ack`. -/
def nsctpHandleCookieAck (sctp : NanoSctp) : NanoSctp × Rc :=
  if sctp.state ≠ .cookieEchoed then (sctp, .state)
  else ({ sctp with state := .established }, .ok)

/-! ### DATA -/

/-- `nsctp_poll_delivery`. -/
def nsctpPollDelivery (sctp : NanoSctp) : NanoSctp × Except Rc SctpMessage :=
  let (recv, streams, out) :=
    nsctpPollSlots (nsctpRxReclaim sctp.recv) sctp.streams (List.finRange sctpMaxRecvGap)
  ({ sctp with recv := recv, streams := streams }, out)

/-- `nsctp_handle_data_chunk` on a parsed chunk. -/
def nsctpHandleDataParsed (sctp : NanoSctp) (d : NsctpData) : NanoSctp × Rc :=
  if d.payload.length > sctpMaxMessageSize then (sctp, .bufferTooSmall)
  else
    let sctp := { sctp with recv := { sctp.recv with sackNeeded := true } }
    if i32 (d.tsn - sctp.recv.cumulativeTsn) ≤ 0 then (sctp, .ok)
    else
      let recv := nsctpRxReclaim sctp.recv
      match nsctpAdmit recv sctp.streams d with
      | (streams, .duplicate) => ({ sctp with recv := recv, streams := streams }, .ok)
      | (streams, .refused rc) => ({ sctp with recv := recv, streams := streams }, rc)
      | (streams, .store slot) =>
        let r := nsctpRxMerge (nsctpGapDrain (nsctpStore recv slot d))
        ({ sctp with recv := r.1, streams := streams }, r.2)

/-- `nsctp_handle_data_chunk`. -/
def nsctpHandleDataChunk (sctp : NanoSctp) (chunk : List UInt8) : NanoSctp × Rc :=
  if sctp.state ≠ .established then (sctp, .state)
  else
    match nsctpParseData chunk with
    | none => (sctp, .parse)
    | some d => nsctpHandleDataParsed sctp d

/-! ### SACK -/

/-- A gap block of a SACK chunk. -/
def sackGapBlock (chunk : List UInt8) (i : Nat) : Nat × Nat :=
  ((readU16be chunk (16 + 4 * i)).toNat, (readU16be chunk (18 + 4 * i)).toNat)

/-- `nsctp_gap_acked`. -/
def nsctpGapAcked (chunk : List UInt8) (count : Nat) (offset : Int) : Bool :=
  decide (0 < offset ∧ offset ≤ 65535) && (List.range count).any fun i =>
    ((sackGapBlock chunk i).1 : Int) ≤ offset && offset ≤ ((sackGapBlock chunk i).2 : Int)

/-- The gap blocks ascend and do not touch the one before. -/
def sackGapsValid (chunk : List UInt8) : List Nat → (previousEnd : Nat) → Bool
  | [], _ => true
  | i :: is, previousEnd =>
    let (start, stop) := sackGapBlock chunk i
    start > previousEnd && stop ≥ start && sackGapsValid chunk is stop

/-- The first fragment of the message that entry `i` of the send queue is part of. -/
def nsctpAbandonFirst (queue : List SendEntry) : Nat → Nat
  | 0 => 0
  | i + 1 =>
    if hasFlag (queue.getD (i + 1) default).flags sctpDataFlagBegin then i + 1
    else nsctpAbandonFirst queue i

/-- The entries up to the end of the first message abandoned. -/
def nsctpAbandonParts : List SendEntry → List SendEntry
  | [] => []
  | e :: es =>
    { e with abandoned := true } ::
      if hasFlag e.flags sctpDataFlagEnd then es else nsctpAbandonParts es

/-- `nsctp_abandon_message`. -/
def nsctpAbandonMessage (sctp : NanoSctp) (index : Nat) : NanoSctp :=
  let first := nsctpAbandonFirst sctp.sendQueue index
  { sctp with
    sendQueue := sctp.sendQueue.take first ++ nsctpAbandonParts (sctp.sendQueue.drop first)
    forwardPending := true }

/-- The highest TSN in flight that a SACK's gap blocks acknowledge. -/
def sackHighest (queue : List SendEntry) (chunk : List UInt8) (sack : NsctpSack) : UInt32 :=
  queue.foldl (fun highest e =>
    if e.inFlight ∧ i32 (e.tsn - highest) > 0 ∧
        nsctpGapAcked chunk sack.numGapBlocks.toNat (i32 (e.tsn - sack.cumulativeTsn))
    then e.tsn else highest) sack.cumulativeTsn

/-- The entry is lost by the gap-ACK policy for messages without retransmissions. -/
def sackAbandons (chunk : List UInt8) (sack : NsctpSack) (highest : UInt32) (e : SendEntry) : Bool :=
  e.inFlight && !e.acked && !e.abandoned && e.maxRetransmits == 0 &&
    i32 (e.tsn - sack.cumulativeTsn) > 0 && i32 (highest - e.tsn) > 0 &&
    !nsctpGapAcked chunk sack.numGapBlocks.toNat (i32 (e.tsn - sack.cumulativeTsn))

/-- `nsctp_handle_sack_chunk`. -/
def nsctpHandleSackChunk (sctp : NanoSctp) (chunk : List UInt8) : NanoSctp × Rc :=
  match nsctpParseSack chunk with
  | none => (sctp, .parse)
  | some sack =>
    let blocks := (chunk.length - sctpChunkHdrSize - sctpSackMinSize) / 4
    let gaps := sack.numGapBlocks.toNat
    if gaps > blocks ∨ sack.numDupTsns.toNat > blocks - gaps then (sctp, .parse)
    else if !sackGapsValid chunk (List.range gaps) 0 then (sctp, .parse)
    else
      let highest := sackHighest sctp.sendQueue chunk sack
      let sctp := (List.range sctp.sendQueue.length).foldl (fun sctp i =>
        if sackAbandons chunk sack highest (sctp.sendQueue.getD i default) then
          nsctpAbandonMessage sctp i
        else sctp) sctp
      let queue := sctp.sendQueue.map fun e =>
        if i32 (e.tsn - sack.cumulativeTsn) ≤ 0 then { e with acked := true } else e
      let queue := queue.dropWhile (·.acked)
      ({ sctp with
        sendQueue := queue
        sendBufUsed := if queue.isEmpty then 0 else sctp.sendBufUsed }, .ok)

/-! ### Other chunks -/

/-- `nsctp_handle_heartbeat`. -/
def nsctpHandleHeartbeat (sctp : NanoSctp) (chunk : List UInt8) : NanoSctp × Rc :=
  if chunk.length < sctpChunkHdrSize + 4 then (sctp, .parse)
  else
    let infoLen := (readU16be chunk 6).toNat - 4
    if sctpChunkHdrSize + 4 + infoLen > chunk.length then (sctp, .parse)
    else if nsctpOutFull sctp then (sctp, .wouldBlock)
    else if sctpPad4 (8 + infoLen) > sctpMtu - sctpHeaderSize then (sctp, .bufferTooSmall)
    else
      let info := (chunk.drop 8).take infoLen
      (nsctpQueueOutput sctp sctp.remoteVtag
        (nsctpEncodeHeartbeat 5 (sctpMtu - sctpHeaderSize) info), .ok)

/-- Stranded fragments discarded; complete messages stay. -/
def nsctpRxDiscard (r : SctpRecv) (newTsn : UInt32) : SctpRecv :=
  r.mapRx fun _ e =>
    if e.valid ∧ i32 (e.tsn - newTsn) ≤ 0 ∧ e.flags &&& 3 ≠ 3 then { e with delivered := true }
    else e

/-- The stream list of a FORWARD TSN chunk: skipped messages are marked, stream sequence numbers
released; the first stream without room ends it. -/
def nsctpForwardStreams (chunk : List UInt8) :
    List Nat → SctpRecv → List SctpStream → SctpRecv × List SctpStream × Rc
  | [], recv, streams => (recv, streams, .ok)
  | k :: ks, recv, streams =>
    let sid := readU16be chunk (8 + 4 * k)
    let ssn := readU16be chunk (10 + 4 * k)
    match nsctpStream streams sid with
    | (streams, none) => (recv, streams, .protocol)
    | (streams, some i) =>
      let s := streams.getD i default
      if i16 (ssn - s.recvSsn) < 0 then nsctpForwardStreams chunk ks recv streams
      else
        let recv := recv.mapRx fun _ e =>
          if e.valid ∧ e.streamId = sid ∧ !hasFlag e.flags sctpDataFlagUnordered ∧
              i16 (e.ssn - ssn) ≤ 0
          then { e with forwarded := true } else e
        nsctpForwardStreams chunk ks recv (streams.set i { s with recvSsn := ssn + 1 })

/-- `nsctp_handle_forward_tsn`. -/
def nsctpHandleForwardTsn (sctp : NanoSctp) (chunk : List UInt8) : NanoSctp × Rc :=
  if chunk.length < 8 ∨ (chunk.length - 8) % 4 ≠ 0 then (sctp, .parse)
  else if !sctp.peerForwardTsn then (sctp, .protocol)
  else
    let newTsn := readU32be chunk 4
    let recv := { sctp.recv with sackNeeded := true }
    if i32 (newTsn - recv.cumulativeTsn) ≤ 0 then ({ sctp with recv := recv }, .ok)
    else
      let merged := nsctpRxMerge { recv with cumulativeTsn := newTsn }
      if merged.2 ≠ .ok then ({ sctp with recv := merged.1 }, merged.2)
      else
        let r := nsctpForwardStreams chunk (List.range ((chunk.length - 8) / 4))
          (nsctpRxDiscard merged.1 newTsn) sctp.streams
        if r.2.2 ≠ .ok then ({ sctp with recv := r.1, streams := r.2.1 }, r.2.2)
        else ({ sctp with recv := nsctpGapDrain r.1, streams := r.2.1 }, .ok)

/-- `nsctp_queue_sack`. -/
def nsctpQueueSack (sctp : NanoSctp) (cap : Nat) : NanoSctp × Rc :=
  if nsctpOutFull sctp then (sctp, .wouldBlock)
  else
    let recv := sctp.recv
    let gapTsns := ((List.finRange sctpMaxRecvGap).filter fun i =>
      (recv.rx i).valid && i32 ((recv.rx i).tsn - recv.cumulativeTsn) > 0).map fun i =>
        (recv.rx i).tsn
    let chunk := nsctpEncodeSackWithGaps nsctpMaxSackSize recv.cumulativeTsn
      (UInt32.ofNat (sctpRecvGapBufSize - recv.recvGapBufUsed)) gapTsns
    if chunk.length = 0 ∨ cap < sctpHeaderSize + chunk.length then (sctp, .bufferTooSmall)
    else
      ({ nsctpQueueOutput sctp sctp.remoteVtag chunk with
        recv := { recv with sackNeeded := false } }, .ok)

/-! ### Dispatch -/

/-- The chunks of a packet from offset `pos` on; `none` is a chunk whose length is wrong, which
ends the list. -/
def nsctpChunks (data : List UInt8) : (turns pos : Nat) → List (Option (List UInt8))
  | 0, _ => []
  | turns + 1, pos =>
    if pos + sctpChunkHdrSize ≤ data.length then
      let clen := (readU16be data (pos + 2)).toNat
      if clen < sctpChunkHdrSize ∨ pos + clen > data.length then [none]
      else
        some ((data.drop pos).take clen) :: nsctpChunks data turns (pos + sctpPad4 clen)
    else []

/-- The `switch` of `nsctp_handle_data`. -/
def nsctpHandleChunk (sctp : NanoSctp) (random : Option AssociationSeed) (hdr : NsctpHeader)
    (chunk : List UInt8) : NanoSctp × Rc :=
  match SctpChunkType.ofType (byteAt chunk 0) with
  | .init => nsctpHandleInit sctp random chunk hdr
  | .initAck => nsctpHandleInitAck sctp chunk
  | .cookieEcho => nsctpHandleCookieEcho sctp chunk
  | .cookieAck => nsctpHandleCookieAck sctp
  | .data => nsctpHandleDataChunk sctp chunk
  | .sack => nsctpHandleSackChunk sctp chunk
  | .heartbeat => nsctpHandleHeartbeat sctp chunk
  | .heartbeatAck => ({ sctp with heartbeatPending := false }, .ok)
  | .forwardTsn => nsctpHandleForwardTsn sctp chunk
  | .abort => ({ sctp with state := .closed }, .ok)
  | .shutdown => (sctp, .ok)
  | .other => (sctp, .ok)

/-- The chunk makes `nsctp_handle_data` answer at once. -/
def nsctpAnswered (chunk : List UInt8) : Bool :=
  match SctpChunkType.ofType (byteAt chunk 0) with
  | .init | .initAck | .cookieEcho | .heartbeat => true
  | _ => false

/-- One turn of the loop of `nsctp_handle_data`: the state after the chunk, and the result code that
ends the packet. -/
def nsctpChunkTurn (random : Option AssociationSeed) (hdr : NsctpHeader) (sctp : NanoSctp) :
    Option (List UInt8) → NanoSctp × Option Rc
  | none => (sctp, some .parse)
  | some chunk =>
    if nsctpAnswered chunk ∧ nsctpOutFull sctp then (sctp, some .wouldBlock)
    else
      match nsctpHandleChunk sctp random hdr chunk with
      | (sctp, .ok) => (sctp, none)
      | (sctp, rc) =>
        if SctpChunkType.ofType (byteAt chunk 0) = .data ∧ rc = .wouldBlock then (sctp, none)
        else (sctp, some rc)

/-- The end of `nsctp_handle_data`: a SACK, if one is due and there is room for it. -/
def nsctpFinishPacket (sctp : NanoSctp) : NanoSctp × Rc :=
  if sctp.recv.sackNeeded ∧ !nsctpOutFull sctp then nsctpQueueSack sctp sctpMtu else (sctp, .ok)

/-- `nsctp_handle_data`. -/
def nsctpHandleData (sctp : NanoSctp) (random : Option AssociationSeed) (data : List UInt8) :
    NanoSctp × Rc :=
  if data.length < sctpHeaderSize then (sctp, .invalidParam)
  else if nsctpVerifyChecksum data ≠ .ok then (sctp, nsctpVerifyChecksum data)
  else
    match runUntil (nsctpChunkTurn random (nsctpParseHeader data)) sctp
        (nsctpChunks data data.length sctpHeaderSize) with
    | (sctp, some rc) => (sctp, rc)
    | (sctp, none) => nsctpFinishPacket sctp

/-! ### Poll output -/

/-- The streams whose ordered messages a FORWARD TSN chunk skips, each with the last number. -/
def nsctpForwardSkipped : List SendEntry → List (UInt16 × UInt16) → List (UInt16 × UInt16)
  | [], streams => streams
  | e :: es, streams =>
    if !e.abandoned || hasFlag e.flags sctpDataFlagUnordered then nsctpForwardSkipped es streams
    else
      match streams.findIdx? (·.1 == e.streamId) with
      | some j => nsctpForwardSkipped es (streams.set j (e.streamId, e.ssn))
      | none => nsctpForwardSkipped es (streams ++ [(e.streamId, e.ssn)])

/-- `nsctp_forward_output`. -/
def nsctpForwardOutput (sctp : NanoSctp) (cap : Nat) : NanoSctp × Except Rc (List UInt8) :=
  let passed := sctp.sendQueue.takeWhile fun e => e.acked || e.abandoned
  if !passed.any (·.abandoned) then ({ sctp with forwardPending := false }, .error .noData)
  else
    let streams := nsctpForwardSkipped passed []
    let advanced := (passed.getLast?.map (·.tsn)).getD 0
    let packet := nsctpEncodeHeader sctp.localPort sctp.remotePort sctp.remoteVtag ++
      nsctpEncodeForwardTsn advanced streams
    if cap < packet.length then (sctp, .error .bufferTooSmall)
    else
      ({ sctp with forwardPending := false, forwardSentAtMs := sctp.nowMs },
        .ok (nsctpFinalizeChecksum packet))

/-- The entry waits to be sent. -/
def SendEntry.isPending (e : SendEntry) : Bool := !e.inFlight && !e.acked && !e.abandoned

/-- The DATA chunk of a send queue entry. -/
def nsctpEntryData (sctp : NanoSctp) (e : SendEntry) : NsctpData where
  tsn := e.tsn
  streamId := e.streamId
  ssn := e.ssn
  ppid := e.ppid
  flags := e.flags
  payload := (sctp.sendBuf.drop e.dataOffset).take e.dataLen

/-- The DATA part of `nsctp_poll_output`: the first entry that waits is sent. -/
def nsctpPollData (sctp : NanoSctp) (bufLen : Nat) : NanoSctp × Except Rc (List UInt8) :=
  if sctp.state ≠ .established then (sctp, .error .noData)
  else
    match sctp.sendQueue.findIdx? (·.isPending) with
    | none => (sctp, .error .noData)
    | some i =>
      let e := sctp.sendQueue.getD i default
      if bufLen < sctpHeaderSize + sctpPad4 (16 + e.dataLen) then (sctp, .error .bufferTooSmall)
      else
        let chunk := nsctpEncodeData (sctpMtu - sctpHeaderSize) (nsctpEntryData sctp e)
        let sctp := nsctpQueueOutput sctp sctp.remoteVtag chunk
        ({ sctp with
          sendQueue := sctp.sendQueue.set i { e with inFlight := true, sentAtMs := sctp.nowMs }
          outQueue := sctp.outQueue.drop 1 }, .ok (sctp.outQueue.headD []))

/-- `nsctp_poll_output`. -/
def nsctpPollOutput (sctp : NanoSctp) (bufLen : Nat) : NanoSctp × Except Rc (List UInt8) :=
  let sack := if sctp.recv.sackNeeded ∧ sctp.outQueue = [] then nsctpQueueSack sctp bufLen
    else (sctp, .ok)
  match sack with
  | (sctp, .ok) =>
    match sctp.outQueue with
    | packet :: rest =>
      if bufLen < packet.length then (sctp, .error .bufferTooSmall)
      else ({ sctp with outQueue := rest }, .ok packet)
    | [] =>
      if sctp.forwardPending then
        match nsctpForwardOutput sctp bufLen with
        | (sctp, .error .noData) => nsctpPollData sctp bufLen
        | r => r
      else nsctpPollData sctp bufLen
  | (sctp, rc) => (sctp, .error rc)

/-! ### Send -/

/-- The fragments of a message from fragment `i` of `count` on. -/
def nsctpFragments (proto : SendEntry) (count : Nat) : (left i : Nat) → UInt32 → (off remaining : Nat) →
    List SendEntry
  | 0, _, _, _, _ => []
  | left + 1, i, tsn, off, remaining =>
    let n := min remaining (sctpMtu - 28)
    let flags := (if i = 0 then sctpDataFlagBegin else 0) |||
      (if i + 1 = count then sctpDataFlagEnd else 0) ||| proto.flags
    { proto with tsn := tsn, flags := flags, dataOffset := off, dataLen := n } ::
      nsctpFragments proto count left (i + 1) (tsn + 1) (off + n) (remaining - n)

/-- `nsctp_send_options`. -/
def nsctpSendOptions (sctp : NanoSctp) (streamId : UInt16) (ppid : UInt32) (data : List UInt8)
    (unordered : Bool) (maxRetransmits : Int) : NanoSctp × Rc :=
  let len := data.length
  if sctp.state ≠ .established then (sctp, .state)
  else if maxRetransmits < -1 ∨ maxRetransmits > 65535 then (sctp, .invalidParam)
  else if maxRetransmits ≥ 0 ∧ !sctp.peerForwardTsn then (sctp, .notImplemented)
  else if len > sctpMaxMessageSize ∨ len > sctpSendBufSize ∨
      (sctp.peerMaxMessageSize ≠ 0 ∧ len > sctp.peerMaxMessageSize) then (sctp, .bufferTooSmall)
  else
    let mtuPayload := sctpMtu - 28
    let count := if len ≠ 0 then (len + mtuPayload - 1) / mtuPayload else 1
    if count > sctpMaxSendQueue then (sctp, .bufferTooSmall)
    else if count > sctpMaxSendQueue - sctp.sendQueue.length ∨
        len > sctpSendBufSize - sctp.sendBufUsed then (sctp, .wouldBlock)
    else
      match nsctpStream sctp.streams streamId with
      | (streams, none) => ({ sctp with streams := streams }, .bufferTooSmall)
      | (streams, some k) =>
        let s := streams.getD k default
        let ssn := if unordered then 0 else s.nextSsn
        let streams := if unordered then streams else streams.set k { s with nextSsn := s.nextSsn + 1 }
        let proto : SendEntry := {
          tsn := 0
          streamId := streamId
          ssn := ssn
          ppid := ppid
          dataOffset := 0
          dataLen := 0
          maxRetransmits := maxRetransmits
          flags := if unordered then sctpDataFlagUnordered else 0 }
        ({ sctp with
          streams := streams
          sendBuf := writeAt sctp.sendBuf sctp.sendBufUsed data
          sendBufUsed := sctp.sendBufUsed + len
          nextTsn := sctp.nextTsn + UInt32.ofNat count
          sendQueue := sctp.sendQueue ++
            nsctpFragments proto count count 0 sctp.nextTsn sctp.sendBufUsed len }, .ok)

/-- `nsctp_send`. -/
def nsctpSend (sctp : NanoSctp) (streamId : UInt16) (ppid : UInt32) (data : List UInt8) :
    NanoSctp × Rc :=
  nsctpSendOptions sctp streamId ppid data false (-1)

/-! ### Timeouts -/

/-- The retransmission loop of `nsctp_handle_timeout` from entry `i` on, for `left` entries; the
second result is false when the association has failed. -/
def nsctpRetransmit (nowMs : UInt32) : (left i : Nat) → NanoSctp → NanoSctp × Bool
  | 0, _, sctp => (sctp, true)
  | left + 1, i, sctp =>
    let e := sctp.sendQueue.getD i default
    if e.inFlight ∧ !e.acked ∧ !e.abandoned ∧ nanoTimeElapsed nowMs e.sentAtMs ≥ sctp.rtoMs then
      if e.maxRetransmits ≥ 0 ∧ (e.retransmitCount : Int) ≥ e.maxRetransmits then
        nsctpRetransmit nowMs left (i + 1) (nsctpAbandonMessage sctp i)
      else if e.maxRetransmits < 0 ∧ e.retransmitCount ≥ sctpMaxRetransmits then
        ({ sctp with state := .closed, closedDueToFailure := true }, false)
      else
        let e := { e with
          inFlight := false, retransmitCount := e.retransmitCount + 1, sentAtMs := nowMs }
        nsctpRetransmit nowMs left (i + 1) { sctp with
          sendQueue := sctp.sendQueue.set i e
          rtoMs := min (sctp.rtoMs * 2) sctpRtoMaxMs }
    else nsctpRetransmit nowMs left (i + 1) sctp

/-- `nsctp_handle_timeout`; `random` is the heartbeat nonce. -/
def nsctpHandleTimeout (sctp : NanoSctp) (nowMs : UInt32) (random : Option (List UInt8)) :
    NanoSctp × Rc :=
  let sctp := { sctp with nowMs := nowMs }
  if sctp.state ≠ .established then (sctp, .ok)
  else
    match nsctpRetransmit nowMs sctp.sendQueue.length 0 sctp with
    | (sctp, false) => (sctp, .protocol)
    | (sctp, true) =>
      let passed := sctp.sendQueue.takeWhile fun e => e.acked || e.abandoned
      let sctp :=
        if nanoTimeElapsed nowMs sctp.forwardSentAtMs ≥ sctp.rtoMs ∧ passed.any (·.abandoned) then
          { sctp with forwardPending := true }
        else sctp
      if !sctp.heartbeatPending ∧
          nanoTimeElapsed nowMs sctp.lastHeartbeatMs ≥ sctpHeartbeatIntervalMs ∧
          !nsctpOutFull sctp then
        match random with
        | none => (sctp, .crypto)
        | some nonce =>
          ({ nsctpQueueOutput sctp sctp.remoteVtag
              (nsctpEncodeHeartbeat 4 (sctpMtu - sctpHeaderSize) nonce) with
            heartbeatNonce := nonce
            heartbeatPending := true
            lastHeartbeatMs := nowMs }, .ok)
      else (sctp, .ok)

/-- Time left of an interval that began at `sinceMs`. -/
def nsctpTimeLeft (nowMs sinceMs intervalMs : UInt32) : UInt32 :=
  let elapsed := nanoTimeElapsed nowMs sinceMs
  if elapsed ≥ intervalMs then 0 else intervalMs - elapsed

/-- The deadline that a send queue entry stands for in `nsctp_next_timeout_ms`, from now. -/
def nsctpEntryTimeout (sctp : NanoSctp) (nowMs : UInt32) (e : SendEntry) : Option UInt32 :=
  if e.abandoned && !e.acked then
    if (sctp.sendQueue.headD default).abandoned then
      some (nsctpTimeLeft nowMs sctp.forwardSentAtMs sctp.rtoMs)
    else none
  else if !e.inFlight || e.acked then none
  else some (nsctpTimeLeft nowMs e.sentAtMs sctp.rtoMs)

/-- `nsctp_next_timeout_ms`; `0xFFFFFFFF` is no deadline. -/
def nsctpNextTimeoutMs (sctp : NanoSctp) (nowMs : UInt32) : UInt32 :=
  if sctp.state ≠ .established then 0xFFFFFFFF
  else
    let best := (sctp.sendQueue.filterMap (nsctpEntryTimeout sctp nowMs)).foldl min 0xFFFFFFFF
    if sctp.heartbeatPending then best
    else min best (nsctpTimeLeft nowMs sctp.lastHeartbeatMs sctpHeartbeatIntervalMs)

/-- `nsctp_has_pending_output`. -/
def nsctpHasPendingOutput (sctp : NanoSctp) : Bool :=
  sctp.forwardPending || (sctp.recv.sackNeeded || !sctp.outQueue.isEmpty) ||
    (sctp.state == .established && sctp.sendQueue.any (·.isPending))

end Nanortc.Native
