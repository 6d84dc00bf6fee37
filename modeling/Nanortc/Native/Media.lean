import Nanortc.ForStd.Run
import Nanortc.Native.Output

/-!
# Media send paths

Tracks, the audio and video senders, the pacer, keyframe requests and the sender report cadence
after `nano_rtc_media.c`, with the Annex-B scanner and the H.264 packetizer they use. The build is
the one with pacing and without H.265 and forward error correction. Statistics that nothing but
`nanortc_get_track_stats` reads are left out.
-/

namespace Nanortc.Native

open Nanortc.ForStd

/-- `NANORTC_MAX_MEDIA_TRACKS`. -/
def maxMediaTracks : Nat := 2

/-- `NANORTC_MAX_SSRC_MAP`. -/
def maxSsrcMap : Nat := 2 * maxMediaTracks

/-- `NANORTC_VIDEO_MTU`. -/
def videoMtu : Nat := 1200

/-- `NANORTC_RTCP_INTERVAL_MS`. -/
def rtcpIntervalMs : UInt32 := 5000

/-- `NANORTC_PACING_FACTOR_PCT`. -/
def pacingFactorPct : Nat := 150

/-- `NANORTC_PACING_MIN_RATE_BPS`. -/
def pacingMinRateBps : Nat := 100000

/-- `NANORTC_PACING_MAX_QUEUE_MS`. -/
def pacingMaxQueueMs : UInt32 := 40

/-! ### State -/

/-- `nano_conn_state_t`. -/
inductive ConnState where
  | new
  | iceChecking
  | iceConnected
  | dtlsHandshaking
  | dtlsConnected
  | sctpConnecting
  | connected
  | closed
deriving Repr, DecidableEq, Inhabited

/-- The value of the enumerator. -/
def ConnState.rank : ConnState → Nat
  | .new => 0
  | .iceChecking => 1
  | .iceConnected => 2
  | .dtlsHandshaking => 3
  | .dtlsConnected => 4
  | .sctpConnecting => 5
  | .connected => 6
  | .closed => 7

/-- `nanortc_track_kind_t`. -/
inductive TrackKind where
  | audio
  | video
deriving Repr, DecidableEq, Inhabited

/-- `nanortc_direction_t`. -/
inductive Direction where
  | sendrecv
  | sendonly
  | recvonly
  | inactive
deriving Repr, DecidableEq, Inhabited

/-- The track may transmit. -/
def Direction.sends (d : Direction) : Bool := d != .recvonly && d != .inactive

/-- `nano_rtcp_t`, as far as the senders use it. -/
structure NanoRtcp where
  ssrc : UInt32
  packetsSent : UInt32 := 0
  octetsSent : UInt32 := 0
  remoteSsrc : UInt32 := 0
deriving Repr, DecidableEq, Inhabited

/-- `nanortc_track_t`, as far as the senders use it. -/
structure MediaTrack where
  mid : UInt8
  kind : TrackKind
  direction : Direction
  active : Bool
  rtp : NanoRtp
  rtcp : NanoRtcp
  sampleRate : UInt32
deriving Repr, DecidableEq, Inhabited

/-- `nanortc_ssrc_entry_t` in use. -/
structure SsrcEntry where
  ssrc : UInt32
  mid : UInt8
deriving Repr, DecidableEq, Inhabited

/-- `nanortc_t`, as far as the media paths use it. -/
structure MediaRtc extends NanoRtc where
  state : ConnState
  media : List MediaTrack
  ssrcMap : List SsrcEntry
  lastRtcpSendMs : UInt32
  lastRtcpSendValid : Bool
  srCursor : Nat
deriving DecidableEq

/-- The output path replaced. -/
def MediaRtc.withOut (rtc : MediaRtc) (out : NanoRtc) : MediaRtc := { rtc with toNanoRtc := out }

/-- The track with an index. -/
def MediaRtc.track (rtc : MediaRtc) (i : Nat) : MediaTrack := rtc.media.getD i default

/-- One track replaced. -/
def MediaRtc.setTrack (rtc : MediaRtc) (i : Nat) (m : MediaTrack) : MediaRtc :=
  { rtc with media := rtc.media.set i m }

/-- `track_init`. -/
def trackInit (mid : UInt8) (kind : TrackKind) (direction : Direction) (sampleRate : UInt32) :
    MediaTrack where
  mid := mid
  kind := kind
  direction := direction
  active := true
  rtp := rtpInit 0 0
  rtcp := { ssrc := 0 }
  sampleRate := sampleRate

/-- `track_find_by_mid`. -/
def trackFindByMid (media : List MediaTrack) (mid : UInt8) : Option Nat :=
  media.findIdx? fun m => m.active && m.mid == mid

/-- `ssrc_map_register`; a full table ignores the source. -/
def ssrcMapRegister (map : List SsrcEntry) (ssrc : UInt32) (mid : UInt8) : List SsrcEntry :=
  match map.findIdx? (·.ssrc == ssrc) with
  | some i => map.set i ⟨ssrc, mid⟩
  | none => if map.length < maxSsrcMap then map ++ [⟨ssrc, mid⟩] else map

/-- `ssrc_map_lookup`. -/
def ssrcMapLookup (map : List SsrcEntry) (ssrc : UInt32) : Option UInt8 :=
  (map.find? (·.ssrc == ssrc)).map (·.mid)

/-! ### Annex B -/

/-- Length of the start code at an offset. -/
def annexBStartCode (data : List UInt8) (i : Nat) : Option Nat :=
  if byteAt data i ≠ 0 ∨ byteAt data (i + 1) ≠ 0 then none
  else if byteAt data (i + 2) = 1 then some 3
  else if i + 3 < data.length ∧ byteAt data (i + 2) = 0 ∧ byteAt data (i + 3) = 1 then some 4
  else none

/-- The offset from `i` on at which the first start code begins, or where the scan stops without
one; `turns` bounds the scan. -/
def annexBSeek (data : List UInt8) : (turns i : Nat) → Nat
  | 0, i => i
  | turns + 1, i =>
    if i + 2 < data.length then
      match annexBStartCode data i with
      | some _ => i
      | none => annexBSeek data turns (i + 1)
    else i

/-- `nano_annex_b_find_nal`: the next NAL unit from an offset on, with the offset after it. -/
def nanoAnnexBFindNal (data : List UInt8) (offset : Nat) : Option (List UInt8 × Nat) :=
  let i := annexBSeek data data.length offset
  let i := if i + 2 < data.length then i + (annexBStartCode data i).getD 0 else i
  if i ≥ data.length then none
  else
    let j := annexBSeek data data.length i
    let j := if j + 2 ≥ data.length then data.length else j
    let nal := (data.drop i).take (j - i)
    some ((nal.reverse.dropWhile (· = 0)).reverse, j)

/-- The NAL units the send loops visit from an offset on, each with the offset after it; an empty
one ends them. -/
def annexBNals (data : List UInt8) : (turns offset : Nat) → List (List UInt8 × Nat)
  | 0, _ => []
  | turns + 1, offset =>
    if offset < data.length then
      match nanoAnnexBFindNal data offset with
      | some (nal, next) => if nal = [] then [] else (nal, next) :: annexBNals data turns next
      | none => []
    else []

/-! ### H.264 -/

/-- `H264_FUA_HEADER_SIZE`. -/
def h264FuaHeaderSize : Nat := 2

/-- One payload of the fragment iterator. -/
structure H264Fragment where
  payload : List UInt8
  isLast : Bool
  fua : Bool
deriving Repr, DecidableEq

/-- The FU-A payloads of the bytes of a NAL unit after its header. -/
def h264FuaFragments (header : UInt8) (maxFrag : Nat) :
    (turns : Nat) → (first : Bool) → List UInt8 → List H264Fragment
  | 0, _, _ => []
  | turns + 1, first, data =>
    if data = [] then []
    else
      let isLast : Bool := data.length ≤ maxFrag
      let fuHeader := (header &&& 0x1F) ||| (if first then 0x80 else 0) |||
        if isLast then 0x40 else 0
      { payload := [(header &&& 0x60) ||| 28, fuHeader] ++ data.take maxFrag
        isLast := isLast
        fua := true } :: h264FuaFragments header maxFrag turns false (data.drop maxFrag)

/-- The payloads `h264_fragment_iter_next` yields for a NAL unit. -/
def h264Fragments (nal : List UInt8) (mtu : Nat) : List H264Fragment :=
  if nal.length ≤ mtu then [{ payload := nal, isLast := true, fua := false }]
  else h264FuaFragments (byteAt nal 0) (mtu - h264FuaHeaderSize) nal.length true (nal.drop 1)

/-- `video_frame_worst_packets`: packets of the frame's NAL units. -/
def videoFrameWorstPackets (data : List UInt8) : Nat :=
  ((annexBNals data data.length 0).map fun (nal, _) =>
    if nal.length ≤ videoMtu then 1
    else
      let per := videoMtu - h264FuaHeaderSize
      (nal.length - 1 + per - 1) / per).sum

/-! ### RTCP -/

/-- `write_header` of `nano_rtcp.c`. -/
def rtcpHeader (rcFmt pt : UInt8) (words : UInt16) (ssrc : UInt32) : List UInt8 :=
  [0x80 ||| (rcFmt &&& 0x1F), pt] ++ u16be words ++ u32be ssrc

/-- `rtcp_generate_sr`. -/
def rtcpGenerateSr (rtcp : NanoRtcp) (ntpSec ntpFrac rtpTs : UInt32) : List UInt8 :=
  rtcpHeader 0 200 6 rtcp.ssrc ++ u32be ntpSec ++ u32be ntpFrac ++ u32be rtpTs ++
    u32be rtcp.packetsSent ++ u32be rtcp.octetsSent

/-- `rtcp_generate_pli`. -/
def rtcpGeneratePli (senderSsrc mediaSsrc : UInt32) : List UInt8 :=
  rtcpHeader 1 206 2 senderSsrc ++ u32be mediaSsrc

variable (crypto : CryptoProvider)

/-- The bytes of a transmit slot written. -/
def NanoRtc.writeTxSlot (rtc : NanoRtc) (slot : Nat) (bytes : List UInt8) : NanoRtc :=
  let s := rtc.txSlots.getD slot default
  { rtc with txSlots := rtc.txSlots.set slot { s with buf := bytes } }

/-- An RTCP packet protected in a transmit slot and queued. -/
def rtcSendRtcp (rtc : MediaRtc) (packet : List UInt8) : MediaRtc × Rc :=
  match nanoRtcTxSlotAcquire rtc.toNanoRtc with
  | (out, .error rc) => (rtc.withOut out, rc)
  | (out, .ok slot) =>
    match nanoSrtpProtectRtcp crypto out.srtp packet with
    | (srtp, .error rc) => (rtc.withOut { out with srtp := srtp }, rc)
    | (srtp, .ok wire) =>
      let out := { out with srtp := srtp }.writeTxSlot slot wire.bytes
      let r := nanoRtcTxSlotCommit out slot wire.bytes.length out.remoteAddr false
      (rtc.withOut r.1, r.2)

/-- `rtc_emit_pli`. -/
def rtcEmitPli (rtc : MediaRtc) (i : Nat) : MediaRtc × Rc :=
  let rtcp := (rtc.track i).rtcp
  rtcSendRtcp crypto rtc (rtcpGeneratePli rtcp.ssrc rtcp.remoteSsrc)

/-- A sender report is due for the track. -/
def MediaTrack.reports (m : MediaTrack) : Bool :=
  m.active && m.direction.sends && m.rtcp.packetsSent != 0

/-- Milliseconds on an RTP clock. -/
def ptsMsToRtp (ms clockRate : UInt32) : UInt32 :=
  UInt32.ofNat (ms.toNat * clockRate.toNat / 1000)

/-- The next track that a sender report is due for, in turn. -/
def rtcSrTrack (rtc : MediaRtc) : Option Nat :=
  ((List.range rtc.media.length).map fun k => (rtc.srCursor + k) % rtc.media.length).find?
    fun i => (rtc.track i).reports

/-- The cadence of sender reports is due. -/
def rtcSrDue (rtc : MediaRtc) (nowMs : UInt32) : Bool :=
  rtc.srtp.ready && !(rtc.lastRtcpSendValid &&
    decide (nanoTimeElapsed nowMs rtc.lastRtcpSendMs < rtcpIntervalMs))

/-- `nano_rtc_media_emit_rtcp_sr_cadence`. -/
def nanoRtcMediaEmitRtcpSrCadence (rtc : MediaRtc) (nowMs : UInt32) : MediaRtc × Rc :=
  if !rtcSrDue rtc nowMs then (rtc, .ok)
  else
    match rtcSrTrack rtc with
    | none => (rtc, .ok)
    | some i =>
      let m := rtc.track i
      let ntpFrac := UInt32.ofNat ((nowMs % 1000).toNat * 4294967)
      let clockRate := if m.kind = .video then 90000 else m.sampleRate
      let sr := rtcpGenerateSr m.rtcp (nowMs / 1000) ntpFrac (ptsMsToRtp nowMs clockRate)
      match rtcSendRtcp crypto rtc sr with
      | (rtc, .ok) =>
        ({ rtc with
          lastRtcpSendMs := nowMs
          lastRtcpSendValid := true
          srCursor := (i + 1) % rtc.media.length }, .ok)
      | r => r

/-! ### Pacer -/

/-- `pacer_rate_bps`. -/
def pacerRateBps (rtc : NanoRtc) : Nat :=
  min (max rtc.bweEstimate.toNat pacingMinRateBps * pacingFactorPct / 100) 0xFFFFFFFF

/-- `nano_rtc_pacer_enqueue`. -/
def nanoRtcPacerEnqueue (rtc : NanoRtc) (pslot : Nat) : NanoRtc :=
  { rtc with pacer := { rtc.pacer with
      enqueueMs := rtc.pacer.enqueueMs.set pslot rtc.nowMs
      tail := rtc.pktRingTail } }

/-- Index of a cursor in the packet ring. -/
def pktSlot (cursor : UInt16) : Nat := cursor.toNat % pktRingSize

/-- The token bucket refilled. -/
def pacerRefill (rtc : NanoRtc) : NanoPacer :=
  let p := rtc.pacer
  let p := if p.refillInited then p else { p with lastRefillMs := rtc.nowMs, refillInited := true }
  let elapsed := min (nanoTimeElapsed rtc.nowMs p.lastRefillMs).toNat 1000
  if elapsed > 0 then
    let budget := p.budgetBytes.toNat + pacerRateBps rtc * elapsed / 8000
    { p with
      budgetBytes := UInt32.ofNat (min budget pacingMaxBurstBytes.toNat)
      lastRefillMs := rtc.nowMs }
  else p

/-- The release loop of `nano_rtc_pacer_pump`, at most `turns` times. -/
def pacerRelease : (turns : Nat) → NanoRtc → NanoRtc
  | 0, rtc => rtc
  | turns + 1, rtc =>
    let p := rtc.pacer
    if p.head = p.tail then rtc
    else
      let slot := pktSlot p.head
      let len := (rtc.pktRing.getD slot default).len
      if len = 0 then pacerRelease turns { rtc with pacer := { p with head := p.head + 1 } }
      else
        let haveBudget : Bool := len ≤ p.budgetBytes.toNat
        let aged : Bool :=
          nanoTimeElapsed rtc.nowMs (p.enqueueMs.getD slot 0) ≥ pacingMaxQueueMs
        if !haveBudget && !aged then rtc
        else if !rtcOutputHasSpace rtc then rtc
        else
          match nanoRtcEnqueueTransmit rtc (.pktRing slot) len rtc.remoteAddr false with
          | (rtc, .ok) =>
            pacerRelease turns { rtc with pacer := { p with
              head := p.head + 1
              budgetBytes := if haveBudget then p.budgetBytes - UInt32.ofNat len else 0 } }
          | (rtc, _) => rtc

/-- The release deadline cached for `nanortc_next_timeout_ms`. -/
def pacerNextRelease (rtc : NanoRtc) : UInt32 :=
  let p := rtc.pacer
  if p.head = p.tail then rtc.nowMs
  else
    let slot := pktSlot p.head
    let rate := pacerRateBps rtc
    let deficit := (rtc.pktRing.getD slot default).len - p.budgetBytes.toNat
    let wait := UInt32.ofNat ((deficit * 8000 + rate - 1) / rate)
    let age := nanoTimeElapsed rtc.nowMs (p.enqueueMs.getD slot 0)
    let wait := min wait (if age ≥ pacingMaxQueueMs then 0 else pacingMaxQueueMs - age)
    if wait = 0 then rtc.nowMs else nanoTimeDeadline rtc.nowMs wait

/-- `nano_rtc_pacer_pump`. -/
def nanoRtcPacerPump (rtc : NanoRtc) : NanoRtc :=
  if rtc.pacer.head = rtc.pacer.tail then rtc
  else
    let rtc := { rtc with pacer := pacerRefill rtc }
    let rtc := pacerRelease (rtc.pacer.tail - rtc.pacer.head).toNat rtc
    { rtc with pacer := { rtc.pacer with nextReleaseMs := pacerNextRelease rtc } }

/-- `nano_rtc_pacer_next_deadline_ms`. -/
def nanoRtcPacerNextDeadlineMs (rtc : NanoRtc) (nowMs : UInt32) : UInt32 :=
  if rtc.pacer.head = rtc.pacer.tail then 0xFFFFFFFF
  else nanoTimeUntil nowMs rtc.pacer.nextReleaseMs

/-! ### Audio -/

/-- `rtc_send_audio`. -/
def rtcSendAudio (rtc : MediaRtc) (i : Nat) (timestamp : UInt32) (data : List UInt8) :
    MediaRtc × Rc :=
  let m := rtc.track i
  if data.length > mediaBufSize - (m.rtp.headerLen + srtpAuthTagSize) then (rtc, .bufferTooSmall)
  else
    match nanoRtcTxSlotAcquire rtc.toNanoRtc with
    | (out, .error rc) => (rtc.withOut out, rc)
    | (out, .ok slot) =>
      let rtc := rtc.withOut out
      match rtpPack m.rtp timestamp data (mediaBufSize - srtpAuthTagSize) with
      | (rtp, .error rc) =>
        (rtc.setTrack i { m with rtp := { rtp with seq := m.rtp.seq, twccSeq := m.rtp.twccSeq } }, rc)
      | (rtp, .ok packet) =>
        -- the sequence numbers go back on every failure, the marker bit does not
        let undo := { m with rtp := { rtp with seq := m.rtp.seq, twccSeq := m.rtp.twccSeq } }
        match nanoSrtpProtect crypto rtc.srtp packet with
        | (srtp, .error rc) => ((rtc.withOut { out with srtp := srtp }).setTrack i undo, rc)
        | (srtp, .ok wire) =>
          let out := { out with srtp := srtp }.writeTxSlot slot wire.bytes
          match nanoRtcTxSlotCommit out slot wire.bytes.length out.remoteAddr false with
          | (out, .ok) =>
            ((rtc.withOut out).setTrack i { m with
              rtp := rtp
              rtcp := { m.rtcp with
                packetsSent := m.rtcp.packetsSent + 1
                octetsSent := m.rtcp.octetsSent + UInt32.ofNat data.length } }, .ok)
          | (out, rc) => ((rtc.withOut out).setTrack i undo, rc)

/-- `nanortc_send_audio`. -/
def nanortcSendAudio (rtc : MediaRtc) (mid : UInt8) (ptsMs : UInt32) (data : List UInt8) :
    MediaRtc × Rc :=
  if data = [] then (rtc, .invalidParam)
  else if rtc.state.rank < ConnState.dtlsConnected.rank ∨ !rtc.srtp.ready then (rtc, .state)
  else
    match trackFindByMid rtc.media mid with
    | none => (rtc, .invalidParam)
    | some i =>
      let m := rtc.track i
      if m.kind ≠ .audio then (rtc, .invalidParam)
      else if !m.direction.sends then (rtc, .state)
      else rtcSendAudio crypto rtc i (ptsMsToRtp ptsMs m.sampleRate) data

/-! ### Video -/

/-- The bytes of the next packet ring slot written. -/
def NanoRtc.writePktSlot (rtc : NanoRtc) (bytes : List UInt8) : NanoRtc :=
  let pslot := pktSlot rtc.pktRingTail
  let s := rtc.pktRing.getD pslot default
  { rtc with pktRing := rtc.pktRing.set pslot { s with buf := bytes } }

/-- The packet ring slot written, `pkt_ring_commit_slot` and the hand-over to the pacer. -/
def rtcCommitFragment (rtc : NanoRtc) (wireSeq : UInt16) (wire : List UInt8) : NanoRtc :=
  let pslot := pktSlot rtc.pktRingTail
  nanoRtcPacerEnqueue { rtc with
    pktRing := rtc.pktRing.set pslot ⟨wire, wireSeq, wire.length⟩
    pktRingTail := rtc.pktRingTail + 1 } pslot

/-- One turn of the loop of `rtc_send_video`; the second result ends it. -/
def rtcSendFragment (i : Nat) (timestamp : UInt32) (isLastNal : Bool) (rtc : MediaRtc)
    (f : H264Fragment) : MediaRtc × Option Rc :=
  let m := rtc.track i
  if f.fua ∧ mediaBufSize - m.rtp.headerLen < f.payload.length then (rtc, some .bufferTooSmall)
  else
    match rtpPack { m.rtp with marker := f.isLast && isLastNal } timestamp f.payload
        mediaBufSize with
    | (rtp, .error rc) => (rtc.setTrack i { m with rtp := rtp }, some rc)
    | (rtp, .ok packet) =>
      match nanoSrtpProtect crypto rtc.srtp packet with
      | (srtp, .error rc) =>
        let out := { rtc.toNanoRtc with srtp := srtp }.writePktSlot packet
        ((rtc.withOut out).setTrack i { m with rtp := rtp }, some rc)
      | (srtp, .ok wire) =>
        let out := rtcCommitFragment { rtc.toNanoRtc with srtp := srtp } (rtp.seq - 1) wire.bytes
        ((rtc.withOut out).setTrack i { m with
          rtp := rtp
          rtcp := { m.rtcp with
            packetsSent := m.rtcp.packetsSent + 1
            octetsSent := m.rtcp.octetsSent + UInt32.ofNat f.payload.length } }, none)

/-- `rtc_send_video`; the second result ends the frame. -/
def rtcSendVideo (i : Nat) (timestamp : UInt32) (data : List UInt8) (rtc : MediaRtc)
    (nal : List UInt8 × Nat) : MediaRtc × Option Rc :=
  runUntil (rtcSendFragment crypto i timestamp (nanoAnnexBFindNal data nal.2).isNone) rtc
    (h264Fragments nal.1 videoMtu)

/-- The packets that occupy the ring: those queued and those the pacer still holds. -/
def rtcVideoOccupied (rtc : NanoRtc) : Nat :=
  (rtc.outTail - rtc.outHead).toNat + (rtc.pacer.tail - rtc.pacer.head).toNat

/-- `nanortc_send_video`. -/
def nanortcSendVideo (rtc : MediaRtc) (mid : UInt8) (ptsMs : UInt32) (data : List UInt8) :
    MediaRtc × Rc :=
  if data = [] then (rtc, .invalidParam)
  else if rtc.state.rank < ConnState.dtlsConnected.rank ∨ !rtc.srtp.ready then (rtc, .state)
  else
    match trackFindByMid rtc.media mid with
    | none => (rtc, .invalidParam)
    | some i =>
      let m := rtc.track i
      if m.kind ≠ .video then (rtc, .invalidParam)
      else if !m.direction.sends then (rtc, .state)
      else
        let needed := videoFrameWorstPackets data
        if needed = 0 then (rtc, .ok)
        else if needed > pktRingSize then (rtc, .bufferTooSmall)
        else if needed > pktRingSize - rtcVideoOccupied rtc.toNanoRtc then (rtc, .wouldBlock)
        else
          let r := runUntil (rtcSendVideo crypto i (ptsMsToRtp ptsMs 90000) data) rtc
            (annexBNals data data.length 0)
          (r.1, r.2.getD .ok)

/-! ### Feedback -/

/-- `nanortc_request_keyframe`. -/
def nanortcRequestKeyframe (rtc : MediaRtc) (mid : UInt8) : MediaRtc × Rc :=
  if rtc.state.rank < ConnState.dtlsConnected.rank ∨ !rtc.srtp.ready then (rtc, .state)
  else
    match trackFindByMid rtc.media mid with
    | none => (rtc, .invalidParam)
    | some i => if (rtc.track i).kind ≠ .video then (rtc, .invalidParam) else rtcEmitPli crypto rtc i

end Nanortc.Native
