import Nanortc.Native.Bwe
import Nanortc.Native.Rtc
import Nanortc.Native.Twcc

/-!
# Received RTCP

`rtcp_parse` of `nano_rtcp.c` and the RTCP branch of `nano_rtc_media_handle_rtp_or_rtcp`: reports,
keyframe requests, bandwidth feedback and the retransmission of packets that are asked for. The
build is the one with video and without rate control.
-/

namespace Nanortc.Native

open Nanortc.ForStd

/-! ### The parser -/

/-- `RTCP_HEADER_SIZE`. -/
def rtcpHeaderSize : Nat := 8

/-- `RTCP_SR`. -/
def rtcpSr : UInt8 := 200

/-- `RTCP_RR`. -/
def rtcpRr : UInt8 := 201

/-- `RTCP_PSFB`. -/
def rtcpPsfb : UInt8 := 206

/-- `RTCP_SR_SIZE`. -/
def rtcpSrSize : Nat := 28

/-- `RTCP_SR_WITH_RB_SIZE`. -/
def rtcpSrWithRbSize : Nat := 52

/-- `RTCP_RR_SIZE`. -/
def rtcpRrSize : Nat := 32

/-- `RTCP_NACK_SIZE`. -/
def rtcpNackSize : Nat := 16

/-- `nano_rtcp_info_t`, as far as the handler reads it. -/
structure NanoRtcpInfo where
  type : UInt8
  ssrc : UInt32 := 0
  ntpSec : UInt32 := 0
  ntpFrac : UInt32 := 0
  nackMediaSsrc : UInt32 := 0
  nackPid : UInt16 := 0
  nackBlp : UInt16 := 0
  psfbMediaSsrc : UInt32 := 0
  rbSourceSsrc : UInt32 := 0
  rbFractionLost : UInt8 := 0
  rbValid : Bool := false
deriving Repr, DecidableEq

/-- The size that the length field of an RTCP packet gives. -/
def rtcpPktSize (data : List UInt8) : Nat := ((readU16be data 2).toNat + 1) * 4

/-- The FMT or report count field. -/
def rtcpFmt (data : List UInt8) : UInt8 := byteAt data 0 &&& 0x1F

/-- `rtcp_parse`. -/
def rtcpParse (data : List UInt8) : Except Rc NanoRtcpInfo :=
  if data.length < rtcpHeaderSize then .error .invalidParam
  else if byteAt data 0 >>> 6 ≠ 2 then .error .parse
  else
    let pktSize := rtcpPktSize data
    if pktSize > data.length then .error .parse
    else
      let info : NanoRtcpInfo := { type := byteAt data 1, ssrc := readU32be data 4 }
      if info.type = rtcpSr then
        if pktSize < rtcpSrSize then .error .parse
        else
          let info := { info with ntpSec := readU32be data 8, ntpFrac := readU32be data 12 }
          if rtcpFmt data ≥ 1 ∧ pktSize ≥ rtcpSrWithRbSize then
            .ok { info with
              rbSourceSsrc := readU32be data 28
              rbFractionLost := byteAt data 32
              rbValid := true }
          else .ok info
      else if info.type = rtcpRr then
        if rtcpFmt data ≥ 1 ∧ pktSize ≥ rtcpRrSize then
          .ok { info with
            rbSourceSsrc := readU32be data 8
            rbFractionLost := byteAt data 12
            rbValid := true }
        else .ok info
      else if info.type = rtcpRtpfb then
        if pktSize < rtcpNackSize then .error .parse
        else if rtcpFmt data = 1 then
          .ok { info with
            nackMediaSsrc := readU32be data 8
            nackPid := readU16be data 12
            nackBlp := readU16be data 14 }
        else .ok info
      else if info.type = rtcpPsfb then
        if pktSize ≥ 12 then .ok { info with psfbMediaSsrc := readU32be data 8 } else .ok info
      else .ok info

/-! ### State -/

/-- What feedback leaves in a track: the receive side of `nano_rtcp_t`, and `fraction_lost`. -/
structure TrackFeedback where
  lastSrNtp : UInt32 := 0
  lastSrRecvMs : UInt32 := 0
  lastSrRecvValid : Bool := false
  fractionLost : UInt8 := 0
deriving Repr, DecidableEq, Inhabited

/-- `direction` of `NANORTC_EV_BITRATE_ESTIMATE`. -/
inductive BweDir where
  | stable
  | up
  | down
deriving Repr, DecidableEq

/-- `source` of `NANORTC_EV_BITRATE_ESTIMATE`. -/
inductive BweSrc where
  | remb
  | twccLoss
deriving Repr, DecidableEq

/-- An event of the handler. -/
inductive FeedbackEvent where
  | keyframeRequest (mid : UInt8)
  | bitrateEstimate (bitrateBps prevBitrateBps : UInt32) (direction : BweDir) (source : BweSrc)
deriving Repr, DecidableEq

/-- The type and the key of an event. -/
def FeedbackEvent.event : FeedbackEvent → NanortcEvent
  | .keyframeRequest mid => ⟨.keyframeRequest, mid.toNat⟩
  | .bitrateEstimate .. => ⟨.bitrateEstimate, 0⟩

/-- `nanortc_t`, as far as feedback uses it; `emitted` are the events so far, whole. -/
structure FeedbackRtc extends MediaRtc where
  feedback : List TrackFeedback
  bwe : NanoBwe
  pendingEvents : List NanortcEvent
  emitted : List FeedbackEvent

/-- The output path replaced. -/
def FeedbackRtc.withOut (rtc : FeedbackRtc) (out : NanoRtc) : FeedbackRtc :=
  { rtc with toNanoRtc := out }

/-- The feedback of one track replaced. -/
def FeedbackRtc.setFeedback (rtc : FeedbackRtc) (i : Nat) (f : TrackFeedback → TrackFeedback) :
    FeedbackRtc :=
  { rtc with feedback := rtc.feedback.set i (f (rtc.feedback.getD i default)) }

/-- `nano_rtc_emit_event_full`. -/
def FeedbackRtc.emit (rtc : FeedbackRtc) (e : FeedbackEvent) : FeedbackRtc :=
  let rtc := { rtc with emitted := rtc.emitted ++ [e] }
  if rtc.pendingEvents ≠ [] ∨ !rtcOutputHasSpace rtc.toNanoRtc then
    { rtc with
      pendingEvents := (rtcPendEvent rtc.pendingEvents e.event).getD rtc.pendingEvents }
  else rtc.withOut (rtcEnqueueOutput rtc.toNanoRtc (.event e.event.type.code e.event.key)).1

/-! ### Retransmission -/

/-- The sequence numbers a NACK names: PID and the bits of BLP. -/
def nackLost (pid blp : UInt16) : List UInt16 :=
  pid :: ((List.range 16).filter fun bit => blp &&& ((1 : UInt16) <<< UInt16.ofNat bit) ≠ 0).map
    fun bit => pid + 1 + UInt16.ofNat bit

/-- The slot of the packet ring that is described as the packet asked for. -/
def nackFindPkt (rtc : NanoRtc) (mediaSsrc : UInt32) (seq : UInt16) : Option Nat :=
  (List.range pktRingSize).find? fun s =>
    let slot := rtc.pktRing.getD s default
    slot.len ≠ 0 && slot.seq == seq && decide (slot.len ≥ 12) &&
      readU32be slot.buf 8 == mediaSsrc

/-- The first free retransmit buffer. -/
def nackFreeRetx (rtc : NanoRtc) : Option Nat :=
  (List.range nackRetxRing).find? fun j => !(rtc.nackRetx.getD j default).inUse

/-- One packet asked for: its slot is copied to a retransmit buffer and the copy is queued. -/
def nackRetransmit (mediaSsrc : UInt32) (rtc : NanoRtc) (seq : UInt16) : NanoRtc :=
  match nackFindPkt rtc mediaSsrc seq with
  | none => rtc
  | some s =>
    match nackFreeRetx rtc with
    | none => rtc
    | some j =>
      let slot := rtc.pktRing.getD s default
      let copy := rtc.nackRetx.getD j default
      let rtc := { rtc with nackRetx := rtc.nackRetx.set j { copy with
        buf := slot.buf.take slot.len ++ copy.buf.drop slot.len } }
      match nanoRtcEnqueueTransmit rtc (.nackRetx j) slot.len rtc.remoteAddr false with
      | (rtc, .ok) =>
        { rtc with nackRetx :=
          rtc.nackRetx.set j ((rtc.nackRetx.getD j default).hold rtc.outTail) }
      | (rtc, _) => rtc

/-! ### The handler -/

/-- A sender report. -/
def rtcpOnSr (rtc : FeedbackRtc) (info : NanoRtcpInfo) : FeedbackRtc :=
  match ssrcMapLookup rtc.ssrcMap info.ssrc with
  | none => rtc
  | some mid =>
    match trackFindByMid rtc.media mid with
    | none => rtc
    | some i => rtc.setFeedback i fun f =>
      { lastSrNtp := ((info.ntpSec &&& 0xFFFF) <<< 16) ||| (info.ntpFrac >>> 16)
        lastSrRecvMs := rtc.nowMs
        lastSrRecvValid := true
        fractionLost := if info.rbValid then info.rbFractionLost else f.fractionLost }

/-- A receiver report. -/
def rtcpOnRr (rtc : FeedbackRtc) (info : NanoRtcpInfo) : FeedbackRtc :=
  if !info.rbValid then rtc
  else
    match rtc.media.findIdx? fun m => m.active && m.rtp.ssrc == info.rbSourceSsrc with
    | none => rtc
    | some i => rtc.setFeedback i fun f => { f with fractionLost := info.rbFractionLost }

/-- The estimator after feedback, with the event if the estimate has moved far enough. -/
def rtcpBweUpdated (rtc : FeedbackRtc) (bwe : NanoBwe) (source : BweSrc) : FeedbackRtc :=
  let prevBps := rtc.bwe.estimatedBitrate
  let r := bweShouldEmitEvent bwe
  let rtc := { rtc with
    bwe := r.1, bweEstimate := r.1.estimatedBitrate, bweLossQ8 := r.1.smoothedLossQ8 }
  if r.2 then
    let curBps := r.1.estimatedBitrate
    let direction : BweDir :=
      if curBps > prevBps then .up else if curBps < prevBps then .down else .stable
    rtc.emit (.bitrateEstimate curBps prevBps direction source)
  else rtc

/-- Payload-specific feedback: REMB and PLI. -/
def rtcpOnPsfb (rtc : FeedbackRtc) (info : NanoRtcpInfo) (sub : List UInt8) : FeedbackRtc :=
  if rtcpFmt sub = bweRembFmt then
    rtcpBweUpdated rtc (bweOnRtcpFeedback rtc.bwe sub rtc.nowMs).1 .remb
  else if rtcpFmt sub = 1 then
    match rtc.media.find? fun m =>
        m.active && m.kind == .video && m.rtp.ssrc == info.psfbMediaSsrc with
    | none => rtc
    | some m => rtc.emit (.keyframeRequest m.mid)
  else rtc

/-- Transport-layer feedback: generic NACK and transport-cc. -/
def rtcpOnRtpfb (rtc : FeedbackRtc) (info : NanoRtcpInfo) (sub : List UInt8) : FeedbackRtc :=
  if rtcpFmt sub = 1 then
    rtc.withOut ((nackLost info.nackPid info.nackBlp).foldl (nackRetransmit info.nackMediaSsrc)
      rtc.toNanoRtc)
  else if rtcpFmt sub = twccFmt then
    match (twccParseFeedback sub).2 with
    | .error _ => rtc
    | .ok sum =>
      let count := sum.packetStatusCount.toNat
      if count > 0 then
        let lossQ8 := UInt16.ofNat ((count - sum.receivedCount) * 256 / count)
        rtcpBweUpdated rtc (bweOnTwccLoss rtc.bwe lossQ8 rtc.nowMs).1 .twccLoss
      else rtc
  else rtc

/-- One member of a compound packet. -/
def rtcpMember (rtc : FeedbackRtc) (sub : List UInt8) : FeedbackRtc :=
  match rtcpParse sub with
  | .error _ => rtc
  | .ok info =>
    if info.type = rtcpSr then rtcpOnSr rtc info
    else if info.type = rtcpRr ∧ info.rbValid then rtcpOnRr rtc info
    else if info.type = rtcpPsfb then rtcpOnPsfb rtc info sub
    else if info.type = rtcpRtpfb then rtcpOnRtpfb rtc info sub
    else rtc

/-- The members of a compound packet that the handler comes to, at most `turns`. -/
def rtcpMembers : (turns : Nat) → List UInt8 → List (List UInt8)
  | 0, _ => []
  | turns + 1, rest =>
    if rtcpHeaderSize ≤ rest.length then
      let subLen := rtcpPktSize rest
      if subLen < rtcpHeaderSize ∨ subLen > rest.length then []
      else rest.take subLen :: rtcpMembers turns (rest.drop subLen)
    else []

/-- The compound loop of `nano_rtc_media_handle_rtp_or_rtcp`. -/
def rtcpCompound (rtc : FeedbackRtc) (plain : List UInt8) : FeedbackRtc :=
  (rtcpMembers plain.length plain).foldl rtcpMember rtc

/-- `nano_rtc_media_handle_rtp_or_rtcp`; `rtp` is what it does with an RTP packet. -/
def nanoRtcMediaHandleRtpOrRtcp (crypto : CryptoProvider)
    (rtp : FeedbackRtc → List UInt8 → FeedbackRtc × Rc) (rtc : FeedbackRtc) (data : List UInt8) :
    FeedbackRtc × Rc :=
  if !rtc.srtp.ready then (rtc, .ok)
  else if data.length < 2 then (rtc, .parse)
  else if 200 ≤ byteAt data 1 ∧ byteAt data 1 ≤ 211 then
    if data.length > stunBufSize then (rtc, .bufferTooSmall)
    else
      match nanoSrtpUnprotectRtcp crypto rtc.srtp data with
      | .error _ => (rtc, .ok)
      | .ok plain => (rtcpCompound rtc plain.bytes, .ok)
  else rtp rtc data

end Nanortc.Native
