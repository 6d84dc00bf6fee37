import Nanortc.Native.Fec
import Nanortc.Native.FecReceive
import Nanortc.Native.Media

/-!
# Sending of parity packets

The FEC send path of `nano_rtc_media.c` in the builds with FEC, with pacing and without: the group
size after the measured loss, the group that is collected and its parity packet, and the video
sender around them. The codec is H.264. The counters of the statistics are left out, and so is what
a parity packet that is not queued leaves in its free buffer.
-/

namespace Nanortc.Native

open Nanortc.ForStd

/-- `NANORTC_FEC_GROUP_SIZE`. -/
def fecGroupSize : Nat := 8

/-- `NANORTC_FEC_MIN_GROUP`. -/
def fecMinGroup : Nat := 4

/-- `NANORTC_FEC_LOSS_OFF_Q8`. -/
def fecLossOffQ8 : UInt16 := 5

/-- `NANORTC_FEC_LOSS_HIGH_Q8`. -/
def fecLossHighQ8 : UInt16 := 25

/-- `NANORTC_VIDEO_FEC_PT`. -/
def videoFecPt : UInt8 := 116

/-- `rtc_fec_effective_k`. -/
def rtcFecEffectiveK (rtc : NanoRtc) : Nat :=
  if rtc.bweLossQ8 < fecLossOffQ8 then 0
  else
    let k := if rtc.bweLossQ8 ≥ fecLossHighQ8 then fecMinGroup else fecGroupSize
    if k > fecGroupSize then fecGroupSize else k

/-- `rtc_fec_frame_groups`. -/
def rtcFecFrameGroups (rtc : NanoRtc) (packetCount : Nat) : Nat :=
  let k := rtcFecEffectiveK rtc
  if k = 0 then 0
  else
    let partialGroup := if rtc.fecTxN < k then rtc.fecTxN else 0
    (partialGroup + packetCount) / k

/-- `rtc_fec_free_slots`. -/
def rtcFecFreeSlots (rtc : NanoRtc) : Nat := rtc.fecTx.countP fun s => !s.inUse

/-- `rtc_fec_prepared_t`. -/
structure FecPrepared where
  k : Nat := 0
  index : Nat := 0
  valid : Bool := false
deriving Repr, DecidableEq

/-- `rtc_fec_prepare`. -/
def rtcFecPrepare (rtc : NanoRtc) (pkt : List UInt8) : NanoRtc × FecPrepared :=
  if pkt.length < fecRtpHdr ∨ pkt.length > mediaBufSize ∨ rtc.fecTxN ≥ fecGroupSize then (rtc, {})
  else
    let prepared : FecPrepared := ⟨rtcFecEffectiveK rtc, rtc.fecTxN, true⟩
    if prepared.k = 0 then (rtc, prepared)
    else ({ rtc with fecTxGrp := rtc.fecTxGrp.set prepared.index pkt }, prepared)

/-- The parity packet of the first `k` members of the group, before its protection. -/
def rtcFecPacket (rtc : NanoRtc) (ssrc : UInt32) (k : Nat) : Except Rc (List UInt8) :=
  match fecEncode (rtc.fecTxGrp.take k) (fecBufSize - fecRtpHdr - srtpAuthTagSize) with
  | .error rc => .error rc
  | .ok body =>
    .ok ([0x80, videoFecPt &&& 0x7F] ++ u16be rtc.fecTxSeq ++
      u32be (readU32be (rtc.fecTxGrp.getD (k - 1) []) 4) ++ u32be (ssrc + 1) ++ body)

variable (crypto : CryptoProvider)

/-- The end of `rtc_fec_commit`: a complete group sent. A budget of `SIZE_MAX` is none. -/
def rtcFecEmit (rtc : NanoRtc) (ssrc : UInt32) (k : Nat) (budget : Option Nat) :
    NanoRtc × Option Nat :=
  if budget = some 0 then (rtc, budget)
  else
    match rtc.fecTx.findIdx? fun s => !s.inUse with
    | none => (rtc, budget)
    | some fslot =>
      match rtcFecPacket rtc ssrc k with
      | .error _ => (rtc, budget)
      | .ok packet =>
        match nanoSrtpProtect crypto rtc.srtp packet with
        | (srtp, .error _) => ({ rtc with srtp := srtp }, budget)
        | (srtp, .ok wire) =>
          let s := { rtc.fecTx.getD fslot default with buf := wire.bytes }
          let rtc := { rtc with srtp := srtp, fecTx := rtc.fecTx.set fslot s }
          match nanoRtcEnqueueTransmit rtc (.fecTx fslot) wire.bytes.length rtc.remoteAddr false with
          | (rtc, .ok) =>
            ({ rtc with
              fecTxSeq := rtc.fecTxSeq + 1
              fecTx := rtc.fecTx.set fslot (s.hold rtc.outTail) }, budget.map (· - 1))
          | (rtc, _) => (rtc, budget)

/-- `rtc_fec_commit`. -/
def rtcFecCommit (rtc : NanoRtc) (ssrc : UInt32) (prepared : FecPrepared) (budget : Option Nat) :
    NanoRtc × Option Nat :=
  if !prepared.valid then (rtc, budget)
  else if prepared.k = 0 then ({ rtc with fecTxN := 0 }, budget)
  else if prepared.index ≠ rtc.fecTxN then (rtc, budget)
  else
    let rtc :=
      if rtc.fecTxN ≥ prepared.k then
        { rtc with
          fecTxGrp := rtc.fecTxGrp.set 0 (rtc.fecTxGrp.getD prepared.index [])
          fecTxN := 1 }
      else { rtc with fecTxN := rtc.fecTxN + 1 }
    if rtc.fecTxN < prepared.k then (rtc, budget)
    else rtcFecEmit crypto { rtc with fecTxN := 0 } ssrc prepared.k budget

/-- A protected fragment handed on: to the pacer, or to the output queue. -/
def rtcQueueFragment (pacing : Bool) (rtc : NanoRtc) (wireSeq : UInt16) (wire : List UInt8) :
    NanoRtc × Rc :=
  if pacing then (rtcCommitFragment rtc wireSeq wire, .ok)
  else
    let pslot := pktSlot rtc.pktRingTail
    let rtc := { rtc with
      pktRing := rtc.pktRing.set pslot ⟨wire, wireSeq, wire.length⟩
      pktRingTail := rtc.pktRingTail + 1 }
    nanoRtcEnqueueTransmit rtc (.pktRing pslot) wire.length rtc.remoteAddr false

/-- One turn of the loop of `rtc_send_video` in a build with FEC, with the budget of the frame; the
second result ends it. -/
def rtcSendFecFragment (pacing : Bool) (i : Nat) (timestamp : UInt32) (isLastNal : Bool)
    (s : MediaRtc × Option Nat) (f : H264Fragment) : (MediaRtc × Option Nat) × Option Rc :=
  let (rtc, budget) := s
  let m := rtc.track i
  if f.fua ∧ mediaBufSize - m.rtp.headerLen < f.payload.length then (s, some .bufferTooSmall)
  else
    match rtpPack { m.rtp with marker := f.isLast && isLastNal } timestamp f.payload
        mediaBufSize with
    | (rtp, .error rc) => ((rtc.setTrack i { m with rtp := rtp }, budget), some rc)
    | (rtp, .ok packet) =>
      let (out, prepared) := rtcFecPrepare rtc.toNanoRtc packet
      match nanoSrtpProtect crypto out.srtp packet with
      | (srtp, .error rc) =>
        let out := { out with srtp := srtp }.writePktSlot packet
        (((rtc.withOut out).setTrack i { m with rtp := rtp }, budget), some rc)
      | (srtp, .ok wire) =>
        let (out, budget) :=
          rtcFecCommit crypto { out with srtp := srtp } m.rtp.ssrc prepared budget
        let m := { m with
          rtp := rtp
          rtcp := { m.rtcp with
            packetsSent := m.rtcp.packetsSent + 1
            octetsSent := m.rtcp.octetsSent + UInt32.ofNat f.payload.length } }
        let (out, rc) := rtcQueueFragment pacing out (rtp.seq - 1) wire.bytes
        (((rtc.withOut out).setTrack i m, budget), if rc = .ok then none else some rc)

/-- `rtc_send_video` in a build with FEC. -/
def rtcSendFecVideo (pacing : Bool) (i : Nat) (timestamp : UInt32) (data : List UInt8)
    (s : MediaRtc × Option Nat) (nal : List UInt8 × Nat) : (MediaRtc × Option Nat) × Option Rc :=
  runUntil
    (rtcSendFecFragment crypto pacing i timestamp (nanoAnnexBFindNal data nal.2).isNone) s
    (h264Fragments nal.1 videoMtu)

/-- The packets of a frame that the rings have no room for now. -/
def rtcVideoBlocked (pacing : Bool) (rtc : NanoRtc) (needed : Nat) : Bool :=
  if pacing then decide (needed > pktRingSize - rtcVideoOccupied rtc)
  else decide (needed > min pktRingSize outQueueSize - (rtc.outTail - rtc.outHead).toNat)

/-- The parity packets that a frame may queue. -/
def rtcFecBudget (pacing : Bool) (rtc : NanoRtc) (needed : Nat) : Option Nat :=
  if pacing then none
  else
    let fecGroups := rtcFecFrameGroups rtc needed
    let outFree := outQueueSize - (rtc.outTail - rtc.outHead).toNat
    if fecGroups = 0 then some 0
    else if fecGroups ≤ rtcFecFreeSlots rtc ∧ needed ≤ outFree ∧ fecGroups ≤ outFree - needed then
      some fecGroups
    else some 0

/-- `nanortc_send_video` in a build with FEC. -/
def nanortcSendFecVideo (pacing : Bool) (rtc : MediaRtc) (mid : UInt8) (ptsMs : UInt32)
    (data : List UInt8) : MediaRtc × Rc :=
  if data = [] then (rtc, .invalidParam)
  else if rtc.state.rank < ConnState.dtlsConnected.rank ∨ !rtc.srtp.ready then (rtc, .state)
  else
    match trackFindByMid rtc.media mid with
    | none => (rtc, .invalidParam)
    | some i =>
      let m := rtc.track i
      if m.kind ≠ .video then (rtc, .invalidParam)
      else if !m.direction.sends then (rtc, .state)
      else
        let needed := videoFrameWorstPackets data
        if needed = 0 then (rtc, .ok)
        else if needed > (if pacing then pktRingSize else min pktRingSize outQueueSize) then
          (rtc, .bufferTooSmall)
        else if rtcVideoBlocked pacing rtc.toNanoRtc needed then (rtc, .wouldBlock)
        else
          let r := runUntil (rtcSendFecVideo crypto pacing i (ptsMsToRtp ptsMs 90000) data)
            (rtc, rtcFecBudget pacing rtc.toNanoRtc needed) (annexBNals data data.length 0)
          (r.1.1, r.2.getD .ok)

end Nanortc.Native
