import Nanortc.Native.Fec
import Nanortc.Native.Rtp
import Nanortc.Native.VideoReceive

/-!
# Reception of parity packets

The FEC receive path of `nano_rtc_media.c`: the ring of received media packets, the parity packet
that waits for its group, and the recovery that hands a packet to the reorder buffer. The size of
the ring is a parameter; there is one video track.
-/

namespace Nanortc.Native

open Nanortc.ForStd

/-- `NANORTC_FEC_BUF_SIZE`. -/
def fecBufSize : Nat := mediaBufSize + 64

/-- The FEC receive state of `nanortc_t` and the reorder buffer of the track. A slot of `med` is as
long as its packet, and an empty `pending` is none. `injected` are the packets recovered so far. -/
structure FecRx where
  med : List (List UInt8)
  n : UInt8
  recov : List UInt8
  pending : List UInt8
  protBase : UInt16
  protMask : UInt16
  protValid : Bool
  reorder : NanoReorder
  injected : List (List UInt8)

variable (groupSize : Nat)

/-- The state after `nanortc_init`. -/
def fecRxInit : FecRx where
  med := List.replicate groupSize []
  n := 0
  recov := List.replicate mediaBufSize 0
  pending := []
  protBase := 0
  protMask := 0
  protValid := false
  reorder := reorderInit
  injected := []

/-- The packets that `rtc_fec_try` hands to `fec_recover`. -/
def fecExposed (s : FecRx) : List (List UInt8) :=
  s.med.take (if s.n.toNat < groupSize then s.n.toNat else groupSize)

/-- `rtc_fec_try`. -/
def rtcFecTry (mediaSsrc nowMs : UInt32) (s : FecRx) (fecRtp : List UInt8) : FecRx × Bool :=
  if fecRtp.length < fecRtpHdr + fecOverhead then (s, false)
  else
    match fecRecover (fecRtp.drop fecRtpHdr) mediaSsrc (fecExposed groupSize s) s.recov with
    | (recov, .error _) => ({ s with recov := recov }, false)
    | (recov, .ok (recLen, _)) =>
      let s := { s with recov := recov }
      let packet := recov.take recLen
      match rtpUnpack packet with
      | .error _ => (s, false)
      | .ok u =>
        let marker : Bool := (byteAt packet 1 >>> 7) &&& 1 ≠ 0
        ({ s with
          reorder := (reorderPush s.reorder u.seq u.timestamp marker u.payload nowMs).1
          injected := s.injected ++ [packet] }, true)

/-- `rtc_fec_protects`. -/
def rtcFecProtects (s : FecRx) (sn : UInt16) : Bool :=
  s.protValid && decide ((sn - s.protBase).toNat < fecMaxGroup) &&
    s.protMask &&& fecMaskBit (sn - s.protBase) ≠ 0

/-- `rtc_fec_on_recv`. -/
def rtcFecOnRecv (mediaSsrc nowMs : UInt32) (s : FecRx) (fecRtp : List UInt8) : FecRx :=
  let s :=
    if fecRtp.length ≥ fecRtpHdr + fecOverhead then
      { s with
        protBase := readU16be fecRtp (fecRtpHdr + 2)
        protMask := readU16be fecRtp (fecRtpHdr + 12)
        protValid := true }
    else s
  match rtcFecTry groupSize mediaSsrc nowMs s fecRtp with
  | (s, true) => { s with pending := [] }
  | (s, false) =>
    if fecRtp.length ≥ fecRtpHdr + fecOverhead ∧ fecRtp.length ≤ fecBufSize then
      { s with pending := fecRtp }
    else s

/-- `rtc_fec_buffer_media`. -/
def rtcFecBufferMedia (mediaSsrc nowMs : UInt32) (s : FecRx) (pkt : List UInt8) : FecRx :=
  if pkt.length < fecRtpHdr ∨ pkt.length > mediaBufSize then s
  else
    let s := { s with med := s.med.set (s.n.toNat % groupSize) pkt, n := s.n + 1 }
    if s.pending ≠ [] then
      match rtcFecTry groupSize mediaSsrc nowMs s s.pending with
      | (s, true) => { s with pending := [] }
      | (s, false) => s
    else s

end Nanortc.Native
