import Nanortc.Native.FecReceive
import Nanortc.Native.Rtcp

/-!
# Loss reports

The receive side of generic NACK: `rtcp_generate_nack` of `nano_rtcp.c`, `rtc_emit_nack`, and the
gap check that `nano_rtc_media_handle_rtp_or_rtcp` makes for each packet of a video track.
-/

namespace Nanortc.Native

open Nanortc.ForStd

/-- `rtcp_generate_nack`. -/
def rtcpGenerateNack (ssrc mediaSsrc : UInt32) (seq blp : UInt16) : List UInt8 :=
  rtcpHeader 1 rtcpRtpfb 3 ssrc ++ u32be mediaSsrc ++ u16be seq ++ u16be blp

/-- `rtc_emit_nack`. -/
def rtcEmitNack (crypto : CryptoProvider) (rtc : MediaRtc) (i : Nat) (pid blp : UInt16) :
    MediaRtc × Rc :=
  let rtcp := (rtc.track i).rtcp
  rtcSendRtcp crypto rtc (rtcpGenerateNack rtcp.ssrc rtcp.remoteSsrc pid blp)

/-- `recv_nack_inited` and `recv_nack_seq` of a video track. -/
structure NackRx where
  inited : Bool := false
  seq : UInt16 := 0
deriving Repr, DecidableEq

/-- One missing number: PID and BLP so far, unless a pending FEC packet protects it. -/
def nackAdd (fec : FecRx) (nack : Option (UInt16 × UInt16)) (sn : UInt16) :
    Option (UInt16 × UInt16) :=
  if rtcFecProtects fec sn then nack
  else
    match nack with
    | none => some (sn, 0)
    | some (pid, blp) =>
      let bit := sn - pid - 1
      some (pid, if bit < 16 then blp ||| (1 : UInt16) <<< bit else blp)

/-- PID and BLP over the missing numbers from `firstLost` on, of which there are `nLost`. -/
def nackBuild (fec : FecRx) (firstLost : UInt16) (nLost : Nat) : Option (UInt16 × UInt16) :=
  ((List.range (min nLost 17)).map fun k => firstLost + UInt16.ofNat k).foldl (nackAdd fec) none

/-- The gap check: the new state, and PID and BLP of the report that is due. -/
def nackOnSeq (fec : FecRx) (s : NackRx) (rtpSeq : UInt16) : NackRx × Option (UInt16 × UInt16) :=
  if !s.inited then (⟨true, rtpSeq⟩, none)
  else
    let nadv := i16 (rtpSeq - s.seq)
    if nadv > 1 then
      ({ s with seq := rtpSeq }, nackBuild fec (s.seq + 1) (nadv - 1).toNat)
    else if nadv > 0 then ({ s with seq := rtpSeq }, none)
    else (s, none)

/-- The gap check of `nano_rtc_media_handle_rtp_or_rtcp` for a packet of the video track `i`. -/
def rtcNackOnRecv (crypto : CryptoProvider) (rtc : MediaRtc) (i : Nat) (fec : FecRx) (s : NackRx)
    (rtpSeq : UInt16) : MediaRtc × NackRx :=
  match nackOnSeq fec s rtpSeq with
  | (s, some (pid, blp)) => ((rtcEmitNack crypto rtc i pid blp).1, s)
  | (s, none) => (rtc, s)

end Nanortc.Native
