import Nanortc.Native.Types

/-!
# RTP

Packing and unpacking of RTP packets after `nano_rtp.c`.
-/

namespace Nanortc.Native

open Nanortc.ForStd

/-- `RTP_HEADER_SIZE`. -/
def rtpHeaderSize : Nat := 12

/-- `RTP_TWCC_EXT_OVERHEAD`. -/
def rtpTwccExtOverhead : Nat := 8

/-- `nano_rtp_t`. -/
structure NanoRtp where
  seq : UInt16
  ssrc : UInt32
  payloadType : UInt8
  marker : Bool
  twccExtId : UInt8
  twccSeq : UInt16
deriving Repr, DecidableEq, Inhabited

/-- `rtp_init`. -/
def rtpInit (ssrc : UInt32) (pt : UInt8) : NanoRtp := ⟨0, ssrc, pt, true, 0, 0⟩

/-- Packets carry the transport-wide sequence number extension. -/
def NanoRtp.hasTwcc (rtp : NanoRtp) : Bool := rtp.twccExtId ≠ 0 && rtp.twccExtId ≤ 14

/-- Header bytes in front of the payload. -/
def NanoRtp.headerLen (rtp : NanoRtp) : Nat :=
  rtpHeaderSize + if rtp.hasTwcc then rtpTwccExtOverhead else 0

/-- `rtp_pack`. -/
def rtpPack (rtp : NanoRtp) (timestamp : UInt32) (payload : List UInt8) (bufLen : Nat) :
    NanoRtp × Except Rc (List UInt8) :=
  if bufLen < rtp.headerLen + payload.length then (rtp, .error .bufferTooSmall)
  else
    let header : List UInt8 :=
      [if rtp.hasTwcc then 0x90 else 0x80,
        (if rtp.marker then 0x80 else 0) ||| (rtp.payloadType &&& 0x7F)] ++
      u16be rtp.seq ++ u32be timestamp ++ u32be rtp.ssrc
    let ext : List UInt8 :=
      if rtp.hasTwcc then
        u16be 0xBEDE ++ u16be 1 ++ [(rtp.twccExtId &&& 0x0F) <<< 4 ||| 0x01] ++
          u16be rtp.twccSeq ++ [0]
      else []
    ({ rtp with
      twccSeq := if rtp.hasTwcc then rtp.twccSeq + 1 else rtp.twccSeq
      seq := rtp.seq + 1
      marker := false }, .ok (header ++ ext ++ payload))

/-- What `rtp_unpack` reads of a packet. `payloadOff` is where the payload pointer points. -/
structure RtpUnpacked where
  payloadType : UInt8
  seq : UInt16
  timestamp : UInt32
  ssrc : UInt32
  payloadOff : Nat
  payload : List UInt8
deriving Repr, DecidableEq

/-- `rtp_unpack` behind a header of `headerLen` bytes. -/
def rtpUnpackBody (data : List UInt8) (headerLen : Nat) : Except Rc RtpUnpacked :=
  let bodyLen := data.length - headerLen
  let unpacked (bodyLen : Nat) : RtpUnpacked :=
    ⟨byteAt data 1 &&& 0x7F, readU16be data 2, readU32be data 4, readU32be data 8, headerLen,
      (data.drop headerLen).take bodyLen⟩
  -- the P bit: the last octet counts the padding, itself included
  if byteAt data 0 &&& 0x20 ≠ 0 then
    if bodyLen = 0 then .error .parse
    else
      let paddingLen := (byteAt data (data.length - 1)).toNat
      if paddingLen = 0 ∨ paddingLen > bodyLen then .error .parse
      else .ok (unpacked (bodyLen - paddingLen))
  else .ok (unpacked bodyLen)

/-- `rtp_unpack`. -/
def rtpUnpack (data : List UInt8) : Except Rc RtpUnpacked :=
  if data.length < rtpHeaderSize then .error .invalidParam
  else if (byteAt data 0 >>> 6) &&& 0x03 ≠ 2 then .error .parse
  else
    let cc := (byteAt data 0 &&& 0x0F).toNat
    let headerLen := rtpHeaderSize + cc * 4
    if headerLen > data.length then .error .parse
    else if byteAt data 0 &&& 0x10 ≠ 0 then
      let remaining := data.length - headerLen
      if remaining < 4 then .error .parse
      else
        let extLen := (readU16be data (headerLen + 2)).toNat
        if extLen > (remaining - 4) / 4 then .error .parse
        else rtpUnpackBody data (headerLen + (4 + extLen * 4))
    else rtpUnpackBody data headerLen

end Nanortc.Native
