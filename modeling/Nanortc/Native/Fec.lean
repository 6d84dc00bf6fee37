import Nanortc.ForStd.BigEndian
import Nanortc.Native.Types

/-!
# ULPFEC codec

Level-0 parity of `nano_fec.c`. A parity packet holds the exclusive or of the headers, lengths and
padded payloads of a group of RTP packets, the earliest sequence number and a mask of the others.
The bytes of a packet are a list, whose length the source passes beside them in 16 bits.
-/

namespace Nanortc.Native

open Nanortc.ForStd

/-- `FEC_HEADER_SIZE`. -/
def fecHeaderSize : Nat := 10

/-- `FEC_OVERHEAD`. -/
def fecOverhead : Nat := fecHeaderSize + 4

/-- `FEC_MAX_GROUP`. -/
def fecMaxGroup : Nat := 16

/-- `FEC_RTP_HDR`. -/
def fecRtpHdr : Nat := 12

/-- The sequence number of an RTP packet. -/
def fecSeq (pkt : List UInt8) : UInt16 := readU16be pkt 2

/-- `fec_sn_base`: the earliest sequence number in signed order. -/
def fecSnBase : List (List UInt8) → UInt16
  | [] => 0
  | pkt :: pkts =>
    pkts.foldl (fun base p => if i16 (fecSeq p - base) < 0 then fecSeq p else base) (fecSeq pkt)

/-- The bit of the mask for an offset from the base. -/
def fecMaskBit (off : UInt16) : UInt16 := (0x8000 : UInt16) >>> off

/-- The fields that parity is taken over; the payload has the protection length. -/
structure FecFields where
  flags : UInt8
  type : UInt8
  ts : UInt32
  len : UInt16
  payload : List UInt8
deriving Repr, DecidableEq

/-- No packet collected. -/
def FecFields.zero (protLen : Nat) : FecFields := ⟨0, 0, 0, 0, List.replicate protLen 0⟩

/-- The parity with one more packet collected. -/
def FecFields.collect (s : FecFields) (pkt : List UInt8) : FecFields where
  flags := s.flags ^^^ (byteAt pkt 0 &&& 0x3F)
  type := s.type ^^^ byteAt pkt 1
  ts := s.ts ^^^ readU32be pkt 4
  len := s.len ^^^ UInt16.ofNat (pkt.length - fecRtpHdr)
  payload := s.payload.mapIdx fun k b => b ^^^ byteAt pkt (fecRtpHdr + k)

/-- The mask with the bit of one more packet. -/
def fecMask (snBase : UInt16) (pkts : List (List UInt8)) : UInt16 :=
  pkts.foldl (fun mask p => mask ||| fecMaskBit (fecSeq p - snBase)) 0

/-- The protection length: the longest payload. -/
def fecProtLen (pkts : List (List UInt8)) : Nat :=
  pkts.foldl (fun n p => max n (p.length - 2)) 0 - fecHeaderSize

/-- `fec_encode`; `outCap` is the size of the output buffer. -/
def fecEncode (pkts : List (List UInt8)) (outCap : Nat) : Except Rc (List UInt8) :=
  if pkts = [] ∨ pkts.length > fecMaxGroup then .error .invalidParam
  else
    let snBase := fecSnBase pkts
    if pkts.any fun p =>
        p.length < fecRtpHdr || decide ((fecSeq p - snBase).toNat ≥ fecMaxGroup) then
      .error .invalidParam
    else
      let protLen := fecProtLen pkts % 2 ^ 16
      if outCap < fecOverhead + protLen then .error .bufferTooSmall
      else
        let sum := pkts.foldl FecFields.collect (.zero protLen)
        .ok ([sum.flags, sum.type] ++ u16be snBase ++ u32be sum.ts ++ u16be sum.len ++
          u16be (UInt16.ofNat protLen) ++ u16be (fecMask snBase pkts) ++ sum.payload)

/-- The packet is received and has the sequence number. -/
def fecPresent (recv : List (List UInt8)) (sn : UInt16) : Bool :=
  recv.any fun p => decide (p.length ≥ fecRtpHdr) && fecSeq p == sn

/-- The offsets of the protected packets that were not received. -/
def fecMissing (snBase mask : UInt16) (recv : List (List UInt8)) : List UInt16 :=
  ((List.range fecMaxGroup).map UInt16.ofNat).filter fun off =>
    mask &&& fecMaskBit off ≠ 0 && !fecPresent recv (snBase + off)

/-- The packet is one of the group. -/
def fecIsMember (snBase mask : UInt16) (pkt : List UInt8) : Bool :=
  decide (pkt.length ≥ fecRtpHdr) && decide ((fecSeq pkt - snBase).toNat < fecMaxGroup) &&
    decide (mask &&& fecMaskBit (fecSeq pkt - snBase) ≠ 0)

/-- `fec_recover`: the output buffer, and the length and the sequence number of the packet in it. -/
def fecRecover (fec : List UInt8) (mediaSsrc : UInt32) (recv : List (List UInt8))
    (out : List UInt8) : List UInt8 × Except Rc (Nat × UInt16) :=
  if fec.length < fecOverhead then (out, .error .invalidParam)
  else
    let snBase := readU16be fec 2
    let protLen := (readU16be fec 10).toNat
    let mask := readU16be fec 12
    if fec.length < fecOverhead + protLen then (out, .error .invalidParam)
    else
      match fecMissing snBase mask recv with
      | [off] =>
        if out.length < fecRtpHdr + protLen then (out, .error .bufferTooSmall)
        else
          let seed : FecFields :=
            { flags := byteAt fec 0 &&& 0x3F
              type := byteAt fec 1
              ts := readU32be fec 4
              len := readU16be fec 8
              payload := (fec.drop fecOverhead).take protLen }
          let sum := (recv.filter (fecIsMember snBase mask)).foldl FecFields.collect seed
          let rlen := min sum.len.toNat protLen
          let sn := snBase + off
          (writeAt out 0 ([0x80 ||| sum.flags, sum.type] ++ u16be sn ++ u32be sum.ts ++
            u32be mediaSsrc ++ sum.payload), .ok (fecRtpHdr + rlen, sn))
      | _ => (out, .error .noData)

end Nanortc.Native
