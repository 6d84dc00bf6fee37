import Nanortc.ForStd.BigEndian
import Nanortc.Native.Types

/-!
# Transport-wide feedback

The parser of `nano_twcc.c`. Status chunks are read first, then one receive delta for each packet that
has one; the callback is called for each packet as its delta is read.
-/

namespace Nanortc.Native

open Nanortc.ForStd

/-- `TWCC_FMT`. -/
def twccFmt : UInt8 := 15

/-- `RTCP_RTPFB`. -/
def rtcpRtpfb : UInt8 := 205

/-- `NANORTC_TWCC_MAX_PACKETS_PER_FB`. -/
def twccMaxPacketsPerFb : Nat := 128

/-- `TWCC_REF_TIME_UNIT_US`. -/
def twccRefTimeUnitUs : Int := 64000

/-- `TWCC_DELTA_UNIT_US`. -/
def twccDeltaUnitUs : Int := 250

/-- `nano_twcc_status_t`. -/
inductive TwccStatus where
  | notReceived
  | smallDelta
  | largeDelta
  | reserved
deriving Repr, DecidableEq

/-- The status of a symbol of two bits. -/
def TwccStatus.ofBits (bits : UInt16) : TwccStatus :=
  if bits = 0 then .notReceived
  else if bits = 1 then .smallDelta
  else if bits = 2 then .largeDelta
  else .reserved

/-- `nano_twcc_summary_t`. -/
structure TwccSummary where
  senderSsrc : UInt32
  mediaSsrc : UInt32
  baseSeq : UInt16
  packetStatusCount : UInt16
  referenceTimeUs : Int
  fbPktCount : UInt8
  receivedCount : Nat
deriving Repr, DecidableEq

/-- A call of `nano_twcc_packet_cb_t`. -/
structure TwccCall where
  seq : UInt16
  status : TwccStatus
  deltaUs : Int
deriving Repr, DecidableEq

/-- The statuses of one chunk, `remaining` of them at most. -/
def twccChunk (chunk : UInt16) (remaining : Nat) : Except Rc (List TwccStatus) :=
  if chunk &&& 0x8000 = 0 then
    let symbol := TwccStatus.ofBits ((chunk >>> 13) &&& 0x3)
    let run := (chunk &&& 0x1FFF).toNat
    if run = 0 then .error .parse
    else if symbol = .reserved then .error .parse
    else .ok (List.replicate (min run remaining) symbol)
  else if chunk &&& 0x4000 = 0 then
    .ok ((List.range (min 14 remaining)).map fun i =>
      if (chunk >>> UInt16.ofNat (13 - i)) &&& 0x1 ≠ 0 then .smallDelta else .notReceived)
  else
    let symbols := (List.range (min 7 remaining)).map fun i =>
      TwccStatus.ofBits ((chunk >>> UInt16.ofNat ((6 - i) * 2)) &&& 0x3)
    if .reserved ∈ symbols then .error .parse else .ok symbols

/-- `parse_chunks`: the statuses, with the offset behind the chunks; `turns` bounds the loop. -/
def parseChunks (data : List UInt8) (pktSize : Nat) :
    (turns remaining off : Nat) → Except Rc (List TwccStatus × Nat)
  | 0, _, off => .ok ([], off)
  | turns + 1, remaining, off =>
    if remaining = 0 then .ok ([], off)
    else if off + 2 > pktSize then .error .parse
    else do
      let symbols ← twccChunk (readU16be data off) remaining
      let (statuses, off) ← parseChunks data pktSize turns (remaining - symbols.length) (off + 2)
      .ok (symbols ++ statuses, off)

/-- The delta of a packet, with the offset behind it. -/
def twccDelta (data : List UInt8) (pktSize off : Nat) : TwccStatus → Option (Int × Nat)
  | .smallDelta =>
    if off + 1 > pktSize then none
    else some ((byteAt data off).toNat * twccDeltaUnitUs, off + 1)
  | .largeDelta =>
    if off + 2 > pktSize then none
    else
      let raw := readU16be data off
      let units : Int := if raw &&& 0x8000 ≠ 0 then raw.toNat - 0x10000 else raw.toNat
      some (units * twccDeltaUnitUs, off + 2)
  | _ => some (0, off)

/-- The deltas of `twcc_parse_feedback`: the calls, with the offset behind the deltas if all are
there. -/
def twccDeltas (data : List UInt8) (pktSize : Nat) :
    List TwccStatus → (seq : UInt16) → (off : Nat) → List TwccCall × Option Nat
  | [], _, off => ([], some off)
  | status :: statuses, seq, off =>
    match twccDelta data pktSize off status with
    | none => ([], none)
    | some (deltaUs, off) =>
      let r := twccDeltas data pktSize statuses (seq + 1) off
      (⟨seq, status, deltaUs⟩ :: r.1, r.2)

/-- The reference time: 24 bits with a sign. -/
def twccRefRaw (data : List UInt8) : Int :=
  let raw := (byteAt data 16).toNat * 0x10000 + (byteAt data 17).toNat * 0x100 +
    (byteAt data 18).toNat
  if raw ≥ 0x800000 then raw - 0x1000000 else raw

/-- `twcc_parse_feedback`: the calls of the callback, and the summary if the packet is accepted. -/
def twccParseFeedback (data : List UInt8) : List TwccCall × Except Rc TwccSummary :=
  if data.length < 20 then ([], .error .parse)
  else if byteAt data 0 >>> 6 ≠ 2 then ([], .error .parse)
  else if byteAt data 0 &&& 0x1F ≠ twccFmt then ([], .error .parse)
  else if byteAt data 1 ≠ rtcpRtpfb then ([], .error .parse)
  else
    let pktSize := ((readU16be data 2).toNat + 1) * 4
    if pktSize > data.length ∨ pktSize < 20 then ([], .error .parse)
    else
      let out : TwccSummary :=
        { senderSsrc := readU32be data 4
          mediaSsrc := readU32be data 8
          baseSeq := readU16be data 12
          packetStatusCount := readU16be data 14
          referenceTimeUs := twccRefRaw data * twccRefTimeUnitUs
          fbPktCount := byteAt data 19
          receivedCount := 0 }
      let count := out.packetStatusCount.toNat
      if count = 0 then ([], .ok out)
      else if count > twccMaxPacketsPerFb then ([], .error .parse)
      else
        match parseChunks data pktSize count count 20 with
        | .error rc => ([], .error rc)
        | .ok (statuses, off) =>
          match twccDeltas data pktSize statuses out.baseSeq off with
          | (calls, none) => (calls, .error .parse)
          | (calls, some off) =>
            if pktSize - off > 3 then (calls, .error .parse)
            else (calls, .ok { out with
              receivedCount := statuses.countP (· ≠ TwccStatus.notReceived) })

end Nanortc.Native
