import Nanortc.Native.VideoReceive

/-!
# Video packets

The fragment iterator and `h264_packetize` of `nano_h264.c`, and the packetizer and depacketizer of
`nano_h265.c`. A packetizer hands its payloads to a callback; here they are collected, as a callback
that accepts every payload does, and the result code stands beside them.
-/

namespace Nanortc.Native

open Nanortc.ForStd

/-- A payload handed to the packet callback, with its marker. -/
structure VideoPayload where
  bytes : List UInt8
  marker : Bool
deriving Repr, DecidableEq

/-! ### H.264 fragments -/

/-- `h264_fragment_iter_t`; `data` is the offset of the pointer in the NAL unit. -/
structure H264FragmentIter where
  nalu : List UInt8
  mtu : Nat
  singleNal : Bool := false
  done : Bool := false
  nalType : UInt8 := 0
  fuIndicator : UInt8 := 0
  data : Nat := 0
  remaining : Nat := 0
  maxFrag : Nat := 0
deriving Repr, DecidableEq

/-- `h264_fragment_iter_init`. -/
def h264FragmentIterInit (nalu : List UInt8) (mtu : Nat) : Except Rc H264FragmentIter :=
  if nalu.length = 0 ∨ mtu < h264FuaHeaderSize + 1 then .error .invalidParam
  else if nalu.length ≤ mtu then .ok { nalu := nalu, mtu := mtu, singleNal := true }
  else
    .ok
      { nalu := nalu
        mtu := mtu
        nalType := byteAt nalu 0 &&& 0x1F
        fuIndicator := (byteAt nalu 0 &&& 0x60) ||| 28
        data := 1
        remaining := nalu.length - 1
        maxFrag := mtu - h264FuaHeaderSize }

/-- `h264_fragment_iter_has_next`. -/
def h264FragmentIterHasNext (it : H264FragmentIter) : Bool :=
  !it.done && (it.singleNal || decide (it.remaining > 0))

/-- `h264_fragment_iter_next`. -/
def h264FragmentIterNext (it : H264FragmentIter) (scratchLen : Nat) :
    H264FragmentIter × Except Rc VideoPayload :=
  if it.done then (it, .error .invalidParam)
  else if it.singleNal then ({ it with done := true }, .ok ⟨it.nalu, true⟩)
  else if it.remaining = 0 then (it, .error .invalidParam)
  else
    let fragLen := if it.remaining < it.maxFrag then it.remaining else it.maxFrag
    if scratchLen < h264FuaHeaderSize + fragLen then (it, .error .bufferTooSmall)
    else
      let fuHeader := if it.data = 1 then it.nalType ||| 0x80 else it.nalType
      let isLast : Bool := it.remaining = fragLen
      let fuHeader := if isLast then fuHeader ||| 0x40 else fuHeader
      ({ it with
        data := it.data + fragLen
        remaining := it.remaining - fragLen
        done := isLast },
        .ok ⟨[it.fuIndicator, fuHeader] ++ (it.nalu.drop it.data).take fragLen, isLast⟩)

/-- The loop of `h264_packetize`, at most `turns` times. -/
def h264PacketizeLoop (scratchLen : Nat) :
    (turns : Nat) → H264FragmentIter → List VideoPayload × Rc
  | 0, _ => ([], .ok)
  | turns + 1, it =>
    if h264FragmentIterHasNext it then
      match h264FragmentIterNext it scratchLen with
      | (_, .error rc) => ([], rc)
      | (it, .ok p) =>
        let (ps, rc) := h264PacketizeLoop scratchLen turns it
        (p :: ps, rc)
    else ([], .ok)

/-- `h264_packetize`; every fragment takes at least a byte of the NAL unit. -/
def h264PacketizeAll (nalu : List UInt8) (mtu scratchLen : Nat) : List VideoPayload × Rc :=
  match h264FragmentIterInit nalu mtu with
  | .error rc => ([], rc)
  | .ok it => h264PacketizeLoop scratchLen (nalu.length + 1) it

/-- Payloads pushed one after the other, with the result of each push. -/
def h264DepktRun (d : NanoH264Depkt) :
    List (List UInt8) → NanoH264Depkt × List (Rc × Option (List UInt8))
  | [] => (d, [])
  | p :: ps =>
    let (d, out) := h264DepktPush d p
    let (d, outs) := h264DepktRun d ps
    (d, out :: outs)

/-! ### H.265 header fields -/

/-- `H265_NAL_HEADER_SIZE`. -/
def h265NalHeaderSize : Nat := 2

/-- `H265_FU_HEADER_SIZE`. -/
def h265FuHeaderSize : Nat := 3

/-- `H265_AP_PAYLOAD_HDR_SIZE`. -/
def h265ApPayloadHdrSize : Nat := 2

/-- `H265_AP_NALU_LEN_SIZE`. -/
def h265ApNaluLenSize : Nat := 2

/-- `H265_NAL_TYPE`. -/
def h265NalType (hdr : List UInt8) : UInt8 := (byteAt hdr 0 >>> 1) &&& 0x3F

/-- `H265_NAL_LAYER_ID`. -/
def h265NalLayerId (hdr : List UInt8) : UInt8 :=
  ((byteAt hdr 0 &&& 0x01) <<< 5) ||| ((byteAt hdr 1 >>> 3) &&& 0x1F)

/-- `H265_NAL_TID`. -/
def h265NalTid (hdr : List UInt8) : UInt8 := byteAt hdr 1 &&& 0x07

/-! ### H.265 packetizer -/

/-- The loop of `h265_emit_fu`, at most `turns` times. -/
def h265FuPayloads (nalu : List UInt8) (maxFrag : Nat) (markerLastAu : Bool) :
    (turns : Nat) → (first : Bool) → List UInt8 → List VideoPayload
  | 0, _, _ => []
  | turns + 1, first, data =>
    if data = [] then []
    else
      let isLastFrag : Bool := data.length ≤ maxFrag
      let fuHeader := h265NalType nalu ||| (if first then 0x80 else 0) |||
        if isLastFrag then 0x40 else 0
      ⟨[(byteAt nalu 0 &&& 0x81) ||| 0x62, byteAt nalu 1, fuHeader] ++ data.take maxFrag,
        isLastFrag && markerLastAu⟩ ::
          h265FuPayloads nalu maxFrag markerLastAu turns false (data.drop maxFrag)

/-- `h265_emit_fu`. -/
def h265EmitFu (nalu : List UInt8) (mtu : Nat) (markerLastAu : Bool) : List VideoPayload × Rc :=
  if nalu.length ≤ h265NalHeaderSize then ([], .invalidParam)
  else if mtu ≤ h265FuHeaderSize then ([], .invalidParam)
  else if mtu > videoMtu then ([], .bufferTooSmall)
  else
    (h265FuPayloads nalu (mtu - h265FuHeaderSize) markerLastAu nalu.length true
      (nalu.drop h265NalHeaderSize), .ok)

/-- The two bytes of the payload header of an aggregation packet. -/
def h265ApHeader (nals : List (List UInt8)) : List UInt8 :=
  let minLayerId : UInt8 :=
    nals.foldl (fun m n => if h265NalLayerId n < m then h265NalLayerId n else m) 63
  let minTid : UInt8 := nals.foldl (fun m n => if h265NalTid n < m then h265NalTid n else m) 7
  let minTid : UInt8 := if minTid = 0 then 1 else minTid
  let fBit : UInt8 := if nals.any fun n => byteAt n 0 &&& 0x80 ≠ 0 then 0x80 else 0
  let layerMsb : UInt8 := minLayerId >>> 5
  let layerLsb : UInt8 := (minLayerId &&& 0x1F) <<< 3
  [fBit ||| 0x60 ||| (layerMsb &&& 0x01), layerLsb ||| (minTid &&& 0x07)]

/-- The loop of `h265_emit_ap` that copies the NAL units behind `pkt`; none is a packet that the
buffer cannot hold. -/
def h265ApCopy (pkt : List UInt8) : List (List UInt8) → Option (List UInt8)
  | [] => some pkt
  | n :: ns =>
    if pkt.length + h265ApNaluLenSize + n.length > videoMtu then none
    else h265ApCopy (pkt ++ u16be (UInt16.ofNat n.length) ++ n) ns

/-- `h265_emit_ap`. -/
def h265EmitAp (nals : List (List UInt8)) (marker : Bool) : List VideoPayload × Rc :=
  if nals.length < 2 then ([], .invalidParam)
  else if nals.any fun n => decide (n.length < h265NalHeaderSize) then ([], .invalidParam)
  else
    match h265ApCopy (h265ApHeader nals) nals with
    | none => ([], .bufferTooSmall)
    | some pkt => ([⟨pkt, marker⟩], .ok)

/-- The NAL units behind the current one that `h265_packetize_au` aggregates with it. -/
def h265ApRun (mtu : Nat) : (apBytes : Nat) → List (List UInt8) → Nat
  | _, [] => 0
  | apBytes, next :: nals =>
    if next.length < h265NalHeaderSize then 0
    else if next.length > mtu then 0
    else if apBytes + (h265ApNaluLenSize + next.length) > mtu then 0
    else h265ApRun mtu (apBytes + (h265ApNaluLenSize + next.length)) nals + 1

/-- Payloads emitted, and then the rest unless there was an error. -/
def h265Then (emitted rest : List VideoPayload × Rc) : List VideoPayload × Rc :=
  match emitted.2 with
  | .ok => (emitted.1 ++ rest.1, rest.2)
  | rc => (emitted.1, rc)

/-- The loop of `h265_packetize_au`, at most `turns` times. -/
def h265PacketizeLoop (mtu : Nat) : (turns : Nat) → List (List UInt8) → List VideoPayload × Rc
  | 0, _ => ([], .ok)
  | _ + 1, [] => ([], .ok)
  | turns + 1, n :: nals =>
    if n.length < h265NalHeaderSize then ([], .invalidParam)
    else if n.length > mtu then
      h265Then (h265EmitFu n mtu (nals.isEmpty)) (h265PacketizeLoop mtu turns nals)
    else
      let run := h265ApRun mtu (h265ApPayloadHdrSize + h265ApNaluLenSize + n.length) nals
      if run > 0 then
        h265Then (h265EmitAp (n :: nals.take run) (nals.drop run).isEmpty)
          (h265PacketizeLoop mtu turns (nals.drop run))
      else h265Then ([⟨n, nals.isEmpty⟩], .ok) (h265PacketizeLoop mtu turns nals)

/-- `h265_packetize_au`; every turn takes at least a NAL unit. -/
def h265PacketizeAu (nals : List (List UInt8)) (mtu : Nat) : List VideoPayload × Rc :=
  if nals.length = 0 ∨ mtu < h265FuHeaderSize + 1 then ([], .invalidParam)
  else h265PacketizeLoop mtu nals.length nals

/-! ### H.265 depacketizer -/

/-- `nano_h265_depkt_t`: the bytes put together so far. -/
structure NanoH265Depkt where
  buf : List UInt8 := []
  inProgress : Bool := false
deriving Repr, DecidableEq, Inhabited

/-- The depacketizer with the fragments of an unfinished NAL unit dropped. -/
def NanoH265Depkt.abort (d : NanoH265Depkt) : NanoH265Depkt :=
  if d.inProgress then {} else d

/-- The walk over the units of an aggregation packet: the first one, once the lengths of all fit. -/
def h265ApUnits (payload : List UInt8) :
    (turns offset : Nat) → (first : List UInt8) → Except Rc (List UInt8)
  | 0, _, first => .ok first
  | turns + 1, offset, first =>
    if offset + h265ApNaluLenSize ≤ payload.length then
      let subLen := (readU16be payload offset).toNat
      let offset := offset + h265ApNaluLenSize
      if subLen > payload.length - offset then .error .parse
      else if subLen = 0 then .ok first
      else if first = [] then
        if subLen > videoNalBufSize then .error .bufferTooSmall
        else h265ApUnits payload turns (offset + subLen) ((payload.drop offset).take subLen)
      else h265ApUnits payload turns (offset + subLen) first
    else .ok first

/-- The fragmentation unit branch of `h265_depkt_push`. -/
def h265DepktFu (d : NanoH265Depkt) (payload : List UInt8) :
    NanoH265Depkt × Rc × Option (List UInt8) :=
  if payload.length < h265FuHeaderSize then (d, .parse, none)
  else
    let fuHeader := byteAt payload 2
    let frag := payload.drop h265FuHeaderSize
    let isStart : Bool := fuHeader &&& 0x80 ≠ 0
    let fuType : UInt8 := (fuHeader &&& 0x3F) <<< 1
    let nalHdr0 := (byteAt payload 0 &&& 0x81) ||| fuType
    if !isStart && !d.inProgress then (d, .ok, none)
    else
      let buf := if isStart then [nalHdr0, byteAt payload 1] ++ frag else d.buf ++ frag
      if buf.length > videoNalBufSize then ({}, .bufferTooSmall, none)
      else if fuHeader &&& 0x40 ≠ 0 then (⟨buf, false⟩, .ok, some buf)
      else (⟨buf, true⟩, .ok, none)

/-- `h265_depkt_push`: the NAL unit that the payload completes, if any. -/
def h265DepktPush (d : NanoH265Depkt) (payload : List UInt8) :
    NanoH265Depkt × Rc × Option (List UInt8) :=
  if payload.length < h265NalHeaderSize then (d, .invalidParam, none)
  else
    let type := h265NalType payload
    if type < 48 then
      if payload.length > videoNalBufSize then (d.abort, .bufferTooSmall, none)
      else (⟨payload, false⟩, .ok, some payload)
    else if type = 48 then
      match h265ApUnits payload payload.length h265ApPayloadHdrSize [] with
      | .error rc => (d.abort, rc, none)
      | .ok [] => (d.abort, .ok, none)
      | .ok first => (⟨first, false⟩, .ok, some first)
    else if type = 49 then h265DepktFu d payload
    else (d, .ok, none)

/-- Payloads pushed one after the other, with the result of each push. -/
def h265DepktRun (d : NanoH265Depkt) :
    List (List UInt8) → NanoH265Depkt × List (Rc × Option (List UInt8))
  | [] => (d, [])
  | p :: ps =>
    let (d, out) := h265DepktPush d p
    let (d, outs) := h265DepktRun d ps
    (d, out :: outs)

end Nanortc.Native
