import Nanortc.ForStd.Serial
import Nanortc.Native.Media

/-!
# Reception of H.264 video

The depacketizer of `nano_h264.c`, the reorder buffer of `nano_reorder.c` and what
`nano_rtc_media.c` does with the packets of a video track: the loss mark, the auto-PLI and the
events. Both builds are here: with the reorder buffer, whose frames the application polls one by
one, and without it, where a frame is queued when its last packet arrives.
-/

namespace Nanortc.Native

open Nanortc.ForStd

/-! ### Configuration -/

/-- `NANORTC_VIDEO_NAL_BUF_SIZE`. -/
def videoNalBufSize : Nat := 16384

/-- `NANORTC_VIDEO_REORDER_SLOTS`. -/
def videoReorderSlots : Nat := 8

/-- `NANORTC_VIDEO_REORDER_MAX_WAIT_MS`. -/
def videoReorderMaxWaitMs : UInt32 := 30

/-- `NANORTC_VIDEO_PLI_MIN_INTERVAL_MS`. -/
def videoPliMinIntervalMs : UInt32 := 1000

/-! ### H.264 -/

/-- The payloads `h264_packetize` hands to its callback, with a scratch buffer of the size of the
packets. -/
def h264Packetize (nal : List UInt8) (mtu : Nat) : List H264Fragment :=
  if nal = [] ∨ mtu < h264FuaHeaderSize + 1 then [] else h264Fragments nal mtu

/-- The type of a NAL unit. -/
def h264NalType (payload : List UInt8) : UInt8 := byteAt payload 0 &&& 0x1F

/-- `nano_h264_depkt_t`: the bytes put together so far. -/
structure NanoH264Depkt where
  buf : List UInt8 := []
  inProgress : Bool := false
deriving Repr, DecidableEq, Inhabited

/-- The depacketizer with the fragments of an unfinished NAL unit dropped. -/
def NanoH264Depkt.abort (d : NanoH264Depkt) : NanoH264Depkt :=
  if d.inProgress then {} else d

/-- The walk over the units of a STAP-A packet: the first one, once the lengths of all fit. -/
def h264StapUnits (payload : List UInt8) :
    (turns offset : Nat) → (first : List UInt8) → Except Rc (List UInt8)
  | 0, _, first => .ok first
  | turns + 1, offset, first =>
    if offset + 2 ≤ payload.length then
      let subLen := (readU16be payload offset).toNat
      let offset := offset + 2
      if subLen > payload.length - offset then .error .parse
      else if subLen = 0 then .ok first
      else if first = [] then
        if subLen > videoNalBufSize then .error .bufferTooSmall
        else h264StapUnits payload turns (offset + subLen) ((payload.drop offset).take subLen)
      else h264StapUnits payload turns (offset + subLen) first
    else .ok first

/-- The FU-A branch of `h264_depkt_push`. -/
def h264DepktFua (d : NanoH264Depkt) (payload : List UInt8) :
    NanoH264Depkt × Rc × Option (List UInt8) :=
  if payload.length < h264FuaHeaderSize then (d, .parse, none)
  else
    let fuHeader := byteAt payload 1
    let frag := payload.drop h264FuaHeaderSize
    let isStart : Bool := fuHeader &&& 0x80 ≠ 0
    if !isStart && !d.inProgress then (d, .ok, none)
    else
      let buf :=
        if isStart then ((byteAt payload 0 &&& 0x60) ||| (fuHeader &&& 0x1F)) :: frag
        else d.buf ++ frag
      if buf.length > videoNalBufSize then ({}, .bufferTooSmall, none)
      else if fuHeader &&& 0x40 ≠ 0 then (⟨buf, false⟩, .ok, some buf)
      else (⟨buf, true⟩, .ok, none)

/-- `h264_depkt_push`: the NAL unit that the payload completes, if any. -/
def h264DepktPush (d : NanoH264Depkt) (payload : List UInt8) :
    NanoH264Depkt × Rc × Option (List UInt8) :=
  if payload = [] then (d, .invalidParam, none)
  else
    let nalType := h264NalType payload
    if 1 ≤ nalType ∧ nalType ≤ 23 then
      if payload.length > videoNalBufSize then (d.abort, .bufferTooSmall, none)
      else (⟨payload, false⟩, .ok, some payload)
    else if nalType = 24 then
      match h264StapUnits payload payload.length 1 [] with
      | .error rc => (d.abort, rc, none)
      | .ok [] => (d.abort, .ok, none)
      | .ok first => (⟨first, false⟩, .ok, some first)
    else if nalType = 28 then h264DepktFua d payload
    else (d, .ok, none)

/-- The units of a STAP-A packet searched for an IDR picture. -/
def h264StapKeyframe (payload : List UInt8) : (turns offset : Nat) → Bool
  | 0, _ => false
  | turns + 1, offset =>
    if offset + 2 ≤ payload.length then
      let subLen := (readU16be payload offset).toNat
      let offset := offset + 2
      if subLen = 0 ∨ subLen > payload.length - offset then false
      else if byteAt payload offset &&& 0x1F = 5 then true
      else h264StapKeyframe payload turns (offset + subLen)
    else false

/-- `h264_is_keyframe`. -/
def h264IsKeyframe (payload : List UInt8) : Bool :=
  if payload = [] then false
  else
    let nalType := h264NalType payload
    if 1 ≤ nalType ∧ nalType ≤ 23 then nalType == 5
    else if nalType = 24 then h264StapKeyframe payload payload.length 1
    else if nalType = 28 then
      decide (2 ≤ payload.length ∧ byteAt payload 1 &&& 0x80 ≠ 0) && byteAt payload 1 &&& 0x1F == 5
    else false

/-! ### Reorder buffer -/

/-- `nano_reorder_slot_t`. -/
structure ReorderSlot where
  data : List UInt8
  ts : UInt32
  arrivalMs : UInt32
  seq : UInt16
  marker : Bool
  occupied : Bool
deriving Repr, DecidableEq, Inhabited

/-- `nano_reorder_t`. -/
structure NanoReorder where
  slots : List ReorderSlot
  nextSeq : UInt16
  inited : Bool
  pendingLost : Bool
deriving Repr, DecidableEq, Inhabited

/-- `reorder_init`. -/
def reorderInit : NanoReorder where
  slots := List.replicate videoReorderSlots ⟨[], 0, 0, 0, false, false⟩
  nextSeq := 0
  inited := false
  pendingLost := false

/-- `reorder_slot_idx`. -/
def reorderSlotIdx (seq : UInt16) : Nat := seq.toNat % videoReorderSlots

/-- The slot of a sequence number. -/
def NanoReorder.slot (r : NanoReorder) (seq : UInt16) : ReorderSlot :=
  r.slots.getD (reorderSlotIdx seq) default

/-- The buffer with the window moved on so that a packet behind its end fits. -/
def reorderAdvance (r : NanoReorder) (seq : UInt16) : NanoReorder :=
  if i16 (seq - r.nextSeq) ≥ videoReorderSlots then
    { r with nextSeq := seq - UInt16.ofNat videoReorderSlots + 1, pendingLost := true }
  else r

/-- `reorder_push`. -/
def reorderPush (r : NanoReorder) (seq : UInt16) (ts : UInt32) (marker : Bool) (data : List UInt8)
    (nowMs : UInt32) : NanoReorder × Rc :=
  if data = [] ∨ data.length > mediaBufSize then (r, .invalidParam)
  else
    let r := if r.inited then r else { r with inited := true, nextSeq := seq }
    if i16 (seq - r.nextSeq) < 0 then (r, .ok)
    else
      let r := reorderAdvance r seq
      if (r.slot seq).occupied ∧ (r.slot seq).seq = seq then (r, .ok)
      else
        let s : ReorderSlot := ⟨data, ts, nowMs, seq, marker, true⟩
        ({ r with slots := r.slots.set (reorderSlotIdx seq) s }, .ok)

/-- `reorder_should_skip`. -/
def reorderShouldSkip (r : NanoReorder) (nowMs : UInt32) : Bool :=
  r.slots.any fun s => s.occupied && decide (0 < i16 (s.seq - r.nextSeq)) &&
    decide (i16 (s.seq - r.nextSeq) < videoReorderSlots) &&
    decide (nowMs - s.arrivalMs ≥ videoReorderMaxWaitMs)

/-- The packet at the head of the window is there. -/
def NanoReorder.headReady (r : NanoReorder) : Bool :=
  (r.slot r.nextSeq).occupied && (r.slot r.nextSeq).seq == r.nextSeq

/-- The head of the window taken out. -/
def NanoReorder.takeHead (r : NanoReorder) : NanoReorder :=
  { r with
    slots := r.slots.set (reorderSlotIdx r.nextSeq) { r.slot r.nextSeq with occupied := false }
    pendingLost := false
    nextSeq := r.nextSeq + 1 }

/-- The loop of `reorder_pop`, at most `turns` times: a packet that is skipped brings the window
closer to the one that waits, so a window of turns is enough. -/
def reorderPopLoop (nowMs : UInt32) : (turns : Nat) → NanoReorder →
    NanoReorder × Option (ReorderSlot × Bool)
  | 0, r => (r, none)
  | turns + 1, r =>
    if r.headReady then (r.takeHead, some (r.slot r.nextSeq, r.pendingLost))
    else if reorderShouldSkip r nowMs then
      reorderPopLoop nowMs turns { r with nextSeq := r.nextSeq + 1, pendingLost := true }
    else (r, none)

/-- `reorder_pop`: the packet and whether some before it were lost. -/
def reorderPop (r : NanoReorder) (nowMs : UInt32) : NanoReorder × Option (ReorderSlot × Bool) :=
  if r.inited then reorderPopLoop nowMs videoReorderSlots r else (r, none)

/-- `reorder_next_timeout_ms`. -/
def reorderNextTimeoutMs (r : NanoReorder) (nowMs : UInt32) : UInt32 :=
  if !r.inited then 0xFFFFFFFF
  else if r.headReady then 0
  else
    r.slots.foldl (fun best s =>
      if s.occupied ∧ 0 < i16 (s.seq - r.nextSeq) ∧ i16 (s.seq - r.nextSeq) < videoReorderSlots then
        let age := nowMs - s.arrivalMs
        let left := if age ≥ videoReorderMaxWaitMs then 0 else videoReorderMaxWaitMs - age
        if left < best then left else best
      else best) 0xFFFFFFFF

/-! ### A video track -/

/-- The receive state of a video track. -/
structure VideoRx where
  depkt : NanoH264Depkt := {}
  reorder : NanoReorder := reorderInit
  recvLastSeq : UInt16 := 0
  recvSeqInited : Bool := false
  recvLostPending : Bool := false
  recvLastPliMs : UInt32 := 0
  recvLastPliValid : Bool := false
deriving Repr, DecidableEq, Inhabited

/-- `nanortc_ev_media_data_t` of a video frame. -/
structure VideoFrame where
  mid : UInt8
  pt : UInt8
  timestamp : UInt32
  data : List UInt8
  isKeyframe : Bool
  contiguous : Bool
deriving Repr, DecidableEq, Inhabited

variable (crypto : CryptoProvider) (i : Nat)

/-- `rtc_video_on_lost`. -/
def rtcVideoOnLost (rtc : MediaRtc) (rx : VideoRx) (lost : Bool) : MediaRtc × VideoRx :=
  if lost then
    let rx := { rx with recvLostPending := true }
    if !rx.recvLastPliValid ∨ nanoTimeElapsed rtc.nowMs rx.recvLastPliMs ≥ videoPliMinIntervalMs then
      match rtcEmitPli crypto rtc i with
      | (rtc', .ok) => (rtc', { rx with recvLastPliMs := rtc.nowMs, recvLastPliValid := true })
      | (rtc', _) => (rtc', rx)
    else (rtc, rx)
  else (rtc, rx)

/-- `rtc_video_complete_event`. -/
def rtcVideoCompleteEvent (m : MediaTrack) (rx : VideoRx) (payload : List UInt8)
    (timestamp : UInt32) : VideoRx × Option VideoFrame :=
  match h264DepktPush rx.depkt payload with
  | (depkt, .ok, some nal) =>
    if nal = [] then ({ rx with depkt := depkt }, none)
    else
      ({ rx with depkt := depkt, recvLostPending := false },
        some
          { mid := m.mid
            pt := m.rtp.payloadType
            timestamp := timestamp
            data := nal
            isKeyframe := h264IsKeyframe nal
            contiguous := !rx.recvLostPending })
  | (depkt, _, _) => ({ rx with depkt := depkt }, none)

/-- `rtc_video_deliver`: the frame that was queued; a full queue refuses it. -/
def rtcVideoDeliver (rtc : MediaRtc) (rx : VideoRx) (payload : List UInt8) (timestamp : UInt32)
    (lost : Bool) : MediaRtc × VideoRx × Option VideoFrame :=
  let (rtc, rx) := rtcVideoOnLost crypto i rtc rx lost
  match rtcVideoCompleteEvent (rtc.track i) rx payload timestamp with
  | (rx, none) => (rtc, rx, none)
  | (rx, some frame) =>
    match rtcEnqueueOutput rtc.toNanoRtc (.event 5 0) with
    | (out, .ok) => (rtc.withOut out, rx, some frame)
    | (out, _) => (rtc.withOut out, rx, none)

/-- The sequence number followed without the reorder buffer: a forward gap is a loss. -/
def rtcVideoTrackSeq (rx : VideoRx) (seq : UInt16) : VideoRx × Bool :=
  if !rx.recvSeqInited then ({ rx with recvSeqInited := true, recvLastSeq := seq }, false)
  else
    let adv := i16 (seq - rx.recvLastSeq)
    if adv > 1 then ({ rx with recvLastSeq := seq }, true)
    else if adv > 0 then ({ rx with recvLastSeq := seq }, false)
    else (rx, false)

/-- The end of `nano_rtc_media_handle_rtp_or_rtcp` for a packet of a video track, in the build with
the reorder buffer and in the one without. -/
def rtcVideoPacket (reorder : Bool) (rtc : MediaRtc) (rx : VideoRx) (seq : UInt16) (ts : UInt32)
    (marker : Bool) (payload : List UInt8) : MediaRtc × VideoRx × Option VideoFrame :=
  if reorder then
    (rtc, { rx with reorder := (reorderPush rx.reorder seq ts marker payload rtc.nowMs).1 }, none)
  else
    let (rx, lost) := rtcVideoTrackSeq rx seq
    rtcVideoDeliver crypto i rtc rx payload ts lost

/-- The loop of `nano_rtc_media_reorder_produce` over one track, at most `turns` times, with the
sequence number of the packet that completed the frame. Each turn empties a slot. -/
def rtcVideoProduce : (turns : Nat) → MediaRtc → VideoRx →
    MediaRtc × VideoRx × Option (UInt16 × VideoFrame)
  | 0, rtc, rx => (rtc, rx, none)
  | turns + 1, rtc, rx =>
    match reorderPop rx.reorder rtc.nowMs with
    | (r, none) => (rtc, { rx with reorder := r }, none)
    | (r, some (s, lost)) =>
      let (rtc, rx) := rtcVideoOnLost crypto i rtc { rx with reorder := r } lost
      match rtcVideoCompleteEvent (rtc.track i) rx s.data s.ts with
      | (rx, some frame) => (rtc, rx, some (s.seq, frame))
      | (rx, none) => rtcVideoProduce turns rtc rx

/-- The part of `nano_rtc_media_reorder_produce` that concerns one track. -/
def nanoRtcMediaReorderProduce (rtc : MediaRtc) (rx : VideoRx) :
    MediaRtc × VideoRx × Option (UInt16 × VideoFrame) :=
  rtcVideoProduce crypto i (videoReorderSlots + 1) rtc rx

end Nanortc.Native
