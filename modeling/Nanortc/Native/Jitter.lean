import Nanortc.ForStd.Serial
import Nanortc.Native.Types

/-!
# Jitter buffer

The playout buffer of audio packets in `nano_jitter.c`. A slot is as long as its packet.
-/

namespace Nanortc.Native

open Nanortc.ForStd

/-- `NANORTC_JITTER_SLOTS`. -/
def jitterSlots : Nat := 32

/-- `NANORTC_JITTER_SLOT_DATA_SIZE`. -/
def jitterSlotDataSize : Nat := 320

/-- `nano_jitter_slot_t`. -/
structure JitterSlot where
  data : List UInt8
  seq : UInt16
  timestamp : UInt32
  arrivalMs : UInt32
  occupied : Bool
deriving Repr, DecidableEq, Inhabited

/-- `nano_jitter_t`. -/
structure NanoJitter where
  slots : List JitterSlot
  headSeq : UInt16
  depthMs : UInt32
  started : Bool
deriving Repr, DecidableEq, Inhabited

/-- `jitter_init`. -/
def jitterInit (depthMs : UInt32) : NanoJitter where
  slots := List.replicate jitterSlots ⟨[], 0, 0, 0, false⟩
  headSeq := 0
  depthMs := depthMs
  started := false

/-- The slot of a sequence number. -/
def jitterSlotIdx (seq : UInt16) : Nat := seq.toNat % jitterSlots

/-- The slot of a sequence number. -/
def NanoJitter.slot (jb : NanoJitter) (seq : UInt16) : JitterSlot :=
  jb.slots.getD (jitterSlotIdx seq) default

/-- The head slot emptied and the head moved on by one. -/
def NanoJitter.passHead (jb : NanoJitter) : NanoJitter :=
  { jb with
    slots := jb.slots.set (jitterSlotIdx jb.headSeq) { jb.slot jb.headSeq with occupied := false }
    headSeq := jb.headSeq + 1 }

/-- The loop of `jitter_push` that moves the head on, as often as it turns. -/
def jitterAdvance : (turns : Nat) → NanoJitter → NanoJitter
  | 0, jb => jb
  | turns + 1, jb => jitterAdvance turns jb.passHead

/-- `jitter_push`. -/
def jitterPush (jb : NanoJitter) (seq : UInt16) (timestamp : UInt32) (data : List UInt8)
    (nowMs : UInt32) : NanoJitter × Rc :=
  if data = [] then (jb, .invalidParam)
  else if data.length > jitterSlotDataSize then (jb, .bufferTooSmall)
  else
    let jb := if jb.started then jb else { jb with headSeq := seq, started := true }
    let delta := i16 (seq - jb.headSeq)
    if delta < 0 ∧ -delta ≥ jitterSlots then (jb, .noData)
    else
      let jb :=
        if delta ≥ jitterSlots then
          jitterAdvance (seq - UInt16.ofNat jitterSlots + 1 - jb.headSeq).toNat jb
        else jb
      ({ jb with
        slots := jb.slots.set (jitterSlotIdx seq) ⟨data, seq, timestamp, nowMs, true⟩ }, .ok)

/-- The slot of the number `i` ahead of the head holds its packet. -/
def NanoJitter.holds (jb : NanoJitter) (i : Nat) : Bool :=
  let seq := jb.headSeq + UInt16.ofNat i
  (jb.slot seq).occupied && (jb.slot seq).seq == seq

/-- The packet has waited for the playout delay. -/
def NanoJitter.due (jb : NanoJitter) (nowMs : UInt32) (s : JitterSlot) : Bool :=
  nowMs - s.arrivalMs ≥ jb.depthMs

/-- The head after a look past a head that is missing: at the first packet behind it, if that is
due. -/
def jitterSkip (jb : NanoJitter) (nowMs : UInt32) : Option NanoJitter :=
  match (List.range' 1 (jitterSlots - 1)).find? jb.holds with
  | none => none
  | some i =>
    let seq := jb.headSeq + UInt16.ofNat i
    if jb.due nowMs (jb.slot seq) then some { jb with headSeq := seq } else none

/-- The rest of `jitter_pop` once the head is found. -/
def jitterPopHead (jb : NanoJitter) (nowMs : UInt32) (bufLen : Nat) :
    NanoJitter × Rc × Option JitterSlot :=
  let s := jb.slot jb.headSeq
  if s.seq ≠ jb.headSeq then (jb.passHead, .noData, none)
  else if !jb.due nowMs s then (jb, .noData, none)
  else if bufLen < s.data.length then (jb, .bufferTooSmall, none)
  else (jb.passHead, .ok, some s)

/-- `jitter_pop`, with the slot whose data and timestamp are copied out. -/
def jitterPop (jb : NanoJitter) (nowMs : UInt32) (bufLen : Nat) :
    NanoJitter × Rc × Option JitterSlot :=
  if !jb.started then (jb, .noData, none)
  else if (jb.slot jb.headSeq).occupied then jitterPopHead jb nowMs bufLen
  else
    match jitterSkip jb nowMs with
    | none => (jb, .noData, none)
    | some jb => jitterPopHead jb nowMs bufLen

/-- `jitter_next_timeout_ms`. -/
def jitterNextTimeoutMs (jb : NanoJitter) (nowMs : UInt32) : UInt32 :=
  if !jb.started then 0xFFFFFFFF
  else
    match (List.range jitterSlots).find? jb.holds with
    | none => 0xFFFFFFFF
    | some i =>
      let elapsed := nowMs - (jb.slot (jb.headSeq + UInt16.ofNat i)).arrivalMs
      if elapsed ≥ jb.depthMs then 0 else jb.depthMs - elapsed

end Nanortc.Native
