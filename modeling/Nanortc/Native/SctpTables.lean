import Nanortc.ForStd.CellRing
import Nanortc.Native.Sctp

/-!
# SCTP tables of any configured size

The send queue, the output ring and the receive-gap table of `nano_sctp.c` with their `uint8_t`
cursors, counts and loop indices, for the sizes of a build configuration. The association model
has lists in their place; here the 8-bit arithmetic is kept and the sizes are parameters.
-/

namespace Nanortc.Native

open Nanortc.ForStd

/-- The table sizes of a build configuration. -/
structure SctpSizes where
  /-- `NANORTC_SCTP_MAX_SEND_QUEUE` -/
  maxSendQueue : Nat
  /-- `NANORTC_SCTP_MAX_RECV_GAP` -/
  maxRecvGap : Nat
  /-- `NANORTC_SCTP_OUT_QUEUE_SIZE` -/
  outQueueSize : Nat
deriving Repr, DecidableEq

/-- The defaults of `nanortc_config.h`. -/
def SctpSizes.default : SctpSizes := ⟨sctpMaxSendQueue, sctpMaxRecvGap, sctpOutQueueSize⟩

/-- The check of `nanortc_config.h` for a table size. -/
def tableSizeOk (n : Nat) : Bool := !(n < 2 || n &&& (n - 1) != 0)

/-- What `nanortc_config.h` checks of the sizes. The output ring has no check of its own; an array
has at least one element. -/
def SctpSizes.passesChecks (s : SctpSizes) : Bool :=
  tableSizeOk s.maxSendQueue && tableSizeOk s.maxRecvGap && 0 < s.outQueueSize

/-! ### Rings -/

/-- What the association does to its send queue or its output ring. -/
inductive RingCall (α : Type) where
  /-- `nsctp_send_options`: the fragments of a message -/
  | send (xs : List α)
  /-- `nsctp_queue_output`: a packet -/
  | queue (x : α)
  /-- an entry at the head that is acknowledged or polled -/
  | release
  /-- an entry changed in place by a loop from the head -/
  | mark (k : Nat) (f : α → α)

section

variable {α : Type} (size : Nat)

/-- `sq_count`. -/
def sqCount (r : CellRing α) : UInt8 := r.count

/-- The room check of `nsctp_send_options` for `n` fragments. -/
def nsctpSendRoom (r : CellRing α) (n : Nat) : Bool := !(n > size || n > size - (sqCount r).toNat)

/-- `nsctp_out_full`. -/
def nsctpRingFull (r : CellRing α) : Bool := r.count.toNat ≥ size

/-- One call. -/
def ringCall (r : CellRing α) : RingCall α → CellRing α
  | .send xs => if nsctpSendRoom size r xs.length then xs.foldl (CellRing.push size) r else r
  | .queue x => if nsctpRingFull size r then r else r.push size x
  | .release => if r.head ≠ r.tail then r.pop else r
  | .mark k f => if k < r.count.toNat then r.modify size (r.head + UInt8.ofNat k) f else r

end

/-! ### Receive-gap table -/

/-- `recv_gap` and `recv_gap_count`. -/
structure GapTable where
  recvGap : Nat → RxEntry
  recvGapCount : UInt8

/-- The table of a new association. -/
def GapTable.init : GapTable := ⟨fun _ => {}, 0⟩

/-- What the slot search of `nsctp_handle_data_chunk` has found. -/
structure SlotSearch where
  slot : UInt8
  duplicate : Bool := false
deriving DecidableEq

/-- One turn of the slot search: a descriptor with the chunk's TSN ends it, a free one is noted. -/
def nsctpSlotTurn (t : GapTable) (tsn : UInt32) (i : UInt8) (found : SlotSearch) :
    LoopFlow SlotSearch :=
  let e := t.recvGap i.toNat
  if e.valid && e.tsn == tsn then .leave { found with duplicate := true }
  else if !e.valid then .next { found with slot := i }
  else .next found

/-- `for (uint8_t i = 0; i < NANORTC_SCTP_MAX_RECV_GAP; i++)`: the condition of every loop over the
table. -/
def belowGap (size : Nat) (i : UInt8) : Bool := i.toNat < size

/-- The slot search of `nsctp_handle_data_chunk`, for at most `turns` turns. -/
def nsctpFindSlot (size turns : Nat) (t : GapTable) (tsn : UInt32) : Option SlotSearch :=
  forLoop (belowGap size) (nsctpSlotTurn t tsn) turns 0 ⟨UInt8.ofNat size, false⟩

/-- What the association does to the descriptors. -/
inductive GapCall where
  /-- `nsctp_handle_data_chunk`: a chunk, in order or behind a gap -/
  | data (gap : Bool) (e : RxEntry)
  /-- a descriptor freed by `nsctp_rx_reclaim` or `nsctp_rx_merge` -/
  | free (i : Nat)

/-- One call; a search that does not end changes nothing. -/
def gapCall (size : Nat) (t : GapTable) : GapCall → GapTable
  | .data gap e =>
    match nsctpFindSlot size 256 t e.tsn with
    | none => t
    | some found =>
      if found.duplicate || found.slot.toNat == size ||
          (gap && t.recvGapCount.toNat ≥ size - 1) then t
      else
        { recvGap := Function.update t.recvGap found.slot.toNat { e with valid := true }
          recvGapCount := t.recvGapCount + 1 }
  | .free i =>
    if i < size ∧ (t.recvGap i).valid then
      { recvGap := Function.update t.recvGap i { t.recvGap i with valid := false }
        recvGapCount := t.recvGapCount - 1 }
    else t

end Nanortc.Native
