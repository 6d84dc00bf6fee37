import Nanortc.Native.SctpCodec

/-!
# SCTP receive pool

The receive side of `nano_sctp.c`: the descriptor table that holds payloads, gap-ACK markers and
delivery state, the byte pool behind it, and the functions that compact, merge and deliver. The
receive state of `nano_sctp_t` is a structure of its own. Offsets and lengths are 16-bit words in
the source; the sums that could pass 2¹⁶ are taken modulo it.
-/

namespace Nanortc.Native

open Nanortc.ForStd

/-- `NANORTC_SCTP_MAX_RECV_GAP`. -/
def sctpMaxRecvGap : Nat := 8

/-- `NANORTC_SCTP_RECV_GAP_BUF_SIZE`. -/
def sctpRecvGapBufSize : Nat := 4096

/-- `NANORTC_SCTP_MAX_MESSAGE_SIZE`. -/
def sctpMaxMessageSize : Nat := 4096

/-- `NANORTC_MAX_DATACHANNELS`. -/
def maxDatachannels : Nat := 8

/-- `nano_sctp_rx_entry_t`. -/
structure RxEntry where
  tsn : UInt32 := 0
  ppid : UInt32 := 0
  dataOffset : Nat := 0
  dataLen : Nat := 0
  streamId : UInt16 := 0
  ssn : UInt16 := 0
  flags : UInt8 := 0
  delivered : Bool := false
  valid : Bool := false
  forwarded : Bool := false
deriving Repr, DecidableEq

/-- Index of a descriptor. -/
abbrev RxSlot := Fin sctpMaxRecvGap

/-- One stream of `stream_ids`, `next_ssn` and `recv_ssn`. -/
structure SctpStream where
  id : UInt16
  nextSsn : UInt16 := 0
  recvSsn : UInt16 := 0
deriving Repr, DecidableEq, Inhabited

/-- The receive state of `nano_sctp_t`. -/
structure SctpRecv where
  cumulativeTsn : UInt32 := 0
  sackNeeded : Bool := false
  recvGap : Vector RxEntry sctpMaxRecvGap := .replicate _ {}
  recvGapCount : Nat := 0
  recvGapBuf : List UInt8 := List.replicate sctpRecvGapBufSize 0
  recvGapBufUsed : Nat := 0
deriving DecidableEq

/-- A descriptor. -/
def SctpRecv.rx (r : SctpRecv) (i : RxSlot) : RxEntry := r.recvGap[i]

/-- One descriptor replaced. -/
def SctpRecv.setRx (r : SctpRecv) (i : RxSlot) (e : RxEntry) : SctpRecv :=
  { r with recvGap := r.recvGap.set i e }

/-- Every descriptor updated. -/
def SctpRecv.mapRx (r : SctpRecv) (f : RxSlot → RxEntry → RxEntry) : SctpRecv :=
  { r with recvGap := .ofFn fun i => f i (r.rx i) }

@[simp] theorem SctpRecv.rx_setRx (r : SctpRecv) (i j : RxSlot) (e : RxEntry) :
    (r.setRx i e).rx j = if i = j then e else r.rx j := by
  simp [rx, setRx, Vector.getElem_set, Fin.ext_iff]

@[simp] theorem SctpRecv.rx_mapRx (r : SctpRecv) (f : RxSlot → RxEntry → RxEntry) (j : RxSlot) :
    (r.mapRx f).rx j = f j (r.rx j) := by
  simp [rx, mapRx]

/-- The index of the first descriptor that satisfies `p`. -/
def SctpRecv.find (r : SctpRecv) (p : RxEntry → Bool) : Option RxSlot :=
  (List.finRange sctpMaxRecvGap).find? fun i => p (r.rx i)

/-- `nsctp_stream`: the index of a stream, which a new stream is given while there is room. -/
def nsctpStream (streams : List SctpStream) (sid : UInt16) : List SctpStream × Option Nat :=
  match streams.findIdx? (·.id == sid) with
  | some i => (streams, some i)
  | none =>
    if streams.length = maxDatachannels then (streams, none)
    else (streams ++ [{ id := sid }], some streams.length)

/-! ### Compaction -/

/-- `memmove(buf + dst, buf + src, n)`. -/
def moveBytes (buf : List UInt8) (dst src n : Nat) : List UInt8 :=
  writeAt buf dst ((buf.drop src).take n)

/-- A 16-bit difference. -/
def sub16 (a n : Nat) : Nat := (a + (65536 - n % 65536)) % 65536

/-- The bytes of a descriptor taken out of the pool; the descriptors behind them move up. -/
def nsctpRxDrop (r : SctpRecv) (i : RxSlot) : SctpRecv :=
  let n := (r.rx i).dataLen
  let off := (r.rx i).dataOffset
  let r := { r with
    recvGapBuf := moveBytes r.recvGapBuf off (off + n) (r.recvGapBufUsed - off - n)
    recvGapBufUsed := sub16 r.recvGapBufUsed n
    sackNeeded := true }
  let r := r.mapRx fun _ e =>
    if e.valid ∧ e.dataOffset > off then { e with dataOffset := sub16 e.dataOffset n } else e
  r.setRx i { r.rx i with dataLen := 0 }

/-- The turn of `nsctp_rx_reclaim` for one descriptor. -/
def nsctpRxReclaimSlot (r : SctpRecv) (i : RxSlot) : SctpRecv :=
  if !(r.rx i).valid || !(r.rx i).delivered then r
  else
    let r := if (r.rx i).dataLen ≠ 0 then nsctpRxDrop r i else r
    if i32 ((r.rx i).tsn - r.cumulativeTsn) ≤ 0 then
      { r.setRx i { r.rx i with valid := false } with recvGapCount := r.recvGapCount - 1 }
    else r

/-- `nsctp_rx_reclaim`. -/
def nsctpRxReclaim (r : SctpRecv) : SctpRecv :=
  (List.finRange sctpMaxRecvGap).foldl nsctpRxReclaimSlot r

/-- The loop of `nsctp_gap_drain`, at most `turns` times. -/
def nsctpGapDrainLoop : (turns : Nat) → SctpRecv → SctpRecv
  | 0, r => r
  | turns + 1, r =>
    match r.find fun e => e.valid && e.tsn == r.cumulativeTsn + 1 with
    | some _ => nsctpGapDrainLoop turns { r with cumulativeTsn := r.cumulativeTsn + 1 }
    | none => r

/-- `nsctp_gap_drain`; every turn passes the TSN of another descriptor. -/
def nsctpGapDrain (r : SctpRecv) : SctpRecv :=
  nsctpRxReclaim (nsctpGapDrainLoop sctpMaxRecvGap r)

/-! ### Assembly -/

/-- `nsctp_reverse` of the `n` bytes from `pos` on. -/
def nsctpReverse (buf : List UInt8) (pos n : Nat) : List UInt8 :=
  writeAt buf pos ((buf.drop pos).take n).reverse

/-- `nsctp_rx_move`: the bytes of a descriptor rotated to `pos`. -/
def nsctpRxMove (r : SctpRecv) (slot : RxSlot) (pos : Nat) : SctpRecv :=
  let off := (r.rx slot).dataOffset
  let n := (r.rx slot).dataLen
  if off = pos ∨ n = 0 then r
  else
    let buf := nsctpReverse r.recvGapBuf pos (off - pos)
    let buf := nsctpReverse buf off n
    let buf := nsctpReverse buf pos (off - pos + n)
    let r := { r with recvGapBuf := buf }
    let r := r.mapRx fun j e =>
      if e.valid ∧ j ≠ slot ∧ e.dataOffset ≥ pos ∧ e.dataOffset < off then
        { e with dataOffset := (e.dataOffset + n) % 65536 }
      else e
    r.setRx slot { r.rx slot with dataOffset := pos }

/-- `nsctp_fragments_follow`. -/
def nsctpFragmentsFollow (a b : RxEntry) : Bool :=
  b.tsn == a.tsn + 1 && a.streamId == b.streamId && a.ssn == b.ssn && a.ppid == b.ppid &&
    !hasFlag (a.flags ^^^ b.flags) sctpDataFlagUnordered && !hasFlag a.flags sctpDataFlagEnd &&
    !hasFlag b.flags sctpDataFlagBegin

/-- `b` is a cumulatively acknowledged continuation of `a`. -/
def nsctpRxJoinable (cumulativeTsn : UInt32) (a b : RxEntry) : Bool :=
  a.valid && !a.delivered && b.valid && !b.delivered && i32 (b.tsn - cumulativeTsn) ≤ 0 &&
    nsctpFragmentsFollow a b

/-- The first pair of descriptors that `nsctp_rx_merge` joins. -/
def nsctpRxFindJoin (r : SctpRecv) : Option (RxSlot × RxSlot) :=
  (List.finRange sctpMaxRecvGap).findSome? fun i =>
    ((List.finRange sctpMaxRecvGap).find? fun j =>
      nsctpRxJoinable r.cumulativeTsn (r.rx i) (r.rx j)).map fun j => (i, j)

/-- Both fragments of a join moved to the front of the pool, one behind the other. -/
def nsctpRxAlign (r : SctpRecv) (i j : RxSlot) : SctpRecv :=
  let r := nsctpRxMove r i 0
  nsctpRxMove r j (r.rx i).dataLen

/-- The descriptor `i` takes over the bytes of the descriptor `j` behind its own, which is freed. -/
def nsctpRxTakeOver (r : SctpRecv) (i j : RxSlot) : SctpRecv :=
  let a := r.rx i
  let b := r.rx j
  let r := r.setRx i { a with
    dataLen := a.dataLen + b.dataLen
    tsn := b.tsn
    flags := a.flags ||| (b.flags &&& sctpDataFlagEnd)
    forwarded := a.forwarded || b.forwarded }
  { r.setRx j { b with valid := false } with recvGapCount := r.recvGapCount - 1 }

/-- One join of `nsctp_rx_merge`: the fragment `j` appended to the fragment `i`. -/
def nsctpRxJoin (r : SctpRecv) (i j : RxSlot) : SctpRecv :=
  nsctpRxTakeOver (nsctpRxAlign r i j) i j

/-- The loop of `nsctp_rx_merge`, at most `turns` times. -/
def nsctpRxMergeLoop : (turns : Nat) → SctpRecv → SctpRecv × Rc
  | 0, r => (r, .ok)
  | turns + 1, r =>
    match nsctpRxFindJoin r with
    | none => (r, .ok)
    | some (i, j) =>
      if (r.rx i).dataLen + (r.rx j).dataLen > sctpMaxMessageSize then (r, .bufferTooSmall)
      else nsctpRxMergeLoop turns (nsctpRxJoin r i j)

/-- `nsctp_rx_merge`; every join frees a descriptor. -/
def nsctpRxMerge (r : SctpRecv) : SctpRecv × Rc := nsctpRxMergeLoop sctpMaxRecvGap r

/-! ### Delivery -/

/-- `nano_sctp_message_t`, with the bytes of the view at the time of the call. -/
structure SctpMessage where
  data : List UInt8
  ppid : UInt32
  streamId : UInt16
deriving Repr, DecidableEq

/-- The descriptors of a message from TSN `tsn` on, as far as `nsctp_poll_delivery` gathers them;
`parts` is newest first, and `none` is a message that is not complete. -/
def nsctpGatherParts (r : SctpRecv) :
    (turns : Nat) → UInt32 → List RxSlot → Nat → Except Rc (Option (List RxSlot))
  | 0, _, _, _ => .ok none
  | turns + 1, tsn, parts, total =>
    match r.find fun e => e.valid && !e.delivered && e.tsn == tsn with
    | none => .ok none
    | some j =>
      if (parts.head?.any fun p => !nsctpFragmentsFollow (r.rx p) (r.rx j)) then .error .protocol
      else if (r.rx j).dataLen > sctpMaxMessageSize - total then .error .bufferTooSmall
      else if hasFlag (r.rx j).flags sctpDataFlagEnd then .ok (some (j :: parts).reverse)
      else nsctpGatherParts r turns (tsn + 1) (j :: parts) (total + (r.rx j).dataLen)

/-- The parts of a message moved to the front of the pool one after the other and marked as
delivered; the result has their total length. -/
def nsctpAssemble (r : SctpRecv) (parts : List RxSlot) : SctpRecv × Nat :=
  parts.foldl (fun (r, pos) j =>
    let r := nsctpRxMove r j pos
    (r.setRx j { r.rx j with delivered := true }, pos + (r.rx j).dataLen)) (r, 0)

/-- An ordered message of the stream was skipped by the sender and comes first. -/
def nsctpRxEarlier (r : SctpRecv) (e : RxEntry) : Bool :=
  !hasFlag e.flags sctpDataFlagUnordered &&
    (List.finRange sctpMaxRecvGap).any fun j =>
      (r.rx j).valid && !(r.rx j).delivered && (r.rx j).streamId == e.streamId &&
        (r.rx j).forwarded && i16 ((r.rx j).ssn - e.ssn) < 0

/-- The turns of `nsctp_poll_delivery` for the given descriptors. -/
def nsctpPollSlots (r : SctpRecv) (streams : List SctpStream) :
    List RxSlot → SctpRecv × List SctpStream × Except Rc SctpMessage
  | [] => (r, streams, .error .wouldBlock)
  | i :: slots =>
    let e := r.rx i
    if !e.valid || e.delivered || !hasFlag e.flags sctpDataFlagBegin then
      nsctpPollSlots r streams slots
    else
      let (streams, stream) := nsctpStream streams e.streamId
      let unordered := hasFlag e.flags sctpDataFlagUnordered
      match stream with
      | none => nsctpPollSlots r streams slots
      | some k =>
        let inOrder := !unordered && !e.forwarded
        if inOrder ∧ e.ssn ≠ (streams.getD k default).recvSsn then nsctpPollSlots r streams slots
        else if nsctpRxEarlier r e then nsctpPollSlots r streams slots
        else
          match nsctpGatherParts r sctpMaxRecvGap e.tsn [] 0 with
          | .error rc => (r, streams, .error rc)
          | .ok none => nsctpPollSlots r streams slots
          | .ok (some parts) =>
            let (r, total) := nsctpAssemble r parts
            let message : SctpMessage := ⟨r.recvGapBuf.take total, e.ppid, e.streamId⟩
            let s := streams.getD k default
            let streams :=
              if inOrder then streams.set k { s with recvSsn := s.recvSsn + 1 } else streams
            (r, streams, .ok message)

/-! ### Admission -/

/-- What `nsctp_handle_data_chunk` does with a DATA chunk: it is known already, refused, or stored
in a descriptor. -/
inductive Admission where
  | duplicate
  | refused (rc : Rc)
  | store (slot : RxSlot)
deriving Repr, DecidableEq

/-- The descriptor built for a DATA chunk. -/
def nsctpIncoming (d : NsctpData) : RxEntry where
  tsn := d.tsn
  ppid := d.ppid
  streamId := d.streamId
  ssn := d.ssn
  dataLen := d.payload.length
  valid := true
  flags := d.flags &&& (sctpDataFlagBegin ||| sctpDataFlagEnd ||| sctpDataFlagUnordered)

/-- The last free descriptor. -/
def nsctpFreeSlot (r : SctpRecv) : Option RxSlot :=
  (List.finRange sctpMaxRecvGap).foldl (fun slot i => if (r.rx i).valid then slot else some i) none

/-- The fragmentation check of `nsctp_handle_data_chunk` against every unfinished fragment right
before the chunk. -/
def nsctpCheckFragment (r : SctpRecv) (incoming : RxEntry) : Rc :=
  if hasFlag incoming.flags sctpDataFlagBegin then .ok
  else
    match r.find fun e => e.valid && !e.delivered && !hasFlag e.flags sctpDataFlagEnd &&
        e.tsn + 1 == incoming.tsn && (!nsctpFragmentsFollow e incoming ||
          incoming.dataLen > sctpMaxMessageSize - e.dataLen) with
    | none => .ok
    | some i => if nsctpFragmentsFollow (r.rx i) incoming then .bufferTooSmall else .protocol

/-- There is no room for the chunk: out-of-order data must leave a descriptor and a packet's bytes
free. -/
def nsctpRxFull (r : SctpRecv) (d : NsctpData) : Bool :=
  let gap := d.tsn != r.cumulativeTsn + 1
  let reserve := if gap then sctpMtu - 28 else 0
  let freeBytes := sctpRecvGapBufSize - r.recvGapBufUsed
  (gap && r.recvGapCount ≥ sctpMaxRecvGap - 1) || freeBytes < reserve ||
    d.payload.length > freeBytes - reserve

/-- The checks of `nsctp_handle_data_chunk` after the compaction, with the stream table they leave
behind. -/
def nsctpAdmit (r : SctpRecv) (streams : List SctpStream) (d : NsctpData) :
    List SctpStream × Admission :=
  if (r.find fun e => e.valid && e.tsn == d.tsn).isSome then (streams, .duplicate)
  else
    match nsctpCheckFragment r (nsctpIncoming d) with
    | .ok =>
      match nsctpFreeSlot r with
      | none => (streams, .refused .wouldBlock)
      | some slot =>
        if nsctpRxFull r d then (streams, .refused .wouldBlock)
        else
          match nsctpStream streams d.streamId with
          | (streams, none) => (streams, .refused .protocol)
          | (streams, some _) => (streams, .store slot)
    | rc => (streams, .refused rc)

/-- The chunk written to the end of the pool and its descriptor to a free slot. -/
def nsctpStore (r : SctpRecv) (slot : RxSlot) (d : NsctpData) : SctpRecv :=
  let r := r.setRx slot { nsctpIncoming d with dataOffset := r.recvGapBufUsed }
  { r with
    recvGapBuf := writeAt r.recvGapBuf r.recvGapBufUsed d.payload
    recvGapBufUsed := r.recvGapBufUsed + d.payload.length
    recvGapCount := r.recvGapCount + 1 }

end Nanortc.Native
