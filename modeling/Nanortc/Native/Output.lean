import Nanortc.Native.Ice
import Nanortc.Native.Srtp
import Nanortc.Native.Turn

/-!
# Output queue

The connection object, its output queue and the storage its entries point into, after `nano_rtc.c`:
the ring of queued outputs, the transmit slots, and the poll that wraps relayed datagrams for the
TURN server. A pointer into a buffer of the connection is the buffer's name; a set of busy bits is
a flag in each slot. The sizes are those of the default configuration.
-/

namespace Nanortc.Native

open Nanortc.ForStd

/-- `NANORTC_OUT_QUEUE_SIZE`. -/
def outQueueSize : Nat := 32

/-- `NANORTC_TX_SLOT_COUNT`. -/
def txSlotCount : Nat := 4

/-- `NANORTC_TX_SLOT_SIZE`. -/
def txSlotSize : Nat := 2048

/-- `NANORTC_MEDIA_BUF_SIZE`. -/
def mediaBufSize : Nat := 1232

/-- `NANORTC_TURN_BUF_SIZE`. -/
def turnBufSize : Nat := mediaBufSize + 48

/-- `NANORTC_VIDEO_PKT_RING_SIZE`. -/
def pktRingSize : Nat := 32

/-- `NANORTC_NACK_RETX_RING`. -/
def nackRetxRing : Nat := 4

/-- `NANORTC_FEC_TX_RING`. -/
def fecTxRing : Nat := 4

/-- `NANORTC_PACING_MAX_BURST_BYTES`. -/
def pacingMaxBurstBytes : UInt32 := 3000

/-- The buffer a queued datagram points to. -/
inductive Backing where
  | txSlot (i : Nat)
  | pktRing (i : Nat)
  | nackRetx (i : Nat)
  | fecTx (i : Nat)
deriving Repr, DecidableEq, Inhabited

/-- One buffer with its lifetime bit; `freeAt` is the head cursor that frees it. -/
structure BackingSlot where
  buf : List UInt8 := []
  freeAt : UInt16 := 0
  inUse : Bool := false
deriving Repr, DecidableEq, Inhabited

/-- `transmit` of `nanortc_output_t`. -/
structure Transmit where
  data : Backing
  len : Nat
  dest : NanortcAddr
  src : NanortcAddr
deriving Repr, DecidableEq, Inhabited

/-- `nanortc_output_t`; of an event the queue needs nothing but its type and key. -/
inductive NanortcOutput where
  | transmit (t : Transmit)
  | event (type key : Nat)
deriving Repr, DecidableEq, Inhabited

/-- One entry of `out_wrap_meta`. -/
structure WrapMeta where
  viaTurn : Bool
  peerDest : NanortcAddr
deriving Repr, DecidableEq, Inhabited

/-- `nano_pacer_t`. -/
structure NanoPacer where
  head : UInt16 := 0
  tail : UInt16 := 0
  budgetBytes : UInt32 := pacingMaxBurstBytes
  lastRefillMs : UInt32 := 0
  refillInited : Bool := false
  nextReleaseMs : UInt32 := 0
  enqueueMs : List UInt32 := List.replicate pktRingSize 0
deriving Repr, DecidableEq

/-- One slot of `pkt_ring` with its entry of `pkt_ring_meta`. -/
structure PktSlot where
  buf : List UInt8 := []
  seq : UInt16 := 0
  len : Nat := 0
deriving Repr, DecidableEq, Inhabited

/-- `nanortc_t`, as far as the output path reads it. -/
structure NanoRtc where
  nowMs : UInt32
  ice : NanoIce
  turn : NanoTurn
  srtp : NanoSrtp
  remoteAddr : NanortcAddr
  stunServerConfigured : Bool
  stunServer : NanortcAddr
  srflxDiscovered : Bool
  stunTxid : List UInt8
  outQueue : List NanortcOutput
  outWrapMeta : List WrapMeta
  outHead : UInt16
  outTail : UInt16
  txSlots : List BackingSlot
  txSlotCursor : Nat
  pktRing : List PktSlot
  pktRingTail : UInt16
  nackRetx : List BackingSlot
  pacer : NanoPacer
  bweEstimate : UInt32
  bweLossQ8 : UInt16
  fecTx : List BackingSlot
  fecTxGrp : List (List UInt8)
  fecTxN : Nat
  fecTxSeq : UInt16
deriving Repr, DecidableEq

/-- The output state after `nanortc_init`. -/
def nanortcInit (isControlling : Bool) (maxSsrcMap : Nat) : NanoRtc where
  nowMs := 0
  ice := iceInit isControlling
  turn := turnInit
  srtp := nanoSrtpInit maxSsrcMap false
  remoteAddr := default
  stunServerConfigured := false
  stunServer := default
  srflxDiscovered := false
  stunTxid := List.replicate stunTxidSize 0
  outQueue := List.replicate outQueueSize default
  outWrapMeta := List.replicate outQueueSize default
  outHead := 0
  outTail := 0
  txSlots := List.replicate txSlotCount {}
  txSlotCursor := 0
  pktRing := List.replicate pktRingSize {}
  pktRingTail := 0
  nackRetx := List.replicate nackRetxRing {}
  pacer := {}
  bweEstimate := 0
  bweLossQ8 := 0
  fecTx := List.replicate fecTxRing {}
  fecTxGrp := List.replicate 8 []
  fecTxN := 0
  fecTxSeq := 0

/-! ### Enqueue -/

/-- Index of a cursor in the output queue. -/
def outSlot (cursor : UInt16) : Nat := cursor.toNat % outQueueSize

/-- `rtc_output_has_space`. -/
def rtcOutputHasSpace (rtc : NanoRtc) : Bool := (rtc.outTail - rtc.outHead).toNat < outQueueSize

/-- `rtc_enqueue_output`. -/
def rtcEnqueueOutput (rtc : NanoRtc) (out : NanortcOutput) : NanoRtc × Rc :=
  if (rtc.outTail - rtc.outHead).toNat ≥ outQueueSize then (rtc, .bufferTooSmall)
  else
    let slot := outSlot rtc.outTail
    let wrap := rtc.outWrapMeta.getD slot default
    ({ rtc with
      outQueue := rtc.outQueue.set slot out
      outWrapMeta := rtc.outWrapMeta.set slot { wrap with viaTurn := false }
      outTail := rtc.outTail + 1 }, .ok)

/-- `rtc_tx_route_t`. -/
inductive TxRoute where
  | direct
  | selected
  | forceTurn
deriving Repr, DecidableEq

/-- The source address of a datagram without an explicit one: that of the selected pair. -/
def rtcDefaultSrc (rtc : NanoRtc) : NanortcAddr :=
  if rtc.ice.selectedLocalFamily ≠ 0 then
    ⟨rtc.ice.selectedLocalFamily, rtc.ice.selectedLocalAddr, rtc.ice.selectedLocalPort⟩
  else ⟨0, List.replicate addrSize 0, 0⟩

/-- The datagram must go through the relay. -/
def rtcNeedsTurn (rtc : NanoRtc) (route : TxRoute) : Bool :=
  route ≠ .direct && rtc.turn.configured && rtc.turn.state == .allocated &&
    (route == .forceTurn || rtc.ice.selectedLocalType == .relay)

/-- `rtc_enqueue_transmit_ref`. -/
def rtcEnqueueTransmitRef (rtc : NanoRtc) (data : Backing) (len : Nat) (peerDest : NanortcAddr)
    (localSrc : Option NanortcAddr) (route : TxRoute) : NanoRtc × Rc :=
  let out : Transmit := ⟨data, len, peerDest, localSrc.getD (rtcDefaultSrc rtc)⟩
  let slot := outSlot rtc.outTail
  match rtcEnqueueOutput rtc (.transmit out) with
  | (rtc, .ok) =>
    if rtcNeedsTurn rtc route then
      ({ rtc with outWrapMeta := rtc.outWrapMeta.set slot ⟨true, peerDest⟩ }, .ok)
    else (rtc, .ok)
  | r => r

/-- `nano_rtc_enqueue_transmit`. -/
def nanoRtcEnqueueTransmit (rtc : NanoRtc) (data : Backing) (len : Nat) (peerDest : NanortcAddr)
    (forceViaTurn : Bool) : NanoRtc × Rc :=
  rtcEnqueueTransmitRef rtc data len peerDest none (if forceViaTurn then .forceTurn else .selected)

/-! ### Transmit slots -/

/-- `nano_rtc_tx_slot_acquire`: the first free slot from the cursor on. -/
def nanoRtcTxSlotAcquire (rtc : NanoRtc) : NanoRtc × Except Rc Nat :=
  if !rtcOutputHasSpace rtc then (rtc, .error .wouldBlock)
  else
    let order := (List.range txSlotCount).map fun n => (rtc.txSlotCursor + n) % txSlotCount
    match order.find? fun i => !(rtc.txSlots.getD i default).inUse with
    | some i => ({ rtc with txSlotCursor := (i + 1) % txSlotCount }, .ok i)
    | none => (rtc, .error .wouldBlock)

/-- The slot marked busy until the head cursor reaches the tail cursor of now. -/
def BackingSlot.hold (s : BackingSlot) (freeAt : UInt16) : BackingSlot :=
  { s with freeAt := freeAt, inUse := true }

/-- `rtc_tx_slot_commit_route`. -/
def rtcTxSlotCommitRoute (rtc : NanoRtc) (slot len : Nat) (peerDest : NanortcAddr)
    (localSrc : Option NanortcAddr) (route : TxRoute) : NanoRtc × Rc :=
  if slot ≥ txSlotCount ∨ len > txSlotSize then (rtc, .invalidParam)
  else if (rtc.txSlots.getD slot default).inUse then (rtc, .state)
  else
    match rtcEnqueueTransmitRef rtc (.txSlot slot) len peerDest localSrc route with
    | (rtc, .ok) =>
      let s := rtc.txSlots.getD slot default
      ({ rtc with txSlots := rtc.txSlots.set slot (s.hold rtc.outTail) }, .ok)
    | (rtc, .bufferTooSmall) => (rtc, .wouldBlock)
    | r => r

/-- `nano_rtc_tx_slot_commit`. -/
def nanoRtcTxSlotCommit (rtc : NanoRtc) (slot len : Nat) (peerDest : NanortcAddr)
    (forceViaTurn : Bool) : NanoRtc × Rc :=
  rtcTxSlotCommitRoute rtc slot len peerDest none (if forceViaTurn then .forceTurn else .selected)

/-- `rtc_tx_slot_commit_direct`. -/
def rtcTxSlotCommitDirect (rtc : NanoRtc) (slot len : Nat) (dest : NanortcAddr)
    (localSrc : Option NanortcAddr) : NanoRtc × Rc :=
  rtcTxSlotCommitRoute rtc slot len dest localSrc .direct

/-! ### Poll -/

/-- The slot freed if the head cursor is the one it waits for. -/
def BackingSlot.release (s : BackingSlot) (head : UInt16) : BackingSlot :=
  if s.inUse ∧ s.freeAt = head then { s with inUse := false } else s

/-- `rtc_release_output_backing`. -/
def rtcReleaseOutputBacking (rtc : NanoRtc) : NanoRtc :=
  { rtc with
    txSlots := rtc.txSlots.map (·.release rtc.outHead)
    nackRetx := rtc.nackRetx.map (·.release rtc.outHead)
    fecTx := rtc.fecTx.map (·.release rtc.outHead) }

/-- The bytes of a buffer. -/
def NanoRtc.bytes (rtc : NanoRtc) : Backing → List UInt8
  | .txSlot i => (rtc.txSlots.getD i default).buf
  | .pktRing i => (rtc.pktRing.getD i default).buf
  | .nackRetx i => (rtc.nackRetx.getD i default).buf
  | .fecTx i => (rtc.fecTx.getD i default).buf

/-- What `rtc_poll_queued_output` hands out. -/
inductive PolledOutput where
  | transmit (data : List UInt8) (dest src : NanortcAddr)
  | event (type key : Nat)
deriving Repr, DecidableEq

/-- The lazy wrap: ChannelData when a channel is bound for the peer, else a Send indication. -/
def rtcWrapTurn (turn : NanoTurn) (peer : NanortcAddr) (payload : List UInt8) :
    Except Rc (List UInt8) :=
  match turnFindChannelForPeer turn peer with
  | some channel => nanoTurnWrapChannelData channel payload turnBufSize
  | none => turnWrapSend peer payload turnBufSize

/-- Destination of a wrapped datagram. -/
def rtcWrapDest (turn : NanoTurn) : NanortcAddr :=
  ⟨if turn.serverFamily = stunFamilyIpv4 then 4 else 6, turn.serverAddr, turn.serverPort⟩

/-- What the queue entry at the head is polled as; `none` is a datagram whose wrap fails. -/
def rtcPollHead (rtc : NanoRtc) : Option PolledOutput :=
  let slot := outSlot rtc.outHead
  let wrap := rtc.outWrapMeta.getD slot default
  match rtc.outQueue.getD slot default with
  | .event type key => some (.event type key)
  | .transmit t =>
    let data := (rtc.bytes t.data).take t.len
    if wrap.viaTurn then
      match rtcWrapTurn rtc.turn wrap.peerDest data with
      | .error _ => none
      | .ok wrapped =>
        some (.transmit wrapped (rtcWrapDest rtc.turn) ⟨0, List.replicate addrSize 0, 0⟩)
    else some (.transmit data t.dest t.src)

/-- The head entry taken off the queue, its buffer freed. -/
def rtcAdvanceHead (rtc : NanoRtc) : NanoRtc :=
  rtcReleaseOutputBacking { rtc with outHead := rtc.outHead + 1 }

/-- The loop of `rtc_poll_queued_output`, at most `turns` times. -/
def rtcPollQueuedLoop : Nat → NanoRtc → NanoRtc × Option PolledOutput
  | 0, rtc => (rtc, none)
  | turns + 1, rtc =>
    if rtc.outHead = rtc.outTail then (rtc, none)
    else
      match rtcPollHead rtc with
      | some out => (rtcAdvanceHead rtc, some out)
      | none => rtcPollQueuedLoop turns (rtcAdvanceHead rtc)

/-- `rtc_poll_queued_output`; the loop ends after as many turns as the queue has entries. -/
def rtcPollQueuedOutput (rtc : NanoRtc) : NanoRtc × Option PolledOutput :=
  rtcPollQueuedLoop (rtc.outTail - rtc.outHead).toNat rtc

/-- Where the TURN work of `rtc_process_timers` sends its own requests. -/
def rtcTurnServerAddr (turn : NanoTurn) : NanortcAddr :=
  ⟨turn.serverFamily, turn.serverAddr, turn.serverPort⟩

/-! ### Receive -/

/-- The relayed datagram inside a datagram of the TURN server, with the address it is passed on
under; `consumed` is a ChannelData datagram without one. -/
inductive RelayedInput where
  | inner (payload : List UInt8) (src : NanortcAddr)
  | consumed
  | other
deriving Repr, DecidableEq

/-- The address a relayed datagram is passed on under. -/
def rtcPeerSrc (family : UInt8) (addr : List UInt8) (port : UInt16) : NanortcAddr :=
  ⟨if family = stunFamilyIpv4 then 4 else 6, addr, port⟩

/-- The datagram answers the pending server-reflexive request. -/
def rtcSrflxPending (rtc : NanoRtc) (data : List UInt8) (src : NanortcAddr) : Bool :=
  rtc.stunServerConfigured && !rtc.srflxDiscovered && src.family == rtc.stunServer.family &&
    src.port == rtc.stunServer.port && addrEq src.family src.addr rtc.stunServer.addr &&
    decide (stunHeaderSize ≤ data.length) && readU16be data 0 == stunBindingResponse &&
    (data.drop 8).take stunTxidSize == rtc.stunTxid

/-- The head of `rtc_process_receive`: ChannelData and Data indications from the TURN server. -/
def rtcUnwrapRelayed (rtc : NanoRtc) (data : List UInt8) (src : NanortcAddr) : RelayedInput :=
  if turnIsChannelData data ∧ turnIsFromServer rtc.turn src then
    match turnUnwrapChannelData data with
    | .error _ => .consumed
    | .ok (channel, payload) =>
      match turnFindPeerForChannel rtc.turn channel with
      | none => .consumed
      | some peer => .inner payload (rtcPeerSrc peer.family peer.addr peer.port)
  else if byteAt data 0 ≤ 3 ∧ !rtcSrflxPending rtc data src ∧ turnIsFromServer rtc.turn src then
    match turnUnwrapData data with
    | .error _ => .other
    | .ok (peer, payload) => .inner payload (rtcPeerSrc peer.family peer.addr peer.port)
  else .other

/-- What `rtc_process_receive` does with a datagram that carries no relayed one: STUN, DTLS, RTP
and RTCP processing. -/
abbrev ReceiveRest := NanoRtc → List UInt8 → NanortcAddr → Nat → Bool → NanoRtc × Rc

/-- `rtc_process_receive`, at most `depth` relayed datagrams deep. -/
def rtcProcessReceiveDepth (rest : ReceiveRest) (rtc : NanoRtc) :
    Nat → List UInt8 → NanortcAddr → Nat → Bool → NanoRtc × Rc
  | 0, data, src, localIdx, viaTurn => rest rtc data src localIdx viaTurn
  | depth + 1, data, src, localIdx, viaTurn =>
    match rtcUnwrapRelayed rtc data src with
    | .inner payload peer => rtcProcessReceiveDepth rest rtc depth payload peer localIdx true
    | .consumed => (rtc, .ok)
    | .other => rest rtc data src localIdx viaTurn

/-- `rtc_process_receive`. A relayed datagram is shorter than the one that carries it, so the
length bounds the depth. -/
def rtcProcessReceive (rest : ReceiveRest) (rtc : NanoRtc) (data : List UInt8)
    (src : NanortcAddr) (localIdx : Nat) (viaTurn : Bool) : NanoRtc × Rc :=
  rtcProcessReceiveDepth rest rtc (data.length + 1) data src localIdx viaTurn

end Nanortc.Native
