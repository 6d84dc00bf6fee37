import Nanortc.Native.Nack
import Nanortc.Spec.MediaSend
import Nanortc.Spec.OutputFifo
import Nanortc.Spec.SrtpRoundTrip

/-!
# Runs of the output queue

The functions that queue outputs, in any order, with polls and releases of the pacer between them
and anything else happening to the rest of the connection. A trace notes each content as it stands
when it is queued, each packet as it stands when it is put into the ring, and what is polled. What
is polled are the contents noted, in order, each once; the packets pass through the pacer in order.

## Key results

- `sendFragment_moves`: a fragment of a video frame, with its parity packet if one is due
- `tracedFrame_traced`: a frame that is admitted never runs over a packet that is still needed
- `output_fifo`: contents and packets of a run
-/

namespace Nanortc.Spec

open Nanortc.ForStd Nanortc.Native

variable {w : Nat} {rtc : NanoRtc}

/-! ### Transmit slots -/

/-- The output path of a connection, all else replaced. -/
def sameOutput (rtc other : NanoRtc) : NanoRtc :=
  { other with
    outQueue := rtc.outQueue
    outWrapMeta := rtc.outWrapMeta
    outHead := rtc.outHead
    outTail := rtc.outTail
    txSlots := rtc.txSlots
    pktRing := rtc.pktRing
    pktRingTail := rtc.pktRingTail
    nackRetx := rtc.nackRetx
    pacer := rtc.pacer
    fecTx := rtc.fecTx }

/-- Nothing else matters to the contents. -/
theorem OutMoves.other (h : OutKept w rtc) (other : NanoRtc) :
    OutMoves w [] rtc (sameOutput rtc other) := by
  refine .still { h with refs := h.refs } rfl (rtcQueued_congr rfl rfl rfl rfl fun _ _ t _ => ?_) rfl
  cases t.data <;> rfl

/-- What an acquisition finds is free. -/
theorem nanoRtcTxSlotAcquire_moves (h : OutKept w rtc) :
    OutMoves w [] rtc (nanoRtcTxSlotAcquire rtc).1 ∧
      ∀ slot, (nanoRtcTxSlotAcquire rtc).2 = .ok slot →
        HasBacking (nanoRtcTxSlotAcquire rtc).1 (.txSlot slot) ∧
          (backingSlot (nanoRtcTxSlotAcquire rtc).1 (.txSlot slot)).inUse = false := by
  cases hfree : txSlotFree rtc with
  | false =>
    rw [nanoRtcTxSlotAcquire_blocked hfree]
    exact ⟨.refl h, nofun⟩
  | true =>
    obtain ⟨slot, hlt, hidle, hacquire⟩ := nanoRtcTxSlotAcquire_free hfree
    rw [hacquire]
    refine ⟨OutMoves.other h { rtc with txSlotCursor := (slot + 1) % txSlotCount },
      fun slot' heq => ?_⟩
    obtain rfl := Except.ok.inj heq
    exact ⟨h.slots.symm ▸ hlt, hidle⟩

/-- A free slot written is still free. -/
theorem writeTxSlot_moves (h : OutKept w rtc) {slot : Nat}
    (hslot : HasBacking rtc (.txSlot slot))
    (hfree : (backingSlot rtc (.txSlot slot)).inUse = false) (bytes : List UInt8) :
    OutMoves w [] rtc (rtc.writeTxSlot slot bytes) ∧
      (backingSlot (rtc.writeTxSlot slot bytes) (.txSlot slot)).inUse = false := by
  refine ⟨h.fill hslot hfree _, ?_⟩
  have hset := backingSlot_setBacking hslot { rtc.txSlots.getD slot default with buf := bytes }
    (.txSlot slot)
  rw [if_pos rfl] at hset
  exact (congrArg BackingSlot.inUse hset).trans hfree

theorem rtcTxSlotCommitRoute_moves (h : OutKept w rtc) (slot len : Nat) (dest : NanortcAddr)
    (localSrc : Option NanortcAddr) (route : TxRoute) :
    OutMoves w [] rtc (rtcTxSlotCommitRoute rtc slot len dest localSrc route).1 := by
  unfold rtcTxSlotCommitRoute
  by_cases hbad : slot ≥ txSlotCount ∨ len > txSlotSize
  · rw [if_pos hbad]
    exact .refl h
  rw [if_neg hbad]
  by_cases hbusy : (rtc.txSlots.getD slot default).inUse = true
  · rw [if_pos hbusy]
    exact .refl h
  rw [if_neg hbusy]
  rcases rtcEnqueueTransmitRef_cases rtc (.txSlot slot) len dest localSrc route with
    ⟨-, hput⟩ | ⟨hroom, src, wrap, hput⟩
  · rw [hput]
    exact .refl h
  · rw [hput]
    have hslot : HasBacking rtc (.txSlot slot) := by
      show slot < rtc.txSlots.length
      rw [h.slots]
      omega
    exact h.hold hroom hslot (Bool.eq_false_iff.mpr hbusy) len dest src wrap

/-- What an acquisition found, written and committed. -/
theorem OutMoves.sent {out : NanoRtc} (h : OutMoves w [] rtc out) {slot : Nat}
    (hfound : HasBacking out (.txSlot slot) ∧ (backingSlot out (.txSlot slot)).inUse = false)
    (srtp : NanoSrtp) (bytes : List UInt8) (dest : NanortcAddr) (localSrc : Option NanortcAddr)
    (route : TxRoute) :
    OutMoves w [] rtc (rtcTxSlotCommitRoute (NanoRtc.writeTxSlot { out with srtp := srtp } slot
      bytes) slot bytes.length dest localSrc route).1 := by
  have hsrtp := h.trans (OutMoves.other h.kept { out with srtp := srtp })
  have hwrite := hsrtp.trans (@writeTxSlot_moves w { out with srtp := srtp } hsrtp.kept slot
    hfound.1 hfound.2 bytes).1
  exact hwrite.trans (rtcTxSlotCommitRoute_moves hwrite.kept _ _ _ _ _)

/-- A control datagram: a packet put into a transmit slot and queued, or given up before that. -/
def sendControl (rtc : NanoRtc) (packet : List UInt8) (dest : NanortcAddr)
    (localSrc : Option NanortcAddr) (route : TxRoute) (commits : Bool) : NanoRtc :=
  match nanoRtcTxSlotAcquire rtc with
  | (rtc, .error _) => rtc
  | (rtc, .ok slot) =>
    let rtc := rtc.writeTxSlot slot packet
    if commits then (rtcTxSlotCommitRoute rtc slot packet.length dest localSrc route).1 else rtc

theorem sendControl_moves (h : OutKept w rtc) (packet : List UInt8) (dest : NanortcAddr)
    (localSrc : Option NanortcAddr) (route : TxRoute) (commits : Bool) :
    OutMoves w [] rtc (sendControl rtc packet dest localSrc route commits) := by
  obtain ⟨hacquire, hfree⟩ := nanoRtcTxSlotAcquire_moves h
  unfold sendControl
  generalize nanoRtcTxSlotAcquire rtc = r at *
  obtain ⟨rtc', r⟩ := r
  cases r with
  | error rc => exact hacquire
  | ok slot =>
    have hfound := hfree slot rfl
    dsimp only
    cases commits with
    | false => exact hacquire.trans (writeTxSlot_moves hacquire.kept hfound.1 hfound.2 packet).1
    | true => exact hacquire.sent hfound rtc'.srtp packet dest localSrc route

variable (crypto : CryptoProvider)

/-- An RTCP packet. -/
theorem rtcSendRtcp_moves {rtc : MediaRtc} (h : OutKept w rtc.toNanoRtc)
    (packet : List UInt8) :
    OutMoves w [] rtc.toNanoRtc (rtcSendRtcp crypto rtc packet).1.toNanoRtc := by
  obtain ⟨hacquire, hfree⟩ := nanoRtcTxSlotAcquire_moves h
  unfold rtcSendRtcp
  generalize nanoRtcTxSlotAcquire rtc.toNanoRtc = r at *
  obtain ⟨out, r⟩ := r
  cases r with
  | error rc => exact hacquire
  | ok slot =>
    dsimp only
    generalize nanoSrtpProtectRtcp crypto out.srtp packet = protected'
    obtain ⟨srtp, wire⟩ := protected'
    cases wire with
    | error rc => exact hacquire.trans (OutMoves.other hacquire.kept { out with srtp := srtp })
    | ok wire => exact hacquire.sent (hfree slot rfl) srtp wire.bytes _ _ _

/-- A packet of an audio track. -/
theorem rtcSendAudio_moves {rtc : MediaRtc} (h : OutKept w rtc.toNanoRtc) (i : Nat)
    (timestamp : UInt32) (data : List UInt8) :
    OutMoves w [] rtc.toNanoRtc (rtcSendAudio crypto rtc i timestamp data).1.toNanoRtc := by
  obtain ⟨hacquire, hfree⟩ := nanoRtcTxSlotAcquire_moves h
  unfold rtcSendAudio
  dsimp only
  split
  · exact .refl h
  generalize nanoRtcTxSlotAcquire rtc.toNanoRtc = r at *
  obtain ⟨out, r⟩ := r
  cases r with
  | error rc => exact hacquire
  | ok slot =>
    dsimp only
    generalize rtpPack (rtc.track i).rtp timestamp data (mediaBufSize - srtpAuthTagSize) = packed
    obtain ⟨rtp, packet⟩ := packed
    cases packet with
    | error rc => exact hacquire
    | ok packet =>
      dsimp only
      generalize nanoSrtpProtect crypto (rtc.withOut out).srtp packet = protected'
      obtain ⟨srtp, wire⟩ := protected'
      cases wire with
      | error rc => exact hacquire.trans (OutMoves.other hacquire.kept { out with srtp := srtp })
      | ok wire =>
        have hcommit := hacquire.sent (hfree slot rfl) srtp wire.bytes out.remoteAddr none .selected
        dsimp only
        split <;> rename_i hcommitted <;>
          exact (congrArg (fun r => OutMoves w [] rtc.toNanoRtc r.1) hcommitted).mp hcommit

/-! ### Copies and parity -/

/-- A free buffer written and queued: it is held from then on, unless the queue is full. -/
theorem queueFilled_moves {rtc' : NanoRtc} {rc : Rc} (h : OutKept w rtc) {b : Backing}
    (hb : HasBacking rtc b) (hfree : (backingSlot rtc b).inUse = false) {s : BackingSlot} {len : Nat}
    {dest : NanortcAddr}
    (hput : nanoRtcEnqueueTransmit (setBacking rtc b s) b len dest false = (rtc', rc))
    (hs : s.inUse = false) :
    (rc = .ok → backingSlot rtc' b = s ∧
      OutMoves w [] rtc (setBacking rtc' b (s.hold rtc'.outTail))) ∧
    (rc ≠ .ok → OutMoves w [] rtc rtc') := by
  have hfill := h.fill hb hfree s
  have hset := backingSlot_setBacking hb s b
  rw [if_pos rfl] at hset
  rcases rtcEnqueueTransmitRef_cases (setBacking rtc b s) b len dest none .selected with
    ⟨-, hput'⟩ | ⟨hroom, src, wrap, hput'⟩
  · obtain ⟨rfl, rfl⟩ := Prod.mk.inj (hput.symm.trans hput')
    exact ⟨nofun, fun _ => hfill⟩
  · obtain ⟨rfl, rfl⟩ := Prod.mk.inj (hput.symm.trans hput')
    refine ⟨fun _ => ⟨?_, ?_⟩, fun hrc => absurd rfl hrc⟩
    · refine Eq.trans ?_ hset
      cases b <;> rfl
    · have hb' : HasBacking (setBacking rtc b s) b := by
        cases b with
        | pktRing i => exact hb
        | _ => exact Nat.lt_of_lt_of_eq hb List.length_set.symm
      have hheld := hfill.kept.hold hroom hb' ((congrArg BackingSlot.inUse hset).trans hs) len dest src
        wrap
      rw [hset] at hheld
      exact hfill.trans hheld

/-- A retransmission reads a cell of the ring and queues a copy. -/
theorem nackRetransmit_moves (h : OutKept w rtc) (mediaSsrc : UInt32) (seq : UInt16) :
    OutMoves w [] rtc (nackRetransmit mediaSsrc rtc seq) := by
  unfold nackRetransmit
  cases nackFindPkt rtc mediaSsrc seq with
  | none => exact .refl h
  | some s =>
    dsimp only
    cases hfind : nackFreeRetx rtc with
    | none => exact .refl h
    | some j =>
      have hidle : (backingSlot rtc (.nackRetx j)).inUse = false := by
        have hfree := List.find?_some hfind
        rwa [Bool.not_eq_true'] at hfree
      have hslot : HasBacking rtc (.nackRetx j) := by
        show j < rtc.nackRetx.length
        rw [h.copies]
        exact List.mem_range.mp (List.mem_of_find?_eq_some hfind)
      dsimp only
      split
      · rename_i rtc' hput
        obtain ⟨hsame, hheld⟩ := (queueFilled_moves (b := .nackRetx j) h hslot hidle hput hidle).1 rfl
        rw [show rtc'.nackRetx.getD j default = _ from hsame]
        exact hheld
      · rename_i rtc' rc hrc hput
        exact (queueFilled_moves (b := .nackRetx j) h hslot hidle hput hidle).2 hrc

/-- A complete group: its parity packet is queued, or nothing is. -/
theorem rtcFecEmit_moves (h : OutKept w rtc) (ssrc : UInt32) (k : Nat) (budget : Option Nat) :
    OutMoves w [] rtc (rtcFecEmit crypto rtc ssrc k budget).1 := by
  unfold rtcFecEmit
  split
  · exact .refl h
  cases hfind : rtc.fecTx.findIdx? fun s => !s.inUse with
  | none => exact .refl h
  | some j =>
    obtain ⟨hj, hidle, -⟩ := List.findIdx?_eq_some_iff_getElem.mp hfind
    have hidle : (backingSlot rtc (.fecTx j)).inUse = false := by
      show (rtc.fecTx.getD j default).inUse = false
      rw [List.getD_eq_getElem _ _ hj]
      rwa [Bool.not_eq_true'] at hidle
    dsimp only
    cases rtcFecPacket rtc ssrc k with
    | error rc => exact .refl h
    | ok packet =>
      dsimp only
      generalize nanoSrtpProtect crypto rtc.srtp packet = protected'
      obtain ⟨srtp, wire⟩ := protected'
      have hsrtp := OutMoves.other h { rtc with srtp := srtp }
      cases wire with
      | error rc => exact hsrtp
      | ok wire =>
        dsimp only
        split
        · rename_i rtc' hput
          have hmoves := hsrtp.trans
            ((queueFilled_moves (b := .fecTx j) hsrtp.kept hj hidle hput hidle).1 rfl).2
          exact hmoves.trans (OutMoves.other hmoves.kept { rtc' with
            fecTxSeq := rtc'.fecTxSeq + 1
            fecTx := rtc'.fecTx.set j (BackingSlot.hold { rtc.fecTx.getD j default with
              buf := wire.bytes } rtc'.outTail) })
        · rename_i rtc' rc hrc hput
          exact hsrtp.trans
            ((queueFilled_moves (b := .fecTx j) hsrtp.kept hj hidle hput hidle).2 hrc)

theorem rtcFecCommit_moves (h : OutKept w rtc) (ssrc : UInt32) (prepared : FecPrepared)
    (budget : Option Nat) :
    OutMoves w [] rtc (rtcFecCommit crypto rtc ssrc prepared budget).1 := by
  unfold rtcFecCommit
  split
  · exact .refl h
  split
  · exact OutMoves.other h { rtc with fecTxN := 0 }
  split
  · exact .refl h
  -- the packet joins the group it was prepared for, or starts the next
  have hjoined : ∃ grp n, (if rtc.fecTxN ≥ prepared.k then
      { rtc with
        fecTxGrp := rtc.fecTxGrp.set 0 (rtc.fecTxGrp.getD prepared.index [])
        fecTxN := 1 }
      else { rtc with fecTxN := rtc.fecTxN + 1 }) = { rtc with fecTxGrp := grp, fecTxN := n } := by
    split
    · exact ⟨_, _, rfl⟩
    · exact ⟨_, _, rfl⟩
  obtain ⟨grp, n, hjoined⟩ := hjoined
  rw [hjoined]
  dsimp only
  split
  · exact OutMoves.other h { rtc with fecTxGrp := grp, fecTxN := n }
  · have hzero := OutMoves.other h { rtc with fecTxGrp := grp, fecTxN := 0 }
    exact hzero.trans (rtcFecEmit_moves crypto hzero.kept ssrc prepared.k budget)

/-! ### Fragments -/

/-- A protected packet is not empty. -/
theorem nanoSrtpProtect_ne_nil {srtp srtp' : NanoSrtp} {packet : List UInt8} {wire : SrtpPacket}
    (h : nanoSrtpProtect crypto srtp packet = (srtp', .ok wire)) : wire.bytes ≠ [] := by
  unfold nanoSrtpProtect at h
  split at h
  · exact nomatch h
  split at h
  · exact nomatch h
  dsimp only at h
  split at h
  · exact nomatch h
  split at h
  · exact nomatch h
  split at h
  · exact nomatch h
  · obtain ⟨-, hwire⟩ := Prod.mk.inj h
    rw [← Except.ok.inj hwire]
    intro hnil
    have hlen := congrArg List.length (List.append_eq_nil_iff.mp hnil).2
    rw [crypto.length_hmacSha1_80] at hlen
    exact nomatch hlen

/-- The builds with a pacer. -/
inductive VideoBuild where
  | plain
  | fec
deriving Repr, DecidableEq

/-- One turn of the loop of `rtc_send_video`. -/
def sendFragment (build : VideoBuild) (i : Nat) (timestamp : UInt32) (isLastNal : Bool)
    (s : MediaRtc × Option Nat) (f : H264Fragment) : (MediaRtc × Option Nat) × Option Rc :=
  match build with
  | .plain =>
    let r := rtcSendFragment crypto i timestamp isLastNal s.1 f
    ((r.1, s.2), r.2)
  | .fec => rtcSendFecFragment crypto true i timestamp isLastNal s f

/-- **A fragment of a frame** is packed, or nothing is. -/
theorem sendFragment_moves {build : VideoBuild} {s : MediaRtc × Option Nat}
    (h : OutKept w s.1.toNanoRtc) (hw : w < pktRingSize) (i : Nat) (timestamp : UInt32)
    (isLastNal : Bool) (f : H264Fragment) :
    ∃ packed, packed.length ≤ 1 ∧ OutMoves w packed s.1.toNanoRtc
      (sendFragment crypto build i timestamp isLastNal s f).1.1.toNanoRtc := by
  obtain ⟨rtc, budget⟩ := s
  have hstays : ∃ packed : List (List UInt8), packed.length ≤ 1 ∧
      OutMoves w packed rtc.toNanoRtc rtc.toNanoRtc := ⟨[], Nat.zero_le _, .refl h⟩
  cases build with
  | plain =>
    unfold sendFragment rtcSendFragment
    dsimp only
    split
    · exact hstays
    generalize rtpPack { (rtc.track i).rtp with marker := f.isLast && isLastNal } timestamp f.payload
      mediaBufSize = packed
    obtain ⟨rtp, packet⟩ := packed
    cases packet with
    | error rc => exact hstays
    | ok packet =>
      dsimp only
      cases hprotect : nanoSrtpProtect crypto rtc.srtp packet with
      | mk srtp wire =>
        have hsrtp := OutMoves.other h { rtc.toNanoRtc with srtp := srtp }
        cases wire with
        | error rc => exact ⟨[], Nat.zero_le _, hsrtp.trans (hsrtp.kept.scratch hw _)⟩
        | ok wire =>
          exact ⟨[wire.bytes], Nat.le_refl _, hsrtp.trans (hsrtp.kept.commit hw _
            (nanoSrtpProtect_ne_nil crypto hprotect))⟩
  | fec =>
    unfold sendFragment rtcSendFecFragment
    dsimp only
    split
    · exact hstays
    generalize rtpPack { (rtc.track i).rtp with marker := f.isLast && isLastNal } timestamp f.payload
      mediaBufSize = packed
    obtain ⟨rtp, packet⟩ := packed
    cases packet with
    | error rc => exact hstays
    | ok packet =>
      dsimp only
      have hprepared : ∃ grp, (rtcFecPrepare rtc.toNanoRtc packet).1 =
          { rtc.toNanoRtc with fecTxGrp := grp } := by
        unfold rtcFecPrepare
        split
        · exact ⟨_, rfl⟩
        dsimp only
        split <;> exact ⟨_, rfl⟩
      obtain ⟨grp, hprepared⟩ := hprepared
      rw [hprepared]
      generalize (rtcFecPrepare rtc.toNanoRtc packet).2 = prepared
      dsimp only
      cases hprotect : nanoSrtpProtect crypto rtc.srtp packet with
      | mk srtp wire =>
        have hsrtp := OutMoves.other h { rtc.toNanoRtc with fecTxGrp := grp, srtp := srtp }
        cases wire with
        | error rc => exact ⟨[], Nat.zero_le _, hsrtp.trans (hsrtp.kept.scratch hw _)⟩
        | ok wire =>
          have hcommit := hsrtp.trans (rtcFecCommit_moves crypto hsrtp.kept (rtc.track i).rtp.ssrc
            prepared budget)
          exact ⟨[wire.bytes], Nat.le_refl _, hcommit.trans (hcommit.kept.commit hw _
            (nanoSrtpProtect_ne_nil crypto hprotect))⟩

/-! ### Traces -/

/-- A connection with what was queued, packed and polled so far. -/
structure OutTrace where
  rtc : MediaRtc
  queued : List QueuedOut := []
  packed : List (List UInt8) := []
  polled : List PolledOutput := []

/-- What a step to `rtc` queues and packs, noted as it stands after the step. -/
def OutTrace.noted (t : OutTrace) (rtc : MediaRtc) : OutTrace :=
  { t with
    rtc := rtc
    queued := t.queued ++ (rtcQueued rtc.toNanoRtc).drop (rtcQueued t.rtc.toNanoRtc).length
    packed := t.packed ++ newPackets t.rtc.toNanoRtc rtc.toNanoRtc }

/-- What is queued is what was noted and not polled yet; what the pacer holds is what was packed and
not queued yet. -/
structure OutTraced (w : Nat) (t : OutTrace) : Prop where
  kept : OutKept w t.rtc.toNanoRtc
  taken : ∃ taken : List (NanoTurn × QueuedOut),
    t.queued = taken.map (·.2) ++ rtcQueued t.rtc.toNanoRtc ∧
      t.polled = taken.filterMap fun x => pollOut x.1 x.2
  packed : t.packed = ringBytes t.queued ++ rtcPaced t.rtc.toNanoRtc

theorem OutTraced.mono {t : OutTrace} {w' : Nat} (hw : w ≤ w') (hroom : w' ≤ pktRingSize)
    (h : OutTraced w t) : OutTraced w' t :=
  { h with kept := h.kept.mono hw hroom }

theorem OutTraced.noted {t : OutTrace} (h : OutTraced w t) {rtc : MediaRtc}
    {packed : List (List UInt8)}
    (hmoves : OutMoves w packed t.rtc.toNanoRtc rtc.toNanoRtc) :
    OutTraced (w + packed.length) (t.noted rtc) := by
  obtain ⟨taken, hqueued, hpolled⟩ := h.taken
  obtain ⟨new, hnew, hpaced⟩ := hmoves.moved
  have hnoted : (t.noted rtc).queued = t.queued ++ new := by
    show t.queued ++ (rtcQueued rtc.toNanoRtc).drop _ = _
    rw [hnew, List.drop_left]
  refine ⟨hmoves.kept, ⟨taken, ?_, hpolled⟩, ?_⟩
  · rw [hnoted, hqueued, List.append_assoc]
    exact congrArg (_ ++ ·) hnew.symm
  · show t.packed ++ newPackets _ _ = ringBytes (t.noted rtc).queued ++ rtcPaced rtc.toNanoRtc
    rw [hnoted, hmoves.packets, h.packed, List.append_assoc, hpaced, ringBytes_append,
      List.append_assoc]

/-! ### Frames -/

/-- The fragments of an access unit, each with its NAL unit. -/
def frameFragments (data : List UInt8) : List ((List UInt8 × Nat) × H264Fragment) :=
  (annexBNals data data.length 0).flatMap fun nal => (h264Fragments nal.1 videoMtu).map (nal, ·)

theorem frameFragments_length_le (data : List UInt8) :
    (frameFragments data).length ≤ videoFrameWorstPackets data := by
  rw [videoFrameWorstPackets_eq]
  unfold frameFragments
  rw [List.length_flatMap]
  refine List.sum_le_sum fun nal _ => ?_
  rw [List.length_map]
  exact h264Fragments_length_le nal.1

/-- The loops of `rtc_send_video`. -/
def sendFrame (build : VideoBuild) (i : Nat) (timestamp : UInt32) (data : List UInt8)
    (rtc : MediaRtc) : (MediaRtc × Option Nat) × Option Rc :=
  runUntil (fun s x => sendFragment crypto build i timestamp (nanoAnnexBFindNal data x.1.2).isNone s
    x.2) (rtc, none) (frameFragments data)

/-- A fragment with what it queues and packs noted. -/
def tracedFragment (build : VideoBuild) (i : Nat) (timestamp : UInt32) (data : List UInt8)
    (s : OutTrace × Option Nat) (x : (List UInt8 × Nat) × H264Fragment) :
    (OutTrace × Option Nat) × Option Rc :=
  let r := sendFragment crypto build i timestamp (nanoAnnexBFindNal data x.1.2).isNone (s.1.rtc, s.2)
    x.2
  ((s.1.noted r.1.1, r.1.2), r.2)

/-- The loops with their fragments noted one by one. -/
def tracedFrame (build : VideoBuild) (i : Nat) (timestamp : UInt32) (data : List UInt8)
    (t : OutTrace) : (OutTrace × Option Nat) × Option Rc :=
  runUntil (tracedFragment crypto build i timestamp data) (t, none) (frameFragments data)

theorem tracedFrame_rtc (build : VideoBuild) (i : Nat) (timestamp : UInt32) (data : List UInt8)
    (t : OutTrace) : sendFrame crypto build i timestamp data t.rtc =
      (((tracedFrame crypto build i timestamp data t).1.1.rtc,
        (tracedFrame crypto build i timestamp data t).1.2),
        (tracedFrame crypto build i timestamp data t).2) :=
  runUntil_map (p := fun s : OutTrace × Option Nat => (s.1.rtc, s.2)) (fun _ _ => rfl) (t, none) _

/-- `nanortc_send_video` of a build. -/
def sendVideo (build : VideoBuild) (rtc : MediaRtc) (mid : UInt8) (ptsMs : UInt32)
    (data : List UInt8) : MediaRtc × Rc :=
  match build with
  | .plain => nanortcSendVideo crypto rtc mid ptsMs data
  | .fec => nanortcSendFecVideo crypto true rtc mid ptsMs data

/-- The track whose frame the ring has room for. -/
def videoAdmitted (rtc : MediaRtc) (mid : UInt8) (data : List UInt8) : Option Nat :=
  if data = [] ∨ rtc.state.rank < ConnState.dtlsConnected.rank ∨ !rtc.srtp.ready then none
  else
    match trackFindByMid rtc.media mid with
    | none => none
    | some i =>
      let needed := videoFrameWorstPackets data
      if (rtc.track i).kind ≠ .video ∨ !(rtc.track i).direction.sends ∨ needed = 0 ∨
          needed > pktRingSize ∨ needed > pktRingSize - rtcVideoOccupied rtc.toNanoRtc then none
      else some i

/-- A frame that is not admitted changes nothing. -/
theorem sendVideo_refused (build : VideoBuild) {rtc : MediaRtc} {mid : UInt8} {data : List UInt8}
    (h : videoAdmitted rtc mid data = none) (ptsMs : UInt32) :
    (sendVideo crypto build rtc mid ptsMs data).1 = rtc := by
  unfold videoAdmitted at h
  by_cases hdata : data = []
  · cases build <;> exact congrArg Prod.fst (if_pos hdata)
  by_cases hstate : rtc.state.rank < ConnState.dtlsConnected.rank ∨ !rtc.srtp.ready
  · cases build <;> exact congrArg Prod.fst ((if_neg hdata).trans (if_pos hstate))
  rw [if_neg (not_or.mpr ⟨hdata, hstate⟩)] at h
  unfold sendVideo nanortcSendVideo nanortcSendFecVideo
  simp only [if_neg hdata, if_neg hstate]
  cases hfind : trackFindByMid rtc.media mid with
  | none => cases build <;> rfl
  | some i =>
    rw [hfind] at h
    dsimp only at h
    have hany := Classical.not_not.mp fun hno => by cases (if_neg hno).symm.trans h
    have hsame (out : MediaRtc) : (if (rtc.track i).kind ≠ .video ∨
        !(rtc.track i).direction.sends ∨ videoFrameWorstPackets data = 0 ∨
        videoFrameWorstPackets data > pktRingSize ∨
        videoFrameWorstPackets data > pktRingSize - rtcVideoOccupied rtc.toNanoRtc then rtc
        else out) = rtc := if_pos hany
    simp only [ite_or] at hsame
    cases build <;>
    · simp only [apply_ite Prod.fst, rtcVideoBlocked, if_true, decide_eq_true_eq]
      exact hsame _

/-- What the admission of a frame asks for. -/
theorem videoAdmitted_some {rtc : MediaRtc} {mid : UInt8} {data : List UInt8} {i : Nat}
    (h : videoAdmitted rtc mid data = some i) :
    data ≠ [] ∧ ¬ (rtc.state.rank < ConnState.dtlsConnected.rank ∨ !rtc.srtp.ready) ∧
      trackFindByMid rtc.media mid = some i ∧ ¬ (rtc.track i).kind ≠ .video ∧
      ¬ !(rtc.track i).direction.sends ∧ videoFrameWorstPackets data ≠ 0 ∧
      ¬ videoFrameWorstPackets data > pktRingSize ∧
      ¬ videoFrameWorstPackets data > pktRingSize - rtcVideoOccupied rtc.toNanoRtc := by
  unfold videoAdmitted at h
  split at h
  · exact nomatch h
  rename_i hready
  split at h
  · exact nomatch h
  rename_i j hfind
  dsimp only at h
  split at h
  · exact nomatch h
  rename_i hno
  obtain rfl := Option.some.inj h
  simp only [not_or] at hready hno
  exact ⟨hready.1, not_or.mpr hready.2, hfind, hno⟩

/-- A frame that is admitted is sent to its end, or to the fragment that fails. -/
theorem sendVideo_admitted (build : VideoBuild) {rtc : MediaRtc} {mid : UInt8} {data : List UInt8}
    {i : Nat} (h : videoAdmitted rtc mid data = some i) (ptsMs : UInt32) :
    sendVideo crypto build rtc mid ptsMs data =
      ((sendFrame crypto build i (ptsMsToRtp ptsMs 90000) data rtc).1.1,
        (sendFrame crypto build i (ptsMsToRtp ptsMs 90000) data rtc).2.getD .ok) := by
  obtain ⟨hdata, hstate, hfind, hkind, hdir, hzero, hbig, hblocked⟩ := videoAdmitted_some h
  unfold sendFrame frameFragments
  rw [← runUntil_flatMap fun (nal : List UInt8 × Nat) s f => sendFragment crypto build i
    (ptsMsToRtp ptsMs 90000) (nanoAnnexBFindNal data nal.2).isNone s f]
  cases build with
  | plain =>
    have hframe := runUntil_map (p := fun s : MediaRtc × Option Nat => s.1)
      (f := fun s (nal : List UInt8 × Nat) => runUntil (sendFragment crypto .plain i
        (ptsMsToRtp ptsMs 90000) (nanoAnnexBFindNal data nal.2).isNone) s
        (h264Fragments nal.1 videoMtu))
      (g := rtcSendVideo crypto i (ptsMsToRtp ptsMs 90000) data)
      (fun s nal => runUntil_map (p := fun s : MediaRtc × Option Nat => s.1) (fun _ _ => rfl) s _)
      (rtc, none) (annexBNals data data.length 0)
    unfold sendVideo nanortcSendVideo
    dsimp only at hframe ⊢
    rw [if_neg hdata, if_neg hstate, hfind]
    dsimp only
    rw [if_neg hkind, if_neg hdir, if_neg hzero, if_neg hbig, if_neg hblocked, hframe]
  | fec =>
    have hunblocked : ¬ rtcVideoBlocked true rtc.toNanoRtc (videoFrameWorstPackets data) = true :=
      decide_eq_true_iff.not.mpr hblocked
    unfold sendVideo nanortcSendFecVideo
    dsimp only
    rw [if_neg hdata, if_neg hstate, hfind]
    dsimp only
    rw [if_neg hkind, if_neg hdir, if_neg hzero, if_pos rfl, if_neg hbig, if_neg hunblocked]
    rfl

/-- What the admission leaves room for. -/
theorem videoAdmitted_room {rtc : MediaRtc} {mid : UInt8} {data : List UInt8} {i : Nat}
    (hadmitted : videoAdmitted rtc mid data = some i) :
    paceDepth rtc.toNanoRtc + outCount rtc.toNanoRtc + videoFrameWorstPackets data ≤ pktRingSize := by
  obtain ⟨-, -, -, -, -, hzero, -, hblocked⟩ := videoAdmitted_some hadmitted
  unfold rtcVideoOccupied at hblocked
  unfold paceDepth outCount
  omega

/-- **A frame that is admitted** never runs over a packet that is still needed. -/
theorem tracedFrame_traced {build : VideoBuild} {t : OutTrace} {data : List UInt8}
    (h : OutTraced w t) (hw : w + videoFrameWorstPackets data ≤ pktRingSize) (i : Nat)
    (timestamp : UInt32) :
    OutTraced pktRingSize (tracedFrame crypto build i timestamp data t).1.1 := by
  have hfragments := frameFragments_length_le data
  have hstep (n : Nat) (s : OutTrace × Option Nat) (x : (List UInt8 × Nat) × H264Fragment)
      (hs : w + n ≤ pktRingSize → OutTraced (w + n) s.1) (hn : w + (n + 1) ≤ pktRingSize) :
      OutTraced (w + (n + 1)) (tracedFragment crypto build i timestamp data s x).1.1 := by
    have htraced := hs (Nat.le_of_succ_le hn)
    obtain ⟨packed, hlen, hmoves⟩ := @sendFragment_moves _ crypto build (s.1.rtc, s.2) htraced.kept hn
      i timestamp (nanoAnnexBFindNal data x.1.2).isNone x.2
    exact (htraced.noted hmoves).mono (by omega) (by omega)
  obtain ⟨k, -, hle, hk⟩ := @runUntil_progress _ _ _ (tracedFragment crypto build i timestamp data)
    (fun n s => w + n ≤ pktRingSize → OutTraced (w + n) s.1) (fun _ => 1) (frameFragments data)
    (fun n s x _ hs => ⟨1, Nat.le_refl _, Nat.le_refl _, hstep n s x hs⟩) 0 (t, none) fun _ => h
  rw [List.map_const', List.sum_replicate_nat, Nat.mul_one] at hle
  exact (hk (by omega)).mono (by omega) (Nat.le_refl _)

/-! ### Runs -/

/-- A call on a connection; `between` is anything that happens to what is not its output path. -/
inductive OutCall where
  | event (type key : Nat)
  | control (packet : List UInt8) (dest : NanortcAddr) (localSrc : Option NanortcAddr)
      (route : TxRoute) (commits : Bool)
  | audio (mid : UInt8) (ptsMs : UInt32) (data : List UInt8)
  | video (mid : UInt8) (ptsMs : UInt32) (data : List UInt8)
  | keyframe (mid : UInt8)
  | report (nowMs : UInt32)
  | nack (i : Nat) (pid blp : UInt16)
  | retransmit (mediaSsrc : UInt32) (seq : UInt16)
  | pump
  | poll
  | between (other : MediaRtc)

/-- What a call does. -/
def outApply (build : VideoBuild) (rtc : MediaRtc) : OutCall → MediaRtc
  | .event type key => rtc.withOut (rtcEnqueueOutput rtc.toNanoRtc (.event type key)).1
  | .control packet dest localSrc route commits =>
    rtc.withOut (sendControl rtc.toNanoRtc packet dest localSrc route commits)
  | .audio mid ptsMs data => (nanortcSendAudio crypto rtc mid ptsMs data).1
  | .video mid ptsMs data => (sendVideo crypto build rtc mid ptsMs data).1
  | .keyframe mid => (nanortcRequestKeyframe crypto rtc mid).1
  | .report nowMs => (nanoRtcMediaEmitRtcpSrCadence crypto rtc nowMs).1
  | .nack i pid blp => (rtcEmitNack crypto rtc i pid blp).1
  | .retransmit mediaSsrc seq => rtc.withOut (nackRetransmit mediaSsrc rtc.toNanoRtc seq)
  | .pump => rtc.withOut (nanoRtcPacerPump rtc.toNanoRtc)
  | .poll => rtc.withOut (rtcPollQueuedOutput rtc.toNanoRtc).1
  | .between other => other.withOut (sameOutput rtc.toNanoRtc other.toNanoRtc)

/-- A call with what it queues, packs and polls noted. The fragments of a frame are noted one by
one. -/
def outStep (build : VideoBuild) (t : OutTrace) : OutCall → OutTrace
  | .poll =>
    { t with
      rtc := outApply crypto build t.rtc .poll
      polled := t.polled ++ (rtcPollQueuedOutput t.rtc.toNanoRtc).2.toList }
  | .video mid ptsMs data =>
    match videoAdmitted t.rtc mid data with
    | none => t
    | some i => (tracedFrame crypto build i (ptsMsToRtp ptsMs 90000) data t).1.1
  | c => t.noted (outApply crypto build t.rtc c)

/-- The trace is one of the run. -/
theorem outStep_rtc (build : VideoBuild) (t : OutTrace) (c : OutCall) :
    (outStep crypto build t c).rtc = outApply crypto build t.rtc c := by
  cases c with
  | video mid ptsMs data =>
    unfold outStep outApply
    dsimp only
    cases hadmitted : videoAdmitted t.rtc mid data with
    | none => exact (sendVideo_refused crypto build hadmitted ptsMs).symm
    | some i => rw [sendVideo_admitted crypto build hadmitted, tracedFrame_rtc]
  | _ => rfl

/-- What every call but a frame and a poll does to the queues. -/
theorem outApply_moves {build : VideoBuild} {rtc : MediaRtc} (h : OutKept w rtc.toNanoRtc)
    {c : OutCall} (hvideo : ∀ mid ptsMs data, c ≠ .video mid ptsMs data) (hpoll : c ≠ .poll) :
    OutMoves w [] rtc.toNanoRtc (outApply crypto build rtc c).toNanoRtc := by
  cases c with
  | video mid ptsMs data => exact absurd rfl (hvideo mid ptsMs data)
  | poll => exact absurd rfl hpoll
  | event type key =>
    show OutMoves _ _ _ (rtcEnqueueOutput rtc.toNanoRtc (.event type key)).1
    rcases rtcEnqueueOutput_cases rtc.toNanoRtc (.event type key) with ⟨-, hput⟩ | ⟨hroom, wrap, hput⟩
    · rw [hput]
      exact .refl h
    · rw [hput]
      exact h.push hroom (.event type key) wrap trivial rfl
  | control packet dest localSrc route commits => exact sendControl_moves h _ _ _ _ _
  | audio mid ptsMs data =>
    show OutMoves _ _ _ (nanortcSendAudio crypto rtc mid ptsMs data).1.toNanoRtc
    unfold nanortcSendAudio
    split
    · exact .refl h
    split
    · exact .refl h
    cases trackFindByMid rtc.media mid with
    | none => exact .refl h
    | some i =>
      dsimp only
      split
      · exact .refl h
      split
      · exact .refl h
      · exact rtcSendAudio_moves crypto h _ _ _
  | keyframe mid =>
    show OutMoves _ _ _ (nanortcRequestKeyframe crypto rtc mid).1.toNanoRtc
    unfold nanortcRequestKeyframe
    split
    · exact .refl h
    cases trackFindByMid rtc.media mid with
    | none => exact .refl h
    | some i =>
      dsimp only
      split
      · exact .refl h
      · exact rtcSendRtcp_moves crypto h _
  | report nowMs =>
    show OutMoves _ _ _ (nanoRtcMediaEmitRtcpSrCadence crypto rtc nowMs).1.toNanoRtc
    unfold nanoRtcMediaEmitRtcpSrCadence
    split
    · exact .refl h
    cases rtcSrTrack rtc with
    | none => exact .refl h
    | some i =>
      dsimp only
      generalize rtcpGenerateSr _ _ _ _ = packet
      have hsend := rtcSendRtcp_moves crypto h packet
      split
      · rename_i rtc' hsent
        rw [hsent] at hsend
        exact hsend
      · exact hsend
  | nack i pid blp => exact rtcSendRtcp_moves crypto h _
  | retransmit mediaSsrc seq => exact nackRetransmit_moves h mediaSsrc seq
  | pump => exact nanoRtcPacerPump_moves h
  | between other => exact OutMoves.other h other.toNanoRtc

/-- **A call** keeps the contents of the queues. -/
theorem outStep_traced {build : VideoBuild} (t : OutTrace) (c : OutCall)
    (h : OutTraced pktRingSize t) :
    OutTraced pktRingSize (outStep crypto build t c) := by
  have hnoted (hvideo : ∀ mid ptsMs data, c ≠ .video mid ptsMs data) (hpoll : c ≠ .poll) :
      OutTraced pktRingSize (t.noted (outApply crypto build t.rtc c)) :=
    h.noted (outApply_moves crypto h.kept hvideo hpoll)
  cases c with
  | poll =>
    obtain ⟨taken, hqueued, hpolled⟩ := h.taken
    obtain ⟨hkept, hpaced, new, hnew, hout⟩ :=
      rtcPollQueuedLoop_takes (outCount t.rtc.toNanoRtc) h.kept
    refine ⟨hkept, ⟨taken ++ new.map fun q => (t.rtc.turn, q), ?_, ?_⟩, ?_⟩
    · show t.queued = _
      rw [List.map_append, List.map_map, hqueued, hnew, List.append_assoc]
      refine congrArg (_ ++ ·) (congrArg₂ (· ++ ·) ?_ rfl)
      exact (List.map_id new).symm
    · show t.polled ++ _ = _
      rw [List.filterMap_append, List.filterMap_map, hpolled]
      exact congrArg (_ ++ ·) hout
    · exact h.packed.trans (congrArg (_ ++ ·) hpaced.symm)
  | video mid ptsMs data =>
    show OutTraced _ (match videoAdmitted t.rtc mid data with
      | none => t
      | some i => (tracedFrame crypto build i (ptsMsToRtp ptsMs 90000) data t).1.1)
    cases hadmitted : videoAdmitted t.rtc mid data with
    | none => exact h
    | some i =>
      have hfits := videoAdmitted_room hadmitted
      have htight : OutTraced _ t :=
        { h with kept := h.kept.tight ((Nat.le_add_right _ _).trans hfits) }
      exact tracedFrame_traced crypto htight hfits i _
  | _ => exact hnoted (fun _ _ _ => nofun) nofun

/-- A connection with empty queues, whatever its cursors and buffers are. -/
structure OutStart (rtc : NanoRtc) : Prop where
  queue : rtc.outQueue.length = outQueueSize
  wraps : rtc.outWrapMeta.length = outQueueSize
  slots : rtc.txSlots.length = txSlotCount
  copies : rtc.nackRetx.length = nackRetxRing
  ring : rtc.pktRing.length = pktRingSize
  empty : rtc.outHead = rtc.outTail
  idle : rtc.pacer.head = rtc.pktRingTail
  paced : rtc.pacer.tail = rtc.pktRingTail

theorem OutStart.traced {rtc : MediaRtc} (h : OutStart rtc.toNanoRtc) :
    OutTraced pktRingSize ⟨rtc, [], [], []⟩ := by
  have hcount : outCount rtc.toNanoRtc = 0 := by
    unfold outCount
    rw [h.empty, UInt16.sub_self]
    rfl
  have hdepth : paceDepth rtc.toNanoRtc = 0 := by
    unfold paceDepth
    rw [h.idle, h.paced, UInt16.sub_self]
    rfl
  have hqueued : rtcQueued rtc.toNanoRtc = [] := by
    unfold rtcQueued
    rw [hcount]
    rfl
  have hpaced : rtcPaced rtc.toNanoRtc = [] := by
    unfold rtcPaced
    rw [hdepth]
    rfl
  refine ⟨?_, ⟨[], hqueued.symm, rfl⟩, hpaced.symm⟩
  exact
    { queue := h.queue
      wraps := h.wraps
      slots := h.slots
      copies := h.copies
      ring := h.ring
      count := hcount ▸ Nat.zero_le _
      paced := h.paced
      depth := hdepth ▸ Nat.zero_le _
      room := Nat.le_refl _
      waits := fun k hk => absurd (hdepth ▸ hk : k < 0) (Nat.not_lt_zero k)
      refs := fun k hk => absurd (hcount ▸ hk : k < 0) (Nat.not_lt_zero k) }

/-- **The output queue is first in, first out.** In every run, what was queued is what the polls took
and what the queue holds, in order and with the bytes of then, and what was polled is what was taken,
wrapped by the TURN client of that time, without datagrams whose wrap fails. The packets that left the
ring for the queue and those that wait are the packets that were packed, in order. -/
theorem output_fifo (build : VideoBuild) {rtc : MediaRtc} (h : OutStart rtc.toNanoRtc)
    (calls : List OutCall) :
    let t := run (outStep crypto build) ⟨rtc, [], [], []⟩ calls
    t.rtc = run (outApply crypto build) rtc calls ∧
    (∃ taken : List (NanoTurn × QueuedOut),
      t.queued = taken.map (·.2) ++ rtcQueued t.rtc.toNanoRtc ∧
        t.polled = taken.filterMap fun x => pollOut x.1 x.2) ∧
    t.packed = ringBytes t.queued ++ rtcPaced t.rtc.toNanoRtc := by
  have htraced := run_invariant (@outStep_traced crypto build) h.traced calls
  refine ⟨?_, htraced.taken, htraced.packed⟩
  exact (List.foldl_hom OutTrace.rtc fun t c => (outStep_rtc crypto build t c).symm).symm

/-- A connection whose cursors are about to wrap. -/
def demoOutRtc : MediaRtc where
  toNanoRtc := { nanortcInit false maxSsrcMap with
    srtp := { nanoSrtpInit maxSsrcMap true with ready := true }
    outHead := 0xFFFF
    outTail := 0xFFFF
    pktRingTail := 0xFFFF
    pacer := { head := 0xFFFF, tail := 0xFFFF } }
  state := .connected
  media := [trackInit 0 .video .sendrecv 90000]
  ssrcMap := []
  lastRtcpSendMs := 0
  lastRtcpSendValid := false
  srCursor := 0

/-- A datagram, a frame of one packet and an event, all polled. -/
def demoOutCalls : List OutCall :=
  [.control [1, 2, 3] default none .direct true, .video 0 10 [0, 0, 1, 0x65, 7, 8], .event 6 0,
    .pump, .poll, .poll, .poll]

theorem output_fifo_demo :
    let t := run (outStep .checksum .plain) ⟨demoOutRtc, [], [], []⟩ demoOutCalls
    t.polled.length = 3 ∧ t.packed.length = 1 ∧ t.packed = ringBytes t.queued := by
  obtain ⟨-, -, hpacked⟩ := @output_fifo .checksum .plain demoOutRtc
    ⟨rfl, rfl, rfl, rfl, rfl, rfl, rfl, rfl⟩ demoOutCalls
  have hnone : rtcPaced (run (outStep .checksum .plain) ⟨demoOutRtc, [], [], []⟩
      demoOutCalls).rtc.toNanoRtc = [] := by
    decide +kernel
  rw [hnone, List.append_nil] at hpacked
  exact ⟨by decide +kernel, by decide +kernel, hpacked⟩

end Nanortc.Spec
