import Nanortc.Native.FecSend
import Nanortc.Spec.FecRecovery
import Nanortc.Spec.MediaSend

/-!
# Parity that is sent

A sender with FEC collects the packets it protects and queues a parity packet for each complete
group. Whatever happens between the packets, the group that a parity packet is taken over is a row
of packets sent one after the other, no packet is in two groups, and a receiver that has the parity
packet and all packets of its group but one has that one.

## Key results

- `rtcFecEmit_cases`, `rtcFecCommit_cases`: what a packet does to the group and the output queue
- `FecSending.step`: the group collected is the tail of what was sent
- `fecSending`: the parity packets of a whole run
-/

namespace Nanortc.Spec

open Nanortc.ForStd Nanortc.Native

/-! ### Parity packets -/

/-- The parity packet of a group before its protection. -/
def fecRtp (seq : UInt16) (ssrc : UInt32) (group : List (List UInt8)) : List UInt8 :=
  [0x80, videoFecPt &&& 0x7F] ++ u16be seq ++ u32be (readU32be (group.getLastD []) 4) ++
    u32be (ssrc + 1) ++ fecPacket group

theorem fecRtp_drop (seq : UInt16) (ssrc : UInt32) (group : List (List UInt8)) :
    (fecRtp seq ssrc group).drop fecRtpHdr = fecPacket group :=
  List.drop_left' rfl

/-- What is encoded is the parity of packets in a window of 16. -/
theorem fecEncode_ok {group : List (List UInt8)} {cap : Nat} {body : List UInt8}
    (h : fecEncode group cap = .ok body) (hlen : ∀ p ∈ group, p.length < 2 ^ 16) :
    body = fecPacket group ∧ ∀ p ∈ group, (fecSeq p - fecSnBase group).toNat < fecMaxGroup := by
  unfold fecEncode at h
  split at h
  · exact nomatch h
  dsimp only at h
  split at h
  · exact nomatch h
  rename_i hshort
  split at h
  · exact nomatch h
  have hprot : fecProtLen group < 2 ^ 16 := by
    have hle : fecProtLen group ≤ 65523 := fecProtLen_le fun p hp => by
      have hp := hlen p hp
      have h1 : fecRtpHdr = 12 := rfl
      omega
    omega
  rw [Nat.mod_eq_of_lt hprot] at h
  refine ⟨(Except.ok.inj h).symm, fun p hp => ?_⟩
  have hp := List.any_eq_false.mp (Bool.eq_false_iff.mpr hshort) p hp
  simp only [Bool.or_eq_true, decide_eq_true_eq, not_or, ge_iff_le, Nat.not_le] at hp
  exact hp.2

theorem rtcFecPacket_ok {rtc : NanoRtc} {ssrc : UInt32} {k : Nat} {packet : List UInt8}
    {group : List (List UInt8)} (h : rtcFecPacket rtc ssrc k = .ok packet)
    (hgroup : rtc.fecTxGrp.take k = group) (hk : group.length = k) (h0 : k ≠ 0)
    (hlen : ∀ p ∈ group, p.length < 2 ^ 16) :
    packet = fecRtp rtc.fecTxSeq ssrc group ∧
      ∀ p ∈ group, (fecSeq p - fecSnBase group).toNat < fecMaxGroup := by
  unfold rtcFecPacket at h
  rw [hgroup] at h
  have hlast : rtc.fecTxGrp.getD (k - 1) [] = group.getLastD [] := by
    rw [List.getLastD_eq_getLast?, List.getLast?_eq_getElem?, hk, ← hgroup,
      List.getElem?_take_of_lt (by omega), List.getD_eq_getElem?_getD]
  cases hbody : fecEncode group (fecBufSize - fecRtpHdr - srtpAuthTagSize) with
  | error rc =>
    rw [hbody] at h
    exact nomatch h
  | ok body =>
    rw [hbody, hlast] at h
    obtain ⟨rfl, hwindow⟩ := fecEncode_ok hbody hlen
    exact ⟨(Except.ok.inj h).symm, hwindow⟩

/-! ### One packet -/

variable {crypto : CryptoProvider}

/-- The step queues nothing. -/
structure FecQuiet (rtc rtc' : NanoRtc) : Prop where
  seq : rtc'.fecTxSeq = rtc.fecTxSeq
  tail : rtc'.outTail = rtc.outTail
  queue : rtc'.outQueue = rtc.outQueue

/-- The step queues a parity packet. -/
structure FecEmits (crypto : CryptoProvider) (rtc rtc' : NanoRtc) (packet wire : List UInt8) : Prop where
  seq : rtc'.fecTxSeq = rtc.fecTxSeq + 1
  tail : rtc'.outTail = rtc.outTail + 1
  queue : ∃ j dest src, rtc'.outQueue = rtc.outQueue.set (outSlot rtc.outTail)
      (.transmit ⟨.fecTx j, wire.length, dest, src⟩) ∧ rtc'.bytes (.fecTx j) = wire
  sealed : ∃ srtp srtp' w, nanoSrtpProtect crypto srtp packet = (srtp', .ok w) ∧ w.bytes = wire

variable (crypto) in
/-- A complete group is queued as its parity packet, or dropped. -/
theorem rtcFecEmit_cases (rtc : NanoRtc) (ssrc : UInt32) (k : Nat) (budget : Option Nat) :
    (rtcFecEmit crypto rtc ssrc k budget).1.fecTxGrp = rtc.fecTxGrp ∧
      (rtcFecEmit crypto rtc ssrc k budget).1.fecTxN = rtc.fecTxN ∧
      (FecQuiet rtc (rtcFecEmit crypto rtc ssrc k budget).1 ∨
        ∃ packet wire, rtcFecPacket rtc ssrc k = .ok packet ∧
          FecEmits crypto rtc (rtcFecEmit crypto rtc ssrc k budget).1 packet wire) := by
  unfold rtcFecEmit
  split
  · exact ⟨rfl, rfl, .inl ⟨rfl, rfl, rfl⟩⟩
  cases hslot : rtc.fecTx.findIdx? fun s => !s.inUse with
  | none => exact ⟨rfl, rfl, .inl ⟨rfl, rfl, rfl⟩⟩
  | some j =>
    dsimp only
    cases hpacket : rtcFecPacket rtc ssrc k with
    | error rc => exact ⟨rfl, rfl, .inl ⟨rfl, rfl, rfl⟩⟩
    | ok packet =>
      dsimp only
      cases hprotect : nanoSrtpProtect crypto rtc.srtp packet with
      | mk srtp r =>
        cases r with
        | error rc => exact ⟨rfl, rfl, .inl ⟨rfl, rfl, rfl⟩⟩
        | ok w =>
          dsimp only
          generalize hs : ({ rtc.fecTx.getD j default with buf := w.bytes } : BackingSlot) = s
          generalize hrtc : ({ rtc with srtp := srtp, fecTx := rtc.fecTx.set j s } : NanoRtc) = rtc₁
          have hj : j < rtc.fecTx.length := (List.findIdx?_eq_some_iff_getElem.mp hslot).1
          obtain ⟨-, heq⟩ | ⟨-, wrap, heq⟩ := nanoRtcEnqueueTransmit_cases rtc₁ (.fecTx j)
            w.bytes.length rtc.remoteAddr false
          · rw [heq]
            subst hrtc
            exact ⟨rfl, rfl, .inl ⟨rfl, rfl, rfl⟩⟩
          · rw [heq]
            subst hrtc
            refine ⟨rfl, rfl, .inr ⟨packet, w.bytes, rfl, rfl, rfl, ⟨j, _, _, rfl, ?_⟩,
              rtc.srtp, srtp, w, hprotect, rfl⟩⟩
            show (((rtc.fecTx.set j s).set j (s.hold _)).getD j default).buf = w.bytes
            rw [List.set_set, List.getD_eq_getElem?_getD, List.getElem?_set_self hj, ← hs]
            rfl

/-- The group with one more packet: a new one if the old one is too large already. -/
def fecJoined (rtc : NanoRtc) (pkt : List UInt8) : List (List UInt8) :=
  if rtc.fecTxN ≥ rtcFecEffectiveK rtc then [pkt] else rtc.fecTxGrp.take rtc.fecTxN ++ [pkt]

theorem rtcFecEffectiveK_cases (rtc : NanoRtc) :
    rtcFecEffectiveK rtc = 0 ∨ rtcFecEffectiveK rtc = fecMinGroup ∨
      rtcFecEffectiveK rtc = fecGroupSize := by
  unfold rtcFecEffectiveK
  split
  · exact .inl rfl
  dsimp only
  split
  · exact .inr (.inl rfl)
  · exact .inr (.inr rfl)

/-- What the commitment of a packet does to the group: none is kept on a clean link, the packet
joins, or it completes the group. -/
inductive FecJoins (crypto : CryptoProvider) (ssrc : UInt32) (k : Nat) (group : List (List UInt8))
    (rtc rtc' : NanoRtc) : Prop where
  | off (hk : k = 0) (count : rtc'.fecTxN = 0) (quiet : FecQuiet rtc rtc')
  | waits (hk : group.length < k) (count : rtc'.fecTxN = group.length)
      (held : rtc'.fecTxGrp.take group.length = group) (quiet : FecQuiet rtc rtc')
  | completes (hk : group.length = k) (h0 : k ≠ 0) (count : rtc'.fecTxN = 0)
      (sent : FecQuiet rtc rtc' ∨ ∃ held packet wire, held.fecTxSeq = rtc.fecTxSeq ∧
        held.fecTxGrp.take k = group ∧ rtcFecPacket held ssrc k = .ok packet ∧
          FecEmits crypto rtc rtc' packet wire)

variable (crypto) in
theorem rtcFecCommit_cases {rtc : NanoRtc} {pkt : List UInt8} (hring : rtc.fecTxGrp.length = fecGroupSize)
    (hcount : rtc.fecTxN < fecGroupSize) (hlen : fecRtpHdr ≤ pkt.length)
    (hlen' : pkt.length ≤ mediaBufSize) (srtp : NanoSrtp) (ssrc : UInt32) (budget : Option Nat) :
    (rtcFecCommit crypto { (rtcFecPrepare rtc pkt).1 with srtp := srtp } ssrc (rtcFecPrepare rtc pkt).2
        budget).1.fecTxGrp.length = fecGroupSize ∧
      FecJoins crypto ssrc (rtcFecEffectiveK rtc) (fecJoined rtc pkt) rtc
        (rtcFecCommit crypto { (rtcFecPrepare rtc pkt).1 with srtp := srtp } ssrc
          (rtcFecPrepare rtc pkt).2 budget).1 := by
  have hadmits : ¬ (pkt.length < fecRtpHdr ∨ pkt.length > mediaBufSize ∨ rtc.fecTxN ≥ fecGroupSize) := by
    omega
  unfold rtcFecPrepare
  rw [if_neg hadmits]
  dsimp only
  by_cases h0 : rtcFecEffectiveK rtc = 0
  · rw [if_pos h0]
    unfold rtcFecCommit
    rw [if_neg nofun, if_pos h0]
    exact ⟨hring, .off h0 rfl ⟨rfl, rfl, rfl⟩⟩
  rw [if_neg h0]
  unfold rtcFecCommit
  rw [if_neg nofun, if_neg h0, if_neg (fun h => h rfl)]
  -- the ring and the count once the packet is a member
  generalize hjoin : (if rtc.fecTxN ≥ rtcFecEffectiveK rtc then _ else _ : NanoRtc) = joined
  have hfields : joined.fecTxGrp.length = fecGroupSize ∧ joined.fecTxN = (fecJoined rtc pkt).length ∧
      joined.fecTxGrp.take joined.fecTxN = fecJoined rtc pkt ∧ FecQuiet rtc joined := by
    have hget : (rtc.fecTxGrp.set rtc.fecTxN pkt).getD rtc.fecTxN [] = pkt := by
      rw [List.getD_eq_getElem?_getD, List.getElem?_set_self (by omega)]
      rfl
    rw [← hjoin]
    unfold fecJoined
    split
    · refine ⟨?_, rfl, ?_, rfl, rfl, rfl⟩
      · show ((rtc.fecTxGrp.set _ _).set 0 _).length = _
        rw [List.length_set, List.length_set, hring]
      · show ((rtc.fecTxGrp.set rtc.fecTxN pkt).set 0
          ((rtc.fecTxGrp.set rtc.fecTxN pkt).getD rtc.fecTxN [])).take 1 = _
        rw [hget]
        have hne : (rtc.fecTxGrp.set rtc.fecTxN pkt).length = fecGroupSize := by
          rw [List.length_set, hring]
        cases hset : rtc.fecTxGrp.set rtc.fecTxN pkt with
        | nil =>
          rw [hset] at hne
          exact absurd hne (by decide)
        | cons x xs => rfl
    · refine ⟨?_, ?_, ?_, rfl, rfl, rfl⟩
      · show (rtc.fecTxGrp.set _ _).length = _
        rw [List.length_set, hring]
      · show rtc.fecTxN + 1 = _
        rw [List.length_append, List.length_take, List.length_singleton, hring]
        omega
      · show (rtc.fecTxGrp.set rtc.fecTxN pkt).take (rtc.fecTxN + 1) = _
        rw [List.take_add_one, List.getElem?_set_self (by omega), List.take_set_of_le (Nat.le_refl _)]
        rfl
  obtain ⟨hlength, hn, htake, hquiet⟩ := hfields
  clear hjoin
  have hlt : (fecJoined rtc pkt).length ≤ rtcFecEffectiveK rtc := by
    unfold fecJoined
    split
    · exact Nat.one_le_iff_ne_zero.mpr h0
    · rw [List.length_append, List.length_take, List.length_singleton]
      omega
  rw [hn] at htake
  dsimp only
  rw [hn]
  by_cases hk : (fecJoined rtc pkt).length < rtcFecEffectiveK rtc
  · rw [if_pos hk]
    exact ⟨hlength, .waits hk hn htake hquiet⟩
  · rw [if_neg hk]
    have hk := Nat.le_antisymm hlt (Nat.not_lt.mp hk)
    obtain ⟨hgrp, hcount', hsent⟩ := rtcFecEmit_cases crypto { joined with fecTxN := 0 }
      ssrc (rtcFecEffectiveK rtc) budget
    refine ⟨(congrArg List.length hgrp).trans hlength, .completes hk h0 hcount' ?_⟩
    rcases hsent with hquiet' | ⟨packet, wire, hpacket, hemits⟩
    · exact .inl ⟨hquiet'.seq.trans hquiet.seq, hquiet'.tail.trans hquiet.tail,
        hquiet'.queue.trans hquiet.queue⟩
    · refine .inr ⟨_, packet, wire, hquiet.seq, hk ▸ htake, hpacket, ?_⟩
      obtain ⟨hseq, htail, ⟨j, dest, src, hqueue, hbytes⟩, hsealed⟩ := hemits
      refine ⟨hseq.trans (congrArg (· + 1) hquiet.seq), htail.trans (congrArg (· + 1) hquiet.tail),
        ⟨j, dest, src, hqueue.trans ?_, hbytes⟩, hsealed⟩
      show joined.outQueue.set (outSlot joined.outTail) _ = _
      rw [hquiet.queue, hquiet.tail]

/-! ### The output queue -/

/-- The entries queued by a step. -/
def queuedEntries (before after : NanoRtc) : List NanortcOutput :=
  (List.range (after.outTail - before.outTail).toNat).map fun n =>
    after.outQueue.getD (outSlot (before.outTail + UInt16.ofNat n)) default

/-- The parity datagram that an entry points to. -/
def parityOf (rtc : NanoRtc) : NanortcOutput → Option (List UInt8)
  | .transmit ⟨.fecTx j, len, _, _⟩ => some ((rtc.bytes (.fecTx j)).take len)
  | _ => none

/-- The parity datagrams queued by a step. -/
def queuedParities (before after : NanoRtc) : List (List UInt8) :=
  (queuedEntries before after).filterMap (parityOf after)

theorem queuedEntries_none {before after : NanoRtc} (h : after.outTail = before.outTail) :
    queuedEntries before after = [] := by
  unfold queuedEntries
  rw [h, UInt16.sub_self]
  rfl

theorem queuedEntries_one {before after : NanoRtc} (h : after.outTail = before.outTail + 1) :
    queuedEntries before after = [after.outQueue.getD (outSlot before.outTail) default] := by
  have hone : before.outTail + 1 - before.outTail = 1 := by grind
  unfold queuedEntries
  rw [h, hone]
  show [after.outQueue.getD (outSlot (before.outTail + 0)) default] = _
  rw [UInt16.add_zero]

theorem queuedEntries_two {before after : NanoRtc} (h : after.outTail = before.outTail + 1 + 1) :
    queuedEntries before after = [after.outQueue.getD (outSlot before.outTail) default,
      after.outQueue.getD (outSlot (before.outTail + 1)) default] := by
  have htwo : before.outTail + 1 + 1 - before.outTail = 2 := by grind
  unfold queuedEntries
  rw [h, htwo]
  show [after.outQueue.getD (outSlot (before.outTail + 0)) default,
    after.outQueue.getD (outSlot (before.outTail + 1)) default] = _
  rw [UInt16.add_zero]

theorem outSlot_lt (cursor : UInt16) : outSlot cursor < outQueueSize :=
  Nat.mod_lt _ (by decide)

theorem outSlot_succ_ne (cursor : UInt16) : outSlot (cursor + 1) ≠ outSlot cursor := by
  have hone : (1 : UInt16).toNat = 1 := rfl
  have hsize : outQueueSize = 32 := rfl
  unfold outSlot
  rw [UInt16.toNat_add, hone, hsize]
  omega

/-- The step hands a fragment on: FEC is left alone, and at most an entry for the packet ring is
queued. -/
structure HandsOn (rtc rtc' : NanoRtc) : Prop where
  buffers : rtc'.fecTx = rtc.fecTx
  ring : rtc'.fecTxGrp = rtc.fecTxGrp
  count : rtc'.fecTxN = rtc.fecTxN
  seq : rtc'.fecTxSeq = rtc.fecTxSeq
  queue : (rtc'.outTail = rtc.outTail ∧ rtc'.outQueue = rtc.outQueue) ∨
    rtc'.outTail = rtc.outTail + 1 ∧ ∃ j len dest src, rtc'.outQueue =
      rtc.outQueue.set (outSlot rtc.outTail) (.transmit ⟨.pktRing j, len, dest, src⟩)

theorem rtcQueueFragment_handsOn (pacing : Bool) (rtc : NanoRtc) (wireSeq : UInt16)
    (wire : List UInt8) : HandsOn rtc (rtcQueueFragment pacing rtc wireSeq wire).1 := by
  unfold rtcQueueFragment
  split
  · exact ⟨rfl, rfl, rfl, rfl, .inl ⟨rfl, rfl⟩⟩
  · dsimp only
    generalize hq : ({ rtc with
      pktRing := rtc.pktRing.set (pktSlot rtc.pktRingTail) ⟨wire, wireSeq, wire.length⟩
      pktRingTail := rtc.pktRingTail + 1 } : NanoRtc) = queued
    obtain ⟨-, heq⟩ | ⟨-, wrap, heq⟩ := nanoRtcEnqueueTransmit_cases queued
      (.pktRing (pktSlot rtc.pktRingTail)) wire.length rtc.remoteAddr false
    · rw [heq]
      subst hq
      exact ⟨rfl, rfl, rfl, rfl, .inl ⟨rfl, rfl⟩⟩
    · rw [heq]
      subst hq
      exact ⟨rfl, rfl, rfl, rfl, .inr ⟨rfl, _, _, _, _, rfl⟩⟩

theorem HandsOn.length {rtc rtc' : NanoRtc} (h : HandsOn rtc rtc') :
    rtc'.outQueue.length = rtc.outQueue.length := by
  rcases h.queue with ⟨-, hqueue⟩ | ⟨-, j, len, dest, src, hqueue⟩
  · rw [hqueue]
  · rw [hqueue, List.length_set]

/-- Nothing of FEC is queued. -/
theorem FecQuiet.parities {rtc mid rtc' : NanoRtc} (h : FecQuiet rtc mid) (hon : HandsOn mid rtc')
    (hlen : rtc.outQueue.length = outQueueSize) : queuedParities rtc rtc' = [] := by
  unfold queuedParities
  rcases hon.queue with ⟨htail, -⟩ | ⟨htail, j, len, dest, src, hqueue⟩
  · rw [queuedEntries_none (htail.trans h.tail)]
    rfl
  · rw [h.tail] at htail hqueue
    have hslot : outSlot rtc.outTail < mid.outQueue.length := by
      rw [h.queue, hlen]
      exact outSlot_lt _
    rw [queuedEntries_one htail, hqueue, List.getD_eq_getElem?_getD, List.getElem?_set_self hslot]
    rfl

/-- The parity packet is queued, and nothing else of FEC. -/
theorem FecEmits.parities {rtc mid rtc' : NanoRtc} {packet wire : List UInt8}
    (h : FecEmits crypto rtc mid packet wire) (hon : HandsOn mid rtc')
    (hlen : rtc.outQueue.length = outQueueSize) : queuedParities rtc rtc' = [wire] := by
  obtain ⟨i, dest, src, hqueue, hbytes⟩ := h.queue
  have hslot : outSlot rtc.outTail < rtc.outQueue.length := by
    rw [hlen]
    exact outSlot_lt _
  have hbytes' : rtc'.bytes (.fecTx i) = wire := by
    rw [← hbytes]
    show (rtc'.fecTx.getD i default).buf = (mid.fecTx.getD i default).buf
    rw [hon.buffers]
  have hparity : parityOf rtc' (.transmit ⟨.fecTx i, wire.length, dest, src⟩) = some wire := by
    show some ((rtc'.bytes (.fecTx i)).take wire.length) = _
    rw [hbytes', List.take_length]
  unfold queuedParities
  rcases hon.queue with ⟨htail, hqueue'⟩ | ⟨htail, j, len, dest', src', hqueue'⟩
  · rw [queuedEntries_one (htail.trans h.tail), hqueue', hqueue, List.getD_eq_getElem?_getD,
      List.getElem?_set_self hslot]
    exact List.filterMap_cons_some hparity
  · rw [h.tail] at htail hqueue'
    have hne := outSlot_succ_ne rtc.outTail
    have hslot' : outSlot (rtc.outTail + 1) < mid.outQueue.length := by
      rw [hqueue, List.length_set, hlen]
      exact outSlot_lt _
    rw [queuedEntries_two htail, hqueue', List.getD_eq_getElem?_getD, List.getElem?_set_ne hne,
      hqueue, List.getElem?_set_self hslot, ← hqueue, List.getD_eq_getElem?_getD,
      List.getElem?_set_self hslot']
    exact List.filterMap_cons_some hparity

/-! ### Runs -/

/-- A fragment is sent on the track, or anything else happens to the connection. -/
inductive FecCall where
  | fragment (timestamp : UInt32) (isLastNal : Bool) (f : H264Fragment) (budget : Option Nat)
  | between (rtc : MediaRtc)

/-- A sender with the packets that it has protected, in the order they were sent, and the parity
datagrams that it has queued. -/
structure FecTrace where
  rtc : MediaRtc
  media : List (List UInt8)
  parities : List (List UInt8)

/-- The RTP packet of a fragment. -/
def fragmentPacket (m : MediaTrack) (timestamp : UInt32) (isLastNal : Bool) (f : H264Fragment) :
    NanoRtp × Except Rc (List UInt8) :=
  rtpPack { m.rtp with marker := f.isLast && isLastNal } timestamp f.payload mediaBufSize

/-- What happens between two fragments leaves the tracks and the group that is collected; it may
change the rest: the loss that is measured, the keys, the queue that is polled, the parity buffers
that are freed. -/
def fecBetween (rtc rtc' : MediaRtc) : MediaRtc :=
  { rtc' with
    media := rtc.media
    fecTxGrp := rtc.fecTxGrp
    fecTxN := rtc.fecTxN
    fecTxSeq := rtc.fecTxSeq }

variable (crypto) in
/-- One call of a run; a packet is protected when the sender report counts it. -/
def fecStep (pacing : Bool) (i : Nat) (t : FecTrace) : FecCall → FecTrace
  | .fragment timestamp isLastNal f budget =>
    let rtc := (rtcSendFecFragment crypto pacing i timestamp isLastNal (t.rtc, budget) f).1.1
    let sent := if (rtc.track i).rtcp.packetsSent = (t.rtc.track i).rtcp.packetsSent then []
      else (fragmentPacket (t.rtc.track i) timestamp isLastNal f).2.toOption.toList
    ⟨rtc, t.media ++ sent, t.parities ++ queuedParities t.rtc.toNanoRtc rtc.toNanoRtc⟩
  | .between rtc => { t with rtc := fecBetween t.rtc rtc }

/-- What a fragment that is not protected leaves. -/
structure FecUnsent (i : Nat) (rtc rtc' : MediaRtc) : Prop where
  tracks : rtc'.media.length = rtc.media.length
  track : (rtc'.track i).rtp.ssrc = (rtc.track i).rtp.ssrc
  packetsSent : (rtc'.track i).rtcp.packetsSent = (rtc.track i).rtcp.packetsSent
  ring : rtc'.fecTxGrp.length = rtc.fecTxGrp.length
  count : rtc'.fecTxN = rtc.fecTxN
  held : rtc'.fecTxGrp.take rtc.fecTxN = rtc.fecTxGrp.take rtc.fecTxN
  quiet : FecQuiet rtc.toNanoRtc rtc'.toNanoRtc
  seq : (rtc'.track i).rtp.seq = (rtc.track i).rtp.seq ∨
    (rtc'.track i).rtp.seq = (rtc.track i).rtp.seq + 1

/-- What a fragment that is protected leaves. -/
structure FecSent (crypto : CryptoProvider) (i : Nat) (packet : List UInt8) (rtc rtc' : MediaRtc) :
    Prop where
  tracks : rtc'.media.length = rtc.media.length
  track : (rtc'.track i).rtp.ssrc = (rtc.track i).rtp.ssrc
  packetsSent : (rtc'.track i).rtcp.packetsSent = (rtc.track i).rtcp.packetsSent + 1
  seq : (rtc'.track i).rtp.seq = (rtc.track i).rtp.seq + 1
  ring : rtc'.fecTxGrp.length = fecGroupSize
  joins : ∃ mid, FecJoins crypto (rtc.track i).rtp.ssrc (rtcFecEffectiveK rtc.toNanoRtc)
    (fecJoined rtc.toNanoRtc packet) rtc.toNanoRtc mid ∧ HandsOn mid rtc'.toNanoRtc

/-- A packet of the source that parity can be taken over. -/
structure FecMember (ssrc : UInt32) (p : List UInt8) : Prop where
  lengths : fecRtpHdr ≤ p.length ∧ p.length ≤ mediaBufSize
  version : byteAt p 0 >>> 6 = 2
  source : readU32be p 8 = ssrc

theorem rtpPack_packed {rtp rtp' : NanoRtp} {timestamp : UInt32} {payload packet : List UInt8}
    {bufLen : Nat} (h : rtpPack rtp timestamp payload bufLen = (rtp', .ok packet)) :
    rtp'.seq = rtp.seq + 1 ∧ rtp'.ssrc = rtp.ssrc ∧ Packed rtp payload packet ∧
      packet.length ≤ bufLen ∧ byteAt packet 0 >>> 6 = 2 := by
  by_cases hfits : bufLen < rtp.headerLen + payload.length
  · unfold rtpPack at h
    rw [if_pos hfits] at h
    exact nomatch (Prod.mk.inj h).2
  obtain ⟨packet', hpacked, hpack⟩ := rtpPack_fits (Nat.not_lt.mp hfits) timestamp
  obtain ⟨rfl, hpacket⟩ := Prod.mk.inj (hpack.symm.trans h)
  obtain rfl := Except.ok.inj hpacket
  refine ⟨rfl, rfl, hpacked, hpacked.length.trans_le (Nat.not_lt.mp hfits), ?_⟩
  unfold rtpPack at h
  rw [if_neg hfits] at h
  rw [← Except.ok.inj (Prod.mk.inj h).2]
  show (if rtp.hasTwcc then (0x90 : UInt8) else 0x80) >>> 6 = 2
  cases rtp.hasTwcc <;> rfl

theorem fragmentPacket_ok {m : MediaTrack} {timestamp : UInt32} {isLastNal : Bool}
    {f : H264Fragment} {rtp : NanoRtp} {packet : List UInt8}
    (h : fragmentPacket m timestamp isLastNal f = (rtp, .ok packet)) :
    rtp.seq = m.rtp.seq + 1 ∧ rtp.ssrc = m.rtp.ssrc ∧ fecSeq packet = m.rtp.seq ∧
      FecMember m.rtp.ssrc packet := by
  obtain ⟨hseq, hssrc, hpacked, hlen, hversion⟩ := rtpPack_packed h
  refine ⟨hseq, hssrc, hpacked.seq, ⟨?_, hlen⟩, hversion, hpacked.ssrc⟩
  rw [hpacked.length]
  have h1 : fecRtpHdr = 12 := rfl
  obtain ⟨-, hhdr⟩ | ⟨-, hhdr⟩ := headerLen_cases { m.rtp with marker := f.isLast && isLastNal } <;>
    omega

theorem rtcFecPrepare_held (rtc : NanoRtc) (pkt : List UInt8) :
    (rtcFecPrepare rtc pkt).1.fecTxGrp.length = rtc.fecTxGrp.length ∧
      (rtcFecPrepare rtc pkt).1.fecTxN = rtc.fecTxN ∧
      (rtcFecPrepare rtc pkt).1.fecTxGrp.take rtc.fecTxN = rtc.fecTxGrp.take rtc.fecTxN ∧
      FecQuiet rtc (rtcFecPrepare rtc pkt).1 := by
  unfold rtcFecPrepare
  split
  · exact ⟨rfl, rfl, rfl, rfl, rfl, rfl⟩
  dsimp only
  split
  · exact ⟨rfl, rfl, rfl, rfl, rfl, rfl⟩
  · exact ⟨List.length_set, rfl, List.take_set_of_le (Nat.le_refl _), rfl, rfl, rfl⟩

variable (crypto) in
/-- A fragment is protected and joins its group, or FEC does not see it. -/
theorem rtcSendFecFragment_cases (pacing : Bool) {i : Nat} {rtc : MediaRtc}
    (hi : i < rtc.media.length) (hring : rtc.fecTxGrp.length = fecGroupSize)
    (hcount : rtc.fecTxN < fecGroupSize) (timestamp : UInt32) (isLastNal : Bool) (f : H264Fragment)
    (budget : Option Nat) :
    FecUnsent i rtc (rtcSendFecFragment crypto pacing i timestamp isLastNal (rtc, budget) f).1.1 ∨
      ∃ rtp packet, fragmentPacket (rtc.track i) timestamp isLastNal f = (rtp, .ok packet) ∧
        FecSent crypto i packet rtc
          (rtcSendFecFragment crypto pacing i timestamp isLastNal (rtc, budget) f).1.1 := by
  unfold rtcSendFecFragment
  dsimp only
  split
  · exact .inl ⟨rfl, rfl, rfl, rfl, rfl, rfl, ⟨rfl, rfl, rfl⟩, .inl rfl⟩
  cases hpack : fragmentPacket (rtc.track i) timestamp isLastNal f with
  | mk rtp r =>
    rw [show rtpPack _ timestamp f.payload mediaBufSize = (rtp, r) from hpack]
    cases r with
    | error rc =>
      left
      have hrtp : rtp = { (rtc.track i).rtp with marker := f.isLast && isLastNal } := by
        unfold fragmentPacket rtpPack at hpack
        split at hpack
        · exact (Prod.mk.inj hpack).1.symm
        · exact nomatch (Prod.mk.inj hpack).2
      have htrack := track_setTrack hi { rtc.track i with rtp := rtp }
      refine ⟨?_, ?_, ?_, rfl, rfl, rfl, ⟨rfl, rfl, rfl⟩, .inl ?_⟩
      · exact List.length_set
      · rw [htrack, hrtp]
      · rw [htrack]
      · rw [htrack, hrtp]
    | ok packet =>
      obtain ⟨hseq, hssrc, -, hmember⟩ := fragmentPacket_ok hpack
      dsimp only
      cases hprotect : nanoSrtpProtect crypto (rtcFecPrepare rtc.toNanoRtc packet).1.srtp packet with
      | mk srtp r =>
        cases r with
        | error rc =>
          left
          dsimp only
          obtain ⟨hlength, hn, htake, hquiet⟩ := rtcFecPrepare_held rtc.toNanoRtc packet
          have htrack := fun out => @track_setTrack (rtc.withOut out) i hi
            { rtc.track i with rtp := rtp }
          refine ⟨List.length_set, ?_, ?_, hlength, hn, htake, ⟨hquiet.seq, hquiet.tail, hquiet.queue⟩,
            .inr ?_⟩
          · rw [htrack, hssrc]
          · rw [htrack]
          · rw [htrack, hseq]
        | ok wire =>
          right
          refine ⟨rtp, packet, rfl, ?_⟩
          obtain ⟨hlength, hjoins⟩ := rtcFecCommit_cases crypto hring hcount
            hmember.lengths.1 hmember.lengths.2 srtp (rtc.track i).rtp.ssrc budget
          dsimp only
          generalize rtcFecCommit crypto { (rtcFecPrepare rtc.toNanoRtc packet).1 with srtp := srtp }
            (rtc.track i).rtp.ssrc (rtcFecPrepare rtc.toNanoRtc packet).2 budget = committed at *
          obtain ⟨mid, budget'⟩ := committed
          dsimp only at hlength hjoins ⊢
          have hon := rtcQueueFragment_handsOn pacing mid (rtp.seq - 1) wire.bytes
          generalize rtcQueueFragment pacing mid (rtp.seq - 1) wire.bytes = queued at *
          obtain ⟨out, rc⟩ := queued
          have htrack := @track_setTrack (rtc.withOut out) i hi
            { rtc.track i with
              rtp := rtp
              rtcp := { (rtc.track i).rtcp with
                packetsSent := (rtc.track i).rtcp.packetsSent + 1
                octetsSent := (rtc.track i).rtcp.octetsSent + UInt32.ofNat f.payload.length } }
          refine ⟨List.length_set, ?_, ?_, ?_, (congrArg List.length hon.ring).trans hlength, mid, hjoins, hon⟩
          · rw [htrack, hssrc]
          · rw [htrack]
          · rw [htrack, hseq]

/-- A parity datagram of a group: the group is a row of the packets sent, and the datagram is its
parity packet as SRTP protects it. -/
structure FecParity (crypto : CryptoProvider) (seq : UInt16) (ssrc : UInt32)
    (media group : List (List UInt8)) (wire : List UInt8) : Prop where
  row : group <:+: media
  size : group.length = fecMinGroup ∨ group.length = fecGroupSize
  window : ∀ p ∈ group, (fecSeq p - fecSnBase group).toNat < fecMaxGroup
  sealed : ∃ srtp srtp' w, nanoSrtpProtect crypto srtp (fecRtp seq ssrc group) = (srtp', .ok w) ∧
    w.bytes = wire

theorem FecParity.append {seq : UInt16} {ssrc : UInt32} {media group : List (List UInt8)}
    {wire : List UInt8} (h : FecParity crypto seq ssrc media group wire) (more : List (List UInt8)) :
    FecParity crypto seq ssrc (media ++ more) group wire :=
  { h with row := h.row.trans (List.infix_append' [] media more) }

/-- The parity datagrams of a run with their groups, of which none shares a packet with another. -/
structure FecParities (crypto : CryptoProvider) (seq : UInt16) (ssrc : UInt32)
    (media : List (List UInt8)) (groups : List (List (List UInt8))) (wires : List (List UInt8)) :
    Prop where
  length : groups.length = wires.length
  each : ∀ j group wire, groups[j]? = some group → wires[j]? = some wire →
    FecParity crypto (seq + UInt16.ofNat j) ssrc media group wire

theorem FecParities.append {seq : UInt16} {ssrc : UInt32} {media : List (List UInt8)}
    {groups : List (List (List UInt8))} {wires : List (List UInt8)}
    (h : FecParities crypto seq ssrc media groups wires) (more : List (List UInt8)) :
    FecParities crypto seq ssrc (media ++ more) groups wires :=
  ⟨h.length, fun j group wire hg hw => (h.each j group wire hg hw).append more⟩

theorem FecParities.snoc {seq : UInt16} {ssrc : UInt32} {media : List (List UInt8)}
    {groups : List (List (List UInt8))} {wires : List (List UInt8)} {group : List (List UInt8)}
    {wire : List UInt8} (h : FecParities crypto seq ssrc media groups wires)
    (hlast : FecParity crypto (seq + UInt16.ofNat groups.length) ssrc media group wire) :
    FecParities crypto seq ssrc media (groups ++ [group]) (wires ++ [wire]) := by
  refine ⟨by rw [List.length_append, List.length_append, h.length]; rfl, fun j g w hg hw => ?_⟩
  rcases Nat.lt_trichotomy j groups.length with hlt | rfl | hgt
  · rw [List.getElem?_append_left hlt] at hg
    rw [List.getElem?_append_left (h.length ▸ hlt)] at hw
    exact h.each j g w hg hw
  · rw [List.getElem?_concat_length] at hg
    rw [h.length, List.getElem?_concat_length] at hw
    obtain rfl := Option.some.inj hg
    obtain rfl := Option.some.inj hw
    exact hlast
  · rw [List.getElem?_eq_none (by rw [List.length_append, List.length_singleton]; omega)] at hg
    exact nomatch hg

/-- What holds of a sender at any time: the group that is collected is the tail of what was sent,
and the parity that was queued is that of rows before it. -/
structure FecSending (crypto : CryptoProvider) (i : Nat) (base : UInt16) (ssrc : UInt32) (t : FecTrace)
    (groups : List (List (List UInt8))) : Prop where
  ring : t.rtc.fecTxGrp.length = fecGroupSize
  count : t.rtc.fecTxN < fecGroupSize
  queue : t.rtc.outQueue.length = outQueueSize
  track : i < t.rtc.media.length ∧ (t.rtc.track i).rtp.ssrc = ssrc
  seq : t.rtc.fecTxSeq = base + UInt16.ofNat groups.length
  members : ∀ p ∈ t.media, FecMember ssrc p
  split : ∃ older, t.media = older ++ t.rtc.fecTxGrp.take t.rtc.fecTxN ∧ groups.flatten.Sublist older
  parities : FecParities crypto base ssrc t.media groups t.parities

/-- A step keeps the state of the sender. -/
theorem FecSending.step (pacing : Bool) {i : Nat} {base : UInt16} {ssrc : UInt32} {t : FecTrace}
    {groups : List (List (List UInt8))} (h : FecSending crypto i base ssrc t groups) (c : FecCall)
    (hc : ∀ rtc, c = .between rtc → rtc.outQueue.length = outQueueSize) :
    ∃ groups', FecSending crypto i base ssrc (fecStep crypto pacing i t c) groups' := by
  cases c with
  | between rtc =>
    exact ⟨groups, h.ring, h.count, hc rtc rfl, h.track, h.seq, h.members, h.split, h.parities⟩
  | fragment timestamp isLastNal f budget =>
    unfold fecStep
    dsimp only
    rcases rtcSendFecFragment_cases crypto pacing h.track.1 h.ring h.count
      timestamp isLastNal f budget with hunsent | ⟨rtp, packet, hpacket, hsent⟩
    · generalize (rtcSendFecFragment crypto pacing i timestamp isLastNal (t.rtc, budget) f).1.1 =
        rtc at hunsent ⊢
      have hnone : queuedParities t.rtc.toNanoRtc rtc.toNanoRtc = [] := by
        unfold queuedParities
        rw [queuedEntries_none hunsent.quiet.tail]
        rfl
      rw [if_pos hunsent.packetsSent, hnone, List.append_nil, List.append_nil]
      refine ⟨groups, hunsent.ring.trans h.ring, hunsent.count.symm ▸ h.count,
        (congrArg List.length hunsent.quiet.queue).trans h.queue,
        ⟨hunsent.tracks.symm ▸ h.track.1, hunsent.track.trans h.track.2⟩,
        hunsent.quiet.seq.trans h.seq, h.members, ?_, h.parities⟩
      show ∃ older, t.media = older ++ rtc.fecTxGrp.take rtc.fecTxN ∧ _
      rw [hunsent.count, hunsent.held]
      exact h.split
    · generalize (rtcSendFecFragment crypto pacing i timestamp isLastNal (t.rtc, budget) f).1.1 =
        rtc at hsent ⊢
      obtain ⟨mid, hjoins, hon⟩ := hsent.joins
      have hmember : FecMember ssrc packet := h.track.2 ▸ (fragmentPacket_ok hpacket).2.2.2
      have hnew : (rtc.track i).rtcp.packetsSent ≠ (t.rtc.track i).rtcp.packetsSent := by
        rw [hsent.packetsSent]
        grind
      rw [if_neg hnew, hpacket]
      show ∃ groups', FecSending crypto i base ssrc ⟨rtc, t.media ++ [packet], _⟩ groups'
      have hmembers : ∀ p ∈ t.media ++ [packet], FecMember ssrc p := by
        intro p hp
        rcases List.mem_append.mp hp with hp | hp
        · exact h.members p hp
        · exact List.mem_singleton.mp hp ▸ hmember
      -- the packet joins the tail of what was sent
      obtain ⟨older, hmedia, hgroups⟩ := h.split
      obtain ⟨older', hmedia', hgroups'⟩ : ∃ older',
          t.media ++ [packet] = older' ++ fecJoined t.rtc.toNanoRtc packet ∧
            groups.flatten.Sublist older' := by
        unfold fecJoined
        split
        · exact ⟨t.media, rfl, hgroups.trans (hmedia ▸ List.sublist_append_left older _)⟩
        · exact ⟨older, by rw [hmedia, List.append_assoc], hgroups⟩
      have htrack : i < rtc.media.length ∧ (rtc.track i).rtp.ssrc = ssrc :=
        ⟨hsent.tracks.symm ▸ h.track.1, hsent.track.trans h.track.2⟩
      have hparities := h.parities.append [packet]
      have hk := rtcFecEffectiveK_cases t.rtc.toNanoRtc
      have hsizes : fecMinGroup = 4 ∧ fecGroupSize = 8 := ⟨rfl, rfl⟩
      have hqueue (hlen : mid.outQueue.length = outQueueSize) : rtc.outQueue.length = outQueueSize :=
        hon.length.trans hlen
      -- without parity the groups stay, and what is older may be all
      have hquiet (q : FecQuiet t.rtc.toNanoRtc mid) (hcount : rtc.fecTxN < fecGroupSize)
          (hsplit : ∃ older, t.media ++ [packet] = older ++ rtc.fecTxGrp.take rtc.fecTxN ∧
            groups.flatten.Sublist older) :
          ∃ groups', FecSending crypto i base ssrc
            ⟨rtc, t.media ++ [packet], t.parities ++
              queuedParities t.rtc.toNanoRtc rtc.toNanoRtc⟩ groups' := by
        rw [q.parities hon h.queue, List.append_nil]
        exact ⟨groups, hsent.ring, hcount, hqueue ((congrArg List.length q.queue).trans h.queue),
          htrack, (hon.seq.trans q.seq).trans h.seq, hmembers, hsplit, hparities⟩
      have hall : groups.flatten.Sublist (t.media ++ [packet]) :=
        hgroups'.trans (hmedia' ▸ List.sublist_append_left older' _)
      have hempty (hzero : rtc.fecTxN = 0) :
          ∃ older, t.media ++ [packet] = older ++ rtc.fecTxGrp.take rtc.fecTxN ∧
            groups.flatten.Sublist older :=
        ⟨_, by rw [hzero, List.take_zero, List.append_nil], hall⟩
      cases hjoins with
      | off _ hzero q =>
        have hzero : rtc.fecTxN = 0 := hon.count.trans hzero
        exact hquiet q (hzero ▸ by decide) (hempty hzero)
      | waits hlt hcount hheld q =>
        have hcount : rtc.fecTxN = (fecJoined t.rtc.toNanoRtc packet).length := hon.count.trans hcount
        refine hquiet q (by omega) ⟨older', ?_, hgroups'⟩
        rw [hcount, hon.ring, hheld]
        exact hmedia'
      | completes hlen h0 hzero hemit =>
        have hzero : rtc.fecTxN = 0 := hon.count.trans hzero
        rcases hemit with q | ⟨held, parity, wire, hseq, hheld, hparity, hemits⟩
        · exact hquiet q (hzero ▸ by decide) (hempty hzero)
        · have hrow : fecJoined t.rtc.toNanoRtc packet <:+: t.media ++ [packet] :=
            ⟨older', [], by rw [List.append_nil, hmedia']⟩
          obtain ⟨rfl, hwindow⟩ := rtcFecPacket_ok hparity hheld hlen h0 fun p hp => by
            have hp := (hmembers p (hrow.subset hp)).lengths.2
            have hbuf : mediaBufSize = 1232 := rfl
            omega
          obtain ⟨j, dest, src, hentry, -⟩ := hemits.queue
          have hseq' : held.fecTxSeq = base + UInt16.ofNat groups.length := hseq.trans h.seq
          rw [h.track.2, hseq'] at hemits
          rw [hemits.parities hon h.queue]
          refine ⟨groups ++ [fecJoined t.rtc.toNanoRtc packet], hsent.ring, hzero ▸ by decide,
            hqueue ?_, htrack, ?_, hmembers, ⟨t.media ++ [packet], ?_, ?_⟩,
            hparities.snoc ⟨hrow, ?_, hwindow, hemits.sealed⟩⟩
          · rw [hentry, List.length_set, h.queue]
          · show rtc.fecTxSeq = _
            rw [hon.seq, hemits.seq, h.seq, List.length_append, List.length_singleton,
              UInt16.ofNat_add, ← UInt16.add_assoc]
            rfl
          · rw [hzero, List.take_zero, List.append_nil]
          · rw [List.flatten_append, List.flatten_singleton, hmedia']
            exact hgroups'.append (List.Sublist.refl _)
          · omega

/-! ### Groups that can be recovered -/

/-- The packets sent have the sequence numbers before the next one. -/
def SeqRow (seq : UInt16) (media : List (List UInt8)) : Prop :=
  ∀ j p, media[j]? = some p → fecSeq p = seq - UInt16.ofNat (media.length - j)

theorem SeqRow.snoc {seq : UInt16} {media : List (List UInt8)} {p : List UInt8}
    (h : SeqRow seq media) (hp : fecSeq p = seq) : SeqRow (seq + 1) (media ++ [p]) := by
  intro j q hq
  rw [List.length_append, List.length_singleton]
  rcases Nat.lt_trichotomy j media.length with hlt | rfl | hgt
  · rw [List.getElem?_append_left hlt] at hq
    rw [h j q hq, show media.length + 1 - j = media.length - j + 1 by omega, UInt16.ofNat_add]
    show _ = seq + 1 - (_ + 1)
    grind
  · rw [List.getElem?_concat_length] at hq
    obtain rfl := Option.some.inj hq
    rw [hp, Nat.add_sub_cancel_left]
    show _ = seq + 1 - 1
    grind
  · rw [List.getElem?_eq_none (by rw [List.length_append, List.length_singleton]; omega)] at hq
    exact nomatch hq

/-- The sequence numbers of a short row are different. -/
theorem SeqRow.nodup {seq : UInt16} {media group : List (List UInt8)} (h : SeqRow seq media)
    (hrow : group <:+: media) (hlen : group.length ≤ fecMaxGroup) : (group.map fecSeq).Nodup := by
  obtain ⟨older, newer, rfl⟩ := hrow
  have hmax : fecMaxGroup = 16 := rfl
  have hseq (j : Nat) (hj : j < group.length) :
      fecSeq group[j] = seq - UInt16.ofNat ((older ++ group ++ newer).length - (older.length + j)) := by
    refine h (older.length + j) group[j] ?_
    rw [List.append_assoc, List.getElem?_append_right (Nat.le_add_right _ _), Nat.add_sub_cancel_left,
      List.getElem?_append_left hj, List.getElem?_eq_getElem hj]
  rw [List.Nodup, List.pairwise_iff_getElem]
  intro j k hj hk hlt heq
  rw [List.length_map] at hj hk
  rw [List.getElem_map, List.getElem_map, hseq j hj, hseq k hk, List.length_append,
    List.length_append] at heq
  have heq : UInt16.ofNat (older.length + group.length + newer.length - (older.length + j)) =
      UInt16.ofNat (older.length + group.length + newer.length - (older.length + k)) := by
    grind
  have heq := congrArg UInt16.toNat heq
  rw [UInt16.toNat_ofNat', UInt16.toNat_ofNat'] at heq
  omega

theorem FecParity.group {seq : UInt16} {ssrc : UInt32} {media group : List (List UInt8)}
    {wire : List UInt8} (h : FecParity crypto seq ssrc media group wire)
    (hmembers : ∀ p ∈ media, FecMember ssrc p) (hdistinct : (group.map fecSeq).Nodup) :
    FecGroup ssrc group where
  size := by
    have hsizes : fecMinGroup = 4 ∧ fecGroupSize = 8 ∧ fecMaxGroup = 16 := ⟨rfl, rfl, rfl⟩
    have hsize := h.size
    omega
  lengths p hp := by
    have hbuf : mediaBufSize = 1232 := rfl
    have hlen := (hmembers p (h.row.subset hp)).lengths
    omega
  version p hp := (hmembers p (h.row.subset hp)).version
  source p hp := (hmembers p (h.row.subset hp)).source
  distinct := hdistinct
  window := ⟨_, h.window⟩

variable (crypto) in
/-- The step protects the packet that it packs. -/
def FecProtects (pacing : Bool) (i : Nat) (t : FecTrace) (c : FecCall) : Prop :=
  ((fecStep crypto pacing i t c).rtc.track i).rtp.seq ≠ (t.rtc.track i).rtp.seq →
    ((fecStep crypto pacing i t c).rtc.track i).rtcp.packetsSent ≠ (t.rtc.track i).rtcp.packetsSent

instance (pacing : Bool) (i : Nat) (t : FecTrace) (c : FecCall) :
    Decidable (FecProtects crypto pacing i t c) :=
  inferInstanceAs (Decidable (_ ≠ _ → _ ≠ _))

theorem SeqRow.step {pacing : Bool} {i : Nat} {base : UInt16} {ssrc : UInt32} {t : FecTrace}
    {groups : List (List (List UInt8))} {c : FecCall}
    (hrow : SeqRow (t.rtc.track i).rtp.seq t.media) (h : FecSending crypto i base ssrc t groups)
    (hprotects : FecProtects crypto pacing i t c) :
    SeqRow ((fecStep crypto pacing i t c).rtc.track i).rtp.seq (fecStep crypto pacing i t c).media := by
  cases c with
  | between rtc => exact hrow
  | fragment timestamp isLastNal f budget =>
    unfold FecProtects at hprotects
    unfold fecStep at hprotects ⊢
    dsimp only at hprotects ⊢
    rcases rtcSendFecFragment_cases crypto pacing h.track.1 h.ring h.count
      timestamp isLastNal f budget with hunsent | ⟨rtp, packet, hpacket, hsent⟩
    · rw [if_pos hunsent.packetsSent, List.append_nil]
      rcases hunsent.seq with hseq | hseq
      · rw [hseq]
        exact hrow
      · exact absurd hunsent.packetsSent (hprotects (by rw [hseq]; grind))
    · have hnew : ((rtcSendFecFragment crypto pacing i timestamp isLastNal (t.rtc, budget)
          f).1.1.track i).rtcp.packetsSent ≠ (t.rtc.track i).rtcp.packetsSent := by
        rw [hsent.packetsSent]
        grind
      rw [if_neg hnew, hsent.seq, hpacket]
      exact hrow.snoc (fragmentPacket_ok hpacket).2.2.1

variable (crypto) in
/-- The state of the sender after a run, and what its sequence numbers are if nothing was lost. -/
theorem fecSending_run (pacing : Bool) {i : Nat} {rtc : MediaRtc}
    (hring : rtc.fecTxGrp.length = fecGroupSize) (hcount : rtc.fecTxN = 0)
    (hqueue : rtc.outQueue.length = outQueueSize) (htrack : i < rtc.media.length)
    (calls : List FecCall)
    (hcalls : ∀ rtc, .between rtc ∈ calls → rtc.outQueue.length = outQueueSize) :
    ∃ groups, FecSending crypto i rtc.fecTxSeq (rtc.track i).rtp.ssrc
        (run (fecStep crypto pacing i) ⟨rtc, [], []⟩ calls) groups ∧
      (AllSteps (fecStep crypto pacing i) ⟨rtc, [], []⟩ (FecProtects crypto pacing i) calls →
        SeqRow ((run (fecStep crypto pacing i) ⟨rtc, [], []⟩ calls).rtc.track i).rtp.seq
          (run (fecStep crypto pacing i) ⟨rtc, [], []⟩ calls).media) := by
  revert hcalls
  refine run_induction (P := fun calls t =>
    (∀ rtc, .between rtc ∈ calls → rtc.outQueue.length = outQueueSize) →
      ∃ groups, FecSending crypto i rtc.fecTxSeq (rtc.track i).rtp.ssrc t groups ∧
        (AllSteps (fecStep crypto pacing i) ⟨rtc, [], []⟩ (FecProtects crypto pacing i) calls →
          SeqRow (t.rtc.track i).rtp.seq t.media)) ?_ ?_ calls
  · intro _
    have hnone : rtc.fecTxGrp.take rtc.fecTxN = [] := by rw [hcount, List.take_zero]
    refine ⟨[], ⟨hring, hcount ▸ by decide, hqueue, ⟨htrack, rfl⟩, (UInt16.add_zero _).symm,
      List.forall_mem_nil _, ⟨[], hnone.symm, List.nil_sublist _⟩, rfl, nofun⟩, nofun⟩
  · intro calls c ih hcalls
    obtain ⟨groups, h, hrow⟩ := ih fun rtc hmem => hcalls rtc (List.mem_append_left _ hmem)
    obtain ⟨groups', h'⟩ := h.step pacing c fun rtc hc =>
      hcalls rtc (List.mem_append_right _ (hc ▸ List.mem_singleton_self _))
    refine ⟨groups', h', fun hall => ?_⟩
    obtain ⟨hbefore, hlast⟩ := allSteps_append.mp hall
    exact (hrow hbefore).step h hlast.1

variable (crypto) in
/-- **The parity of a run.** Whatever happens between the fragments, each parity datagram is the
protected parity packet of four or eight packets sent one after the other; the groups are in order
and share no packet; and a receiver that has the parity packet and all packets of the group but one
has that one, unless so many packets in between failed to be protected that sequence numbers of the
group repeat. -/
theorem fecSending (pacing : Bool) {i : Nat} {rtc : MediaRtc}
    (hring : rtc.fecTxGrp.length = fecGroupSize) (hcount : rtc.fecTxN = 0)
    (hqueue : rtc.outQueue.length = outQueueSize) (htrack : i < rtc.media.length)
    (calls : List FecCall)
    (hcalls : ∀ rtc, .between rtc ∈ calls → rtc.outQueue.length = outQueueSize) :
    let ssrc := (rtc.track i).rtp.ssrc
    let t := run (fecStep crypto pacing i) ⟨rtc, [], []⟩ calls
    ∃ groups : List (List (List UInt8)), groups.length = t.parities.length ∧
      groups.flatten.Sublist t.media ∧
      ∀ j group wire, groups[j]? = some group → t.parities[j]? = some wire →
        FecParity crypto (rtc.fecTxSeq + UInt16.ofNat j) ssrc t.media group wire ∧
        ((group.map fecSeq).Nodup ∨
            AllSteps (fecStep crypto pacing i) ⟨rtc, [], []⟩ (FecProtects crypto pacing i) calls →
          ∀ x kept recv out, FecReceived group kept recv → group.Perm (x :: kept) →
            (∀ p ∈ group, p.length ≤ out.length) →
            (fecRecover ((fecRtp (rtc.fecTxSeq + UInt16.ofNat j) ssrc group).drop fecRtpHdr) ssrc recv
              out).2 = .ok (x.length, fecSeq x) ∧
            (fecRecover ((fecRtp (rtc.fecTxSeq + UInt16.ofNat j) ssrc group).drop fecRtpHdr) ssrc recv
              out).1.take x.length = x) := by
  obtain ⟨groups, h, hseq⟩ := fecSending_run crypto pacing hring hcount hqueue
    htrack calls hcalls
  obtain ⟨older, hmedia, hgroups⟩ := h.split
  refine ⟨groups, h.parities.length, hmedia ▸ hgroups.trans (List.sublist_append_left older _), ?_⟩
  intro j group wire hgroup hwire
  have hparity := h.parities.each j group wire hgroup hwire
  refine ⟨hparity, fun hdistinct x kept recv out hreceived hlost hout => ?_⟩
  have hlen : group.length ≤ fecMaxGroup := by
    rcases hparity.size with hsize | hsize <;> rw [hsize] <;> decide
  have hnodup : (group.map fecSeq).Nodup := by
    rcases hdistinct with hdistinct | hall
    · exact hdistinct
    · exact (hseq hall).nodup hparity.row hlen
  rw [fecRtp_drop]
  exact fecRecover_one (hparity.group h.members hnodup) hreceived hlost hout

/-- A sender that measures high loss. -/
def demoFecSender : MediaRtc where
  toNanoRtc := { nanortcInit false maxSsrcMap with
    srtp := { nanoSrtpInit maxSsrcMap true with ready := true }
    bweLossQ8 := 30 }
  state := .connected
  media := [trackInit 0 .video .sendrecv 90000]
  ssrcMap := []
  lastRtcpSendMs := 0
  lastRtcpSendValid := false
  srCursor := 0

/-- Four fragments, with the output queue polled before the last. -/
def demoFecCalls : List FecCall :=
  let fragment (n : UInt8) : FecCall :=
    .fragment 3000 true ⟨[0x41, n, n + 1], true, false⟩ none
  [fragment 1, fragment 2, fragment 3, .between demoFecSender, fragment 4]

theorem fecSending_demo :
    let t := run (fecStep .checksum true 0) ⟨demoFecSender, [], []⟩ demoFecCalls
    ∃ group wire, t.parities = [wire] ∧ FecParity .checksum 0 0 t.media group wire ∧
      ∀ x kept recv out, FecReceived group kept recv → group.Perm (x :: kept) →
        (∀ p ∈ group, p.length ≤ out.length) →
        (fecRecover ((fecRtp 0 0 group).drop fecRtpHdr) 0 recv out).1.take x.length = x := by
  obtain ⟨groups, hlength, -, heach⟩ := @fecSending .checksum true 0
    demoFecSender rfl rfl rfl (by decide) demoFecCalls (by
      intro rtc hrtc
      simp only [demoFecCalls, List.mem_cons, List.not_mem_nil, reduceCtorEq, FecCall.between.injEq,
        false_or, or_false] at hrtc
      rw [hrtc]
      rfl)
  have hone : (run (fecStep .checksum true 0) ⟨demoFecSender, [], []⟩ demoFecCalls).parities.length =
      1 := by
    decide +kernel
  have hprotects : AllSteps (fecStep .checksum true 0) ⟨demoFecSender, [], []⟩
      (FecProtects .checksum true 0) demoFecCalls := by
    decide +kernel
  obtain ⟨wire, hwire⟩ := List.length_eq_one_iff.mp hone
  obtain ⟨group, rfl⟩ := List.length_eq_one_iff.mp (hlength.trans hone)
  obtain ⟨hparity, hrecovers⟩ := heach 0 group wire rfl (by rw [hwire]; rfl)
  exact ⟨group, wire, hwire, hparity, fun x kept recv out hreceived hlost hout =>
    (hrecovers (.inr hprotects) x kept recv out hreceived hlost hout).2⟩

end Nanortc.Spec
