import Nanortc.Native.Config
import Nanortc.Spec.TurnRelay

/-!
# Relayed datagrams and the TURN buffer

Which queued datagrams survive the wrap that `rtc_poll_queued_output` does for the relay, in any
build configuration. The check of `nanortc_config.h` covers the requests of the TURN client, not
the datagrams of the peer connection: a full-sized media packet of a standard build does not fit
into a Send indication.

## Key results

- `rtcPollQueuedLoop_head`: a polled datagram is behind the head cursor
- `headEmitted_iff`: a relayed datagram is emitted exactly if its frame fits the buffer
- `relayed_emitted_iff`: which datagrams a configuration emits, one by one and up to a length
-/

namespace Nanortc.Spec

open Nanortc.ForStd Nanortc.Native

variable (cfg : BuildConfig)

/-- Room that a payload for the peer asks of the buffer: a ChannelData header once a channel is
bound, else the STUN header, the largest address attribute and the header of the DATA attribute. -/
def relayedFrameSize (turn : NanoTurn) (peer : NanortcAddr) (payload : List UInt8) : Nat :=
  match turnFindChannelForPeer turn peer with
  | some _ => 4 + attrPadded payload.length
  | none => stunHeaderSize + 32 + 4 + attrPadded payload.length

/-- The wrap succeeds exactly if the frame fits. -/
theorem rtcWrapTurn_ok_iff (turn : NanoTurn) (peer : NanortcAddr) (payload : List UInt8) :
    (∃ wrapped, cfg.rtcWrapTurn turn peer payload = .ok wrapped) ↔
      relayedFrameSize turn peer payload ≤ cfg.turnBufSize := by
  unfold BuildConfig.rtcWrapTurn relayedFrameSize
  cases turnFindChannelForPeer turn peer with
  | some channel =>
    dsimp only
    unfold nanoTurnWrapChannelData
    dsimp only
    by_cases hfits : cfg.turnBufSize < 4 + attrPadded payload.length
    · rw [if_pos hfits]
      exact iff_of_false (fun h => nomatch h) (Nat.not_le.mpr hfits)
    · rw [if_neg hfits]
      exact iff_of_true ⟨_, rfl⟩ (Nat.not_lt.mp hfits)
  | none =>
    dsimp only
    unfold turnWrapSend
    by_cases hfits : cfg.turnBufSize < stunHeaderSize + 32 + 4 + attrPadded payload.length
    · rw [if_pos hfits]
      exact iff_of_false (fun h => nomatch h) (Nat.not_le.mpr hfits)
    · rw [if_neg hfits]
      exact iff_of_true ⟨_, rfl⟩ (Nat.not_lt.mp hfits)

/-- The head cursor after a poll that emits: one past the entry that is polled, and the entries
before it are dropped. -/
theorem rtcPollQueuedLoop_head {turns : Nat} {rtc rtc' : NanoRtc} {out : PolledOutput}
    (h : cfg.rtcPollQueuedLoop turns rtc = (rtc', some out)) :
    ∃ k, k < turns ∧ rtc'.outHead = rtc.outHead + UInt16.ofNat (k + 1) := by
  induction turns generalizing rtc with
  | zero => exact nomatch (Prod.ext_iff.mp h).2
  | succ turns ih =>
    unfold BuildConfig.rtcPollQueuedLoop at h
    split at h
    · exact nomatch (Prod.ext_iff.mp h).2
    cases hhead : cfg.rtcPollHead rtc with
    | some polled =>
      rw [hhead] at h
      have hrtc : rtcAdvanceHead rtc = rtc' := (Prod.ext_iff.mp h).1
      exact ⟨0, Nat.succ_pos turns, hrtc ▸ rfl⟩
    | none =>
      rw [hhead] at h
      obtain ⟨k, hk, hcursor⟩ := @ih (rtcAdvanceHead rtc) h
      refine ⟨k + 1, Nat.succ_lt_succ hk, ?_⟩
      have hnext : (rtcAdvanceHead rtc).outHead = rtc.outHead + 1 := rfl
      rw [hcursor, hnext, UInt16.add_assoc, UInt16.add_comm 1, UInt16.ofNat_add (k + 1) 1]
      rfl

/-- The datagram at the head of the queue goes to the peer over the relay. -/
def HeadRelayed (rtc : NanoRtc) (peer : NanortcAddr) (payload : List UInt8) : Prop :=
  rtc.outHead ≠ rtc.outTail ∧
    let slot := rtc.outHead.toNat % cfg.outQueueSize
    rtc.outWrapMeta.getD slot default = ⟨true, peer⟩ ∧
      ∃ t, rtc.outQueue.getD slot default = .transmit t ∧
        payload = (rtc.bytes t.data).take t.len

/-- The poll emits the datagram at the head, as its next output. -/
def HeadEmitted (rtc : NanoRtc) : Prop :=
  ∃ data, cfg.rtcPollQueuedOutput rtc = (rtcAdvanceHead rtc,
    some (.transmit data (rtcWrapDest rtc.turn) ⟨0, List.replicate addrSize 0, 0⟩))

/-- The relayed datagram at the head of the queue is the next output exactly if its frame fits the
TURN buffer; otherwise it is dropped. -/
theorem headEmitted_iff (rtc : NanoRtc) (peer : NanortcAddr) (payload : List UInt8)
    (hhead : HeadRelayed cfg rtc peer payload) :
    HeadEmitted cfg rtc ↔ relayedFrameSize rtc.turn peer payload ≤ cfg.turnBufSize := by
  obtain ⟨hqueued, hmeta, t, hentry, hpayload⟩ := hhead
  obtain ⟨turns, hturns⟩ : ∃ turns, (rtc.outTail - rtc.outHead).toNat = turns + 1 := by
    refine Nat.exists_eq_succ_of_ne_zero fun hzero => hqueued ?_
    have heq : rtc.outTail - rtc.outHead = 0 := UInt16.toNat_inj.mp hzero
    grind
  have hloop {next : Option PolledOutput} (hhead : cfg.rtcPollHead rtc = next) :
      cfg.rtcPollQueuedOutput rtc = next.elim (cfg.rtcPollQueuedLoop turns (rtcAdvanceHead rtc))
        fun out => (rtcAdvanceHead rtc, some out) := by
    unfold BuildConfig.rtcPollQueuedOutput
    rw [hturns]
    refine (if_neg hqueued).trans ?_
    rw [hhead]
    cases next <;> rfl
  rw [← rtcWrapTurn_ok_iff]
  unfold HeadEmitted
  cases hwrap : cfg.rtcWrapTurn rtc.turn peer payload with
  | ok wrapped =>
    have hpolled : cfg.rtcPollHead rtc =
        some (.transmit wrapped (rtcWrapDest rtc.turn) ⟨0, List.replicate addrSize 0, 0⟩) := by
      unfold BuildConfig.rtcPollHead
      dsimp only
      rw [hmeta, hentry]
      dsimp only
      rw [if_pos rfl, ← hpayload, hwrap]
    rw [hloop hpolled]
    exact iff_of_true ⟨wrapped, rfl⟩ ⟨wrapped, rfl⟩
  | error rc =>
    have hpolled : cfg.rtcPollHead rtc = none := by
      unfold BuildConfig.rtcPollHead
      dsimp only
      rw [hmeta, hentry]
      dsimp only
      rw [if_pos rfl, ← hpayload, hwrap]
    rw [hloop hpolled]
    refine iff_of_false ?_ fun h => by cases h.choose_spec
    rintro ⟨data, hout⟩
    -- a later entry is polled from behind a later cursor
    obtain ⟨k, hk, hcursor⟩ := rtcPollQueuedLoop_head cfg hout
    have hbound : turns + 1 < 2 ^ 16 := hturns ▸ (rtc.outTail - rtc.outHead).toNat_lt
    have hzero : UInt16.ofNat (k + 1) = 0 := by
      have hself : (rtcAdvanceHead rtc).outHead + UInt16.ofNat (k + 1) =
          (rtcAdvanceHead rtc).outHead + 0 := by
        rw [← hcursor, UInt16.add_zero]
      exact UInt16.add_right_inj _ |>.mp hself
    have hnat := congrArg UInt16.toNat hzero
    rw [UInt16.toNat_ofNat_of_lt' (by simp only [UInt16.size]; omega)] at hnat
    cases hnat

/-- The largest frame of the payloads of at most `n` bytes. -/
def sendFrameSize (n : Nat) : Nat := stunHeaderSize + 32 + 4 + attrPadded n

theorem relayedFrameSize_le {turn : NanoTurn} {peer : NanortcAddr} {payload : List UInt8} {n : Nat}
    (h : payload.length ≤ n) : relayedFrameSize turn peer payload ≤ sendFrameSize n := by
  unfold relayedFrameSize sendFrameSize attrPadded stunHeaderSize
  split <;> omega

/-- A datagram of the given payload alone in the queue, for a peer without a channel. -/
def loneDatagram (payload : List UInt8) : NanoRtc :=
  { nanortcInit false 4 with
    outQueue := [.transmit ⟨.txSlot 0, payload.length, default, default⟩]
    outWrapMeta := [⟨true, default⟩]
    outTail := 1
    txSlots := [{ buf := payload }] }

theorem loneDatagram_relayed (payload : List UInt8) :
    HeadRelayed cfg (loneDatagram payload) default payload := by
  have hslot : (loneDatagram payload).outHead.toNat % cfg.outQueueSize = 0 := Nat.zero_mod _
  unfold HeadRelayed
  dsimp only
  rw [hslot]
  refine ⟨show (0 : UInt16) ≠ 1 by decide, rfl, _, rfl, ?_⟩
  exact (List.take_length (l := payload)).symm

/-- **Which relayed datagrams are emitted.** In every build configuration the relayed datagram at
the head of the queue is the next output exactly if its frame fits the TURN buffer, and all
datagrams of at most `n` bytes are emitted exactly if the largest of their frames fits. -/
theorem relayed_emitted_iff :
    (∀ rtc peer payload, HeadRelayed cfg rtc peer payload →
      (HeadEmitted cfg rtc ↔ relayedFrameSize rtc.turn peer payload ≤ cfg.turnBufSize)) ∧
    ∀ n, (∀ rtc peer payload, payload.length ≤ n → HeadRelayed cfg rtc peer payload →
      HeadEmitted cfg rtc) ↔ sendFrameSize n ≤ cfg.turnBufSize := by
  refine ⟨headEmitted_iff cfg, fun n => ⟨fun hall => ?_, fun hfits => ?_⟩⟩
  · have hlen : (List.replicate n (0 : UInt8)).length = n := List.length_replicate
    have hhead := loneDatagram_relayed cfg (List.replicate n 0)
    have hemitted := hall _ _ _ (Nat.le_of_eq hlen) hhead
    have hfits := (headEmitted_iff cfg _ _ _ hhead).mp hemitted
    -- no channel is bound, so the frame is that of a Send indication
    have hsend : relayedFrameSize (loneDatagram (List.replicate n 0)).turn default
        (List.replicate n 0) = sendFrameSize n := by
      show stunHeaderSize + 32 + 4 + attrPadded (List.replicate n (0 : UInt8)).length = _
      rw [hlen]
      rfl
    rwa [hsend] at hfits
  · intro rtc peer payload hlen hhead
    exact (headEmitted_iff cfg rtc peer payload hhead).mpr
      (Nat.le_trans (relayedFrameSize_le hlen) hfits)

/-! ### A full-sized video packet -/

/-- A relayed pair of a standard build, after the given part of the TURN exchange: a video packet
as long as the sender makes them, twelve bytes of header, eight of extension, 1200 of payload and
ten of tag, is queued for the peer. -/
def demoVideoQueued (exchange : List TurnInput) : NanoRtc :=
  let rtc := { nanortcInit false 4 with
    turn := run (turnStep .checksum) turnInit exchange
    ice := { iceInit false with selectedLocalType := .relay } }
  let rtc := { rtc with pktRing := rtc.pktRing.set 0 ⟨List.replicate 1230 0x80, 7, 1230⟩ }
  (nanoRtcEnqueueTransmit rtc (.pktRing 0) 1230 (demoHost 4 8 6000) false).1

/-- Over a bound channel the packet is emitted. -/
theorem relayed_emitted_bound :
    HeadEmitted .standard (demoVideoQueued (demoAllocation 4)) := by
  refine ((relayed_emitted_iff .standard).1 _ (demoHost 4 8 6000) (List.replicate 1230 0x80)
    ⟨by decide +kernel, by decide +kernel, ?_⟩).mpr (by decide +kernel)
  exact ⟨⟨.pktRing 0, 1230, demoHost 4 8 6000, rtcDefaultSrc (nanortcInit false 4)⟩,
    by decide +kernel, by decide +kernel⟩

/-- Before the channel is bound it is dropped. -/
theorem relayed_dropped_unbound :
    let rtc := demoVideoQueued ((demoAllocation 4).take 5)
    HeadRelayed .standard rtc (demoHost 4 8 6000) (List.replicate 1230 0x80) ∧
      (BuildConfig.standard.rtcPollQueuedOutput rtc).2 = none ∧ ¬HeadEmitted .standard rtc := by
  have hnone : (BuildConfig.standard.rtcPollQueuedOutput
      (demoVideoQueued ((demoAllocation 4).take 5))).2 = none := by decide +kernel
  refine ⟨⟨by decide +kernel, by decide +kernel, ?_⟩, hnone, ?_⟩
  · exact ⟨⟨.pktRing 0, 1230, demoHost 4 8 6000, rtcDefaultSrc (nanortcInit false 4)⟩,
      by decide +kernel, by decide +kernel⟩
  · rintro ⟨data, hout⟩
    rw [hout] at hnone
    exact nomatch hnone

end Nanortc.Spec
