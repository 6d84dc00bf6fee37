import Mathlib
import Nanortc.Native.Rtcp
import Nanortc.Spec.TxSlots

/-!
# Compound RTCP

The members of a compound packet are handled in order up to the first one of four bytes: there the
loop ends, and the members behind it are lost. Without such a cut a compound packet leaves the
connection as its members do one by one, each in a datagram of its own.

## Key results

- `rtcpMembers_flatten`: the members of a compound packet that are handled
- `compound_members_iff`: when these are the members that are handled one by one
- `compound_parts_iff`: the same, and what it means for the connection
-/

namespace Nanortc.Spec

open Nanortc.ForStd Nanortc.Native

/-- A well-formed RTCP packet: version 2, a type of the RTCP range, as long as its header says. -/
structure RtcpPacket (m : List UInt8) : Prop where
  version : byteAt m 0 >>> 6 = 2
  type : 200 ≤ byteAt m 1 ∧ byteAt m 1 ≤ 211
  length : m.length = rtcpPktSize m

/-- The packet has the header that the handler needs. -/
def Headed (m : List UInt8) : Prop := rtcpHeaderSize ≤ m.length

instance : DecidablePred Headed := fun _ => inferInstanceAs (Decidable (_ ≤ _))

/-- No packet with a header stands behind one without. -/
def Uncut (ms : List (List UInt8)) : Prop := ms.Pairwise fun a b => Headed b → Headed a

/-! ### The members -/

theorem takeWhile_eq_filter_iff {α : Type} (p : α → Prop) [DecidablePred p] (l : List α) :
    l.takeWhile p = l.filter p ↔ l.Pairwise fun a b => p b → p a := by
  induction l with
  | nil => exact iff_of_true rfl .nil
  | cons a l ih =>
    rw [List.pairwise_cons]
    by_cases ha : p a
    · rw [List.takeWhile_cons_of_pos (by simpa using ha), List.filter_cons_of_pos (by simpa using ha),
        List.cons_inj_right, ih]
      exact (and_iff_right fun _ _ _ => ha).symm
    · rw [List.takeWhile_cons_of_neg (by simpa using ha), List.filter_cons_of_neg (by simpa using ha),
        eq_comm, List.filter_eq_nil_iff]
      simp only [decide_eq_true_eq]
      constructor
      · intro hnone
        refine ⟨fun b hb hpb => absurd hpb (hnone b hb), ?_⟩
        exact List.pairwise_of_forall_mem_list fun _ _ b hb hpb => absurd hpb (hnone b hb)
      · exact fun h b hb hpb => ha (h.1 b hb hpb)

section

variable {m : List UInt8}

theorem RtcpPacket.four_le (h : RtcpPacket m) : 4 ≤ m.length := by
  have hlen := h.length
  unfold rtcpPktSize at hlen
  omega

/-- The length field is the same with other packets behind. -/
theorem rtcpPktSize_append (h : RtcpPacket m) (rest : List UInt8) :
    rtcpPktSize (m ++ rest) = m.length := by
  have hfour := h.four_le
  have hread : readU16be (m ++ rest) 2 = readU16be m 2 :=
    readU16be_of_take_eq (n := 4) (by rw [List.take_append_of_le_length hfour]) (by decide)
  rw [h.length, rtcpPktSize, rtcpPktSize, hread]

/-- The handler takes a packet off the front, or ends. -/
theorem rtcpMembers_append (h : RtcpPacket m) (turns : Nat) (rest : List UInt8) :
    rtcpMembers (turns + 1) (m ++ rest) =
      if Headed m then m :: rtcpMembers turns rest else [] := by
  have hsize := rtcpPktSize_append h rest
  have hlen : (m ++ rest).length = m.length + rest.length := List.length_append
  rw [rtcpMembers]
  dsimp only
  rw [hsize]
  by_cases hheaded : Headed m
  · have hheaded' : rtcpHeaderSize ≤ m.length := hheaded
    rw [if_pos hheaded, if_pos (by omega), if_neg (by omega), List.take_left, List.drop_left]
  · have hshort : m.length < rtcpHeaderSize := Nat.not_le.mp hheaded
    rw [if_neg hheaded]
    split
    · rw [if_pos (.inl hshort)]
    · rfl

theorem rtcpMembers_nil (turns : Nat) : rtcpMembers turns [] = [] := by
  cases turns <;> rfl

theorem rtcpMembers_one (h : RtcpPacket m) :
    rtcpMembers m.length m = if Headed m then [m] else [] := by
  have hfour := h.four_le
  obtain ⟨n, hn⟩ : ∃ n, m.length = n + 1 := ⟨m.length - 1, by omega⟩
  have hmembers := rtcpMembers_append h n []
  rwa [List.append_nil, rtcpMembers_nil, ← hn] at hmembers

end

/-- **The members of a compound packet that are handled** stand in front of the first one without a
header. -/
theorem rtcpMembers_flatten {ms : List (List UInt8)} (h : ∀ m ∈ ms, RtcpPacket m) {turns : Nat}
    (hturns : ms.flatten.length ≤ turns) : rtcpMembers turns ms.flatten = ms.takeWhile Headed := by
  induction ms generalizing turns with
  | nil => exact rtcpMembers_nil turns
  | cons m ms ih =>
    obtain ⟨hm, hms⟩ := List.forall_mem_cons.mp h
    have hfour := hm.four_le
    rw [List.flatten_cons] at hturns ⊢
    rw [List.length_append] at hturns
    cases turns with
    | zero => omega
    | succ turns =>
      rw [rtcpMembers_append hm]
      by_cases hheaded : Headed m
      · rw [if_pos hheaded, ih hms (by omega),
          List.takeWhile_cons_of_pos (by simpa using hheaded)]
      · rw [if_neg hheaded, List.takeWhile_cons_of_neg (by simpa using hheaded)]

theorem flatMap_rtcpMembers {ms : List (List UInt8)} (h : ∀ m ∈ ms, RtcpPacket m) :
    (ms.flatMap fun m => rtcpMembers m.length m) = ms.filter Headed := by
  induction ms with
  | nil => rfl
  | cons m ms ih =>
    obtain ⟨hm, hms⟩ := List.forall_mem_cons.mp h
    rw [List.flatMap_cons, ih hms, rtcpMembers_one hm, List.filter_cons]
    by_cases hheaded : Headed m
    · rw [if_pos hheaded, if_pos (by simpa using hheaded)]
      rfl
    · rw [if_neg hheaded, if_neg (by simpa using hheaded)]
      rfl

/-- **Which compound packets are handled whole.** -/
theorem compound_members_iff {ms : List (List UInt8)} (h : ∀ m ∈ ms, RtcpPacket m) :
    (rtcpMembers ms.flatten.length ms.flatten = ms.flatMap fun m => rtcpMembers m.length m) ↔
      Uncut ms := by
  rw [rtcpMembers_flatten h (Nat.le_refl _), flatMap_rtcpMembers h]
  exact takeWhile_eq_filter_iff Headed ms

/-! ### The connection -/

/-- One by one, the packets are handled that have a header. -/
theorem foldl_rtcpCompound {ms : List (List UInt8)} (rtc : FeedbackRtc) :
    ms.foldl rtcpCompound rtc =
      (ms.flatMap fun m => rtcpMembers m.length m).foldl rtcpMember rtc := by
  induction ms generalizing rtc with
  | nil => rfl
  | cons m ms ih =>
    rw [List.foldl_cons, ih, List.flatMap_cons, List.foldl_append]
    rfl

theorem rtcpCompound_flatten {ms : List (List UInt8)} (h : ∀ m ∈ ms, RtcpPacket m)
    (huncut : Uncut ms) (rtc : FeedbackRtc) :
    rtcpCompound rtc ms.flatten = ms.foldl rtcpCompound rtc := by
  rw [foldl_rtcpCompound, ← (compound_members_iff h).mpr huncut]
  rfl

/-! ### Datagrams -/

theorem nackRetransmit_srtp (ssrc : UInt32) (rtc : NanoRtc) (seq : UInt16) :
    (nackRetransmit ssrc rtc seq).srtp = rtc.srtp := by
  unfold nackRetransmit
  split
  · rfl
  split
  · rfl
  dsimp only
  obtain ⟨-, heq⟩ | ⟨-, wrap, heq⟩ := nanoRtcEnqueueTransmit_cases _ _ _ _ _
  · rw [heq]
  · rw [heq]

theorem foldl_nackRetransmit_srtp (ssrc : UInt32) (seqs : List UInt16) (rtc : NanoRtc) :
    (seqs.foldl (nackRetransmit ssrc) rtc).srtp = rtc.srtp := by
  induction seqs generalizing rtc with
  | nil => rfl
  | cons seq seqs ih => exact (ih _).trans (nackRetransmit_srtp ssrc rtc seq)

theorem FeedbackRtc.emit_srtp (rtc : FeedbackRtc) (e : FeedbackEvent) :
    (rtc.emit e).srtp = rtc.srtp := by
  unfold FeedbackRtc.emit
  dsimp only
  split
  · rfl
  · unfold rtcEnqueueOutput
    split <;> rfl

theorem rtcpBweUpdated_srtp (rtc : FeedbackRtc) (bwe : NanoBwe) (source : BweSrc) :
    (rtcpBweUpdated rtc bwe source).srtp = rtc.srtp := by
  unfold rtcpBweUpdated
  dsimp only
  split
  · exact FeedbackRtc.emit_srtp _ _
  · rfl

/-- **Feedback leaves the keys alone.** -/
theorem rtcpMember_srtp (rtc : FeedbackRtc) (sub : List UInt8) :
    (rtcpMember rtc sub).srtp = rtc.srtp := by
  unfold rtcpMember
  split
  · rfl
  split
  · unfold rtcpOnSr
    split
    · rfl
    split <;> rfl
  split
  · unfold rtcpOnRr
    split
    · rfl
    split <;> rfl
  split
  · unfold rtcpOnPsfb
    split
    · exact rtcpBweUpdated_srtp _ _ _
    split
    · split
      · rfl
      · exact FeedbackRtc.emit_srtp _ _
    · rfl
  split
  · unfold rtcpOnRtpfb
    split
    · exact foldl_nackRetransmit_srtp _ _ _
    split
    · split
      · rfl
      · dsimp only
        split
        · exact rtcpBweUpdated_srtp _ _ _
        · rfl
    · rfl
  · rfl

theorem rtcpCompound_srtp (rtc : FeedbackRtc) (plain : List UInt8) :
    (rtcpCompound rtc plain).srtp = rtc.srtp := by
  unfold rtcpCompound
  generalize rtcpMembers plain.length plain = members
  induction members generalizing rtc with
  | nil => rfl
  | cons m members ih => exact (ih _).trans (rtcpMember_srtp rtc m)

/-- A datagram that carries an RTCP packet: the packet comes out of it, or is too short to be sent
and the datagram too short to be taken. -/
structure CarriesRtcp (crypto : CryptoProvider) (srtp : NanoSrtp) (datagram packet : List UInt8) :
    Prop where
  type : 200 ≤ byteAt datagram 1 ∧ byteAt datagram 1 ≤ 211
  size : 2 ≤ datagram.length ∧ datagram.length ≤ stunBufSize
  packet : (∃ index, nanoSrtpUnprotectRtcp crypto srtp datagram = .ok ⟨index, packet⟩) ∨
    packet.length < rtcpHeaderSize ∧ datagram.length = packet.length + srtcpOverhead

variable (crypto : CryptoProvider) (rtp : FeedbackRtc → List UInt8 → FeedbackRtc × Rc)

/-- A datagram is handled as the packet it carries. -/
theorem handle_carried {rtc : FeedbackRtc} {datagram packet : List UInt8}
    (h : CarriesRtcp crypto rtc.srtp datagram packet) :
    (nanoRtcMediaHandleRtpOrRtcp crypto rtp rtc datagram).1 = rtcpCompound rtc packet := by
  obtain ⟨htype, ⟨hmin, hmax⟩, hpacket⟩ := h
  unfold nanoRtcMediaHandleRtpOrRtcp
  obtain ⟨index, hok⟩ | ⟨hshort, hlen⟩ := hpacket
  · have hready : rtc.srtp.ready = true := by
      by_contra hnot
      unfold nanoSrtpUnprotectRtcp at hok
      rw [if_pos (by simpa using hnot)] at hok
      exact nomatch hok
    rw [hready, if_neg nofun, if_neg (Nat.not_lt.mpr hmin), if_pos htype,
      if_neg (Nat.not_lt.mpr hmax), hok]
  · have hrest : rtcpCompound rtc packet = rtc := by
      unfold rtcpCompound
      cases packet with
      | nil => rfl
      | cons b bs =>
        rw [List.length_cons, rtcpMembers, if_neg (Nat.not_le.mpr hshort)]
        rfl
    have herror : ∃ e, nanoSrtpUnprotectRtcp crypto rtc.srtp datagram = .error e := by
      unfold nanoSrtpUnprotectRtcp
      split
      · exact ⟨_, rfl⟩
      · have hsmall : datagram.length < 8 + srtcpOverhead := by
          have hhdr : rtcpHeaderSize = 8 := rfl
          omega
        rw [if_pos hsmall]
        exact ⟨_, rfl⟩
    obtain ⟨e, herror⟩ := herror
    rw [hrest, if_neg (Nat.not_lt.mpr hmin), if_pos htype, if_neg (Nat.not_lt.mpr hmax), herror]
    split <;> rfl

theorem handle_each {srtp : NanoSrtp} {ms ds : List (List UInt8)} {rtc : FeedbackRtc}
    (hsrtp : rtc.srtp = srtp) (h : List.Forall₂ (CarriesRtcp crypto srtp) ds ms) :
    ds.foldl (fun rtc d => (nanoRtcMediaHandleRtpOrRtcp crypto rtp rtc d).1) rtc =
      ms.foldl rtcpCompound rtc := by
  induction h generalizing rtc with
  | nil => rfl
  | @cons d m ds ms hd hds ih =>
    rw [List.foldl_cons, List.foldl_cons, handle_carried crypto rtp (hsrtp ▸ hd)]
    exact ih ((rtcpCompound_srtp rtc m).trans hsrtp)

/-- **A compound packet is handled as its parts** if no packet with a header stands behind one
without, and then only are all of its members handled. -/
theorem compound_parts_iff {ms : List (List UInt8)} (h : ∀ m ∈ ms, RtcpPacket m) :
    ((rtcpMembers ms.flatten.length ms.flatten = ms.flatMap fun m => rtcpMembers m.length m) ↔
      Uncut ms) ∧
    (Uncut ms → ∀ rtc compound ds, CarriesRtcp crypto rtc.srtp compound ms.flatten →
      List.Forall₂ (CarriesRtcp crypto rtc.srtp) ds ms →
      (nanoRtcMediaHandleRtpOrRtcp crypto rtp rtc compound).1 =
        ds.foldl (fun rtc d => (nanoRtcMediaHandleRtpOrRtcp crypto rtp rtc d).1) rtc) := by
  refine ⟨compound_members_iff h, fun huncut rtc compound ds hcompound hds => ?_⟩
  rw [handle_carried crypto rtp hcompound, handle_each crypto rtp rfl hds]
  exact rtcpCompound_flatten h huncut rtc

instance (m : List UInt8) : Decidable (RtcpPacket m) :=
  decidable_of_iff (byteAt m 0 >>> 6 = 2 ∧ (200 ≤ byteAt m 1 ∧ byteAt m 1 ≤ 211) ∧
      m.length = rtcpPktSize m)
    ⟨fun h => ⟨h.1, h.2.1, h.2.2⟩, fun h => ⟨h.version, h.type, h.length⟩⟩

/-- An empty SDES, and a keyframe request for the source 7. -/
def demoFeedback : List (List UInt8) :=
  [[0x80, 202, 0, 0], [0x81, 206, 0, 2, 0, 0, 0, 1, 0, 0, 0, 7]]

/-- A connection that sends the source 7. -/
def demoSender : FeedbackRtc where
  toNanoRtc := nanortcInit false maxSsrcMap
  state := .connected
  media := [{ trackInit 3 .video .sendonly 90000 with rtp := rtpInit 7 96 }]
  ssrcMap := []
  lastRtcpSendMs := 0
  lastRtcpSendValid := false
  srCursor := 0
  feedback := [{}]
  bwe := bweInit
  pendingEvents := []
  emitted := []

/-- The other way round both are handled. -/
theorem compound_parts_demo :
    let ms := demoFeedback.reverse
    let handle := nanoRtcMediaHandleRtpOrRtcp CryptoProvider.checksum fun rtc _ => (rtc, .ok)
    (rtcpMembers ms.flatten.length ms.flatten = ms.flatMap fun m => rtcpMembers m.length m) ∧
    ∀ rtc compound ds, CarriesRtcp CryptoProvider.checksum rtc.srtp compound ms.flatten →
      List.Forall₂ (CarriesRtcp CryptoProvider.checksum rtc.srtp) ds ms →
      (handle rtc compound).1 = ds.foldl (fun rtc d => (handle rtc d).1) rtc := by
  have hpackets : ∀ m ∈ demoFeedback.reverse, RtcpPacket m := by decide +kernel
  have huncut : Uncut demoFeedback.reverse := by
    unfold Uncut
    decide +kernel
  have h := compound_parts_iff CryptoProvider.checksum (fun rtc _ => (rtc, .ok)) hpackets
  exact ⟨h.1.mpr huncut, h.2 huncut⟩

/-- Behind the empty SDES the keyframe request is lost. -/
theorem demoFeedback_cut : (∀ m ∈ demoFeedback, RtcpPacket m) ∧
    (rtcpCompound demoSender demoFeedback.flatten).emitted = [] ∧
    (demoFeedback.foldl rtcpCompound demoSender).emitted = [.keyframeRequest 3] := by
  decide +kernel

end Nanortc.Spec
