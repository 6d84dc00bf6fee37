import Nanortc.Spec.SrtpSlots
import Nanortc.Spec.TxSlots

/-!
# Media senders

What the senders of `nano_rtc_media.c` do with a sequence number: a packed RTP packet has the
header SRTP expects, protection fails only for want of a table slot or by the cipher, and a video
frame that is admitted advances the sequence number by at most the packets it was counted for.

## Key results

- `nanoSrtpProtect_packed`: when protection of a packed packet fails
- `h264Fragments_length_le` / `h264Fragments_payload_le`: number and size of fragments
- `rtcSendVideo_seq`: the sequence number after a NAL unit
-/

namespace Nanortc.Spec

open Nanortc.ForStd Nanortc.Native

/-! ### Packed packets -/

theorem headerLen_cases (rtp : NanoRtp) :
    (rtp.hasTwcc = false ∧ rtp.headerLen = 12) ∨ (rtp.hasTwcc = true ∧ rtp.headerLen = 20) := by
  unfold NanoRtp.headerLen
  cases rtp.hasTwcc
  · exact .inl ⟨rfl, rfl⟩
  · exact .inr ⟨rfl, rfl⟩

/-- A packet as SRTP reads it: the sequence number and source of a session, a header of known
length and a payload. -/
structure Packed (rtp : NanoRtp) (payload packet : List UInt8) : Prop where
  length : packet.length = rtp.headerLen + payload.length
  seq : readU16be packet 2 = rtp.seq
  ssrc : readU32be packet 8 = rtp.ssrc
  hdrLen : srtpParseHdrLen packet packet.length = .ok rtp.headerLen
  payload : packet.drop rtp.headerLen = payload

/-- A fixed header, with the extension for congestion control if it is on, and a payload. -/
theorem packed_of_header (rtp : NanoRtp) (b1 : UInt8) (timestamp : UInt32) (payload : List UInt8) :
    Packed rtp payload
      ([if rtp.hasTwcc then 0x90 else 0x80, b1] ++ u16be rtp.seq ++ u32be timestamp ++
        u32be rtp.ssrc ++
        (if rtp.hasTwcc then
          u16be 0xBEDE ++ u16be 1 ++ [(rtp.twccExtId &&& 0x0F) <<< 4 ||| 0x01] ++
            u16be rtp.twccSeq ++ [0]
        else []) ++ payload) := by
  have hcc : ((0x80 : UInt8) &&& 0x0F).toNat = 0 := by decide
  have hcc' : ((0x90 : UInt8) &&& 0x0F).toNat = 0 := by decide
  obtain ⟨htwcc, hlen⟩ | ⟨htwcc, hlen⟩ := headerLen_cases rtp
  · simp only [htwcc, Bool.false_eq_true, if_false, List.append_nil]
    refine ⟨?_, ?_, ?_, ?_, ?_⟩
    · simp [hlen]
      omega
    · simp only [List.append_assoc]
      exact readU16be_append_u16be rfl rtp.seq _
    · rw [List.append_assoc]
      exact readU32be_append_u32be rfl rtp.ssrc payload
    · have h0 : byteAt ([0x80, b1] ++ u16be rtp.seq ++ u32be timestamp ++ u32be rtp.ssrc ++ payload)
          0 = 0x80 := rfl
      simp only [srtpParseHdrLen, h0, hcc]
      rw [if_neg, if_neg (by decide), hlen]
      · rfl
      · simp [rtpHeaderSize]
        omega
    · rw [hlen]
      rfl
  · simp only [htwcc, if_true]
    refine ⟨?_, ?_, ?_, ?_, ?_⟩
    · simp [hlen]
      omega
    · simp only [List.append_assoc]
      exact readU16be_append_u16be rfl rtp.seq _
    · simp only [List.append_assoc]
      exact readU32be_append_u32be (p := [0x90, b1] ++ u16be rtp.seq ++ u32be timestamp) rfl rtp.ssrc _
    · generalize hp : [(0x90 : UInt8), b1] ++ u16be rtp.seq ++ u32be timestamp ++ u32be rtp.ssrc ++
        (u16be 0xBEDE ++ u16be 1 ++ [(rtp.twccExtId &&& 0x0F) <<< 4 ||| 0x01] ++
          u16be rtp.twccSeq ++ [0]) ++ payload = packet
      have h0 : byteAt packet 0 = 0x90 := by
        rw [← hp]
        rfl
      have hext : readU16be packet (12 + 2) = 1 := by
        rw [← hp]
        simp only [List.append_assoc]
        exact readU16be_append_u16be (p := [0x90, b1] ++ u16be rtp.seq ++ u32be timestamp ++
          u32be rtp.ssrc ++ u16be 0xBEDE) rfl 1 _
      have hlen' : packet.length = 20 + payload.length := by
        rw [← hp]
        simp
        omega
      simp only [srtpParseHdrLen, h0, hcc', rtpHeaderSize, Nat.zero_mul, Nat.add_zero, hext, hlen',
        hlen]
      rw [if_neg (by omega), if_pos (by decide), if_neg (by omega), if_neg]
      · rfl
      · show ¬ 1 > _
        omega
    · rw [hlen]
      rfl

/-- Packing succeeds exactly if header and payload fit. -/
theorem rtpPack_fits {rtp : NanoRtp} {payload : List UInt8} {bufLen : Nat}
    (h : rtp.headerLen + payload.length ≤ bufLen) (timestamp : UInt32) :
    ∃ packet, Packed rtp payload packet ∧
      rtpPack rtp timestamp payload bufLen =
        ({ rtp with
          twccSeq := if rtp.hasTwcc then rtp.twccSeq + 1 else rtp.twccSeq
          seq := rtp.seq + 1
          marker := false }, .ok packet) := by
  let b1 : UInt8 := (if rtp.marker then 0x80 else 0) ||| (rtp.payloadType &&& 0x7F)
  refine ⟨_, packed_of_header rtp b1 timestamp payload, ?_⟩
  unfold rtpPack
  rw [if_neg (by omega)]

/-! ### Protection -/

/-- SRTP has no slot for the source, or the cipher refuses the payload. -/
def srtpRefuses (crypto : CryptoProvider) (srtp : NanoSrtp) (rtp : NanoRtp)
    (payload : List UInt8) : Bool :=
  match srtpGetSsrcState srtp.ssrcStates rtp.ssrc srtp.lastSendIdx with
  | none => true
  | some (i, states, _) =>
    let index := packetIndex (states.getD i default).roc rtp.seq
    (crypto.aes128Cm srtp.sendKey (srtpComputeIv srtp.sendSalt rtp.ssrc index) payload).isNone

/-- A packed packet with a payload is protected unless SRTP refuses it; protection adds the tag. -/
theorem nanoSrtpProtect_packed {crypto : CryptoProvider} {srtp : NanoSrtp} {rtp : NanoRtp}
    {payload packet : List UInt8} (hready : srtp.ready) (hp : Packed rtp payload packet)
    (hne : payload ≠ []) :
    (srtpRefuses crypto srtp rtp payload = true ∧
      ∃ srtp' rc, rc ≠ .ok ∧ nanoSrtpProtect crypto srtp packet = (srtp', .error rc)) ∨
    (srtpRefuses crypto srtp rtp payload = false ∧
      ∃ srtp' wire, wire.bytes.length = packet.length + srtpAuthTagSize ∧
        nanoSrtpProtect crypto srtp packet = (srtp', .ok wire)) := by
  have hpos : 0 < payload.length := List.length_pos_of_ne_nil hne
  have hhdr : ¬ packet.length < rtpHeaderSize := by
    rw [hp.length]
    unfold NanoRtp.headerLen
    omega
  have hpay : packet.length - rtp.headerLen > 0 := by
    rw [hp.length]
    omega
  have hready : ¬ (!srtp.ready) = true := by simp [hready]
  unfold nanoSrtpProtect srtpRefuses
  simp only [if_neg hready, if_neg hhdr, hp.seq, hp.ssrc, hp.hdrLen]
  cases srtpGetSsrcState srtp.ssrcStates rtp.ssrc srtp.lastSendIdx with
  | none => exact .inl ⟨rfl, srtp, .bufferTooSmall, by decide, rfl⟩
  | some slot =>
    obtain ⟨i, states, cache⟩ := slot
    dsimp only
    unfold srtpCipherPayload
    rw [if_pos hpay, hp.payload]
    cases hc : crypto.aes128Cm srtp.sendKey
        (srtpComputeIv srtp.sendSalt rtp.ssrc (packetIndex (states.getD i default).roc rtp.seq))
        payload with
    | none => exact .inl ⟨rfl, _, .crypto, by decide, rfl⟩
    | some out =>
      refine .inr ⟨rfl, _, _, ?_, rfl⟩
      have hout := crypto.length_aes128Cm hc
      rw [List.length_append, List.length_append, crypto.length_hmacSha1_80, List.length_take, hout,
        hp.length]
      unfold srtpAuthTagSize
      omega

/-! ### Fragments -/

theorem h264FuaFragments_length_le (header : UInt8) {maxFrag : Nat} (h0 : 0 < maxFrag) :
    ∀ (turns : Nat) (first : Bool) (data : List UInt8),
      (h264FuaFragments header maxFrag turns first data).length ≤
        (data.length + maxFrag - 1) / maxFrag
  | 0, _, _ => Nat.zero_le _
  | turns + 1, first, data => by
    unfold h264FuaFragments
    by_cases hd : data = []
    · rw [if_pos hd]
      exact Nat.zero_le _
    · rw [if_neg hd]
      have hpos : 0 < data.length := List.length_pos_of_ne_nil hd
      have ih := h264FuaFragments_length_le header h0 turns false (data.drop maxFrag)
      rw [List.length_drop] at ih
      simp only [List.length_cons]
      -- one fragment takes `maxFrag` bytes or all that is left
      by_cases hlast : data.length ≤ maxFrag
      · have hzero : (data.length - maxFrag + maxFrag - 1) / maxFrag = 0 :=
          Nat.div_eq_of_lt (by omega)
        have hone : 1 ≤ (data.length + maxFrag - 1) / maxFrag :=
          (Nat.le_div_iff_mul_le h0).mpr (by omega)
        omega
      · have hstep : (data.length + maxFrag - 1) / maxFrag =
            (data.length - maxFrag + maxFrag - 1) / maxFrag + 1 := by
          rw [← Nat.add_div_right _ h0]
          congr 1
          omega
        omega

theorem h264FuaFragments_payload_le (header : UInt8) (maxFrag : Nat) :
    ∀ (turns : Nat) (first : Bool) (data : List UInt8),
      ∀ f ∈ h264FuaFragments header maxFrag turns first data,
        f.payload ≠ [] ∧ f.payload.length ≤ maxFrag + 2
  | 0, _, _ => nofun
  | turns + 1, first, data => by
    unfold h264FuaFragments
    by_cases hd : data = []
    · rw [if_pos hd]
      nofun
    · rw [if_neg hd]
      intro f hf
      obtain hf | hf := List.mem_cons.mp hf
      · rw [hf]
        refine ⟨by simp, ?_⟩
        simp only [List.length_append, List.length_cons, List.length_nil, List.length_take]
        omega
      · exact h264FuaFragments_payload_le header maxFrag turns false _ f hf

/-- Packets a NAL unit is counted for. -/
def nalWorstPackets (nal : List UInt8) : Nat :=
  if nal.length ≤ videoMtu then 1
  else (nal.length - 1 + (videoMtu - h264FuaHeaderSize) - 1) / (videoMtu - h264FuaHeaderSize)

theorem videoFrameWorstPackets_eq (data : List UInt8) :
    videoFrameWorstPackets data =
      ((annexBNals data data.length 0).map fun nal => nalWorstPackets nal.1).sum := rfl

/-- A NAL unit has no more fragments than it is counted for. -/
theorem h264Fragments_length_le (nal : List UInt8) :
    (h264Fragments nal videoMtu).length ≤ nalWorstPackets nal := by
  unfold h264Fragments nalWorstPackets
  by_cases h : nal.length ≤ videoMtu
  · rw [if_pos h, if_pos h]
    exact le_rfl
  · rw [if_neg h, if_neg h]
    have := @h264FuaFragments_length_le (byteAt nal 0)
      (videoMtu - h264FuaHeaderSize) (by decide) nal.length true (nal.drop 1)
    rwa [List.length_drop] at this

/-- A NAL unit with content has a fragment. -/
theorem h264Fragments_ne_nil {nal : List UInt8} (hne : nal ≠ []) :
    h264Fragments nal videoMtu ≠ [] := by
  unfold h264Fragments
  by_cases h : nal.length ≤ videoMtu
  · rw [if_pos h]
    exact List.cons_ne_nil _ _
  · rw [if_neg h]
    have hm : videoMtu = 1200 := rfl
    obtain ⟨n, hn⟩ : ∃ n, nal.length = n + 1 := ⟨nal.length - 1, by omega⟩
    have hd : nal.drop 1 ≠ [] := by
      rw [ne_eq, List.drop_eq_nil_iff]
      omega
    rw [hn, h264FuaFragments, if_neg hd]
    exact List.cons_ne_nil _ _

/-- A fragment fits the MTU. -/
theorem h264Fragments_payload_le {nal : List UInt8} (hne : nal ≠ []) {f : H264Fragment}
    (hf : f ∈ h264Fragments nal videoMtu) : f.payload ≠ [] ∧ f.payload.length ≤ videoMtu := by
  unfold h264Fragments at hf
  by_cases h : nal.length ≤ videoMtu
  · rw [if_pos h, List.mem_singleton] at hf
    rw [hf]
    exact ⟨hne, h⟩
  · rw [if_neg h] at hf
    exact h264FuaFragments_payload_le _ _ _ _ _ f hf

/-- The scanner hands the senders NAL units with content only. -/
theorem annexBNals_ne_nil (data : List UInt8) :
    ∀ (turns offset : Nat), ∀ nal ∈ annexBNals data turns offset, nal.1 ≠ []
  | 0, _ => nofun
  | turns + 1, offset => by
    unfold annexBNals
    by_cases hlt : offset < data.length
    · rw [if_pos hlt]
      cases nanoAnnexBFindNal data offset with
      | none => nofun
      | some found =>
        obtain ⟨nal, next⟩ := found
        dsimp only
        by_cases hnal : nal = []
        · rw [if_pos hnal]
          nofun
        · rw [if_neg hnal]
          intro x hx
          obtain hx | hx := List.mem_cons.mp hx
          · rw [hx]
            exact hnal
          · exact annexBNals_ne_nil data turns next x hx
    · rw [if_neg hlt]
      nofun

/-! ### Sequence numbers of a frame -/

theorem track_setTrack {rtc : MediaRtc} {i : Nat} (h : i < rtc.media.length) (m : MediaTrack) :
    (rtc.setTrack i m).track i = m := by
  unfold MediaRtc.setTrack MediaRtc.track
  dsimp only
  rw [List.getD_eq_getElem?_getD, List.getElem?_set_self h]
  rfl

/-- Track `i` has used `n` sequence numbers from `seq` on. -/
def SeqUsed (i : Nat) (seq : UInt16) (n : Nat) (rtc : MediaRtc) : Prop :=
  i < rtc.media.length ∧ (rtc.track i).rtp.seq = seq + UInt16.ofNat n

/-- A fragment takes one sequence number, whether it is sent or not. -/
theorem rtcSendFragment_seq (crypto : CryptoProvider) {i : Nat} {seq : UInt16} {n : Nat}
    {rtc : MediaRtc} (h : SeqUsed i seq n rtc) (timestamp : UInt32) (isLastNal : Bool)
    {f : H264Fragment} (hf : f.payload.length ≤ videoMtu) :
    SeqUsed i seq (n + 1) (rtcSendFragment crypto i timestamp isLastNal rtc f).1 := by
  obtain ⟨hi, hseq⟩ := h
  have hadd : seq + UInt16.ofNat n + 1 = seq + UInt16.ofNat (n + 1) := by
    rw [UInt16.ofNat_add, UInt16.add_assoc]
    rfl
  have hhdr : (rtc.track i).rtp.headerLen ≤ 20 := by
    obtain h | h := headerLen_cases (rtc.track i).rtp <;> omega
  have hbuf : mediaBufSize = 1232 := rfl
  have hmtu : videoMtu = 1200 := rfl
  obtain ⟨packet, -, hpack⟩ := @rtpPack_fits
    { (rtc.track i).rtp with marker := f.isLast && isLastNal } f.payload mediaBufSize
    (by change (rtc.track i).rtp.headerLen + _ ≤ _; omega) timestamp
  unfold rtcSendFragment
  dsimp only
  rw [if_neg (by omega), hpack]
  dsimp only
  cases nanoSrtpProtect crypto rtc.srtp packet with
  | mk srtp wire =>
    cases wire with
    | error rc =>
      refine ⟨by simpa [MediaRtc.setTrack, MediaRtc.withOut] using hi, ?_⟩
      rw [track_setTrack (by exact hi)]
      exact (congrArg (· + 1) hseq).trans hadd
    | ok wire =>
      refine ⟨by simpa [MediaRtc.setTrack, MediaRtc.withOut] using hi, ?_⟩
      rw [track_setTrack (by exact hi)]
      exact (congrArg (· + 1) hseq).trans hadd

/-- A NAL unit takes one sequence number at least and no more than it is counted for. -/
theorem rtcSendVideo_seq (crypto : CryptoProvider) {i : Nat} {seq : UInt16} {n : Nat}
    {rtc : MediaRtc} (h : SeqUsed i seq n rtc) (timestamp : UInt32) (data : List UInt8)
    {nal : List UInt8 × Nat} (hne : nal.1 ≠ []) :
    ∃ k, 1 ≤ k ∧ k ≤ nalWorstPackets nal.1 ∧
      SeqUsed i seq (n + k) (rtcSendVideo crypto i timestamp data rtc nal).1 := by
  obtain ⟨k, hpos, hle, hk⟩ := runUntil_progress (Q := SeqUsed i seq) (w := fun _ => 1)
    (f := rtcSendFragment crypto i timestamp (nanoAnnexBFindNal data nal.2).isNone)
    (fun n s f (hf : f ∈ h264Fragments nal.1 videoMtu) h => ⟨1, le_rfl, le_rfl,
      rtcSendFragment_seq crypto h timestamp _ (h264Fragments_payload_le hne hf).2⟩) h
  refine ⟨k, hpos (h264Fragments_ne_nil hne), ?_, hk⟩
  have := h264Fragments_length_le nal.1
  simp only [List.map_const', List.sum_replicate_nat, Nat.mul_one] at hle
  omega

end Nanortc.Spec
