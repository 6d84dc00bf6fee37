import Nanortc.Spec.MediaSend
import Nanortc.Spec.RtcRun

/-!
# Media after the end of a session

Which calls of the media API a closed connection refuses. The senders compare the connection state
with DTLS_CONNECTED by order, and CLOSED is the greatest state, so the state refuses nothing: what
is left are the refusals that an open session has as well.

## Key results

- `rtcSendAudio_silent_iff`, `sendVideo_not_silent`, `rtcEmitPli_silent_iff`: the three send paths
- `closed_media_silent_iff`: a call on a closed connection is silent exactly if it is refused for
  one of these reasons
-/

namespace Nanortc.Spec

open Nanortc.ForStd Nanortc.Native

/-- A call of the media API. -/
inductive MediaCall where
  | sendAudio (mid : UInt8) (ptsMs : UInt32) (data : List UInt8)
  | sendVideo (mid : UInt8) (ptsMs : UInt32) (data : List UInt8)
  | requestKeyframe (mid : UInt8)

/-- The call on a connection. -/
def MediaCall.toRtcCall : MediaCall → RtcCall
  | .sendAudio mid ptsMs data => .sendAudio mid ptsMs data
  | .sendVideo mid ptsMs data => .sendVideo mid ptsMs data
  | .requestKeyframe mid => .requestKeyframe mid

/-- The call on the part of a connection that the media paths use. -/
def MediaCall.run (crypto : CryptoProvider) (rtc : MediaRtc) : MediaCall → MediaRtc × Rc
  | .sendAudio mid ptsMs data => nanortcSendAudio crypto rtc mid ptsMs data
  | .sendVideo mid ptsMs data => nanortcSendVideo crypto rtc mid ptsMs data
  | .requestKeyframe mid => nanortcRequestKeyframe crypto rtc mid

/-- A call ended with an error, queued nothing for the network or for the pacer and took no RTP
sequence number. -/
structure Silent (before : MediaRtc) (after : MediaRtc × Rc) : Prop where
  refused : after.2 ≠ .ok
  queue : after.1.outQueue = before.outQueue ∧ after.1.outTail = before.outTail
  pacer : after.1.pktRingTail = before.pktRingTail ∧ after.1.pacer = before.pacer
  seq : ∀ i, (after.1.track i).rtp.seq = (before.track i).rtp.seq

/-- What a call leaves alone, it does not break the silence of. -/
theorem Silent.of_same {before : MediaRtc} {rc : Rc} (h : rc ≠ .ok) : Silent before (before, rc) :=
  ⟨h, ⟨rfl, rfl⟩, ⟨rfl, rfl⟩, fun _ => rfl⟩

theorem Silent.rc_ne {before after : MediaRtc} {rc : Rc} (h : Silent before (after, rc)) :
    rc ≠ .ok := h.refused

/-- The track that a call may send on. -/
def sendTrack (rtc : MediaRtc) (kind : TrackKind) (mid : UInt8) : Option Nat :=
  (trackFindByMid rtc.media mid).filter fun i =>
    (rtc.track i).kind == kind && (rtc.track i).direction.sends

/-- SRTCP's cipher refuses the feedback of a track. -/
def srtcpRefuses (crypto : CryptoProvider) (srtp : NanoSrtp) (rtcp : NanoRtcp) : Bool :=
  let iv := srtpComputeIv srtp.sendRtcpSalt rtcp.ssrc srtp.srtcpSendIndex.toUInt64
  (crypto.aes128Cm srtp.sendRtcpKey iv (u32be rtcp.remoteSsrc)).isNone

/-- The reasons to refuse audio on a track: it is too long for a packet, no transmit slot is free,
or SRTP refuses it. -/
def audioRefused (crypto : CryptoProvider) (rtc : MediaRtc) (m : MediaTrack)
    (data : List UInt8) : Prop :=
  data.length > mediaBufSize - (m.rtp.headerLen + srtpAuthTagSize) ∨
    txSlotFree rtc.toNanoRtc = false ∨ srtpRefuses crypto rtc.srtp m.rtp data = true

/-- The reasons to refuse a frame: the packet ring has no room for it. -/
def videoRefused (rtc : NanoRtc) (data : List UInt8) : Prop :=
  videoFrameWorstPackets data > pktRingSize ∨
    videoFrameWorstPackets data > pktRingSize - rtcVideoOccupied rtc

/-- The reasons to refuse a keyframe request on a track. -/
def keyframeRefused (crypto : CryptoProvider) (rtc : MediaRtc) (m : MediaTrack) : Prop :=
  m.kind ≠ .video ∨ txSlotFree rtc.toNanoRtc = false ∨ srtcpRefuses crypto rtc.srtp m.rtcp = true

/-- A call is refused for a reason other than the connection state. -/
def MediaCall.Refused (crypto : CryptoProvider) (rtc : MediaRtc) : MediaCall → Prop
  | .sendAudio mid _ data =>
    data = [] ∨ rtc.srtp.ready = false ∨
      ∀ i, sendTrack rtc .audio mid = some i → audioRefused crypto rtc (rtc.track i) data
  | .sendVideo mid _ data =>
    data = [] ∨ rtc.srtp.ready = false ∨
      ∀ i, sendTrack rtc .video mid = some i → videoRefused rtc.toNanoRtc data
  | .requestKeyframe mid =>
    rtc.srtp.ready = false ∨
      ∀ i, trackFindByMid rtc.media mid = some i → keyframeRefused crypto rtc (rtc.track i)

/-! ### Audio -/

theorem trackFindByMid_lt {media : List MediaTrack} {mid : UInt8} {i : Nat}
    (h : trackFindByMid media mid = some i) : i < media.length :=
  (List.findIdx?_eq_some_iff_getElem.mp h).1

theorem track_setTrack_seq (rtc : MediaRtc) (i : Nat) {m : MediaTrack}
    (h : m.rtp.seq = (rtc.track i).rtp.seq) (j : Nat) :
    ((rtc.setTrack i m).track j).rtp.seq = (rtc.track j).rtp.seq := by
  unfold MediaRtc.setTrack MediaRtc.track at *
  dsimp only
  rw [List.getD_eq_getElem?_getD] at *
  rw [List.getD_eq_getElem?_getD]
  by_cases hij : i = j
  · subst hij
    rw [List.getElem?_set_self']
    cases hm : rtc.media[i]? with
    | none => rfl
    | some m' =>
      rw [hm] at h
      exact h
  · rw [List.getElem?_set_ne hij]

/-- Audio on a track is silent exactly if there is a reason to refuse it. -/
theorem rtcSendAudio_silent_iff (crypto : CryptoProvider) {rtc : MediaRtc} (hready : rtc.srtp.ready)
    (i : Nat) (timestamp : UInt32) {data : List UInt8} (hne : data ≠ []) :
    Silent rtc (rtcSendAudio crypto rtc i timestamp data) ↔
      audioRefused crypto rtc (rtc.track i) data := by
  unfold rtcSendAudio audioRefused
  dsimp only
  by_cases hlen : data.length > mediaBufSize - ((rtc.track i).rtp.headerLen + srtpAuthTagSize)
  · rw [if_pos hlen]
    exact iff_of_true (Silent.of_same (by decide)) (.inl hlen)
  rw [if_neg hlen]
  by_cases hfree : txSlotFree rtc.toNanoRtc
  swap
  · have hblocked : txSlotFree rtc.toNanoRtc = false := by simpa using hfree
    rw [nanoRtcTxSlotAcquire_blocked hblocked]
    refine iff_of_true ?_ (.inr (.inl hblocked))
    exact @Silent.of_same rtc _ (by decide)
  obtain ⟨slot, hslot, huse, hacq⟩ := nanoRtcTxSlotAcquire_free hfree
  have hspace : rtcOutputHasSpace rtc.toNanoRtc := by
    simp only [txSlotFree, Bool.and_eq_true] at hfree
    exact hfree.1
  have hbuf : mediaBufSize = 1232 := rfl
  have htag : srtpAuthTagSize = 10 := rfl
  have hhdr : (rtc.track i).rtp.headerLen ≤ 20 := by
    obtain h | h := headerLen_cases (rtc.track i).rtp <;> omega
  obtain ⟨packet, hpacked, hpack⟩ := @rtpPack_fits (rtc.track i).rtp data
    (mediaBufSize - srtpAuthTagSize) (by omega) timestamp
  rw [hacq]
  dsimp only
  rw [hpack]
  dsimp only [MediaRtc.withOut]
  obtain ⟨hrefuse, srtp, rc, hrc, hprot⟩ | ⟨hrefuse, srtp, wire, hwire, hprot⟩ :=
    @nanoSrtpProtect_packed crypto _ _ _ _ hready hpacked hne
  · -- the sequence number goes back
    rw [hprot]
    refine iff_of_true ⟨hrc, ⟨rfl, rfl⟩, ⟨rfl, rfl⟩, ?_⟩ (.inr (.inr hrefuse))
    exact track_setTrack_seq rtc i rfl
  · rw [hprot]
    dsimp only
    have hsize : wire.bytes.length ≤ txSlotSize := by
      rw [hwire, hpacked.length]
      show _ ≤ 2048
      omega
    generalize hout : NanoRtc.writeTxSlot _ slot wire.bytes = out
    obtain ⟨hok, htail⟩ := @rtcTxSlotCommitRoute_free out _ _ hslot hsize
      (by rw [← hout, writeTxSlot_inUse]; exact huse)
      (by rw [← hout]; exact hspace) out.remoteAddr none .selected
    refine iff_of_false (fun h => ?_) ?_
    · apply h.refused
      unfold nanoRtcTxSlotCommit
      simp only [Bool.false_eq_true, if_false]
      generalize rtcTxSlotCommitRoute out slot _ _ _ _ = r at hok
      obtain ⟨out', rc⟩ := r
      obtain rfl : rc = .ok := hok
      rfl
    · rintro (h | h | h)
      · exact hlen h
      · rw [hfree] at h
        cases h
      · rw [hrefuse] at h
        cases h

/-! ### Video -/

/-- A frame that the packet ring has room for takes sequence numbers or is accepted. -/
theorem sendVideo_not_silent (crypto : CryptoProvider) {rtc : MediaRtc} {i : Nat}
    (hi : i < rtc.media.length) (timestamp : UInt32) {data : List UInt8}
    (hneeded : videoFrameWorstPackets data ≠ 0) (hring : videoFrameWorstPackets data ≤ pktRingSize)
    (rc : Rc) :
    ¬ Silent rtc ((runUntil (rtcSendVideo crypto i timestamp data) rtc
      (annexBNals data data.length 0)).1, rc) := by
  intro h
  have hstart : SeqUsed i (rtc.track i).rtp.seq 0 rtc := ⟨hi, by simp⟩
  obtain ⟨k, hpos, hle, -, hseq⟩ := runUntil_progress (f := rtcSendVideo crypto i timestamp data)
    (Q := SeqUsed i (rtc.track i).rtp.seq) (w := fun nal => nalWorstPackets nal.1)
    (fun n s nal hnal hs => rtcSendVideo_seq crypto hs timestamp data
      (annexBNals_ne_nil data _ _ nal hnal)) hstart
  rw [← videoFrameWorstPackets_eq] at hle
  have hk : 1 ≤ k := hpos fun hnil => hneeded (by rw [videoFrameWorstPackets_eq, hnil]; rfl)
  have hsame := h.seq i
  rw [hseq, Nat.zero_add] at hsame
  -- between one and 32 numbers were taken
  have hzero : UInt16.ofNat k = 0 := by
    simpa using hsame
  have := congrArg UInt16.toNat hzero
  rw [UInt16.toNat_ofNat', Nat.mod_eq_of_lt (by unfold pktRingSize at hring; omega)] at this
  exact absurd this (by simp; omega)

/-! ### Feedback -/

/-- A keyframe request is protected unless the cipher refuses it. -/
theorem nanoSrtpProtectRtcp_pli {crypto : CryptoProvider} {srtp : NanoSrtp} (rtcp : NanoRtcp)
    (hready : srtp.ready) :
    let r := nanoSrtpProtectRtcp crypto srtp (rtcpGeneratePli rtcp.ssrc rtcp.remoteSsrc)
    (srtcpRefuses crypto srtp rtcp = true ∧ r = (srtp, .error .crypto)) ∨
    (srtcpRefuses crypto srtp rtcp = false ∧
      ∃ srtp' wire, wire.bytes.length ≤ txSlotSize ∧ r = (srtp', .ok wire)) := by
  generalize hpli : rtcpGeneratePli rtcp.ssrc rtcp.remoteSsrc = packet
  have hlen : packet.length = 12 := by
    rw [← hpli]
    rfl
  have hssrc : readU32be packet 4 = rtcp.ssrc := by
    rw [← hpli]
    unfold rtcpGeneratePli rtcpHeader
    rw [List.append_assoc]
    exact readU32be_append_u32be rfl rtcp.ssrc _
  have hdrop : packet.drop 8 = u32be rtcp.remoteSsrc := by
    rw [← hpli]
    rfl
  have hready : ¬ (!srtp.ready) = true := by simp [hready]
  unfold nanoSrtpProtectRtcp srtcpRefuses srtpCipherPayload
  rw [if_neg hready, if_neg (by omega)]
  dsimp only
  rw [if_pos (by omega), hssrc, hdrop]
  cases hc : crypto.aes128Cm srtp.sendRtcpKey
      (srtpComputeIv srtp.sendRtcpSalt rtcp.ssrc srtp.srtcpSendIndex.toUInt64)
      (u32be rtcp.remoteSsrc) with
  | none => exact .inl ⟨rfl, rfl⟩
  | some out =>
    refine .inr ⟨rfl, _, _, ?_, rfl⟩
    have hout := crypto.length_aes128Cm hc
    simp only [List.length_append, List.length_take, hout, crypto.length_hmacSha1_80, length_u32be]
    show _ ≤ 2048
    omega

/-- Feedback is silent exactly if there is no transmit slot for it or SRTCP's cipher refuses it. -/
theorem rtcEmitPli_silent_iff (crypto : CryptoProvider) {rtc : MediaRtc} (hready : rtc.srtp.ready)
    (i : Nat) :
    Silent rtc (rtcEmitPli crypto rtc i) ↔
      txSlotFree rtc.toNanoRtc = false ∨
        srtcpRefuses crypto rtc.srtp (rtc.track i).rtcp = true := by
  unfold rtcEmitPli rtcSendRtcp
  dsimp only
  by_cases hfree : txSlotFree rtc.toNanoRtc
  swap
  · have hblocked : txSlotFree rtc.toNanoRtc = false := by simpa using hfree
    rw [nanoRtcTxSlotAcquire_blocked hblocked]
    exact iff_of_true (@Silent.of_same rtc _ (by decide)) (.inl hblocked)
  obtain ⟨slot, hslot, huse, hacq⟩ := nanoRtcTxSlotAcquire_free hfree
  have hspace : rtcOutputHasSpace rtc.toNanoRtc := by
    simp only [txSlotFree, Bool.and_eq_true] at hfree
    exact hfree.1
  rw [hacq]
  dsimp only [MediaRtc.withOut]
  obtain ⟨hrefuse, hprot⟩ | ⟨hrefuse, srtp, wire, hsize, hprot⟩ :=
    @nanoSrtpProtectRtcp_pli crypto _ (rtc.track i).rtcp hready
  · rw [hprot]
    dsimp only
    exact iff_of_true ⟨fun h => (by cases h), ⟨rfl, rfl⟩, ⟨rfl, rfl⟩, fun _ => rfl⟩ (.inr hrefuse)
  · rw [hprot]
    dsimp only
    generalize hq : NanoRtc.writeTxSlot _ slot wire.bytes = q
    obtain ⟨hok, -⟩ := @rtcTxSlotCommitRoute_free q _ _ hslot hsize
      (by rw [← hq, writeTxSlot_inUse]; exact huse)
      (by rw [← hq]; exact hspace) q.remoteAddr none .selected
    refine iff_of_false (fun h => h.refused hok) ?_
    rintro (h | h)
    · rw [hfree] at h
      cases h
    · rw [hrefuse] at h
      cases h

/-! ### Calls on a closed connection -/

/-- The gate of the media API lets CLOSED pass. -/
theorem closed_passes_gate {rtc : MediaRtc} (hclosed : rtc.state = .closed)
    (hready : rtc.srtp.ready) :
    ¬ (rtc.state.rank < ConnState.dtlsConnected.rank ∨ (!rtc.srtp.ready) = true) := by
  rw [hclosed, hready]
  decide

theorem sendTrack_eq (rtc : MediaRtc) (kind : TrackKind) (mid : UInt8) :
    sendTrack rtc kind mid =
      match trackFindByMid rtc.media mid with
      | none => none
      | some i =>
        if (rtc.track i).kind ≠ kind then none
        else if (!(rtc.track i).direction.sends) = true then none
        else some i := by
  unfold sendTrack
  cases trackFindByMid rtc.media mid with
  | none => rfl
  | some i =>
    by_cases hkind : (rtc.track i).kind = kind <;>
      cases hdir : (rtc.track i).direction.sends <;> simp [Option.filter, hkind, hdir]

/-- Audio on a closed connection. -/
theorem sendAudio_silent_iff (crypto : CryptoProvider) {rtc : MediaRtc}
    (hclosed : rtc.state = .closed) (mid : UInt8) (ptsMs : UInt32) (data : List UInt8) :
    Silent rtc (nanortcSendAudio crypto rtc mid ptsMs data) ↔
      (MediaCall.sendAudio mid ptsMs data).Refused crypto rtc := by
  unfold nanortcSendAudio MediaCall.Refused
  dsimp only
  by_cases hne : data = []
  · rw [if_pos hne]
    exact iff_of_true (Silent.of_same (by decide)) (.inl hne)
  rw [if_neg hne]
  cases hready : rtc.srtp.ready with
  | false =>
    rw [if_pos (.inr rfl)]
    exact iff_of_true (Silent.of_same (by decide)) (.inr (.inl rfl))
  | true =>
    rw [if_neg (hready ▸ closed_passes_gate hclosed hready), sendTrack_eq]
    cases trackFindByMid rtc.media mid with
    | none => exact iff_of_true (Silent.of_same (by decide)) (.inr (.inr nofun))
    | some i =>
      dsimp only
      by_cases hkind : (rtc.track i).kind ≠ .audio
      · rw [if_pos hkind, if_pos hkind]
        exact iff_of_true (Silent.of_same (by decide)) (.inr (.inr nofun))
      rw [if_neg hkind, if_neg hkind]
      by_cases hdir : (!(rtc.track i).direction.sends) = true
      · rw [if_pos hdir, if_pos hdir]
        exact iff_of_true (Silent.of_same (by decide)) (.inr (.inr nofun))
      rw [if_neg hdir, if_neg hdir, rtcSendAudio_silent_iff crypto hready i _ hne]
      constructor
      · intro h
        exact .inr (.inr fun j hj => Option.some.inj hj ▸ h)
      · rintro (h | h | h)
        · exact absurd h hne
        · exact nomatch h
        · exact h i rfl

/-- Video on a closed connection. -/
theorem sendVideo_silent_iff (crypto : CryptoProvider) {rtc : MediaRtc}
    (hclosed : rtc.state = .closed) (mid : UInt8) (ptsMs : UInt32) (data : List UInt8) :
    Silent rtc (nanortcSendVideo crypto rtc mid ptsMs data) ↔
      (MediaCall.sendVideo mid ptsMs data).Refused crypto rtc := by
  unfold nanortcSendVideo MediaCall.Refused
  dsimp only
  by_cases hne : data = []
  · rw [if_pos hne]
    exact iff_of_true (Silent.of_same (by decide)) (.inl hne)
  rw [if_neg hne]
  cases hready : rtc.srtp.ready with
  | false =>
    rw [if_pos (.inr rfl)]
    exact iff_of_true (Silent.of_same (by decide)) (.inr (.inl rfl))
  | true =>
    rw [if_neg (hready ▸ closed_passes_gate hclosed hready), sendTrack_eq]
    cases hfind : trackFindByMid rtc.media mid with
    | none => exact iff_of_true (Silent.of_same (by decide)) (.inr (.inr nofun))
    | some i =>
      dsimp only
      by_cases hkind : (rtc.track i).kind ≠ .video
      · rw [if_pos hkind, if_pos hkind]
        exact iff_of_true (Silent.of_same (by decide)) (.inr (.inr nofun))
      rw [if_neg hkind, if_neg hkind]
      by_cases hdir : (!(rtc.track i).direction.sends) = true
      · rw [if_pos hdir, if_pos hdir]
        exact iff_of_true (Silent.of_same (by decide)) (.inr (.inr nofun))
      rw [if_neg hdir, if_neg hdir]
      unfold videoRefused
      generalize hn : videoFrameWorstPackets data = needed
      -- a frame without a NAL unit is accepted, so it is not refused
      by_cases hzero : needed = 0
      · rw [if_pos hzero, hzero]
        refine iff_of_false (fun h => h.refused rfl) ?_
        rintro (h | h | h)
        · exact absurd h hne
        · exact nomatch h
        · have := h i rfl
          omega
      rw [if_neg hzero]
      by_cases hring : needed > pktRingSize
      · rw [if_pos hring]
        exact iff_of_true (Silent.of_same (by decide)) (.inr (.inr fun _ _ => .inl hring))
      rw [if_neg hring]
      by_cases hroom : needed > pktRingSize - rtcVideoOccupied rtc.toNanoRtc
      · rw [if_pos hroom]
        exact iff_of_true (Silent.of_same (by decide)) (.inr (.inr fun _ _ => .inr hroom))
      rw [if_neg hroom]
      refine iff_of_false ?_ ?_
      · exact sendVideo_not_silent crypto (trackFindByMid_lt hfind) _ (by rwa [hn])
          (by rw [hn]; omega) _
      · rintro (h | h | h)
        · exact absurd h hne
        · exact nomatch h
        · exact (h i rfl).elim hring hroom

/-- A keyframe request on a closed connection. -/
theorem requestKeyframe_silent_iff (crypto : CryptoProvider) {rtc : MediaRtc}
    (hclosed : rtc.state = .closed) (mid : UInt8) :
    Silent rtc (nanortcRequestKeyframe crypto rtc mid) ↔
      (MediaCall.requestKeyframe mid).Refused crypto rtc := by
  unfold nanortcRequestKeyframe MediaCall.Refused
  dsimp only
  cases hready : rtc.srtp.ready with
  | false =>
    rw [if_pos (.inr rfl)]
    exact iff_of_true (Silent.of_same (by decide)) (.inl rfl)
  | true =>
    rw [if_neg (hready ▸ closed_passes_gate hclosed hready)]
    cases trackFindByMid rtc.media mid with
    | none => exact iff_of_true (Silent.of_same (by decide)) (.inr nofun)
    | some i =>
      dsimp only
      unfold keyframeRefused
      by_cases hkind : (rtc.track i).kind ≠ .video
      · rw [if_pos hkind]
        exact iff_of_true (Silent.of_same (by decide))
          (.inr fun j hj => .inl (Option.some.inj hj ▸ hkind))
      rw [if_neg hkind, rtcEmitPli_silent_iff crypto hready i]
      constructor
      · intro h
        exact .inr fun j hj => .inr (Option.some.inj hj ▸ h)
      · rintro (h | h)
        · exact nomatch h
        · exact (h i rfl).resolve_left hkind

/-- A call of the media API is its run on the media part. -/
theorem rtcCall_media {Ctx Rx : Type} (p : Platform Ctx Rx) (rtc : Rtc Ctx Rx) (call : MediaCall) :
    ((rtcCall p rtc call.toRtcCall).1.toMediaRtc, (rtcCall p rtc call.toRtcCall).2) =
      call.run p.crypto rtc.toMediaRtc := by
  have honMedia (f : MediaRtc → MediaRtc × Rc) :
      ((rtcRun (onMedia f) rtc).1.toMediaRtc, (rtcRun (onMedia f) rtc).2) = f rtc.toMediaRtc := by
    unfold rtcRun onMedia EStateM.run
    cases hf : f rtc.toMediaRtc with
    | mk m rc => cases rc <;> simp only [hf] <;> rfl
  cases call with
  | sendAudio mid ptsMs data => exact honMedia (nanortcSendAudio p.crypto · mid ptsMs data)
  | sendVideo mid ptsMs data => exact honMedia (nanortcSendVideo p.crypto · mid ptsMs data)
  | requestKeyframe mid => exact honMedia (nanortcRequestKeyframe p.crypto · mid)

/-- On a closed connection a call of the media API is silent exactly if it is refused for a reason
other than the state. -/
theorem closed_media_silent_iff {Ctx Rx : Type} (p : Platform Ctx Rx) {rtc : Rtc Ctx Rx}
    (hclosed : rtc.state = .closed) (call : MediaCall) :
    Silent rtc.toMediaRtc
        ((rtcCall p rtc call.toRtcCall).1.toMediaRtc, (rtcCall p rtc call.toRtcCall).2) ↔
      call.Refused p.crypto rtc.toMediaRtc := by
  rw [rtcCall_media]
  cases call with
  | sendAudio mid ptsMs data => exact sendAudio_silent_iff p.crypto hclosed mid ptsMs data
  | sendVideo mid ptsMs data => exact sendVideo_silent_iff p.crypto hclosed mid ptsMs data
  | requestKeyframe mid => exact requestKeyframe_silent_iff p.crypto hclosed mid

/-- A session that the application disconnects. -/
def demoClosed : Rtc Unit Unit :=
  demoSession (demoChecks .sendrecv false ++ [demoFlight 1030, .disconnect])

/-- An empty frame of audio is refused on the closed session. -/
theorem demoClosed_refuses_empty :
    Silent demoClosed.toMediaRtc
      ((rtcCall .plain demoClosed (MediaCall.sendAudio 0 0 []).toRtcCall).1.toMediaRtc,
        (rtcCall .plain demoClosed (MediaCall.sendAudio 0 0 []).toRtcCall).2) :=
  (closed_media_silent_iff .plain (by decide +kernel) (.sendAudio 0 0 [])).mpr (.inl rfl)

/-- The disconnected session still sends audio. -/
theorem closed_session_sends :
    demoClosed.state = .closed ∧
      ¬ Silent demoClosed.toMediaRtc
        ((rtcCall .plain demoClosed (MediaCall.sendAudio 0 0 [1, 2, 3]).toRtcCall).1.toMediaRtc,
          (rtcCall .plain demoClosed (MediaCall.sendAudio 0 0 [1, 2, 3]).toRtcCall).2) := by
  have h : demoClosed.state = .closed ∧
      (rtcCall .plain demoClosed (MediaCall.sendAudio 0 0 [1, 2, 3]).toRtcCall).2 = .ok := by
    decide +kernel
  exact ⟨h.1, fun hsilent => hsilent.rc_ne h.2⟩

end Nanortc.Spec
