import Mathlib
import Nanortc.Spec.SrtpRollover

/-!
# SRTP round trip

What the receiver makes of a protected RTP or RTCP packet, how the two header parsers of the source
agree, and what `rtp_unpack` reads of a packet that `rtp_pack` wrote. The digest is arbitrary and
the cipher undoes itself under one key and IV.

## Key results

- `nanoSrtpDeriveKeys_match`: the two ends of a handshake derive matching keys
- `nanoSrtpUnprotect_protected`: an RTP packet comes back exactly when the estimate keeps the
  rollover counter
- `rtpUnpack_ok_iff`: what `rtp_unpack` asks for beyond `srtp_parse_hdr_len`
- `rtpUnpack_rtpPack`: the fields and the payload come back
- `nanoSrtpUnprotectRtcp_protected`: an RTCP packet comes back
- `srtp_round_trip`: all of these
-/

namespace Nanortc.Spec

open Nanortc.ForStd Nanortc.Native

/-! ### Session keys -/

/-- The receiver's RTCP keys are the sender's. -/
structure RtcpKeysMatch (tx rx : NanoSrtp) : Prop where
  key : rx.recvRtcpKey = tx.sendRtcpKey
  authKey : rx.recvRtcpAuthKey = tx.sendRtcpAuthKey
  salt : rx.recvRtcpSalt = tx.sendRtcpSalt

/-- Master key and salt of the client or of the server in the keying material. -/
def masterOf (keyingMaterial : List UInt8) (isClient : Bool) : List UInt8 × List UInt8 :=
  if isClient then (keyingMaterial.take 16, (keyingMaterial.drop 32).take 14)
  else ((keyingMaterial.drop 16).take 16, (keyingMaterial.drop 46).take 14)

/-- Six session keys come from one master key and salt. -/
structure DerivedFrom (crypto : CryptoProvider) (master : List UInt8 × List UInt8)
    (key authKey salt rtcpKey rtcpAuthKey rtcpSalt : List UInt8) : Prop where
  key : srtpKdf crypto master.1 master.2 0x00 16 = .ok key
  authKey : srtpKdf crypto master.1 master.2 0x01 20 = .ok authKey
  salt : srtpKdf crypto master.1 master.2 0x02 14 = .ok salt
  rtcpKey : srtpKdf crypto master.1 master.2 0x03 16 = .ok rtcpKey
  rtcpAuthKey : srtpKdf crypto master.1 master.2 0x04 20 = .ok rtcpAuthKey
  rtcpSalt : srtpKdf crypto master.1 master.2 0x05 14 = .ok rtcpSalt

private theorem bind_eq_ok {α β ε : Type} {x : Except ε α} {f : α → Except ε β} {r : β}
    (h : (x >>= f) = .ok r) : ∃ a, x = .ok a ∧ f a = .ok r := by
  cases x with
  | error e => exact nomatch h
  | ok a => exact ⟨a, rfl, h⟩

/-- A context sends under its own side's master key and receives under the other side's. -/
theorem nanoSrtpDeriveKeys_derived {crypto : CryptoProvider} {srtp out : NanoSrtp}
    {keyingMaterial : List UInt8} (h : nanoSrtpDeriveKeys crypto srtp keyingMaterial = .ok out) :
    DerivedFrom crypto (masterOf keyingMaterial srtp.isClient) out.sendKey out.sendAuthKey
        out.sendSalt out.sendRtcpKey out.sendRtcpAuthKey out.sendRtcpSalt ∧
      DerivedFrom crypto (masterOf keyingMaterial (!srtp.isClient)) out.recvKey out.recvAuthKey
        out.recvSalt out.recvRtcpKey out.recvRtcpAuthKey out.recvRtcpSalt := by
  unfold nanoSrtpDeriveKeys at h
  by_cases hlen : keyingMaterial.length < 60
  · rw [if_pos hlen] at h
    exact nomatch h
  · rw [if_neg hlen] at h
    cases hc : srtp.isClient
    all_goals
      simp only [hc, if_true, if_false, Bool.false_eq_true] at h
      obtain ⟨k0, h0, h⟩ := bind_eq_ok h
      obtain ⟨k1, h1, h⟩ := bind_eq_ok h
      obtain ⟨k2, h2, h⟩ := bind_eq_ok h
      obtain ⟨k3, h3, h⟩ := bind_eq_ok h
      obtain ⟨k4, h4, h⟩ := bind_eq_ok h
      obtain ⟨k5, h5, h⟩ := bind_eq_ok h
      obtain ⟨r0, g0, h⟩ := bind_eq_ok h
      obtain ⟨r1, g1, h⟩ := bind_eq_ok h
      obtain ⟨r2, g2, h⟩ := bind_eq_ok h
      obtain ⟨r3, g3, h⟩ := bind_eq_ok h
      obtain ⟨r4, g4, h⟩ := bind_eq_ok h
      obtain ⟨r5, g5, h⟩ := bind_eq_ok h
      obtain rfl := Except.ok.inj h
      exact ⟨⟨h0, h1, h2, h3, h4, h5⟩, g0, g1, g2, g3, g4, g5⟩

/-- **The two ends derive matching keys.** What one side sends under is what the other side, of the
opposite role and with the same keying material, receives under. -/
theorem nanoSrtpDeriveKeys_match {crypto : CryptoProvider} {a b tx rx : NanoSrtp}
    {keyingMaterial : List UInt8} (hroles : b.isClient = !a.isClient)
    (ha : nanoSrtpDeriveKeys crypto a keyingMaterial = .ok tx)
    (hb : nanoSrtpDeriveKeys crypto b keyingMaterial = .ok rx) :
    KeysMatch tx rx ∧ RtcpKeysMatch tx rx := by
  obtain ⟨hsend, -⟩ := nanoSrtpDeriveKeys_derived ha
  obtain ⟨-, hrecv⟩ := nanoSrtpDeriveKeys_derived hb
  rw [hroles, Bool.not_not] at hrecv
  constructor
  · exact ⟨Except.ok.inj (hrecv.key.symm.trans hsend.key),
      Except.ok.inj (hrecv.authKey.symm.trans hsend.authKey),
      Except.ok.inj (hrecv.salt.symm.trans hsend.salt)⟩
  · exact ⟨Except.ok.inj (hrecv.rtcpKey.symm.trans hsend.rtcpKey),
      Except.ok.inj (hrecv.rtcpAuthKey.symm.trans hsend.rtcpAuthKey),
      Except.ok.inj (hrecv.rtcpSalt.symm.trans hsend.rtcpSalt)⟩

/-! ### RTP packets -/

/-- The rollover state under which a table is used for an SSRC: the slot its lookup finds or
claims. -/
def rolloverState (states : List SsrcState) (ssrc : UInt32) (cacheIdx : Int) : Option SsrcState :=
  (srtpGetSsrcState states ssrc cacheIdx).map fun (i, states, _) => states.getD i default

/-- A receiver in state `ss` estimates the rollover counter it has: nothing is recorded yet, or the
sequence number is within `2^14` of the highest one (further ahead too while the counter is
zero, as long as the signed difference is positive). -/
def KeepsRoc (ss : SsrcState) (seq : UInt16) : Prop :=
  (ss.seqMax = 0 ∧ ss.roc = 0) ∨
    (-0x4000 ≤ i16 (seq - ss.seqMax) ∧ (i16 (seq - ss.seqMax) ≤ 0x4000 ∨ ss.roc = 0))

private theorem add_one_ne (x : UInt32) : x + 1 ≠ x := by
  intro h
  have := congrArg UInt32.toNat h
  have hx := x.toNat_lt
  rw [UInt32.toNat_add, UInt32.toNat_one] at this
  omega

private theorem sub_one_ne (x : UInt32) : x - 1 ≠ x := by
  intro h
  have := congrArg UInt32.toNat h
  have hx := x.toNat_lt
  rw [UInt32.toNat_sub, UInt32.toNat_one] at this
  omega

theorem srtpEstimateRoc_eq_iff (ss : SsrcState) (seq : UInt16) :
    srtpEstimateRoc ss seq = ss.roc ↔ KeepsRoc ss seq := by
  have hpos : ss.roc > 0 ↔ ss.roc ≠ 0 := by
    rw [gt_iff_lt, UInt32.lt_iff_toNat_lt, ne_eq, ← UInt32.toNat_inj, UInt32.toNat_zero]
    omega
  simp only [srtpEstimateRoc, KeepsRoc]
  by_cases hfresh : ss.seqMax ≠ 0 ∨ ss.roc ≠ 0
  · have hn : ¬ (ss.seqMax = 0 ∧ ss.roc = 0) := by
      rintro ⟨h1, h2⟩
      exact hfresh.elim (absurd h1) (absurd h2)
    simp only [if_pos hfresh, hn, false_or]
    by_cases hlow : i16 (seq - ss.seqMax) < -0x4000
    · rw [if_pos hlow]
      exact iff_of_false (add_one_ne ss.roc) fun h => absurd h.1 (by omega)
    · rw [if_neg hlow]
      by_cases hhigh : i16 (seq - ss.seqMax) > 0x4000 ∧ ss.roc > 0
      · rw [if_pos hhigh]
        refine iff_of_false (sub_one_ne ss.roc) fun h => h.2.elim (fun h => ?_) fun h => ?_
        · exact absurd hhigh.1 (by omega)
        · exact hpos.mp hhigh.2 h
      · rw [if_neg hhigh]
        refine iff_of_true rfl ⟨by omega, ?_⟩
        by_cases hr : ss.roc = 0
        · exact .inr hr
        · exact .inl (not_lt.mp fun h => hhigh ⟨h, hpos.mpr hr⟩)
  · rw [if_neg hfresh]
    refine iff_of_true rfl (.inl ?_)
    exact ⟨not_not.mp fun h => hfresh (.inl h), not_not.mp fun h => hfresh (.inr h)⟩

/-- What an accepted packet tells about the sender. -/
theorem nanoSrtpProtect_ok {crypto : CryptoProvider} {tx tx' : NanoSrtp} {packet : List UInt8}
    {out : SrtpPacket} {ss : SsrcState} (h : nanoSrtpProtect crypto tx packet = (tx', .ok out))
    (hss : rolloverState tx.ssrcStates (readU32be packet 8) tx.lastSendIdx = some ss) :
    IsRtp (readU32be packet 8) (readU16be packet 2) packet ∧
      out.index = packetIndex ss.roc (readU16be packet 2) ∧
      IsProtected crypto tx (readU32be packet 8) ss.roc (readU16be packet 2) packet out.bytes := by
  simp only [nanoSrtpProtect] at h
  split at h
  · cases h
  · split at h
    · cases h
    · rename_i hlen
      split at h
      · cases h
      · rename_i hdrLen hparse
        split at h
        · cases h
        · rename_i i states cache hget
          rw [rolloverState, hget, Option.map_some, Option.some.injEq] at hss
          dsimp only at hss
          rw [hss] at h
          split at h
          · cases h
          · rename_i body hbody
            simp only [Prod.mk.injEq, Except.ok.injEq] at h
            obtain ⟨-, rfl⟩ := h
            exact ⟨⟨not_lt.mp hlen, rfl, rfl, hdrLen, hparse⟩, rfl, hdrLen, body, hparse, hbody,
              rfl⟩

/-- **An RTP packet comes back exactly when the estimate keeps the rollover counter.** The receiver
is in the sender's rollover state for the SSRC. -/
theorem nanoSrtpUnprotect_protected {crypto : CryptoProvider} (hc : CipherUndoes crypto)
    {tx rx tx' : NanoSrtp} (hkeys : KeysMatch tx rx) (hready : rx.ready) {packet : List UInt8}
    {out : SrtpPacket} {ss : SsrcState} (h : nanoSrtpProtect crypto tx packet = (tx', .ok out))
    (htx : rolloverState tx.ssrcStates (readU32be packet 8) tx.lastSendIdx = some ss)
    (hrx : rolloverState rx.ssrcStates (readU32be packet 8) rx.lastRecvIdx = some ss) :
    (nanoSrtpUnprotect crypto rx out.bytes).2 = .ok ⟨out.index, packet⟩ ↔
      KeepsRoc ss (readU16be packet 2) := by
  obtain ⟨hrtp, hindex, hprot⟩ := nanoSrtpProtect_ok h htx
  obtain ⟨⟨i, states, cache⟩, hget, hslot⟩ := Option.map_eq_some_iff.mp hrx
  dsimp only at hslot
  rw [← srtpEstimateRoc_eq_iff]
  constructor
  · intro hok
    obtain ⟨hwseq, hwssrc⟩ := hprot.header hrtp
    rw [← hwssrc] at hget
    have hidx := nanoSrtpUnprotect_index_lookup hget hok
    rw [hwseq, hslot, hindex] at hidx
    exact (packetIndex_inj hidx).symm
  · intro hest
    rw [nanoSrtpUnprotect_lookup hc hkeys hready hrtp hprot hget (hslot ▸ hest), hindex]

/-- The wire form of a packet: the first `off` bytes in the clear, the rest encrypted, a tag. -/
structure EncryptedFrom (crypto : CryptoProvider) (key salt packet : List UInt8) (out : SrtpPacket)
    (off : Nat) : Prop where
  length : out.bytes.length = packet.length + srtpAuthTagSize
  clear : out.bytes.take off = packet.take off
  cipher : off < packet.length →
    crypto.aes128Cm key (srtpComputeIv salt (readU32be packet 8) out.index) (packet.drop off) =
      some ((out.bytes.take packet.length).drop off)

/-- The encrypted region is what lies behind the parsed header. -/
theorem nanoSrtpProtect_encryptedFrom {crypto : CryptoProvider} {tx tx' : NanoSrtp}
    {packet : List UInt8} {out : SrtpPacket} {ss : SsrcState} {hdrLen : Nat}
    (h : nanoSrtpProtect crypto tx packet = (tx', .ok out))
    (htx : rolloverState tx.ssrcStates (readU32be packet 8) tx.lastSendIdx = some ss)
    (hparse : srtpParseHdrLen packet packet.length = .ok hdrLen) :
    EncryptedFrom crypto tx.sendKey tx.sendSalt packet out hdrLen := by
  obtain ⟨-, hindex, hdrLen', body, hparse', hbody, hwire⟩ := nanoSrtpProtect_ok h htx
  obtain rfl : hdrLen' = hdrLen := Except.ok.inj (hparse'.symm.trans hparse)
  have hhi := (srtpParseHdrLen_bounds hparse).2
  obtain ⟨hlen, htake⟩ := srtpCipherPayload_ok hhi hbody
  constructor
  · rw [hwire, List.length_append, crypto.length_hmacSha1_80, hlen]
    rfl
  · rw [hwire, List.take_append_of_le_length (by omega), htake]
  · intro hlt
    have htl : (packet.take hdrLen').length = hdrLen' := by rw [List.length_take]; omega
    simp only [srtpCipherPayload, if_pos (Nat.sub_pos_of_lt hlt)] at hbody
    split at hbody
    · cases hbody
    · rename_i c hc
      obtain rfl := Except.ok.inj hbody
      rw [hindex, hc, hwire, ← hlen, List.take_left, List.drop_left' htl]

/-! ### Header parsers -/

/-- The padding count of a packet whose P bit is set lies in the payload behind the header. -/
def PaddingFits (packet : List UInt8) (hdrLen : Nat) : Prop :=
  byteAt packet 0 &&& 0x20 ≠ 0 →
    0 < (byteAt packet (packet.length - 1)).toNat ∧
      (byteAt packet (packet.length - 1)).toNat ≤ packet.length - hdrLen

theorem rtpUnpackBody_ok {data : List UInt8} {headerLen : Nat} {u : RtpUnpacked}
    (h : rtpUnpackBody data headerLen = .ok u) :
    u.payloadOff = headerLen ∧ PaddingFits data headerLen := by
  simp only [rtpUnpackBody] at h
  split at h
  · split at h
    · exact nomatch h
    · split at h
      · exact nomatch h
      · rename_i hpad
        obtain rfl := Except.ok.inj h
        exact ⟨rfl, fun _ => by omega⟩
  · rename_i hp
    obtain rfl := Except.ok.inj h
    exact ⟨rfl, fun hp' => absurd hp' hp⟩

theorem rtpUnpackBody_of_fits {data : List UInt8} {headerLen : Nat}
    (h : PaddingFits data headerLen) : ∃ u, rtpUnpackBody data headerLen = .ok u := by
  simp only [rtpUnpackBody]
  split
  · rename_i hp
    obtain ⟨hpos, hle⟩ := h hp
    rw [if_neg (by omega), if_neg (by omega)]
    exact ⟨_, rfl⟩
  · exact ⟨_, rfl⟩

/-- Behind the checks of its own `rtp_unpack` computes the header length that
`srtp_parse_hdr_len` computes, and fails where that fails. -/
theorem rtpUnpack_eq {data : List UInt8} (hlen : rtpHeaderSize ≤ data.length)
    (hv : (byteAt data 0 >>> 6) &&& 0x03 = 2) :
    rtpUnpack data = srtpParseHdrLen data data.length >>= rtpUnpackBody data := by
  simp only [rtpUnpack, srtpParseHdrLen, if_neg (not_lt.mpr hlen), hv, ne_eq, not_true_eq_false,
    if_false]
  split
  · rfl
  · split
    · split
      · rfl
      · split
        · rfl
        · rfl
    · rfl

/-- **What `rtp_unpack` asks for beyond `srtp_parse_hdr_len`.** It finds the payload at offset `h`
exactly when the other parser accepts the header with length `h`, the packet is at least a fixed
header of version 2 and its padding fits. -/
theorem rtpUnpack_ok_iff (data : List UInt8) (h : Nat) :
    (∃ u, rtpUnpack data = .ok u ∧ u.payloadOff = h) ↔
      rtpHeaderSize ≤ data.length ∧ (byteAt data 0 >>> 6) &&& 0x03 = 2 ∧
        srtpParseHdrLen data data.length = .ok h ∧ PaddingFits data h := by
  by_cases hlen : rtpHeaderSize ≤ data.length
  · by_cases hv : (byteAt data 0 >>> 6) &&& 0x03 = 2
    · rw [rtpUnpack_eq hlen hv]
      constructor
      · rintro ⟨u, hu, hoff⟩
        obtain ⟨h', hparse, hbody⟩ := bind_eq_ok hu
        obtain ⟨hoff', hfits⟩ := rtpUnpackBody_ok hbody
        obtain rfl : h' = h := hoff'.symm.trans hoff
        exact ⟨hlen, hv, hparse, hfits⟩
      · rintro ⟨-, -, hparse, hfits⟩
        obtain ⟨u, hu⟩ := rtpUnpackBody_of_fits hfits
        rw [hparse]
        exact ⟨u, hu, (rtpUnpackBody_ok hu).1⟩
    · apply iff_of_false
      · rintro ⟨u, hu, -⟩
        rw [rtpUnpack, if_neg (not_lt.mpr hlen), if_pos hv] at hu
        exact nomatch hu
      · exact fun h => hv h.2.1
  · apply iff_of_false
    · rintro ⟨u, hu, -⟩
      rw [rtpUnpack, if_pos (not_le.mp hlen)] at hu
      exact nomatch hu
    · exact fun h => hlen h.1

/-! ### Packing -/

/-- The fields and the payload that the next packet of a stream carries; the payload type has
seven bits. -/
def rtpFields (rtp : NanoRtp) (timestamp : UInt32) (payload : List UInt8) : RtpUnpacked where
  payloadType := rtp.payloadType &&& 0x7F
  seq := rtp.seq
  timestamp := timestamp
  ssrc := rtp.ssrc
  payloadOff := rtp.headerLen
  payload := payload

/-- The marker bit is masked off the payload type. -/
private theorem marker_masked (m : Bool) (pt : UInt8) :
    ((if m then 0x80 else 0) ||| (pt &&& 0x7F)) &&& 0x7F = pt &&& (0x7F : UInt8) := by
  revert pt
  cases m <;> decide +kernel

/-- The fixed header of a packet with the given first two bytes. -/
private def fixedHeader (b0 b1 : UInt8) (seq : UInt16) (timestamp ssrc : UInt32) : List UInt8 :=
  [b0, b1] ++ (u16be seq ++ (u32be timestamp ++ u32be ssrc))

private theorem length_fixedHeader (b0 b1 : UInt8) (seq : UInt16) (timestamp ssrc : UInt32) :
    (fixedHeader b0 b1 seq timestamp ssrc).length = rtpHeaderSize := rfl

/-- What a reader finds in the fixed header, whatever follows it. -/
private theorem fixedHeader_read (b0 b1 : UInt8) (seq : UInt16) (timestamp ssrc : UInt32)
    (rest : List UInt8) :
    byteAt (fixedHeader b0 b1 seq timestamp ssrc ++ rest) 0 = b0 ∧
      byteAt (fixedHeader b0 b1 seq timestamp ssrc ++ rest) 1 = b1 ∧
      readU16be (fixedHeader b0 b1 seq timestamp ssrc ++ rest) 2 = seq ∧
      readU32be (fixedHeader b0 b1 seq timestamp ssrc ++ rest) 4 = timestamp ∧
      readU32be (fixedHeader b0 b1 seq timestamp ssrc ++ rest) 8 = ssrc := by
  refine ⟨rfl, rfl, ?_, ?_, ?_⟩
  · simp only [fixedHeader, List.append_assoc]
    exact readU16be_append_u16be rfl seq _
  · simp only [fixedHeader, List.append_assoc]
    rw [← List.append_assoc]
    exact readU32be_append_u32be rfl timestamp _
  · simp only [fixedHeader, List.append_assoc]
    rw [← List.append_assoc, ← List.append_assoc]
    exact readU32be_append_u32be rfl ssrc _

/-- The bytes behind the fixed header: the extension with the transport-wide sequence number. -/
private def twccExt (rtp : NanoRtp) : List UInt8 :=
  if rtp.hasTwcc then
    u16be 0xBEDE ++ (u16be 1 ++ ([(rtp.twccExtId &&& 0x0F) <<< 4 ||| 0x01] ++ (u16be rtp.twccSeq ++
      [0])))
  else []

private theorem length_twccExt (rtp : NanoRtp) :
    12 + (twccExt rtp).length = rtp.headerLen := by
  simp only [twccExt, NanoRtp.headerLen]
  split <;> rfl

/-- The extension is one word long. -/
private theorem twccExt_words {rtp : NanoRtp} (h : rtp.hasTwcc = true) (rest : List UInt8) :
    readU16be (twccExt rtp ++ rest) 2 = 1 := by
  rw [twccExt, if_pos h, List.append_assoc, List.append_assoc]
  exact readU16be_append_u16be rfl 1 _

/-- What a successful call writes. -/
private theorem rtpPack_ok {rtp rtp' : NanoRtp} {timestamp : UInt32} {payload packet : List UInt8}
    {bufLen : Nat} (h : rtpPack rtp timestamp payload bufLen = (rtp', .ok packet)) :
    ∃ b1, b1 &&& 0x7F = rtp.payloadType &&& 0x7F ∧
      packet = fixedHeader (if rtp.hasTwcc then 0x90 else 0x80) b1 rtp.seq timestamp rtp.ssrc ++
        (twccExt rtp ++ payload) := by
  simp only [rtpPack] at h
  split at h
  · exact nomatch h
  · simp only [Prod.mk.injEq, Except.ok.injEq] at h
    refine ⟨_, marker_masked rtp.marker rtp.payloadType, ?_⟩
    rw [← h.2]
    simp only [fixedHeader, twccExt, List.append_assoc]

/-- The header of a packed packet parses with the length that was written. -/
private theorem srtpParseHdrLen_packed (rtp : NanoRtp) (b1 : UInt8) (timestamp : UInt32)
    (payload : List UInt8) {packet : List UInt8}
    (hpacket : packet = fixedHeader (if rtp.hasTwcc then 0x90 else 0x80) b1 rtp.seq timestamp
      rtp.ssrc ++ (twccExt rtp ++ payload)) (hlen : packet.length = rtp.headerLen + payload.length) :
    srtpParseHdrLen packet packet.length = .ok rtp.headerLen := by
  have h12 : rtpHeaderSize = 12 := rfl
  have h8 : rtpTwccExtOverhead = 8 := rfl
  have h0 : byteAt packet 0 = if rtp.hasTwcc then 0x90 else 0x80 := by
    rw [hpacket]
    exact (fixedHeader_read ..).1
  have hcc : (byteAt packet 0 &&& 0x0F).toNat = 0 := by
    rw [h0]
    cases rtp.hasTwcc <;> decide
  have hx : byteAt packet 0 &&& 0x10 ≠ 0 ↔ rtp.hasTwcc = true := by
    rw [h0]
    cases rtp.hasTwcc <;> decide
  simp only [srtpParseHdrLen, hcc, hlen, Nat.zero_mul, Nat.add_zero]
  by_cases htw : rtp.hasTwcc = true
  · have hh : rtp.headerLen = 20 := by rw [NanoRtp.headerLen, if_pos htw, h12, h8]
    have hwords : readU16be packet (rtpHeaderSize + 2) = 1 := by
      rw [hpacket, readU16be_append (length_fixedHeader ..)]
      exact twccExt_words htw payload
    have h1 : (1 : UInt16).toNat = 1 := rfl
    rw [if_neg (by omega), if_pos (hx.mpr htw), if_neg (by omega), hwords, h1,
      if_neg (by omega), hh, h12]
  · have hh : rtp.headerLen = 12 := by rw [NanoRtp.headerLen, if_neg htw, h12]
    rw [if_neg (by omega), if_neg (mt hx.mp htw), hh, h12]

/-- **The fields and the payload come back.** -/
theorem rtpUnpack_rtpPack {rtp rtp' : NanoRtp} {timestamp : UInt32} {payload packet : List UInt8}
    {bufLen : Nat} (h : rtpPack rtp timestamp payload bufLen = (rtp', .ok packet)) :
    rtpUnpack packet = .ok (rtpFields rtp timestamp payload) := by
  obtain ⟨b1, hb1, hpacket⟩ := rtpPack_ok h
  have hext := length_twccExt rtp
  obtain ⟨h0, h1, hseq, hts, hssrc⟩ := fixedHeader_read (if rtp.hasTwcc then 0x90 else 0x80) b1
    rtp.seq timestamp rtp.ssrc (twccExt rtp ++ payload)
  have hfront : (fixedHeader (if rtp.hasTwcc then 0x90 else 0x80) b1 rtp.seq timestamp rtp.ssrc ++
      twccExt rtp).length = rtp.headerLen := by
    rw [List.length_append, ← hext]
    rfl
  rw [← List.append_assoc] at hpacket
  have hlen : packet.length = rtp.headerLen + payload.length := by
    rw [hpacket, List.length_append, hfront]
  have hdrop : packet.drop rtp.headerLen = payload := by
    rw [hpacket]
    exact List.drop_left' hfront
  rw [List.append_assoc] at hpacket
  have hparse := srtpParseHdrLen_packed rtp b1 timestamp payload hpacket hlen
  rw [← hpacket] at h0 h1 hseq hts hssrc
  have hge : rtpHeaderSize ≤ packet.length := (srtpParseHdrLen_bounds hparse).1.trans (by omega)
  have hv : (byteAt packet 0 >>> 6) &&& 0x03 = 2 := by
    rw [h0]
    cases rtp.hasTwcc <;> decide
  have hp : ¬ byteAt packet 0 &&& 0x20 ≠ 0 := by
    rw [h0]
    cases rtp.hasTwcc <;> decide
  rw [rtpUnpack_eq hge hv, hparse]
  show rtpUnpackBody packet rtp.headerLen = .ok (rtpFields rtp timestamp payload)
  simp only [rtpUnpackBody, if_neg hp, h1, hb1, hseq, hts, hssrc, hdrop, hlen,
    Nat.add_sub_cancel_left, List.take_length, rtpFields]

/-! ### RTCP packets -/

/-- The trailer keeps an index below `2^31` and sets the E flag. -/
private theorem srtcp_trailer {index : UInt32} (h : index.toNat < 2 ^ 31) :
    ((0x80000000 : UInt32) ||| (index &&& 0x7FFFFFFF)) &&& 0x7FFFFFFF = index ∧
      (((0x80000000 : UInt32) ||| (index &&& 0x7FFFFFFF)) >>> 31) &&& 1 ≠ 0 := by
  have hlow : index &&& 0x7FFFFFFF = index := by
    apply UInt32.toNat_inj.mp
    rw [UInt32.toNat_and]
    show index.toNat &&& (2 ^ 31 - 1) = index.toNat
    rw [Nat.and_two_pow_sub_one_eq_mod]
    omega
  constructor
  · have hbits := congrArg UInt32.toBitVec hlow
    apply UInt32.toBitVec_inj.mp
    simp only [UInt32.toBitVec_and, UInt32.toBitVec_or] at hbits ⊢
    rw [hbits, BitVec.and_or_distrib_right, hbits]
    simp
  · have hhigh : index >>> 31 = 0 := by
      apply UInt32.toNat_inj.mp
      rw [UInt32.toNat_shiftRight]
      show index.toNat >>> 31 = 0
      rw [Nat.shiftRight_eq_div_pow]
      omega
    rw [hlow, UInt32.shiftRight_or, hhigh]
    decide

/-- What a receiver finds in an RTCP packet: body, trailer and tag. -/
private theorem rtcp_parts (body tag : List UInt8) (trailer : UInt32)
    (htag : tag.length = srtpAuthTagSize) :
    (body ++ u32be trailer ++ tag).length - srtpAuthTagSize = body.length + 4 ∧
      (body ++ u32be trailer ++ tag).take (body.length + 4) = body ++ u32be trailer ∧
      (body ++ u32be trailer ++ tag).drop (body.length + 4) = tag ∧
      (body ++ u32be trailer ++ tag).take body.length = body ∧
      readU32be (body ++ u32be trailer ++ tag) body.length = trailer := by
  have hfront : (body ++ u32be trailer).length = body.length + 4 := List.length_append
  refine ⟨?_, ?_, ?_, ?_, ?_⟩
  · rw [List.length_append, hfront, htag, Nat.add_sub_cancel]
  · rw [← hfront, List.take_left]
  · rw [← hfront, List.drop_left]
  · rw [List.append_assoc, List.take_left]
  · rw [List.append_assoc]
    exact readU32be_append_u32be rfl trailer tag

/-- **An RTCP packet comes back** while the index fits the 31 bits of the trailer. -/
theorem nanoSrtpUnprotectRtcp_protected {crypto : CryptoProvider} (hc : CipherUndoes crypto)
    {tx rx tx' : NanoSrtp} (hkeys : RtcpKeysMatch tx rx) (hready : rx.ready) {packet : List UInt8}
    {out : SrtpPacket} (h : nanoSrtpProtectRtcp crypto tx packet = (tx', .ok out))
    (hindex : tx.srtcpSendIndex.toNat < 2 ^ 31) :
    nanoSrtpUnprotectRtcp crypto rx out.bytes = .ok ⟨out.index, packet⟩ := by
  simp only [nanoSrtpProtectRtcp] at h
  split at h
  · exact nomatch h
  · split at h
    · exact nomatch h
    · rename_i hge
      split at h
      · exact nomatch h
      · rename_i body hbody
        simp only [Prod.mk.injEq, Except.ok.injEq] at h
        obtain ⟨-, rfl⟩ := h
        obtain ⟨hlen, htake⟩ := srtpCipherPayload_ok (not_lt.mp hge) hbody
        have hdec := srtpCipherPayload_undoes hc (not_lt.mp hge) hbody
        obtain ⟨hidx, hflag⟩ := srtcp_trailer hindex
        generalize (0x80000000 : UInt32) ||| (tx.srtcpSendIndex &&& 0x7FFFFFFF) = trailer at *
        have htag := crypto.length_hmacSha1_80 tx.sendRtcpAuthKey (body ++ u32be trailer)
        obtain ⟨hauth, hsigned, hrecv, hrtcp, htrailer⟩ := rtcp_parts body _ trailer htag
        have hssrc : readU32be (body ++ u32be trailer ++
            crypto.hmacSha1_80 tx.sendRtcpAuthKey (body ++ u32be trailer)) 4 =
            readU32be packet 4 := by
          apply readU32be_of_take_eq (n := 8) _ (by omega)
          rw [List.append_assoc, List.take_append_of_le_length (by omega), htake]
        have hlong : ¬ (body ++ u32be trailer ++
            crypto.hmacSha1_80 tx.sendRtcpAuthKey (body ++ u32be trailer)).length <
            8 + srtcpOverhead := by
          rw [List.length_append, List.length_append, htag, length_u32be]
          simp only [srtcpOverhead, srtpAuthTagSize]
          omega
        have hnr : (!rx.ready) = false := by simp [hready]
        have hdiff : ctDiff (crypto.hmacSha1_80 tx.sendRtcpAuthKey (body ++ u32be trailer))
            (crypto.hmacSha1_80 tx.sendRtcpAuthKey (body ++ u32be trailer)) = 0 :=
          (ctDiff_eq_zero_iff _ _ rfl).mpr rfl
        simp only [nanoSrtpUnprotectRtcp, hnr, hlong, Bool.false_eq_true, if_false, hauth, hsigned,
          hrecv, Nat.add_sub_cancel, hrtcp, htrailer, hkeys.authKey, hkeys.key, hkeys.salt, hdiff,
          hidx, hssrc, ne_eq, not_true_eq_false, hflag, not_false_eq_true, true_and]
        by_cases hpay : body.length > 8
        · rw [if_pos hpay, hdec]
          rfl
        · rw [if_neg hpay]
          -- an empty payload was not passed to the cipher
          have h8 : packet.length - 8 = 0 := by omega
          simp only [srtpCipherPayload, h8, gt_iff_lt, Nat.lt_irrefl, if_false] at hbody
          rw [Except.ok.inj hbody]

/-! ### The round trip -/

/-- **SRTP and SRTCP round trip.** For a receiver with the sender's keys. An RTP packet that the
sender accepts comes back, under the sender's index, exactly when the receiver, in the sender's
rollover state, keeps the rollover counter; the encrypted region starts where `rtp_unpack` finds
the payload. The two header parsers agree, up to the version and the padding that `rtp_unpack`
checks. A packed packet unpacks to its fields. An RTCP packet comes back. -/
theorem srtp_round_trip {crypto : CryptoProvider} (hc : CipherUndoes crypto) {tx rx : NanoSrtp}
    (hkeys : KeysMatch tx rx) (hrtcp : RtcpKeysMatch tx rx) (hready : rx.ready) :
    (∀ packet tx' out ss, nanoSrtpProtect crypto tx packet = (tx', .ok out) →
      rolloverState tx.ssrcStates (readU32be packet 8) tx.lastSendIdx = some ss →
      rolloverState rx.ssrcStates (readU32be packet 8) rx.lastRecvIdx = some ss →
      ((nanoSrtpUnprotect crypto rx out.bytes).2 = .ok ⟨out.index, packet⟩ ↔
        KeepsRoc ss (readU16be packet 2)) ∧
      ∀ u, rtpUnpack packet = .ok u →
        EncryptedFrom crypto tx.sendKey tx.sendSalt packet out u.payloadOff) ∧
    (∀ data h, (∃ u, rtpUnpack data = .ok u ∧ u.payloadOff = h) ↔
      rtpHeaderSize ≤ data.length ∧ (byteAt data 0 >>> 6) &&& 0x03 = 2 ∧
        srtpParseHdrLen data data.length = .ok h ∧ PaddingFits data h) ∧
    (∀ rtp rtp' timestamp payload packet bufLen,
      rtpPack rtp timestamp payload bufLen = (rtp', .ok packet) →
      rtpUnpack packet = .ok (rtpFields rtp timestamp payload)) ∧
    ∀ packet tx' out, nanoSrtpProtectRtcp crypto tx packet = (tx', .ok out) →
      tx.srtcpSendIndex.toNat < 2 ^ 31 →
      nanoSrtpUnprotectRtcp crypto rx out.bytes = .ok ⟨out.index, packet⟩ := by
  refine ⟨fun packet tx' out ss h htx hrx => ⟨?_, fun u hu => ?_⟩, rtpUnpack_ok_iff,
    fun _ _ _ _ _ _ h => rtpUnpack_rtpPack h, fun packet tx' out h hindex => ?_⟩
  · exact nanoSrtpUnprotect_protected hc hkeys hready h htx hrx
  · have hparse := ((rtpUnpack_ok_iff packet u.payloadOff).mp ⟨u, hu, rfl⟩).2.2.1
    exact nanoSrtpProtect_encryptedFrom h htx hparse
  · exact nanoSrtpUnprotectRtcp_protected hc hrtcp hready h hindex

/-- A packet of SSRC 7 with one CSRC, one word of extension, two payload bytes and two bytes of
padding. -/
def demoExtended : List UInt8 :=
  [0xB1, 96, 0, 5] ++ u32be 1 ++ u32be 7 ++ u32be 9 ++ [0xBE, 0xDE, 0, 1, 0x10, 0, 0, 0] ++
    [1, 2, 0, 2]

/-- The receiver of the demo context recovers the packet, whose payload starts at offset 24. -/
theorem srtp_round_trip_demo :
    ∃ tx' out, nanoSrtpProtect .checksum (demoSrtp true) demoExtended = (tx', .ok out) ∧
      (nanoSrtpUnprotect .checksum (demoSrtp false) out.bytes).2 =
        .ok ⟨out.index, demoExtended⟩ ∧
      EncryptedFrom .checksum (demoSrtp true).sendKey (demoSrtp true).sendSalt demoExtended out
        24 := by
  have hrtp : IsRtp 7 5 demoExtended := ⟨by decide, by decide, by decide, 24, by decide⟩
  obtain ⟨tx', wire, hout, -⟩ := nanoSrtpProtect_eq checksum_inverts rfl hrtp
    (demoSrtp_fresh true 7).slotFor (holds_mk _ _ _)
  have hall := (@srtp_round_trip .checksum checksum_inverts.undoes (demoSrtp true) (demoSrtp false)
    ⟨rfl, rfl, rfl⟩ ⟨rfl, rfl, rfl⟩ rfl).1 demoExtended tx' _ (slotAt 7 0) hout (by decide)
    (by decide)
  refine ⟨tx', _, hout, hall.1.mpr (.inl ⟨rfl, rfl⟩), ?_⟩
  exact hall.2 ⟨96, 5, 1, 7, 24, [1, 2]⟩ (by decide)

/-- A context whose slot for SSRC 7 has seen sequence number 1. -/
def demoSeen (isClient : Bool) : NanoSrtp :=
  { demoSrtp isClient with ssrcStates := [slotAt 7 1] }

/-- A header of version 0, and one with the P bit and no payload, have a length and are protected,
but `rtp_unpack` refuses them. A receiver in the sender's state refuses a packet far ahead. -/
theorem srtp_round_trip_limits :
    (srtpParseHdrLen (List.replicate 12 0) 12 = .ok 12 ∧
      rtpUnpack (List.replicate 12 0) = .error .parse ∧
      (nanoSrtpProtect .checksum (demoSrtp true) (List.replicate 12 0)).2.isOk = true) ∧
    (srtpParseHdrLen (0xA0 :: List.replicate 11 0) 12 = .ok 12 ∧
      rtpUnpack (0xA0 :: List.replicate 11 0) = .error .parse ∧
      (nanoSrtpProtect .checksum (demoSrtp true) (0xA0 :: List.replicate 11 0)).2.isOk = true) ∧
    CipherUndoes .checksum ∧ KeysMatch (demoSeen true) (demoSeen false) ∧
    ∃ tx' out, nanoSrtpProtect .checksum (demoSeen true) (demoRtp 0x9001) = (tx', .ok out) ∧
      rolloverState (demoSeen true).ssrcStates 7 (demoSeen true).lastSendIdx =
        some (slotAt 7 1) ∧
      rolloverState (demoSeen false).ssrcStates 7 (demoSeen false).lastRecvIdx =
        some (slotAt 7 1) ∧
      (nanoSrtpUnprotect .checksum (demoSeen false) out.bytes).2 = .error .crypto := by
  refine ⟨⟨by decide, by decide, by decide⟩, ⟨by decide, by decide, by decide⟩,
    checksum_inverts.undoes, ⟨rfl, rfl, rfl⟩,
    (nanoSrtpProtect .checksum (demoSeen true) (demoRtp 0x9001)).1,
    sentPacket .checksum (demoSeen true) [demoRtp 0x9001] 0, ?_, by decide, by decide, ?_⟩
  · decide +kernel
  · decide +kernel

end Nanortc.Spec
