import Nanortc.Spec.SrtpIndex

/-!
# SRTP state table and packets

What `srtp_get_ssrc_state` finds, which bytes the header parser depends on, and what protecting a
packet and recovering it do to the slot of its SSRC.

## Key results

- `srtpGetSsrcState_of_slotFor`: the lookup finds or claims the slot, whatever was cached
- `nanoSrtpProtect_eq`: a protected packet and the slot after it
- `nanoSrtpUnprotect_lookup`, `nanoSrtpUnprotect_eq`: recovering it when the estimate is right
- `nanoSrtpUnprotect_index`: the index of any accepted packet is the estimated one
-/

namespace Nanortc.Spec

open Nanortc.ForStd Nanortc.Native

/-! ### State table -/

/-- The table's state for an SSRC is `ss`: the one slot in use for it, or what a free slot becomes
when it is claimed. -/
def SlotFor (states : List SsrcState) (ssrc : UInt32) (ss : SsrcState) : Prop :=
  (∃ i : Nat, states[i]? = some ss ∧ ss.holds ssrc ∧
    ∀ (j : Nat) (s : SsrcState), states[j]? = some s → s.holds ssrc → j = i) ∨
  (ss = slotAt ssrc 0 ∧ (∀ s ∈ states, ¬ s.holds ssrc) ∧ ∃ s ∈ states, s.active = false)

/-- The lookup finds or claims the slot of its SSRC, whatever slot was cached; writing the slot
back is seen by the next lookup. -/
theorem srtpGetSsrcState_of_slotFor {states : List SsrcState} {ssrc : UInt32} {ss : SsrcState}
    (h : SlotFor states ssrc ss) (cache : Int) :
    ∃ i states' cache', srtpGetSsrcState states ssrc cache = some (i, states', cache') ∧
      states'.getD i default = ss ∧
      ∀ ss', ss'.holds ssrc → SlotFor (states'.set i ss') ssrc ss' := by
  rcases h with ⟨i, hi, hss, huniq⟩ | ⟨rfl, hnone, s, hs, hfree⟩
  · have hlt : i < states.length := (List.getElem?_eq_some_iff.mp hi).1
    have hget : ∃ cache', srtpGetSsrcState states ssrc cache = some (i, states, cache') := by
      simp only [srtpGetSsrcState]
      split
      · rename_i hc
        obtain ⟨s, hs, hh⟩ := (Option.any_eq_true _ _).mp hc.2
        rw [huniq _ _ hs hh]
        exact ⟨_, rfl⟩
      · have hfind : states.findIdx? (SsrcState.holds ssrc) = some i := by
          rw [List.findIdx?_eq_some_iff_getElem]
          obtain ⟨_, hi'⟩ := List.getElem?_eq_some_iff.mp hi
          refine ⟨hlt, by rw [hi']; exact hss, fun j hj hh => ?_⟩
          exact absurd (huniq j _ (List.getElem?_eq_getElem (by omega)) hh) (by omega)
        rw [hfind]
        exact ⟨_, rfl⟩
    obtain ⟨cache', hget⟩ := hget
    refine ⟨i, states, cache', hget, by rw [List.getD_eq_getElem?_getD, hi]; rfl, fun ss' hss' => ?_⟩
    refine .inl ⟨i, by rw [List.getElem?_set_self hlt], hss', fun j s hj hh => ?_⟩
    by_contra hne
    rw [List.getElem?_set_ne (Ne.symm hne)] at hj
    exact hne (huniq j s hj hh)
  · have hfind : states.findIdx? (SsrcState.holds ssrc) = none := by
      rw [List.findIdx?_eq_none_iff]
      intro x hx
      simpa using hnone x hx
    have hcache : ¬ (0 ≤ cache ∧ (states[cache.toNat]?).any (SsrcState.holds ssrc)) := by
      rintro ⟨-, hany⟩
      cases hc : states[cache.toNat]? with
      | none => simp [hc] at hany
      | some x =>
        rw [hc] at hany
        exact hnone x (List.mem_of_getElem? hc) hany
    obtain ⟨i, hi⟩ : ∃ i, states.findIdx? (fun s => !s.active) = some i := by
      cases hf : states.findIdx? (fun s => !s.active) with
      | some i => exact ⟨i, rfl⟩
      | none =>
        have := List.findIdx?_eq_none_iff.mp hf s hs
        simp [hfree] at this
    have hlt : i < states.length := (List.findIdx?_eq_some_iff_getElem.mp hi).1
    refine ⟨i, states.set i (slotAt ssrc 0), i, ?_, ?_, fun ss' hss' => ?_⟩
    · simp only [srtpGetSsrcState]
      rw [if_neg hcache, hfind, hi]
      rfl
    · rw [List.getD_eq_getElem?_getD, List.getElem?_set_self hlt]
      rfl
    · rw [List.set_set]
      refine .inl ⟨i, by rw [List.getElem?_set_self hlt], hss', fun j s hj hh => ?_⟩
      by_contra hne
      rw [List.getElem?_set_ne (Ne.symm hne)] at hj
      exact hnone s (List.mem_of_getElem? hj) hh

/-! ### Header and payload -/

/-- An RTP packet of `ssrc` with sequence number `seq` whose header fits. -/
structure IsRtp (ssrc : UInt32) (seq : UInt16) (packet : List UInt8) : Prop where
  header : rtpHeaderSize ≤ packet.length
  seq : readU16be packet 2 = seq
  ssrc : readU32be packet 8 = ssrc
  parses : ∃ hdrLen, srtpParseHdrLen packet packet.length = .ok hdrLen

/-- A fixed header without CSRC list and extension, and a payload. -/
theorem isRtp_of_fixed_header (b1 : UInt8) (seq : UInt16) (ts ssrc : UInt32) (payload : List UInt8) :
    IsRtp ssrc seq ([0x80, b1] ++ u16be seq ++ u32be ts ++ u32be ssrc ++ payload) where
  header := by simp [rtpHeaderSize]; omega
  seq := by
    simp only [List.append_assoc]
    exact readU16be_append_u16be rfl seq _
  ssrc := by
    rw [List.append_assoc]
    exact readU32be_append_u32be rfl ssrc payload
  parses := ⟨12, by
    have h0 : byteAt ([0x80, b1] ++ u16be seq ++ u32be ts ++ u32be ssrc ++ payload) 0 = 0x80 := rfl
    have hcc : ((0x80 : UInt8) &&& 0x0F).toNat = 0 := by decide
    simp only [srtpParseHdrLen, h0, hcc]
    rw [if_neg, if_neg (by decide)]
    · rfl
    · simp [rtpHeaderSize]; omega⟩

/-- A parsed header lies inside the packet and is at least the fixed header. -/
theorem srtpParseHdrLen_bounds {p : List UInt8} {len h : Nat} (hp : srtpParseHdrLen p len = .ok h) :
    rtpHeaderSize ≤ h ∧ h ≤ len := by
  simp only [srtpParseHdrLen] at hp
  split at hp
  · exact nomatch hp
  · split at hp
    · split at hp
      · exact nomatch hp
      · split at hp
        · exact nomatch hp
        · simp only [Except.ok.injEq] at hp
          omega
    · simp only [Except.ok.injEq] at hp
      omega

/-- The header parser reads no byte behind the header it finds. -/
theorem srtpParseHdrLen_of_take_eq {p q : List UInt8} {len h : Nat}
    (hp : srtpParseHdrLen p len = .ok h) (hq : q.take h = p.take h) :
    srtpParseHdrLen q len = .ok h := by
  have hb := srtpParseHdrLen_bounds hp
  have h12 : rtpHeaderSize = 12 := rfl
  have h0 : byteAt q 0 = byteAt p 0 := byteAt_of_take_eq hq (by omega)
  rw [← hp]
  simp only [srtpParseHdrLen] at hp ⊢
  rw [h0]
  split
  · rfl
  · rename_i hlen
    rw [if_neg hlen] at hp
    split
    · rename_i hx
      rw [if_pos hx] at hp
      split at hp
      · exact nomatch hp
      · split at hp
        · exact nomatch hp
        · simp only [Except.ok.injEq] at hp
          rw [readU16be_of_take_eq hq (by omega)]
    · rfl

/-- The cipher keeps the header and the length. -/
theorem srtpCipherPayload_ok {crypto : CryptoProvider} {key salt p out : List UInt8} {hdrLen : Nat}
    {ssrc : UInt32} {index : UInt64} (hlen : hdrLen ≤ p.length)
    (h : srtpCipherPayload crypto key salt p hdrLen ssrc index = .ok out) :
    out.length = p.length ∧ out.take hdrLen = p.take hdrLen := by
  simp only [srtpCipherPayload] at h
  split at h
  · split at h
    · exact nomatch h
    · rename_i c hc
      have hcl := crypto.length_aes128Cm hc
      simp only [Except.ok.injEq] at h
      subst h
      rw [List.length_drop] at hcl
      constructor
      · simp only [List.length_append, List.length_take, hcl]
        omega
      · rw [List.take_append_of_le_length (by rw [List.length_take]; omega), List.take_take,
          Nat.min_self]
  · simp only [Except.ok.injEq] at h
    subst h
    exact ⟨rfl, rfl⟩

/-- A cipher that never fails and undoes itself under the same key and IV. -/
def CipherInverts (crypto : CryptoProvider) : Prop :=
  ∀ key iv p, ∃ c, crypto.aes128Cm key iv p = some c ∧ crypto.aes128Cm key iv c = some p

/-- A cipher that undoes itself under the same key and IV. -/
def CipherUndoes (crypto : CryptoProvider) : Prop :=
  ∀ key iv p c, crypto.aes128Cm key iv p = some c → crypto.aes128Cm key iv c = some p

theorem CipherInverts.undoes {crypto : CryptoProvider} (hc : CipherInverts crypto) :
    CipherUndoes crypto := by
  intro key iv p c h
  obtain ⟨c', henc, hdec⟩ := hc key iv p
  obtain rfl : c' = c := Option.some.inj (henc.symm.trans h)
  exact hdec

/-- The second run of the payload through the cipher at one index restores it. -/
theorem srtpCipherPayload_undoes {crypto : CryptoProvider} (hc : CipherUndoes crypto)
    {key salt p out : List UInt8} {hdrLen : Nat} {ssrc : UInt32} {index : UInt64}
    (hlen : hdrLen ≤ p.length)
    (h : srtpCipherPayload crypto key salt p hdrLen ssrc index = .ok out) :
    srtpCipherPayload crypto key salt out hdrLen ssrc index = .ok p := by
  by_cases hpos : p.length - hdrLen > 0
  · simp only [srtpCipherPayload, if_pos hpos] at h
    split at h
    · exact nomatch h
    · rename_i c henc
      have hcl := crypto.length_aes128Cm henc
      have htake : (p.take hdrLen).length = hdrLen := by rw [List.length_take]; omega
      rw [List.length_drop] at hcl
      obtain rfl := Except.ok.inj h
      simp only [srtpCipherPayload]
      rw [if_pos (by rw [List.length_append, htake]; omega), List.drop_left' htake,
        hc _ _ _ _ henc, List.take_left' htake]
      simp only [List.take_append_drop]
  · simp only [srtpCipherPayload, if_neg hpos] at h
    obtain rfl := Except.ok.inj h
    simp only [srtpCipherPayload, if_neg hpos]

/-- A cipher that never fails encrypts the payload. -/
theorem srtpCipherPayload_total {crypto : CryptoProvider} (hc : CipherInverts crypto)
    (key salt p : List UInt8) (hdrLen : Nat) (ssrc : UInt32) (index : UInt64) :
    ∃ out, srtpCipherPayload crypto key salt p hdrLen ssrc index = .ok out := by
  by_cases hpos : p.length - hdrLen > 0
  · obtain ⟨c, henc, -⟩ := hc key (srtpComputeIv salt ssrc index) (p.drop hdrLen)
    exact ⟨p.take hdrLen ++ c, by simp only [srtpCipherPayload, if_pos hpos, henc]⟩
  · exact ⟨p, by simp only [srtpCipherPayload, if_neg hpos]⟩

/-! ### Protecting and recovering one packet -/

/-- The receiver's RTP keys are the sender's. -/
structure KeysMatch (tx rx : NanoSrtp) : Prop where
  key : rx.recvKey = tx.sendKey
  authKey : rx.recvAuthKey = tx.sendAuthKey
  salt : rx.recvSalt = tx.sendSalt

/-- `b` differs from `a` at most in its SSRC table and lookup caches. -/
structure SameKeys (a b : NanoSrtp) : Prop where
  ready : b.ready = a.ready
  sendKey : b.sendKey = a.sendKey
  sendAuthKey : b.sendAuthKey = a.sendAuthKey
  sendSalt : b.sendSalt = a.sendSalt
  recvKey : b.recvKey = a.recvKey
  recvAuthKey : b.recvAuthKey = a.recvAuthKey
  recvSalt : b.recvSalt = a.recvSalt

theorem SameKeys.refl (a : NanoSrtp) : SameKeys a a := ⟨rfl, rfl, rfl, rfl, rfl, rfl, rfl⟩

theorem SameKeys.trans {a b c : NanoSrtp} (h : SameKeys a b) (h' : SameKeys b c) : SameKeys a c :=
  ⟨h'.ready.trans h.ready, h'.sendKey.trans h.sendKey, h'.sendAuthKey.trans h.sendAuthKey,
    h'.sendSalt.trans h.sendSalt, h'.recvKey.trans h.recvKey,
    h'.recvAuthKey.trans h.recvAuthKey, h'.recvSalt.trans h.recvSalt⟩

/-- The bytes `nano_srtp_protect` puts on the wire for a packet under a given rollover counter. -/
def IsProtected (crypto : CryptoProvider) (tx : NanoSrtp) (ssrc : UInt32) (roc : UInt32)
    (seq : UInt16) (packet wire : List UInt8) : Prop :=
  ∃ hdrLen body, srtpParseHdrLen packet packet.length = .ok hdrLen ∧
    srtpCipherPayload crypto tx.sendKey tx.sendSalt packet hdrLen ssrc (packetIndex roc seq) =
      .ok body ∧
    wire = body ++ crypto.hmacSha1_80 tx.sendAuthKey (body ++ u32be roc)

/-- Protecting a packet uses the slot's rollover counter and advances it behind `0xFFFF`. -/
theorem nanoSrtpProtect_eq {crypto : CryptoProvider} (hc : CipherInverts crypto) {tx : NanoSrtp}
    {ssrc : UInt32} {seq : UInt16} {packet : List UInt8} {ss : SsrcState} (hready : tx.ready)
    (hp : IsRtp ssrc seq packet) (hslot : SlotFor tx.ssrcStates ssrc ss)
    (hss : ss.holds ssrc) :
    ∃ tx' wire, nanoSrtpProtect crypto tx packet =
        (tx', .ok ⟨packetIndex ss.roc seq, wire⟩) ∧
      IsProtected crypto tx ssrc ss.roc seq packet wire ∧ SameKeys tx tx' ∧
      SlotFor tx'.ssrcStates ssrc
        { ss with roc := if seq = 0xFFFF then ss.roc + 1 else ss.roc, seqMax := seq } := by
  obtain ⟨hdrLen, hparse⟩ := hp.parses
  obtain ⟨i, states', cache', hget, hgetD, hset⟩ :=
    srtpGetSsrcState_of_slotFor hslot tx.lastSendIdx
  obtain ⟨body, henc⟩ := srtpCipherPayload_total hc tx.sendKey tx.sendSalt packet hdrLen ssrc
    (packetIndex ss.roc seq)
  let ss' : SsrcState :=
    { ss with roc := if seq = 0xFFFF then ss.roc + 1 else ss.roc, seqMax := seq }
  refine ⟨{ tx with ssrcStates := states'.set i ss', lastSendIdx := cache' },
    body ++ crypto.hmacSha1_80 tx.sendAuthKey (body ++ u32be ss.roc), ?_,
    ⟨hdrLen, body, hparse, henc, rfl⟩, ⟨rfl, rfl, rfl, rfl, rfl, rfl, rfl⟩, hset ss' hss⟩
  · have hnr : (!tx.ready) = false := by simp [hready]
    have hnl : ¬ packet.length < rtpHeaderSize := Nat.not_lt.mpr hp.header
    simp only [nanoSrtpProtect, hnr, hnl, if_false, Bool.false_eq_true, hparse, hp.seq, hp.ssrc,
      hget, hgetD, henc]
    rfl

/-- The index of an accepted packet is the one estimated from the slot its lookup finds. -/
theorem nanoSrtpUnprotect_index_lookup {crypto : CryptoProvider} {rx : NanoSrtp}
    {wire : List UInt8} {out : SrtpPacket} {i : Nat} {states : List SsrcState} {cache : Int}
    (hget : srtpGetSsrcState rx.ssrcStates (readU32be wire 8) rx.lastRecvIdx =
      some (i, states, cache))
    (h : (nanoSrtpUnprotect crypto rx wire).2 = .ok out) :
    out.index = packetIndex (srtpEstimateRoc (states.getD i default) (readU16be wire 2))
      (readU16be wire 2) := by
  simp only [nanoSrtpUnprotect, hget] at h
  split at h
  · exact nomatch h
  · split at h
    · exact nomatch h
    · split at h
      · exact nomatch h
      · split at h
        · exact nomatch h
        · split at h
          · exact nomatch h
          · simp only [Except.ok.injEq] at h
            rw [← h]

/-- The index of an accepted packet is the one estimated from the slot. -/
theorem nanoSrtpUnprotect_index {crypto : CryptoProvider} {rx : NanoSrtp} {ssrc : UInt32}
    {seq : UInt16} {wire : List UInt8} {ss : SsrcState} {out : SrtpPacket}
    (hseq : readU16be wire 2 = seq) (hssrc : readU32be wire 8 = ssrc)
    (hslot : SlotFor rx.ssrcStates ssrc ss)
    (h : (nanoSrtpUnprotect crypto rx wire).2 = .ok out) :
    out.index = packetIndex (srtpEstimateRoc ss seq) seq := by
  obtain ⟨i, states', cache', hget, hgetD, -⟩ :=
    srtpGetSsrcState_of_slotFor hslot rx.lastRecvIdx
  subst hseq hssrc hgetD
  exact nanoSrtpUnprotect_index_lookup hget h

/-- A protected packet keeps the header fields of the plain one. -/
theorem IsProtected.header {crypto : CryptoProvider} {tx : NanoSrtp} {ssrc roc : UInt32}
    {seq : UInt16} {packet wire : List UInt8} (hp : IsRtp ssrc seq packet)
    (h : IsProtected crypto tx ssrc roc seq packet wire) :
    readU16be wire 2 = seq ∧ readU32be wire 8 = ssrc := by
  obtain ⟨hdrLen, body, hparse, hbody, rfl⟩ := h
  obtain ⟨hlo, hhi⟩ := srtpParseHdrLen_bounds hparse
  have h12 : rtpHeaderSize = 12 := rfl
  obtain ⟨hlen, htake⟩ := srtpCipherPayload_ok hhi hbody
  have hw : (body ++ crypto.hmacSha1_80 tx.sendAuthKey (body ++ u32be roc)).take hdrLen =
      packet.take hdrLen := by
    rw [List.take_append_of_le_length (by omega), htake]
  exact ⟨(readU16be_of_take_eq hw (by omega)).trans hp.seq,
    (readU32be_of_take_eq hw (by omega)).trans hp.ssrc⟩

/-- With the right estimate the receiver accepts the packet, recovers its bytes and updates the slot
its lookup found. -/
theorem nanoSrtpUnprotect_lookup {crypto : CryptoProvider} (hc : CipherUndoes crypto)
    {tx rx : NanoSrtp} (hkeys : KeysMatch tx rx) {ssrc roc : UInt32} {seq : UInt16}
    {packet wire : List UInt8} (hready : rx.ready) (hp : IsRtp ssrc seq packet)
    (hw : IsProtected crypto tx ssrc roc seq packet wire) {i : Nat} {states : List SsrcState}
    {cache : Int}
    (hget : srtpGetSsrcState rx.ssrcStates ssrc rx.lastRecvIdx = some (i, states, cache))
    (hest : srtpEstimateRoc (states.getD i default) seq = roc) :
    nanoSrtpUnprotect crypto rx wire =
      ({ rx with
          ssrcStates := states.set i (srtpUpdateSeq (states.getD i default) roc seq)
          lastRecvIdx := cache },
        .ok ⟨packetIndex roc seq, packet⟩) := by
  obtain ⟨hwseq, hwssrc⟩ := hw.header hp
  obtain ⟨hdrLen, body, hparse, hbody, rfl⟩ := hw
  obtain ⟨hlo, hhi⟩ := srtpParseHdrLen_bounds hparse
  obtain ⟨hlen, htake⟩ := srtpCipherPayload_ok hhi hbody
  have hdec := srtpCipherPayload_undoes hc hhi hbody
  have htag := crypto.length_hmacSha1_80 tx.sendAuthKey (body ++ u32be roc)
  have hwl : (body ++ crypto.hmacSha1_80 tx.sendAuthKey (body ++ u32be roc)).length -
      srtpAuthTagSize = packet.length := by
    rw [List.length_append, htag, hlen]
    exact Nat.add_sub_cancel ..
  have hwtake : (body ++ crypto.hmacSha1_80 tx.sendAuthKey (body ++ u32be roc)).take
      packet.length = body := by
    rw [← hlen, List.take_left]
  have hwdrop : (body ++ crypto.hmacSha1_80 tx.sendAuthKey (body ++ u32be roc)).drop
      packet.length = crypto.hmacSha1_80 tx.sendAuthKey (body ++ u32be roc) := by
    rw [← hlen, List.drop_left]
  have hwparse : srtpParseHdrLen
      (body ++ crypto.hmacSha1_80 tx.sendAuthKey (body ++ u32be roc)) packet.length =
      .ok hdrLen := by
    apply srtpParseHdrLen_of_take_eq hparse
    rw [List.take_append_of_le_length (by omega), htake]
  have hnl : ¬ (body ++ crypto.hmacSha1_80 tx.sendAuthKey (body ++ u32be roc)).length <
      rtpHeaderSize + srtpAuthTagSize := by
    have h10 : srtpAuthTagSize = 10 := rfl
    have := hp.header
    rw [List.length_append, htag, hlen, h10]
    omega
  have hnr : (!rx.ready) = false := by simp [hready]
  have hdiff : ctDiff (crypto.hmacSha1_80 tx.sendAuthKey (body ++ u32be roc))
      (crypto.hmacSha1_80 tx.sendAuthKey (body ++ u32be roc)) = 0 :=
    (ctDiff_eq_zero_iff _ _ rfl).mpr rfl
  simp only [nanoSrtpUnprotect, hnr, hnl, if_false, Bool.false_eq_true, hwl, hwparse, hwseq,
    hwssrc, hget, hest, hwdrop, hwtake, hkeys.authKey, hkeys.key, hkeys.salt, hdiff,
    ne_eq, not_true_eq_false, hdec]

/-- With the right estimate the receiver accepts the packet, recovers its bytes and updates the
slot. -/
theorem nanoSrtpUnprotect_eq {crypto : CryptoProvider} (hc : CipherInverts crypto)
    {tx rx : NanoSrtp} (hkeys : KeysMatch tx rx) {ssrc roc : UInt32} {seq : UInt16}
    {packet wire : List UInt8} {ss : SsrcState} (hready : rx.ready)
    (hp : IsRtp ssrc seq packet) (hw : IsProtected crypto tx ssrc roc seq packet wire)
    (hslot : SlotFor rx.ssrcStates ssrc ss) (hss : ss.holds ssrc)
    (hest : srtpEstimateRoc ss seq = roc) :
    ∃ rx', nanoSrtpUnprotect crypto rx wire = (rx', .ok ⟨packetIndex roc seq, packet⟩) ∧
      SameKeys rx rx' ∧ SlotFor rx'.ssrcStates ssrc (srtpUpdateSeq ss roc seq) := by
  obtain ⟨i, states', cache', hget, hgetD, hset⟩ :=
    srtpGetSsrcState_of_slotFor hslot rx.lastRecvIdx
  have hupd : (srtpUpdateSeq ss roc seq).holds ssrc := by
    simp only [srtpUpdateSeq]
    split <;> exact hss
  have heq := nanoSrtpUnprotect_lookup hc.undoes hkeys hready hp hw hget (hgetD ▸ hest)
  rw [hgetD] at heq
  exact ⟨_, heq, ⟨rfl, rfl, rfl, rfl, rfl, rfl, rfl⟩, hset _ hupd⟩

end Nanortc.Spec
