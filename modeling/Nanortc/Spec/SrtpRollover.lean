import Mathlib
import Nanortc.Spec.SrtpSlots

/-!
# SRTP rollover synchronisation

A sender protects a run of consecutive RTP packets of one SSRC; a receiver with the matching keys
gets some of them, reordered within a window of `2^14`. The sender counts a wrap behind sequence
number `0xFFFF`. The receiver reads a wrap off the signed 16-bit difference, which at a wrap is
small and positive, so it stays at its old rollover counter.

## Key results

- `protectRun_getElem?`: the sender's index is the position of the packet in the run
- `synchronised_iff`: exactly when every delivered packet is accepted under the sender's index
-/

namespace Nanortc.Spec

open Nanortc.ForStd Nanortc.Native

/-- Protect the packets of a run one after the other. -/
def protectRun (crypto : CryptoProvider) (tx : NanoSrtp) :
    List (List UInt8) → List (Except Rc SrtpPacket)
  | [] => []
  | p :: ps =>
    let (tx, r) := nanoSrtpProtect crypto tx p
    r :: protectRun crypto tx ps

/-- Recover the packets of a run one after the other. -/
def unprotectRun (crypto : CryptoProvider) (rx : NanoSrtp) :
    List (List UInt8) → List (Except Rc SrtpPacket)
  | [] => []
  | p :: ps =>
    let (rx, r) := nanoSrtpUnprotect crypto rx p
    r :: unprotectRun crypto rx ps

/-- Consecutive RTP packets of `ssrc`, the first at position `i`. -/
def IsRtpRun (ssrc : UInt32) (i : Nat) (plain : List (List UInt8)) : Prop :=
  ∀ k p, plain[k]? = some p → IsRtp ssrc (seqOf (i + k)) p

/-- No state for `ssrc` yet and room for it. -/
def FreshSsrc (srtp : NanoSrtp) (ssrc : UInt32) : Prop :=
  (∀ s ∈ srtp.ssrcStates, ¬ s.holds ssrc) ∧ ∃ s ∈ srtp.ssrcStates, s.active = false

/-- Packet `k` of the protected run. -/
def sentPacket (crypto : CryptoProvider) (tx : NanoSrtp) (plain : List (List UInt8)) (k : Nat) :
    SrtpPacket :=
  match (protectRun crypto tx plain)[k]? with
  | some (.ok p) => p
  | _ => ⟨0, []⟩

/-- Every delivered packet is accepted, recovered and given the sender's index. -/
def Synchronised (crypto : CryptoProvider) (tx rx : NanoSrtp) (plain : List (List UInt8))
    (order : List Nat) : Prop :=
  unprotectRun crypto rx (order.map fun k => (sentPacket crypto tx plain k).bytes) =
    order.map fun k => .ok ⟨(sentPacket crypto tx plain k).index, plain.getD k []⟩

/-- Every position of the list lies within `2^14` of the highest one before it. -/
def WithinWindow : List Nat → Prop
  | [] => True
  | i :: is => inWindow i is

/-! ### The sender -/

theorem FreshSsrc.slotFor {srtp : NanoSrtp} {ssrc : UInt32} (h : FreshSsrc srtp ssrc) :
    SlotFor srtp.ssrcStates ssrc (slotAt ssrc 0) := .inr ⟨rfl, h⟩

theorem holds_mk (ssrc roc : UInt32) (seqMax : UInt16) :
    (⟨ssrc, roc, seqMax, true⟩ : SsrcState).holds ssrc := by
  simp [SsrcState.holds]

/-- Counting up behind `0xFFFF` keeps the rollover counter that of the position. -/
theorem rocOf_succ (i : Nat) :
    (if seqOf i = 0xFFFF then rocOf i + 1 else rocOf i) = rocOf (i + 1) := by
  have hseq : seqOf i = 0xFFFF ↔ i % 2 ^ 16 = 0xFFFF := by
    rw [← UInt16.toNat_inj, seqOf, UInt16.toNat_ofNat']
    exact Iff.rfl
  apply UInt32.toNat_inj.mp
  by_cases h : seqOf i = 0xFFFF
  · have := hseq.mp h
    rw [if_pos h, rocOf, rocOf, UInt32.toNat_add, UInt32.toNat_ofNat', UInt32.toNat_ofNat']
    simp only [UInt32.toNat_one]
    omega
  · have := mt hseq.mpr h
    rw [if_neg h, rocOf, rocOf, UInt32.toNat_ofNat', UInt32.toNat_ofNat']
    omega

theorem IsRtpRun.tail {ssrc : UInt32} {i : Nat} {p : List UInt8} {ps : List (List UInt8)}
    (h : IsRtpRun ssrc i (p :: ps)) : IsRtpRun ssrc (i + 1) ps := by
  intro k q hk
  have := h (k + 1) q (by rw [List.getElem?_cons_succ]; exact hk)
  rwa [Nat.add_assoc, Nat.add_comm 1 k]

/-- **The sender's index is the position.** Packet `k` of a run that starts at position `i` is
protected under the rollover counter and sequence number of `i + k`. -/
theorem protectRun_getElem? {crypto : CryptoProvider} (hc : CipherInverts crypto) (tx : NanoSrtp)
    {ssrc : UInt32} (plain : List (List UInt8)) (i : Nat) (m : UInt16) (hready : tx.ready)
    (hslot : SlotFor tx.ssrcStates ssrc ⟨ssrc, rocOf i, m, true⟩) (hrun : IsRtpRun ssrc i plain)
    (k : Nat) (p : List UInt8) (hk : plain[k]? = some p) :
    ∃ wire, (protectRun crypto tx plain)[k]? =
        some (.ok ⟨packetIndex (rocOf (i + k)) (seqOf (i + k)), wire⟩) ∧
      IsProtected crypto tx ssrc (rocOf (i + k)) (seqOf (i + k)) p wire := by
  induction plain generalizing tx i m k with
  | nil => simp at hk
  | cons q ps ih =>
    obtain ⟨tx', wire, heq, hprot, hsame, hslot'⟩ :=
      nanoSrtpProtect_eq hc hready (hrun 0 q rfl) hslot (holds_mk _ _ _)
    simp only [protectRun, heq]
    cases k with
    | zero =>
      obtain rfl : q = p := by simpa using hk
      exact ⟨wire, rfl, hprot⟩
    | succ k =>
      rw [Nat.add_zero] at hslot'
      rw [rocOf_succ] at hslot'
      obtain ⟨wire', hget, hprot'⟩ := ih tx' (i + 1) _ (hsame.ready.trans hready) hslot' hrun.tail k
        (by simpa using hk)
      have hidx : i + 1 + k = i + (k + 1) := by omega
      rw [hidx] at hget hprot'
      refine ⟨wire', by rw [List.getElem?_cons_succ]; exact hget, ?_⟩
      obtain ⟨hdrLen, body, hparse, hbody, hwire⟩ := hprot'
      rw [hsame.sendKey, hsame.sendSalt] at hbody
      rw [hsame.sendAuthKey] at hwire
      exact ⟨hdrLen, body, hparse, hbody, hwire⟩

/-! ### The receiver -/

/-- What a delivered packet of the run is: its plain bytes, its protected bytes and its position. -/
structure Arrival where
  pos : Nat
  plain : List UInt8
  wire : List UInt8

/-- The arrival is the protected form of an RTP packet at its position. -/
def Arrival.Valid (crypto : CryptoProvider) (tx : NanoSrtp) (ssrc : UInt32) (a : Arrival) : Prop :=
  IsRtp ssrc (seqOf a.pos) a.plain ∧
    IsProtected crypto tx ssrc (rocOf a.pos) (seqOf a.pos) a.plain a.wire

theorem KeysMatch.of_sameKeys {tx rx rx' : NanoSrtp} (h : KeysMatch tx rx) (hs : SameKeys rx rx') :
    KeysMatch tx rx' :=
  ⟨hs.recvKey.trans h.key, hs.recvAuthKey.trans h.authKey, hs.recvSalt.trans h.salt⟩

theorem srtpUpdateSeq_holds {ss : SsrcState} {ssrc : UInt32} (h : ss.holds ssrc) (roc : UInt32)
    (seq : UInt16) : (srtpUpdateSeq ss roc seq).holds ssrc := by
  simp only [srtpUpdateSeq]
  split <;> exact h

/-- A run of arrivals is accepted under the right indices exactly when every estimate is right. -/
theorem unprotectRun_eq_iff {crypto : CryptoProvider} (hc : CipherInverts crypto) {tx : NanoSrtp}
    (rx : NanoSrtp) {ssrc : UInt32} (arrivals : List Arrival) (ss : SsrcState)
    (hkeys : KeysMatch tx rx) (hready : rx.ready) (hslot : SlotFor rx.ssrcStates ssrc ss)
    (hss : ss.holds ssrc) (hvalid : ∀ a ∈ arrivals, a.Valid crypto tx ssrc) :
    unprotectRun crypto rx (arrivals.map (·.wire)) =
        arrivals.map (fun a => .ok ⟨packetIndex (rocOf a.pos) (seqOf a.pos), a.plain⟩) ↔
      estimatesRight ss (arrivals.map (·.pos)) := by
  induction arrivals generalizing rx ss with
  | nil => simp [unprotectRun, estimatesRight]
  | cons a as ih =>
    obtain ⟨hrtp, hprot⟩ := hvalid a List.mem_cons_self
    simp only [List.map_cons, unprotectRun, estimatesRight, List.cons.injEq]
    by_cases hest : srtpEstimateRoc ss (seqOf a.pos) = rocOf a.pos
    · obtain ⟨rx', heq, hsame, hslot'⟩ :=
        nanoSrtpUnprotect_eq hc hkeys hready hrtp hprot hslot hss hest
      simp only [heq, hest, true_and]
      exact ih rx' _ (hkeys.of_sameKeys hsame) (hsame.ready.trans hready) hslot'
        (srtpUpdateSeq_holds hss _ _) fun b hb => hvalid b (List.mem_cons_of_mem _ hb)
    · obtain ⟨hseq, hssrc⟩ := hprot.header hrtp
      apply iff_of_false
      · rintro ⟨h, -⟩
        have hidx := nanoSrtpUnprotect_index hseq hssrc hslot h
        exact hest (packetIndex_inj hidx).symm
      · rintro ⟨h, -⟩
        exact hest h

/-! ### Synchronisation -/

/-- **Exactly when the receiver stays synchronised.** The first delivered packet is one sent before
the first wrap and every delivered packet lies within `2^14` of the highest index delivered before
it. Then every delivered packet is accepted under the sender's index if and only if none was sent
after the first wrap and the first one in the lower half of the sequence space is not directly
followed by the one half the space above it. -/
theorem synchronised_iff {crypto : CryptoProvider} (hc : CipherInverts crypto) {tx rx : NanoSrtp}
    (hkeys : KeysMatch tx rx) (htx : tx.ready) (hrx : rx.ready) {ssrc : UInt32}
    (hftx : FreshSsrc tx ssrc) (hfrx : FreshSsrc rx ssrc) (s0 : UInt16)
    {plain : List (List UInt8)} (hrun : IsRtpRun ssrc s0.toNat plain) {order : List Nat}
    (hsub : ∀ k ∈ order, k < plain.length) (hnodup : order.Nodup)
    (hfirst : ∀ k ∈ order.head?, s0.toNat + k < 2 ^ 16)
    (hwin : WithinWindow (order.map (s0.toNat + ·))) :
    Synchronised crypto tx rx plain order ↔
      (∀ k ∈ order, s0.toNat + k < 2 ^ 16) ∧ ¬ staleFirst (order.map (s0.toNat + ·)) := by
  have h0 : rocOf s0.toNat = 0 := rocOf_of_lt s0.toNat_lt
  have hsent : ∀ k ∈ order, sentPacket crypto tx plain k =
        ⟨packetIndex (rocOf (s0.toNat + k)) (seqOf (s0.toNat + k)),
          (sentPacket crypto tx plain k).bytes⟩ ∧
      Arrival.Valid crypto tx ssrc
        ⟨s0.toNat + k, plain.getD k [], (sentPacket crypto tx plain k).bytes⟩ := by
    intro k hk
    have hget := List.getElem?_eq_getElem (hsub k hk)
    obtain ⟨wire, hwire, hprot⟩ := protectRun_getElem? hc tx plain s0.toNat 0 htx
      (h0 ▸ hftx.slotFor) hrun k _ hget
    have hsp : sentPacket crypto tx plain k =
        ⟨packetIndex (rocOf (s0.toNat + k)) (seqOf (s0.toNat + k)), wire⟩ := by
      simp only [sentPacket, hwire]
    have hplain : plain.getD k [] = plain.get ⟨k, hsub k hk⟩ := by
      rw [List.getD_eq_getElem?_getD, hget, Option.getD_some, List.get_eq_getElem]
    rw [hsp, hplain]
    exact ⟨rfl, hrun k _ hget, hprot⟩
  let arrivals : List Arrival := order.map fun k =>
    ⟨s0.toNat + k, plain.getD k [], (sentPacket crypto tx plain k).bytes⟩
  have hiff := unprotectRun_eq_iff hc rx arrivals (slotAt ssrc 0) hkeys hrx hfrx.slotFor
    (holds_mk _ _ _) (by
      intro a ha
      obtain ⟨k, hk, rfl⟩ := List.mem_map.mp ha
      exact (hsent k hk).2)
  simp only [arrivals, List.map_map, Function.comp_def] at hiff
  have hout : (order.map fun k => (.ok ⟨packetIndex (rocOf (s0.toNat + k)) (seqOf (s0.toNat + k)),
        plain.getD k []⟩ : Except Rc SrtpPacket)) =
      order.map fun k => .ok ⟨(sentPacket crypto tx plain k).index, plain.getD k []⟩ := by
    apply List.map_congr_left
    intro k hk
    rw [(hsent k hk).1]
  rw [Synchronised, ← hout, hiff]
  have hpos : (∀ k ∈ order, s0.toNat + k < 2 ^ 16) ↔
      ∀ x ∈ order.map (s0.toNat + ·), x < 2 ^ 16 := by
    simp only [List.forall_mem_map]
  rw [hpos]
  cases order with
  | nil => simp [estimatesRight, staleFirst]
  | cons k ks =>
    exact estimatesRight_iff ssrc (s0.toNat + k) (ks.map (s0.toNat + ·)) (hfirst k rfl)
      (List.Nodup.map (fun a b h => Nat.add_left_cancel h) hnodup) hwin

/-! ### Two runs -/

theorem checksum_inverts : CipherInverts .checksum := by
  intro key iv p
  refine ⟨_, rfl, ?_⟩
  simp only [CryptoProvider.checksum, List.map_map, Option.some.injEq]
  have hid : ((· ^^^ (byteAt key 0 + byteAt iv 13)) ∘ (· ^^^ (byteAt key 0 + byteAt iv 13)) :
      UInt8 → UInt8) = id := by
    funext x
    simp [UInt8.xor_assoc]
  rw [hid, List.map_id]

/-- A sender and a receiver whose session keys have been set. -/
def demoSrtp (isClient : Bool) : NanoSrtp := { nanoSrtpInit 4 isClient with ready := true }

/-- An RTP packet of SSRC 7 with a three-byte payload. -/
def demoRtp (seq : UInt16) : List UInt8 :=
  [0x80, 96] ++ u16be seq ++ u32be 1 ++ u32be 7 ++ [1, 2, 3]

/-- The run of `n` demo packets from sequence number `s0`. -/
def demoRun (s0 : UInt16) (n : Nat) : List (List UInt8) :=
  (List.range n).map fun k => demoRtp (seqOf (s0.toNat + k))

theorem demoRun_isRtpRun (s0 : UInt16) (n : Nat) : IsRtpRun 7 s0.toNat (demoRun s0 n) := by
  intro k p hk
  obtain ⟨j, hj, rfl⟩ := List.mem_map.mp (List.mem_of_getElem? hk)
  simp only [demoRun, List.getElem?_map, Option.map_eq_some_iff] at hk
  obtain ⟨j', hj', hp⟩ := hk
  have hkj : j' = k := by
    have := List.getElem?_eq_some_iff.mp hj'
    obtain ⟨_, h⟩ := this
    simpa using h.symm
  rw [← hp, hkj]
  exact isRtp_of_fixed_header 96 _ 1 7 [1, 2, 3]

theorem demoSrtp_fresh (isClient : Bool) (ssrc : UInt32) : FreshSsrc (demoSrtp isClient) ssrc := by
  constructor
  · intro s hs
    rw [List.eq_of_mem_replicate hs]
    simp [SsrcState.holds]
  · exact ⟨⟨0, 0, 0, false⟩, List.mem_replicate.mpr ⟨by decide, rfl⟩, rfl⟩

/-- Three packets before the first wrap, delivered out of order, are all recovered. -/
theorem synchronised_before_wrap :
    Synchronised .checksum (demoSrtp true) (demoSrtp false) (demoRun 0xFFF0 3) [1, 0, 2] :=
  (synchronised_iff checksum_inverts ⟨rfl, rfl, rfl⟩ rfl rfl (demoSrtp_fresh true 7)
    (demoSrtp_fresh false 7) 0xFFF0 (demoRun_isRtpRun 0xFFF0 3) (by decide) (by decide)
    (by decide) (by simp [WithinWindow, inWindow])).mpr ⟨by decide, by simp [staleFirst]⟩

/-- The second packet of a run that starts at `0xFFFF` is the first past the wrap; delivered in
order, without loss, it is refused. -/
theorem not_synchronised_past_wrap :
    CipherInverts .checksum ∧ KeysMatch (demoSrtp true) (demoSrtp false) ∧
      FreshSsrc (demoSrtp true) 7 ∧ FreshSsrc (demoSrtp false) 7 ∧
      IsRtpRun 7 0xFFFF (demoRun 0xFFFF 2) ∧ 0xFFFF + 0 < 2 ^ 16 ∧
      WithinWindow [0xFFFF + 0, 0xFFFF + 1] ∧
      ¬ Synchronised .checksum (demoSrtp true) (demoSrtp false) (demoRun 0xFFFF 2) [0, 1] := by
  refine ⟨checksum_inverts, ⟨rfl, rfl, rfl⟩, demoSrtp_fresh true 7, demoSrtp_fresh false 7,
    demoRun_isRtpRun 0xFFFF 2, by decide, by simp [WithinWindow, inWindow], ?_⟩
  unfold Synchronised
  decide +kernel

end Nanortc.Spec
