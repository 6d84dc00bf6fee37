import Mathlib
import Nanortc.ForStd.Parity
import Nanortc.Native.Fec

/-!
# FEC recovers what was lost

The parity of a group of packets and all but one of them, in any order and among any other packets,
give back the missing one byte for byte; with none or more than one missing nothing is written.

## Key results

- `fecSnBase_spec`: the base is the earliest sequence number
- `fecMask_bit`: the bits of the mask are the packets of the group
- `fec_exact`: what `fecRecover` does with the parity of `fecEncode`
-/

namespace Nanortc.Spec

open Nanortc.ForStd Nanortc.Native

/-- A group that can be protected: RTP packets of one source, with different sequence numbers in a
window of 16. -/
structure FecGroup (ssrc : UInt32) (group : List (List UInt8)) : Prop where
  size : 1 ≤ group.length ∧ group.length ≤ fecMaxGroup
  lengths : ∀ p ∈ group, fecRtpHdr ≤ p.length ∧ p.length < 2 ^ 16
  version : ∀ p ∈ group, byteAt p 0 >>> 6 = 2
  source : ∀ p ∈ group, readU32be p 8 = ssrc
  distinct : (group.map fecSeq).Nodup
  window : ∃ w : UInt16, ∀ p ∈ group, (fecSeq p - w).toNat < fecMaxGroup

/-! ### The base -/

/-- In a window of 16 the signed order is that of the offsets. -/
theorem i16_sub_neg_iff {w a b : UInt16} (ha : (a - w).toNat < fecMaxGroup)
    (hb : (b - w).toNat < fecMaxGroup) : i16 (a - b) < 0 ↔ (a - w).toNat < (b - w).toNat := by
  have hmax : fecMaxGroup = 16 := rfl
  have h1 := a.toNat_lt
  have h2 := b.toNat_lt
  have h3 := w.toNat_lt
  rw [UInt16.toNat_sub] at ha hb ⊢
  rw [UInt16.toNat_sub, i16_eq, UInt16.toNat_sub]
  split <;> omega

theorem foldl_snBase {w : UInt16} (pkts : List (List UInt8)) (base : UInt16)
    (hbase : (base - w).toNat < fecMaxGroup)
    (hpkts : ∀ p ∈ pkts, (fecSeq p - w).toNat < fecMaxGroup) :
    let r := pkts.foldl (fun base p => if i16 (fecSeq p - base) < 0 then fecSeq p else base) base
    (r = base ∨ ∃ p ∈ pkts, r = fecSeq p) ∧ (r - w).toNat ≤ (base - w).toNat ∧
      ∀ p ∈ pkts, (r - w).toNat ≤ (fecSeq p - w).toNat := by
  induction pkts generalizing base with
  | nil => exact ⟨.inl rfl, Nat.le_refl _, nofun⟩
  | cons p pkts ih =>
    have hp := hpkts p List.mem_cons_self
    have hrest (q : List UInt8) (hq : q ∈ pkts) := hpkts q (List.mem_cons_of_mem p hq)
    dsimp only
    rw [List.foldl_cons]
    by_cases hlt : i16 (fecSeq p - base) < 0
    · rw [if_pos hlt]
      obtain ⟨hfrom, hle, hall⟩ := ih (fecSeq p) hp hrest
      have hless := (i16_sub_neg_iff hp hbase).mp hlt
      refine ⟨.inr ?_, Nat.le_trans hle (Nat.le_of_lt hless), fun q hq => ?_⟩
      · rcases hfrom with heq | ⟨q, hq, heq⟩
        · exact ⟨p, List.mem_cons_self, heq⟩
        · exact ⟨q, List.mem_cons_of_mem p hq, heq⟩
      · rcases List.mem_cons.mp hq with rfl | hq
        · exact hle
        · exact hall q hq
    · rw [if_neg hlt]
      obtain ⟨hfrom, hle, hall⟩ := ih base hbase hrest
      have hnot := mt (i16_sub_neg_iff hp hbase).mpr hlt
      refine ⟨hfrom.imp_right fun ⟨q, hq, heq⟩ => ⟨q, List.mem_cons_of_mem p hq, heq⟩, hle,
        fun q hq => ?_⟩
      rcases List.mem_cons.mp hq with rfl | hq
      · exact Nat.le_trans hle (Nat.not_lt.mp hnot)
      · exact hall q hq

/-- **The base is the earliest sequence number** of the group. -/
theorem fecSnBase_spec {w : UInt16} {group : List (List UInt8)}
    (h : ∀ p ∈ group, (fecSeq p - w).toNat < fecMaxGroup) {p : List UInt8} (hp : p ∈ group) :
    (fecSeq p - fecSnBase group).toNat < fecMaxGroup := by
  cases group with
  | nil => exact nomatch hp
  | cons q pkts =>
    have hq := h q List.mem_cons_self
    obtain ⟨-, hle, hall⟩ := foldl_snBase pkts (fecSeq q) hq
      fun r hr => h r (List.mem_cons_of_mem q hr)
    have hsmall : (fecSnBase (q :: pkts) - w).toNat ≤ (fecSeq p - w).toNat := by
      rcases List.mem_cons.mp hp with rfl | hp
      · exact hle
      · exact hall p hp
    have hwindow := h p hp
    revert hsmall hwindow
    generalize fecSnBase (q :: pkts) = base
    intro hsmall hwindow
    have h1 := base.toNat_lt
    have h2 := (fecSeq p).toNat_lt
    have h3 := w.toNat_lt
    have hmax : fecMaxGroup = 16 := rfl
    rw [UInt16.toNat_sub] at hsmall hwindow ⊢
    rw [UInt16.toNat_sub] at hsmall
    omega

/-! ### The mask -/

theorem fecMaskBit_and {a b : UInt16} (ha : a.toNat < fecMaxGroup) (hb : b.toNat < fecMaxGroup) :
    fecMaskBit a &&& fecMaskBit b ≠ 0 ↔ a = b := by
  have hall : ∀ i < 16, ∀ j < 16,
      (fecMaskBit (UInt16.ofNat i) &&& fecMaskBit (UInt16.ofNat j) ≠ 0 ↔ i = j) := by
    decide +kernel
  have h := hall a.toNat ha b.toNat hb
  rw [UInt16.ofNat_toNat, UInt16.ofNat_toNat] at h
  rw [h]
  exact UInt16.toNat_inj

theorem or_and_ne_zero (m a b : UInt16) :
    (m ||| a) &&& b ≠ 0 ↔ m &&& b ≠ 0 ∨ a &&& b ≠ 0 := by
  have hdistrib : (m ||| a) &&& b = (m &&& b) ||| (a &&& b) :=
    UInt16.eq_of_toBitVec_eq BitVec.and_or_distrib_right
  rw [hdistrib, ne_eq, UInt16.or_eq_zero_iff, not_and_or]

/-- **The bits of the mask** are the offsets of the packets. -/
theorem fecMask_bit {base off : UInt16} {group : List (List UInt8)}
    (h : ∀ p ∈ group, (fecSeq p - base).toNat < fecMaxGroup) (hoff : off.toNat < fecMaxGroup) :
    fecMask base group &&& fecMaskBit off ≠ 0 ↔ ∃ p ∈ group, fecSeq p - base = off := by
  have hfold (mask : UInt16) :
      group.foldl (fun mask p => mask ||| fecMaskBit (fecSeq p - base)) mask &&& fecMaskBit off ≠ 0 ↔
        mask &&& fecMaskBit off ≠ 0 ∨ ∃ p ∈ group, fecSeq p - base = off := by
    induction group generalizing mask with
    | nil => exact (or_iff_left nofun).symm
    | cons p group ih =>
      rw [List.foldl_cons, ih fun q hq => h q (List.mem_cons_of_mem p hq), or_and_ne_zero,
        fecMaskBit_and (h p List.mem_cons_self) hoff, or_assoc]
      exact or_congr_right (by rw [List.exists_mem_cons_iff])
  unfold fecMask
  rw [hfold 0, or_iff_right]
  rw [UInt16.zero_and]
  exact fun hcon => hcon rfl

/-! ### The parity -/

theorem FecFields.collect_comm (s : FecFields) (a b : List UInt8) :
    (s.collect a).collect b = (s.collect b).collect a := by
  unfold FecFields.collect
  simp only [FecFields.mk.injEq]
  refine ⟨?_, ?_, ?_, ?_, ?_⟩
  · rw [UInt8.xor_assoc, UInt8.xor_comm (byteAt a 0 &&& 0x3F), ← UInt8.xor_assoc]
  · rw [UInt8.xor_assoc, UInt8.xor_comm (byteAt a 1), ← UInt8.xor_assoc]
  · rw [UInt32.xor_assoc, UInt32.xor_comm (readU32be a 4), ← UInt32.xor_assoc]
  · rw [UInt16.xor_assoc, UInt16.xor_comm (UInt16.ofNat (a.length - fecRtpHdr)),
      ← UInt16.xor_assoc]
  · refine List.ext_getElem (by simp only [List.length_mapIdx]) fun k _ _ => ?_
    simp only [List.getElem_mapIdx]
    rw [UInt8.xor_assoc, UInt8.xor_comm (byteAt a (fecRtpHdr + k)), ← UInt8.xor_assoc]

theorem FecFields.collect_twice (s : FecFields) (a : List UInt8) :
    (s.collect a).collect a = s := by
  unfold FecFields.collect
  obtain ⟨flags, type, ts, len, payload⟩ := s
  simp only [FecFields.mk.injEq]
  refine ⟨?_, ?_, ?_, ?_, ?_⟩
  · rw [UInt8.xor_assoc, UInt8.xor_self, UInt8.xor_zero]
  · rw [UInt8.xor_assoc, UInt8.xor_self, UInt8.xor_zero]
  · rw [UInt32.xor_assoc, UInt32.xor_self, UInt32.xor_zero]
  · rw [UInt16.xor_assoc, UInt16.xor_self, UInt16.xor_zero]
  · refine List.ext_getElem (by simp only [List.length_mapIdx]) fun k _ _ => ?_
    simp only [List.getElem_mapIdx]
    rw [UInt8.xor_assoc, UInt8.xor_self, UInt8.xor_zero]

theorem xor_and_distrib (a b m : UInt8) : (a ^^^ b) &&& m = (a &&& m) ^^^ (b &&& m) := by
  refine UInt8.eq_of_toBitVec_eq (BitVec.eq_of_getLsbD_eq fun i _ => ?_)
  show ((a.toBitVec ^^^ b.toBitVec) &&& m.toBitVec).getLsbD i =
    ((a.toBitVec &&& m.toBitVec) ^^^ (b.toBitVec &&& m.toBitVec)).getLsbD i
  rw [BitVec.getLsbD_and, BitVec.getLsbD_xor, BitVec.getLsbD_xor, BitVec.getLsbD_and,
    BitVec.getLsbD_and, Bool.and_xor_distrib_right]

/-- Collecting keeps the protection length and the free bits of the flags. -/
theorem foldl_collect_keeps (group : List (List UInt8)) (s : FecFields) :
    (group.foldl FecFields.collect s).payload.length = s.payload.length ∧
      (s.flags &&& 0x3F = s.flags → (group.foldl FecFields.collect s).flags &&& 0x3F =
        (group.foldl FecFields.collect s).flags) := by
  induction group generalizing s with
  | nil => exact ⟨rfl, id⟩
  | cons p group ih =>
    rw [List.foldl_cons]
    obtain ⟨hlen, hflags⟩ := ih (s.collect p)
    refine ⟨hlen.trans List.length_mapIdx, fun h => hflags ?_⟩
    show (s.flags ^^^ (byteAt p 0 &&& 0x3F)) &&& 0x3F = s.flags ^^^ (byteAt p 0 &&& 0x3F)
    rw [xor_and_distrib, h, UInt8.and_assoc, UInt8.and_self]

/-- No payload is longer than the protection length. -/
theorem le_fecProtLen {group : List (List UInt8)} {p : List UInt8} (hp : p ∈ group) :
    p.length - fecRtpHdr ≤ fecProtLen group := by
  have hfold (group : List (List UInt8)) (n : Nat) :
      n ≤ group.foldl (fun n p => max n (p.length - 2)) n ∧
      ∀ p ∈ group, p.length - 2 ≤ group.foldl (fun n p => max n (p.length - 2)) n := by
    induction group generalizing n with
    | nil => exact ⟨Nat.le_refl n, nofun⟩
    | cons q group ih =>
      obtain ⟨hle, hall⟩ := ih (max n (q.length - 2))
      rw [List.foldl_cons]
      refine ⟨Nat.le_trans (Nat.le_max_left _ _) hle, fun p hp => ?_⟩
      rcases List.mem_cons.mp hp with rfl | hp
      · exact Nat.le_trans (Nat.le_max_right _ _) hle
      · exact hall p hp
  have h := (hfold group 0).2 p hp
  unfold fecProtLen
  have h1 : fecRtpHdr = 12 := rfl
  have h2 : fecHeaderSize = 10 := rfl
  omega

theorem fecProtLen_le {group : List (List UInt8)} {n : Nat}
    (h : ∀ p ∈ group, p.length - fecRtpHdr ≤ n) : fecProtLen group ≤ n := by
  have hfold (group : List (List UInt8)) (m : Nat) (hm : m ≤ n + 10)
      (h : ∀ p ∈ group, p.length - fecRtpHdr ≤ n) :
      group.foldl (fun n p => max n (p.length - 2)) m ≤ n + 10 := by
    induction group generalizing m with
    | nil => exact hm
    | cons q group ih =>
      have hq := h q List.mem_cons_self
      have h1 : fecRtpHdr = 12 := rfl
      have hnext : max m (q.length - 2) ≤ n + 10 := by omega
      exact ih _ hnext fun p hp => h p (List.mem_cons_of_mem q hp)
  have h2 : fecHeaderSize = 10 := rfl
  have := hfold group 0 (Nat.zero_le _) h
  unfold fecProtLen
  omega

/-! ### Encoding -/

/-- The parity packet of a group. -/
def fecPacket (group : List (List UInt8)) : List UInt8 :=
  let sum := group.foldl FecFields.collect (.zero (fecProtLen group))
  [sum.flags, sum.type] ++ u16be (fecSnBase group) ++ u32be sum.ts ++ u16be sum.len ++
    u16be (UInt16.ofNat (fecProtLen group)) ++ u16be (fecMask (fecSnBase group) group) ++ sum.payload

section

variable {ssrc : UInt32} {group : List (List UInt8)} (h : FecGroup ssrc group)
include h

theorem FecGroup.offset {p : List UInt8} (hp : p ∈ group) :
    (fecSeq p - fecSnBase group).toNat < fecMaxGroup := by
  obtain ⟨w, hw⟩ := h.window
  exact fecSnBase_spec hw hp

theorem FecGroup.protLen : fecProtLen group < 2 ^ 16 := by
  have hle : fecProtLen group ≤ 65523 := fecProtLen_le fun p hp => by
    have hlen := (h.lengths p hp).2
    have h1 : fecRtpHdr = 12 := rfl
    omega
  omega

/-- **A group is encoded** when its parity fits. -/
theorem fecEncode_group {cap : Nat} (hcap : ∀ p ∈ group, p.length + 2 ≤ cap) :
    fecEncode group cap = .ok (fecPacket group) := by
  have hne : group ≠ [] := by
    rintro rfl
    exact absurd h.size.1 (by decide)
  have hfit : ¬ cap < fecOverhead + fecProtLen group := by
    obtain ⟨p, hp⟩ := List.exists_mem_of_ne_nil group hne
    have hle : fecProtLen group ≤ cap - 14 := fecProtLen_le fun q hq => by
      have hq := hcap q hq
      have h1 : fecRtpHdr = 12 := rfl
      omega
    have hmin := hcap p hp
    have hlen := (h.lengths p hp).1
    have h1 : fecRtpHdr = 12 := rfl
    have h2 : fecOverhead = 14 := rfl
    omega
  have hshort : (group.any fun p => p.length < fecRtpHdr ||
      decide ((fecSeq p - fecSnBase group).toNat ≥ fecMaxGroup)) = false := by
    rw [List.any_eq_false]
    intro p hp
    simp only [Bool.or_eq_true, decide_eq_true_eq, not_or, Nat.not_lt, ge_iff_le, Nat.not_le]
    exact ⟨(h.lengths p hp).1, h.offset hp⟩
  unfold fecEncode
  rw [if_neg (not_or.mpr ⟨hne, Nat.not_lt.mpr h.size.2⟩)]
  dsimp only
  rw [hshort, if_neg nofun, Nat.mod_eq_of_lt h.protLen, if_neg hfit]
  rfl

/-! ### Which packets are missing -/

/-- An offset is one of a packet of the group. -/
theorem FecGroup.bit {off : UInt16} (hoff : off.toNat < fecMaxGroup) :
    fecMask (fecSnBase group) group &&& fecMaskBit off ≠ 0 ↔
      ∃ p ∈ group, fecSeq p - fecSnBase group = off :=
  fecMask_bit (fun _ hp => h.offset hp) hoff

/-- The offsets that are missing are those of the packets that are. -/
theorem mem_fecMissing {recv : List (List UInt8)} {off : UInt16} :
    off ∈ fecMissing (fecSnBase group) (fecMask (fecSnBase group) group) recv ↔
      ∃ p ∈ group, fecSeq p - fecSnBase group = off ∧ fecPresent recv (fecSeq p) = false := by
  unfold fecMissing
  rw [List.mem_filter, List.mem_map]
  simp only [Bool.and_eq_true, decide_eq_true_eq, Bool.not_eq_true', List.mem_range]
  have hback (p : List UInt8) : fecSnBase group + (fecSeq p - fecSnBase group) = fecSeq p := by
    rw [UInt16.add_comm, UInt16.sub_add_cancel]
  constructor
  · rintro ⟨⟨i, hi, rfl⟩, hbit, habsent⟩
    have hoff : (UInt16.ofNat i).toNat < fecMaxGroup := by
      rw [UInt16.toNat_ofNat']
      exact Nat.lt_of_le_of_lt (Nat.mod_le _ _) hi
    obtain ⟨p, hp, heq⟩ := (h.bit hoff).mp hbit
    rw [← heq, hback] at habsent
    exact ⟨p, hp, heq, habsent⟩
  · rintro ⟨p, hp, rfl, habsent⟩
    refine ⟨⟨_, h.offset hp, UInt16.ofNat_toNat⟩, (h.bit (h.offset hp)).mpr ⟨p, hp, rfl⟩, ?_⟩
    rw [hback]
    exact habsent

theorem fecMissing_nodup (recv : List (List UInt8)) :
    (fecMissing (fecSnBase group) (fecMask (fecSnBase group) group) recv).Nodup := by
  refine List.Nodup.filter _ (List.nodup_range.map_on fun i hi j hj heq => ?_)
  have hi := List.mem_range.mp hi
  have hj := List.mem_range.mp hj
  have hmax : fecMaxGroup = 16 := rfl
  have heq := congrArg UInt16.toNat heq
  rw [UInt16.toNat_ofNat', UInt16.toNat_ofNat'] at heq
  omega

end

/-- What was received of a group: some of its packets, among others of other sequence numbers. -/
structure FecReceived (group kept recv : List (List UInt8)) : Prop where
  some : kept.Subperm group
  among : ∃ unrelated, recv.Perm (kept ++ unrelated) ∧
    ∀ u ∈ unrelated, u.length < fecRtpHdr ∨ ∀ p ∈ group, fecSeq u ≠ fecSeq p

section

variable {ssrc : UInt32} {group kept recv : List (List UInt8)} (h : FecGroup ssrc group)
  (hr : FecReceived group kept recv)
include h hr

/-- A packet of the group is present if it was kept. -/
theorem FecReceived.present {p : List UInt8} (hp : p ∈ group) :
    fecPresent recv (fecSeq p) = true ↔ p ∈ kept := by
  obtain ⟨unrelated, hperm, hother⟩ := hr.among
  unfold fecPresent
  rw [List.any_eq_true]
  simp only [Bool.and_eq_true, decide_eq_true_eq, beq_iff_eq]
  constructor
  · rintro ⟨q, hq, hlen, hseq⟩
    rcases List.mem_append.mp (hperm.mem_iff.mp hq) with hq | hq
    · have heq := List.inj_on_of_nodup_map h.distinct (hr.some.subset hq) hp hseq
      rwa [← heq]
    · rcases hother q hq with hshort | hother
      · exact absurd hlen (Nat.not_le.mpr hshort)
      · exact absurd hseq (hother p hp)
  · intro hkept
    exact ⟨p, hperm.mem_iff.mpr (List.mem_append_left _ hkept), (h.lengths p hp).1, rfl⟩

/-- The members among the packets received are those kept. -/
theorem FecReceived.members :
    (recv.filter (fecIsMember (fecSnBase group) (fecMask (fecSnBase group) group))).Perm kept := by
  obtain ⟨unrelated, hperm, hother⟩ := hr.among
  refine (hperm.filter _).trans ?_
  rw [List.filter_append]
  have hall : kept.filter (fecIsMember (fecSnBase group) (fecMask (fecSnBase group) group)) =
      kept := by
    rw [List.filter_eq_self]
    intro p hp
    have hp := hr.some.subset hp
    simp only [fecIsMember, Bool.and_eq_true, decide_eq_true_eq]
    exact ⟨⟨(h.lengths p hp).1, h.offset hp⟩, (h.bit (h.offset hp)).mpr ⟨p, hp, rfl⟩⟩
  have hnone : unrelated.filter
      (fecIsMember (fecSnBase group) (fecMask (fecSnBase group) group)) = [] := by
    rw [List.filter_eq_nil_iff]
    intro u hu hmember
    simp only [fecIsMember, Bool.and_eq_true, decide_eq_true_eq] at hmember
    obtain ⟨⟨hlen, hoff⟩, hbit⟩ := hmember
    obtain ⟨p, hp, heq⟩ := (h.bit hoff).mp hbit
    rcases hother u hu with hshort | hother
    · exact absurd hlen (Nat.not_le.mpr hshort)
    · exact hother p hp ((UInt16.sub_left_inj _).mp heq).symm
  rw [hall, hnone, List.append_nil]

/-- The one packet that is missing. -/
theorem FecReceived.missing_one {x : List UInt8} (hx : group.Perm (x :: kept)) :
    fecMissing (fecSnBase group) (fecMask (fecSnBase group) group) recv =
      [fecSeq x - fecSnBase group] := by
  have hmem : x ∈ group := hx.mem_iff.mpr List.mem_cons_self
  have hgone : x ∉ kept := by
    have hnodup : (x :: kept).Nodup := hx.nodup_iff.mp (h.distinct.of_map fecSeq)
    exact (List.nodup_cons.mp hnodup).1
  rw [← List.perm_singleton]
  refine (List.perm_ext_iff_of_nodup (fecMissing_nodup h recv) (List.nodup_singleton _)).mpr
    fun off => ?_
  rw [mem_fecMissing h, List.mem_singleton]
  constructor
  · rintro ⟨p, hp, rfl, habsent⟩
    rcases List.mem_cons.mp (hx.mem_iff.mp hp) with rfl | hkept
    · rfl
    · exact nomatch habsent.symm.trans ((hr.present h hp).mpr hkept)
  · rintro rfl
    refine ⟨x, hmem, rfl, ?_⟩
    rw [← Bool.not_eq_true, hr.present h hmem]
    exact hgone

/-- None or several packets are missing. -/
theorem FecReceived.missing_other (hcount : kept.length + 1 ≠ group.length) (off : UInt16) :
    fecMissing (fecSnBase group) (fecMask (fecSnBase group) group) recv ≠ [off] := by
  intro hone
  have hiff (o : UInt16) :
      o ∈ fecMissing (fecSnBase group) (fecMask (fecSnBase group) group) recv ↔
        ∃ p ∈ group, fecSeq p - fecSnBase group = o ∧ fecPresent recv (fecSeq p) = false :=
    mem_fecMissing h
  rw [hone] at hiff
  obtain ⟨x, hx, hoff, habsent⟩ := (hiff off).mp List.mem_cons_self
  -- every packet but that one was kept
  have hrest : group.Perm (x :: kept) := by
    have hnodup : group.Nodup := h.distinct.of_map fecSeq
    have hkept : kept.Nodup := by
      obtain ⟨kept', hperm, hsub⟩ := hr.some
      exact hperm.nodup_iff.mp (hsub.nodup hnodup)
    have hgone : x ∉ kept := by
      intro hcon
      exact nomatch habsent.symm.trans ((hr.present h hx).mpr hcon)
    refine (List.perm_ext_iff_of_nodup hnodup (List.nodup_cons.mpr ⟨hgone, hkept⟩)).mpr
      fun p => ⟨fun hp => ?_, fun hp => ?_⟩
    · by_cases hpk : p ∈ kept
      · exact List.mem_cons_of_mem x hpk
      · have hpoff : fecSeq p - fecSnBase group = off := by
          refine List.mem_singleton.mp ((hiff _).mpr ⟨p, hp, rfl, ?_⟩)
          rwa [← Bool.not_eq_true, hr.present h hp]
        have hseq : fecSeq p = fecSeq x := (UInt16.sub_left_inj _).mp (hpoff.trans hoff.symm)
        rw [List.inj_on_of_nodup_map h.distinct hp hx hseq]
        exact List.mem_cons_self
    · rcases List.mem_cons.mp hp with rfl | hp
      · exact hx
      · exact hr.some.subset hp
  exact hcount hrest.length_eq.symm

end

/-! ### Recovering -/

/-- The header of a packet, byte by byte. -/
theorem take_rtpHdr {x : List UInt8} (h : fecRtpHdr ≤ x.length) :
    x.take fecRtpHdr = [byteAt x 0, byteAt x 1] ++ u16be (fecSeq x) ++ u32be (readU32be x 4) ++
      u32be (readU32be x 8) := by
  have hhdr : fecRtpHdr = 12 := rfl
  unfold fecSeq
  rw [u16be_readU16be, u32be_readU32be, u32be_readU32be]
  refine List.ext_getElem ?_ fun k hk _ => ?_
  · rw [List.length_take, Nat.min_eq_left h]
    rfl
  · rw [List.length_take, Nat.min_eq_left h, hhdr] at hk
    rw [List.getElem_take]
    have hbyte : x[k] = byteAt x k := (List.getD_eq_getElem x 0 (by omega)).symm
    rw [hbyte]
    interval_cases k <;> rfl

/-- The flags of a packet of version 2. -/
theorem version_flags : ∀ b : UInt8, b >>> 6 = 2 → 0x80 ||| (0 ^^^ (b &&& 0x3F)) = b := by
  decide +kernel

/-- The packet that one collected packet stands for. -/
theorem take_collected {x : List UInt8} {protLen : Nat} (hlen : fecRtpHdr ≤ x.length)
    (hprot : x.length - fecRtpHdr ≤ protLen) (hversion : byteAt x 0 >>> 6 = 2) :
    ([0x80 ||| ((FecFields.zero protLen).collect x).flags,
        ((FecFields.zero protLen).collect x).type] ++ u16be (fecSeq x) ++
      u32be ((FecFields.zero protLen).collect x).ts ++ u32be (readU32be x 8) ++
      ((FecFields.zero protLen).collect x).payload).take x.length = x := by
  have hhdr : fecRtpHdr = 12 := rfl
  have hfields : [0x80 ||| ((FecFields.zero protLen).collect x).flags,
        ((FecFields.zero protLen).collect x).type] ++ u16be (fecSeq x) ++
      u32be ((FecFields.zero protLen).collect x).ts ++ u32be (readU32be x 8) =
      x.take fecRtpHdr := by
    rw [take_rtpHdr hlen]
    show [0x80 ||| (0 ^^^ (byteAt x 0 &&& 0x3F)), 0 ^^^ byteAt x 1] ++ _ ++
      u32be (0 ^^^ readU32be x 4) ++ _ = _
    rw [version_flags _ hversion, UInt8.zero_xor, UInt32.zero_xor]
  rw [hfields]
  have htake : (x.take fecRtpHdr).length = fecRtpHdr := List.length_take_of_le hlen
  rw [List.take_append, htake, List.take_of_length_le (by omega)]
  conv_rhs => rw [← List.take_append_drop fecRtpHdr x]
  congr 1
  have hpayload : ((FecFields.zero protLen).collect x).payload.length = protLen :=
    List.length_mapIdx.trans List.length_replicate
  refine List.ext_getElem ?_ fun k hk _ => ?_
  · rw [List.length_take, hpayload, List.length_drop, Nat.min_eq_left hprot]
  · rw [List.getElem_take, List.getElem_drop]
    simp only [FecFields.collect, FecFields.zero, List.getElem_mapIdx, List.getElem_replicate,
      UInt8.zero_xor]
    have hlast : fecRtpHdr + k < x.length := by
      rw [List.length_take] at hk
      omega
    exact List.getD_eq_getElem x 0 hlast

section

variable {ssrc : UInt32} {group kept recv : List (List UInt8)} (h : FecGroup ssrc group)
include h

/-- The fields of the parity packet. -/
theorem fecPacket_fields : (fecPacket group).length = fecOverhead + fecProtLen group ∧
    readU16be (fecPacket group) 2 = fecSnBase group ∧
    (readU16be (fecPacket group) 10).toNat = fecProtLen group ∧
    readU16be (fecPacket group) 12 = fecMask (fecSnBase group) group ∧
    (⟨byteAt (fecPacket group) 0 &&& 0x3F, byteAt (fecPacket group) 1,
      readU32be (fecPacket group) 4, readU16be (fecPacket group) 8,
      ((fecPacket group).drop fecOverhead).take (fecProtLen group)⟩ : FecFields) =
      group.foldl FecFields.collect (.zero (fecProtLen group)) := by
  obtain ⟨hlen, hflags⟩ := foldl_collect_keeps group (.zero (fecProtLen group))
  have hflags := hflags (UInt8.zero_and)
  have hlen : (group.foldl FecFields.collect (.zero (fecProtLen group))).payload.length =
      fecProtLen group := hlen.trans List.length_replicate
  revert hlen hflags
  unfold fecPacket
  dsimp only
  generalize group.foldl FecFields.collect (.zero (fecProtLen group)) = sum
  obtain ⟨flags, type, ts, len, payload⟩ := sum
  intro hflags hlen
  have hprot : (UInt16.ofNat (fecProtLen group)).toNat = fecProtLen group := by
    rw [UInt16.toNat_ofNat', Nat.mod_eq_of_lt h.protLen]
  refine ⟨?_, readU16be_append_u16be (p := [flags, type]) rfl _ _, ?_,
    readU16be_append_u16be (p := [flags, type] ++ u16be (fecSnBase group) ++ u32be ts ++ u16be len ++
      u16be (UInt16.ofNat (fecProtLen group))) rfl _ _, ?_⟩
  · rw [List.length_append, hlen]
    rfl
  · exact (congrArg UInt16.toNat (readU16be_append_u16be (p := [flags, type] ++
      u16be (fecSnBase group) ++ u32be ts ++ u16be len) rfl _ _)).trans hprot
  · simp only [FecFields.mk.injEq]
    refine ⟨hflags, rfl,
      readU32be_append_u32be (p := [flags, type] ++ u16be (fecSnBase group)) rfl _ _,
      readU16be_append_u16be (p := [flags, type] ++ u16be (fecSnBase group) ++ u32be ts) rfl _ _, ?_⟩
    show payload.take (fecProtLen group) = payload
    rw [← hlen, List.take_length]

/-- The packet that is missing comes back. -/
theorem fecRecover_one (hr : FecReceived group kept recv) {x out : List UInt8}
    (hx : group.Perm (x :: kept)) (hout : ∀ p ∈ group, p.length ≤ out.length) :
    (fecRecover (fecPacket group) ssrc recv out).2 = .ok (x.length, fecSeq x) ∧
      (fecRecover (fecPacket group) ssrc recv out).1.take x.length = x := by
  have hmem : x ∈ group := hx.mem_iff.mpr List.mem_cons_self
  have hlen := h.lengths x hmem
  have hprot := le_fecProtLen hmem
  have hhdr : fecRtpHdr = 12 := rfl
  obtain ⟨htotal, hbase, hprotLen, hmask, hseed⟩ := fecPacket_fields h
  have hroom : ¬ out.length < fecRtpHdr + fecProtLen group := by
    have hle : fecProtLen group ≤ out.length - 12 := fecProtLen_le fun p hp => by
      have := hout p hp
      omega
    have := hout x hmem
    omega
  have hsum : (recv.filter (fecIsMember (fecSnBase group) (fecMask (fecSnBase group) group))).foldl
      FecFields.collect (group.foldl FecFields.collect (.zero (fecProtLen group))) =
      (FecFields.zero (fecProtLen group)).collect x := by
    rw [foldl_perm FecFields.collect_comm (hr.members h)]
    exact foldl_missing FecFields.collect_comm FecFields.collect_twice hx _
  have hseq : fecSnBase group + (fecSeq x - fecSnBase group) = fecSeq x := by
    rw [UInt16.add_comm, UInt16.sub_add_cancel]
  unfold fecRecover
  rw [if_neg (by omega)]
  dsimp only
  rw [hbase, hprotLen, hmask, if_neg (by omega), hr.missing_one h hx]
  dsimp only
  rw [if_neg hroom, hseed, hsum, hseq]
  constructor
  · have hrlen : ((FecFields.zero (fecProtLen group)).collect x).len.toNat =
        x.length - fecRtpHdr := by
      show (0 ^^^ UInt16.ofNat (x.length - fecRtpHdr)).toNat = _
      rw [UInt16.zero_xor, UInt16.toNat_ofNat', Nat.mod_eq_of_lt (by omega)]
    rw [hrlen, Nat.min_eq_left hprot, Nat.add_sub_cancel' hlen.1]
  · have htake := take_collected hlen.1 hprot (h.version x hmem)
    rw [h.source x hmem] at htake
    show (List.take 0 out ++ _ ++ List.drop _ out).take x.length = x
    rw [List.take_zero, List.nil_append, List.take_append_of_le_length]
    · exact htake
    · have hpayload : ((FecFields.zero (fecProtLen group)).collect x).payload.length =
          fecProtLen group := List.length_mapIdx.trans List.length_replicate
      rw [List.length_append, hpayload]
      show x.length ≤ 12 + fecProtLen group
      omega

/-- None or several packets are missing: nothing is written. -/
theorem fecRecover_other (hr : FecReceived group kept recv)
    (hcount : kept.length + 1 ≠ group.length) (out : List UInt8) :
    fecRecover (fecPacket group) ssrc recv out = (out, .error .noData) := by
  obtain ⟨htotal, hbase, hprotLen, hmask, -⟩ := fecPacket_fields h
  have hother := hr.missing_other h hcount
  unfold fecRecover
  rw [if_neg (by omega)]
  dsimp only
  rw [hbase, hprotLen, hmask, if_neg (by omega)]
  split
  · rename_i off hone
    exact absurd hone (hother off)
  · rfl

/-- **FEC recovers exactly**: a group is encoded, its parity and all of its packets but one, in any
order and among others, give that one back with its length, and with none or several missing
nothing is written. -/
theorem fec_exact {cap : Nat} (hcap : ∀ p ∈ group, p.length + 2 ≤ cap) :
    ∃ fec, fecEncode group cap = .ok fec ∧
      ∀ kept recv out, FecReceived group kept recv →
        (∀ x, group.Perm (x :: kept) → (∀ p ∈ group, p.length ≤ out.length) →
          (fecRecover fec ssrc recv out).2 = .ok (x.length, fecSeq x) ∧
            (fecRecover fec ssrc recv out).1.take x.length = x) ∧
        (kept.length + 1 ≠ group.length →
          ∃ rc, fecRecover fec ssrc recv out = (out, .error rc)) :=
  ⟨fecPacket group, fecEncode_group h hcap, fun _ _ out hr =>
    ⟨fun _ hx hout => fecRecover_one h hr hx hout,
      fun hcount => ⟨.noData, fecRecover_other h hr hcount out⟩⟩⟩

end

/-- Two packets of one source on both sides of the wrap of the sequence numbers. -/
def demoFecGroup : List (List UInt8) :=
  [[0x80, 0x60, 0xFF, 0xFF, 0, 0, 0, 1, 1, 2, 3, 4, 0xAA, 0xBB],
    [0x80, 0xE0, 0, 0, 0, 0, 0, 1, 1, 2, 3, 4, 0xCC]]

theorem demoFecGroup_group : FecGroup 0x01020304 demoFecGroup where
  size := by decide
  lengths := by decide
  version := by decide
  source := by decide
  distinct := by decide
  window := ⟨0xFFFF, by decide⟩

theorem fec_exact_demo : ∃ fec, fecEncode demoFecGroup 64 = .ok fec ∧
    ∀ kept recv out, FecReceived demoFecGroup kept recv →
      (∀ x, demoFecGroup.Perm (x :: kept) → (∀ p ∈ demoFecGroup, p.length ≤ out.length) →
        (fecRecover fec 0x01020304 recv out).2 = .ok (x.length, fecSeq x) ∧
          (fecRecover fec 0x01020304 recv out).1.take x.length = x) ∧
      (kept.length + 1 ≠ demoFecGroup.length →
        ∃ rc, fecRecover fec 0x01020304 recv out = (out, .error rc)) :=
  fec_exact demoFecGroup_group (by decide)

end Nanortc.Spec
