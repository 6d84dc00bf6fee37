import Mathlib
import Nanortc.Native.Nack
import Nanortc.Spec.CompoundRtcp
import Nanortc.Spec.SrtpIndex

/-!
# What a loss report names

On a gap between two packets the receiver reports the first missing numbers as one PID and the bits
of one BLP. The handler on the other side reads the same numbers out of them.

## Key results

- `nackBuild_named`: the numbers named by the PID and BLP that are built
- `rtcpMember_nack`: what the handler does with a report
- `nack_reports`: what the sender sends again in a run
-/

namespace Nanortc.Spec

open Nanortc.ForStd Nanortc.Native

/-! ### Bits of BLP -/

theorem toNat_bit {bit : Nat} (hbit : bit < 16) :
    ((1 : UInt16) <<< UInt16.ofNat bit).toNat = 2 ^ bit := by
  rw [UInt16.toNat_shiftLeft, UInt16.toNat_ofNat', Nat.mod_eq_of_lt (a := bit) (by omega),
    Nat.mod_eq_of_lt (a := bit) (by omega)]
  show 1 <<< bit % 2 ^ 16 = 2 ^ bit
  rw [Nat.one_shiftLeft, Nat.mod_eq_of_lt (Nat.pow_lt_pow_right (by decide) hbit)]

/-- A bit of BLP. -/
theorem blp_bit (blp : UInt16) {bit : Nat} (hbit : bit < 16) :
    blp &&& (1 : UInt16) <<< UInt16.ofNat bit ≠ 0 ↔ blp.toNat.testBit bit = true := by
  have hnat := toNat_bit hbit
  have hzero : blp &&& (1 : UInt16) <<< UInt16.ofNat bit = 0 ↔
      blp.toNat &&& 2 ^ bit = 0 := by
    rw [← UInt16.toNat_inj, UInt16.toNat_and, hnat]
    rfl
  rw [Ne, hzero, Nat.and_two_pow]
  cases blp.toNat.testBit bit with
  | false => exact iff_of_false (fun h => h (Nat.zero_mul _)) nofun
  | true =>
    rw [Bool.toNat_true, Nat.one_mul]
    exact iff_of_true (Nat.two_pow_pos bit).ne' rfl

/-- The numbers named, by the bits of BLP. -/
theorem nackLost_eq (pid blp : UInt16) :
    nackLost pid blp = pid :: ((List.range 16).filter blp.toNat.testBit).map
      fun bit => pid + 1 + UInt16.ofNat bit := by
  unfold nackLost
  congr 2
  refine List.filter_congr fun bit hbit => ?_
  rw [Bool.eq_iff_iff, decide_eq_true_eq]
  exact blp_bit blp (List.mem_range.mp hbit)

/-- One bit more after those that are set. -/
theorem filter_range_or {n b : Nat} (hb : b < n) {p : Nat → Bool}
    (hp : ∀ i, b ≤ i → i < n → p i = false) :
    (List.range n).filter (fun i => p i || i == b) = (List.range n).filter p ++ [b] := by
  induction n with
  | zero => omega
  | succ n ih =>
    rw [List.range_succ, List.filter_append, List.filter_append]
    have hlast := hp n (Nat.le_of_lt_succ hb) (Nat.lt_succ_self n)
    rcases Nat.lt_or_eq_of_le (Nat.le_of_lt_succ hb) with hlt | rfl
    · rw [ih hlt fun i hi hn => hp i hi (Nat.lt_succ_of_lt hn)]
      have hne : (n == b) = false := beq_false_of_ne (Nat.ne_of_gt hlt)
      simp only [List.filter_cons, hlast, hne, Bool.or_self, Bool.false_eq_true, if_false,
        List.filter_nil, List.append_nil]
    · have hrest : (List.range b).filter (fun i => p i || i == b) = (List.range b).filter p := by
        refine List.filter_congr fun i hi => ?_
        rw [beq_false_of_ne (Nat.ne_of_lt (List.mem_range.mp hi)), Bool.or_false]
      rw [hrest]
      simp only [List.filter_cons, hlast, beq_self_eq_true, Bool.or_true, if_true, Bool.false_eq_true,
        if_false, List.filter_nil, List.append_nil]

/-- **Naming one number more**, behind those that are named. -/
theorem nackLost_or (pid blp : UInt16) {b : Nat} (hb : b < 16)
    (hclear : ∀ i, b ≤ i → i < 16 → blp.toNat.testBit i = false) :
    nackLost pid (blp ||| (1 : UInt16) <<< UInt16.ofNat b) =
      nackLost pid blp ++ [pid + 1 + UInt16.ofNat b] := by
  have hbits (i : Nat) : (blp ||| (1 : UInt16) <<< UInt16.ofNat b).toNat.testBit i =
      (blp.toNat.testBit i || i == b) := by
    rw [UInt16.toNat_or, Nat.testBit_or, toNat_bit hb, Nat.testBit_two_pow]
    congr 1
    rw [Bool.eq_iff_iff, decide_eq_true_eq, beq_iff_eq]
    exact eq_comm
  rw [nackLost_eq, nackLost_eq, List.filter_congr fun i _ => hbits i, filter_range_or hb hclear,
    List.map_append, List.cons_append]
  rfl

theorem nackLost_zero (pid : UInt16) : nackLost pid 0 = [pid] := by
  rw [nackLost_eq]
  have hnone : (List.range 16).filter (0 : UInt16).toNat.testBit = [] := by decide
  rw [hnone]
  rfl

/-! ### The report that is built -/

/-- The numbers that a report asks for. -/
def nackNamed (nack : Option (UInt16 × UInt16)) : List UInt16 :=
  nack.elim [] fun (pid, blp) => nackLost pid blp

/-- The bits of BLP are set up to the number that was looked at last. -/
def NackBelow (first : UInt16) (k : Nat) : Option (UInt16 × UInt16) → Prop
  | none => True
  | some (pid, blp) => ∃ j, j < k ∧ pid = first + UInt16.ofNat j ∧
    ∀ i, k ≤ j + 1 + i → i < 16 → blp.toNat.testBit i = false

/-- One number more is named unless parity is there for it. -/
theorem nackAdd_named (fec : FecRx) {first : UInt16} {k : Nat} {nack : Option (UInt16 × UInt16)}
    (h : NackBelow first k nack) (hk : k < 17) :
    NackBelow first (k + 1) (nackAdd fec nack (first + UInt16.ofNat k)) ∧
      nackNamed (nackAdd fec nack (first + UInt16.ofNat k)) = nackNamed nack ++
        if rtcFecProtects fec (first + UInt16.ofNat k) then [] else [first + UInt16.ofNat k] := by
  unfold nackAdd
  cases rtcFecProtects fec (first + UInt16.ofNat k) with
  | true =>
    rw [if_pos rfl, if_pos rfl, List.append_nil]
    refine ⟨?_, rfl⟩
    cases nack with
    | none => trivial
    | some n =>
      obtain ⟨j, hj, hpid, hclear⟩ := h
      exact ⟨j, Nat.lt_succ_of_lt hj, hpid, fun i hi => hclear i (Nat.le_of_succ_le hi)⟩
  | false =>
    rw [if_neg nofun, if_neg nofun]
    cases nack with
    | none =>
      refine ⟨⟨k, Nat.lt_succ_self k, rfl, fun i _ _ => Nat.zero_testBit i⟩, ?_⟩
      exact nackLost_zero _
    | some n =>
      obtain ⟨pid, blp⟩ := n
      obtain ⟨j, hj, hpid, hclear⟩ := h
      have hbit : first + UInt16.ofNat k - pid - 1 = UInt16.ofNat (k - j - 1) := by
        have hsplit : UInt16.ofNat k = UInt16.ofNat j + (UInt16.ofNat (k - j - 1) + 1) := by
          rw [show k = j + (k - j - 1 + 1) by omega, UInt16.ofNat_add, UInt16.ofNat_add]
          congr 3
          omega
        rw [hpid, hsplit]
        grind
      have hlt : k - j - 1 < 16 := by omega
      have hsmall : UInt16.ofNat (k - j - 1) < 16 := by
        rw [UInt16.lt_iff_toNat_lt, UInt16.toNat_ofNat', Nat.mod_eq_of_lt (by omega)]
        exact hlt
      dsimp only
      rw [hbit, if_pos hsmall]
      refine ⟨⟨j, Nat.lt_succ_of_lt hj, hpid, fun i hi hi' => ?_⟩, ?_⟩
      · rw [UInt16.toNat_or, Nat.testBit_or, toNat_bit hlt, hclear i (by omega) hi', Nat.testBit_two_pow]
        exact decide_eq_false (by omega)
      · show nackLost pid _ = nackLost pid blp ++ _
        rw [nackLost_or pid blp hlt fun i hi hi' => hclear i (by omega) hi', ← hbit]
        congr 2
        grind

/-- **The numbers that a report names** are the first 17 that are missing, but for those that the
parity waiting protects. -/
theorem nackBuild_named (fec : FecRx) (first : UInt16) (nLost : Nat) :
    nackNamed (nackBuild fec first nLost) =
      ((List.range (min nLost 17)).map fun k => first + UInt16.ofNat k).filter
        fun sn => !rtcFecProtects fec sn := by
  have hfold : ∀ n, n ≤ 17 →
      NackBelow first n (((List.range n).map fun k => first + UInt16.ofNat k).foldl (nackAdd fec) none) ∧
        nackNamed (((List.range n).map fun k => first + UInt16.ofNat k).foldl (nackAdd fec) none) =
          ((List.range n).map fun k => first + UInt16.ofNat k).filter
            fun sn => !rtcFecProtects fec sn := by
    intro n
    induction n with
    | zero => exact fun _ => ⟨trivial, rfl⟩
    | succ n ih =>
      intro hn
      obtain ⟨hbelow, hnamed⟩ := ih (by omega)
      rw [List.range_succ, List.map_append, List.foldl_append, List.filter_append, ← hnamed]
      obtain ⟨hbelow', hnamed'⟩ := nackAdd_named fec hbelow (by omega)
      refine ⟨hbelow', hnamed'.trans ?_⟩
      congr 1
      rw [List.map_singleton, List.filter_singleton]
      cases rtcFecProtects fec (first + UInt16.ofNat n) <;> rfl
  exact (hfold (min nLost 17) (Nat.min_le_right _ _)).2

/-! ### The report that is read -/

/-- What stands in a report. -/
theorem rtcpGenerateNack_read (ssrc mediaSsrc : UInt32) (pid blp : UInt16) :
    let sub := rtcpGenerateNack ssrc mediaSsrc pid blp
    sub.length = 16 ∧ byteAt sub 0 = 0x81 ∧ byteAt sub 1 = rtcpRtpfb ∧ rtcpPktSize sub = 16 ∧
      readU32be sub 8 = mediaSsrc ∧ readU16be sub 12 = pid ∧ readU16be sub 14 = blp := by
  refine ⟨rfl, rfl, rfl, ?_, ?_, ?_, ?_⟩
  · have hwords : readU16be (rtcpGenerateNack ssrc mediaSsrc pid blp) 2 = 3 :=
      readU16be_append_u16be (p := [0x80 ||| (1 &&& 0x1F), rtcpRtpfb]) rfl 3 _
    rw [rtcpPktSize, hwords]
    rfl
  · exact readU32be_append_u32be (p := rtcpHeader 1 rtcpRtpfb 3 ssrc) rfl mediaSsrc _
  · exact readU16be_append_u16be (p := rtcpHeader 1 rtcpRtpfb 3 ssrc ++ u32be mediaSsrc) rfl pid _
  · rw [← List.append_nil (rtcpGenerateNack ssrc mediaSsrc pid blp)]
    exact readU16be_append_u16be
      (p := rtcpHeader 1 rtcpRtpfb 3 ssrc ++ u32be mediaSsrc ++ u16be pid) rfl blp []

theorem rtcpGenerateNack_packet (ssrc mediaSsrc : UInt32) (pid blp : UInt16) :
    RtcpPacket (rtcpGenerateNack ssrc mediaSsrc pid blp) := by
  obtain ⟨hlen, h0, h1, hsize, -⟩ := rtcpGenerateNack_read ssrc mediaSsrc pid blp
  refine ⟨?_, ?_, hlen.trans hsize.symm⟩
  · rw [h0]
    decide
  · rw [h1]
    decide

/-- The handler sends again what the report names. -/
theorem rtcpMember_nack (rtc : FeedbackRtc) (ssrc mediaSsrc : UInt32) (pid blp : UInt16) :
    rtcpMember rtc (rtcpGenerateNack ssrc mediaSsrc pid blp) =
      rtc.withOut ((nackLost pid blp).foldl (nackRetransmit mediaSsrc) rtc.toNanoRtc) := by
  obtain ⟨hlen, h0, h1, hsize, hmedia, hpid, hblp⟩ := rtcpGenerateNack_read ssrc mediaSsrc pid blp
  generalize rtcpGenerateNack ssrc mediaSsrc pid blp = sub at *
  have hfmt : rtcpFmt sub = 1 := by rw [rtcpFmt, h0]; rfl
  have hparse : rtcpParse sub = .ok
      { type := rtcpRtpfb, ssrc := readU32be sub 4, nackMediaSsrc := mediaSsrc, nackPid := pid,
        nackBlp := blp } := by
    unfold rtcpParse
    rw [hlen, h0, hsize, h1, hfmt, hmedia, hpid, hblp]
    rfl
  unfold rtcpMember
  rw [hparse]
  dsimp only
  rw [if_neg (by decide), if_neg (by decide), if_neg (by decide), if_pos rfl]
  unfold rtcpOnRtpfb
  rw [hfmt, if_pos rfl]

/-! ### Runs -/

/-- A packet arrives: its position in the stream, and FEC as it is then. -/
structure VideoArrival where
  fec : FecRx
  pos : Nat

/-- The gap check with the reports so far. -/
def nackStep (s : NackRx × List (UInt16 × UInt16)) (a : VideoArrival) : NackRx × List (UInt16 × UInt16) :=
  ((nackOnSeq a.fec s.1 (seqOf a.pos)).1, s.2 ++ (nackOnSeq a.fec s.1 (seqOf a.pos)).2.toList)

/-- The highest position so far. -/
def nackHighest (high : Nat) (arrivals : List VideoArrival) : Nat :=
  arrivals.foldl (fun high a => max high a.pos) high

/-- The positions asked for when a packet leaves a gap behind the highest one. -/
def nackGap (high : Nat) (a : VideoArrival) : List Nat :=
  ((List.range (min (a.pos - high - 1) 17)).map fun k => high + 1 + k).filter
    fun q => !rtcFecProtects a.fec (seqOf q)

/-- The positions asked for in a run. -/
def nackAsked (high : Nat) : List VideoArrival → List Nat
  | [] => []
  | a :: arrivals => nackGap high a ++ nackAsked (max high a.pos) arrivals

/-- Each packet is less than half the number space from the highest one. -/
def NackNear (high : Nat) : List VideoArrival → Prop
  | [] => True
  | a :: arrivals => (a.pos < high + 2 ^ 15 ∧ high ≤ a.pos + 2 ^ 15) ∧ NackNear (max high a.pos) arrivals

theorem mem_nackGap {high q : Nat} {a : VideoArrival} : q ∈ nackGap high a ↔
    high < q ∧ q < a.pos ∧ q ≤ high + 17 ∧ rtcFecProtects a.fec (seqOf q) = false := by
  unfold nackGap
  rw [List.mem_filter, Bool.not_eq_true', List.mem_map]
  constructor
  · rintro ⟨⟨k, hk, rfl⟩, hfec⟩
    have hk := List.mem_range.mp hk
    exact ⟨by omega, by omega, by omega, hfec⟩
  · rintro ⟨hlow, hhigh, hmax, hfec⟩
    exact ⟨⟨q - high - 1, List.mem_range.mpr (by omega), by omega⟩, hfec⟩

/-- One packet: what is asked for, by number. -/
theorem nackOnSeq_gap {high : Nat} {a : VideoArrival} (hnear : a.pos < high + 2 ^ 15)
    (hnear' : high ≤ a.pos + 2 ^ 15) :
    (nackOnSeq a.fec ⟨true, seqOf high⟩ (seqOf a.pos)).1 = ⟨true, seqOf (max high a.pos)⟩ ∧
      nackNamed (nackOnSeq a.fec ⟨true, seqOf high⟩ (seqOf a.pos)).2 =
        (nackGap high a).map seqOf := by
  have hadv : i16 (seqOf a.pos - seqOf high) = (a.pos : Int) - high :=
    i16_ofNat_sub_ofNat a.pos high (by omega) (by omega)
  unfold nackOnSeq
  rw [if_neg nofun]
  dsimp only
  rw [hadv]
  by_cases hgap : (a.pos : Int) - high > 1
  · rw [if_pos hgap]
    refine ⟨by rw [Nat.max_eq_right (by omega)], ?_⟩
    have hfirst (k : Nat) : seqOf high + 1 + UInt16.ofNat k = seqOf (high + 1 + k) := by
      unfold seqOf
      rw [UInt16.ofNat_add, UInt16.ofNat_add]
      rfl
    have hcount : ((a.pos : Int) - high - 1).toNat = a.pos - high - 1 := by omega
    rw [nackBuild_named, hcount]
    unfold nackGap
    rw [List.map_congr_left fun k _ => hfirst k, List.filter_map, List.filter_map, List.map_map]
    rfl
  · have hnone : nackGap high a = [] := by
      rw [List.eq_nil_iff_forall_not_mem]
      intro q hq
      have hq := mem_nackGap.mp hq
      omega
    rw [if_neg hgap, hnone]
    by_cases hnext : (a.pos : Int) - high > 0
    · rw [if_pos hnext, Nat.max_eq_right (by omega)]
      exact ⟨rfl, rfl⟩
    · rw [if_neg hnext, Nat.max_eq_left (by omega)]
      exact ⟨rfl, rfl⟩

/-- The gap check over a run. -/
theorem nack_state {high : Nat} {arrivals : List VideoArrival} (hnear : NackNear high arrivals)
    (reports : List (UInt16 × UInt16)) :
    (run nackStep (⟨true, seqOf high⟩, reports) arrivals).1 =
        ⟨true, seqOf (nackHighest high arrivals)⟩ ∧
      (run nackStep (⟨true, seqOf high⟩, reports) arrivals).2.flatMap (fun (pid, blp) => nackLost pid blp) =
        reports.flatMap (fun (pid, blp) => nackLost pid blp) ++ (nackAsked high arrivals).map seqOf := by
  induction arrivals generalizing high reports with
  | nil => exact ⟨rfl, (List.append_nil _).symm⟩
  | cons a arrivals ih =>
    obtain ⟨hstate, hnamed⟩ := nackOnSeq_gap hnear.1.1 hnear.1.2
    have hnamed' (nack : Option (UInt16 × UInt16)) :
        nack.toList.flatMap (fun (pid, blp) => nackLost pid blp) = nackNamed nack := by
      cases nack with
      | none => rfl
      | some n => exact List.append_nil _
    rw [run_cons]
    unfold nackStep
    dsimp only
    rw [hstate]
    obtain ⟨hrun, hrest⟩ := ih hnear.2 (reports ++
      (nackOnSeq a.fec ⟨true, seqOf high⟩ (seqOf a.pos)).2.toList)
    refine ⟨hrun, hrest.trans ?_⟩
    rw [List.flatMap_append, hnamed', hnamed, List.append_assoc, ← List.map_append]
    rfl

/-- The positions asked for in a run are those of its gaps. -/
theorem mem_nackAsked {high q : Nat} {arrivals : List VideoArrival} : q ∈ nackAsked high arrivals ↔
    ∃ before a after, arrivals = before ++ a :: after ∧ q ∈ nackGap (nackHighest high before) a := by
  induction arrivals generalizing high with
  | nil =>
    refine iff_of_false List.not_mem_nil ?_
    rintro ⟨before, a, after, h, -⟩
    exact List.append_ne_nil_of_right_ne_nil before (List.cons_ne_nil a after) h.symm
  | cons a arrivals ih =>
    unfold nackAsked
    rw [List.mem_append, ih]
    constructor
    · rintro (hq | ⟨before, b, after, rfl, hq⟩)
      · exact ⟨[], a, arrivals, rfl, hq⟩
      · exact ⟨a :: before, b, after, rfl, hq⟩
    · rintro ⟨before, b, after, h, hq⟩
      cases before with
      | nil =>
        obtain ⟨rfl, -⟩ := List.cons.inj h
        exact .inl hq
      | cons c before =>
        obtain ⟨rfl, rfl⟩ := List.cons.inj h
        exact .inr ⟨before, b, after, rfl, hq⟩

/-- No position is asked for twice, and none that is not above all that were seen. -/
theorem nackAsked_pairwise (high : Nat) (arrivals : List VideoArrival) :
    (nackAsked high arrivals).Pairwise (· < ·) ∧ ∀ q ∈ nackAsked high arrivals, high < q := by
  induction arrivals generalizing high with
  | nil => exact ⟨List.Pairwise.nil, List.forall_mem_nil _⟩
  | cons a arrivals ih =>
    obtain ⟨hrest, hlow⟩ := ih (max high a.pos)
    unfold nackAsked
    refine ⟨List.pairwise_append.mpr ⟨?_, hrest, fun q hq r hr => ?_⟩, fun q hq => ?_⟩
    · refine List.Pairwise.filter _ (List.pairwise_map.mpr ?_)
      exact List.pairwise_lt_range.imp fun h => by omega
    · have hq := mem_nackGap.mp hq
      have hr := hlow r hr
      omega
    · rcases List.mem_append.mp hq with hq | hq
      · exact (mem_nackGap.mp hq).1
      · exact (Nat.le_max_left high a.pos).trans_lt (hlow q hq)

/-- The datagrams of reports are handled as their reports. -/
theorem handle_reports (crypto : CryptoProvider)
    (rtp : FeedbackRtc → List UInt8 → FeedbackRtc × Rc) (ssrc mediaSsrc : UInt32)
    {reports : List (UInt16 × UInt16)} {ds : List (List UInt8)} {sender : FeedbackRtc}
    (h : List.Forall₂ (CarriesRtcp crypto sender.srtp) ds
      (reports.map fun (pid, blp) => rtcpGenerateNack ssrc mediaSsrc pid blp)) :
    ds.foldl (fun s d => (nanoRtcMediaHandleRtpOrRtcp crypto rtp s d).1) sender =
      sender.withOut ((reports.flatMap fun (pid, blp) => nackLost pid blp).foldl
        (nackRetransmit mediaSsrc) sender.toNanoRtc) := by
  rw [handle_each crypto rtp rfl h]
  clear h
  induction reports generalizing sender with
  | nil => rfl
  | cons r reports ih =>
    obtain ⟨pid, blp⟩ := r
    rw [List.map_cons, List.foldl_cons, List.flatMap_cons, List.foldl_append]
    have hone : rtcpCompound sender (rtcpGenerateNack ssrc mediaSsrc pid blp) =
        sender.withOut ((nackLost pid blp).foldl (nackRetransmit mediaSsrc) sender.toNanoRtc) := by
      have hheaded : Headed (rtcpGenerateNack ssrc mediaSsrc pid blp) := by
        show 8 ≤ 16
        decide
      unfold rtcpCompound
      rw [rtcpMembers_one (rtcpGenerateNack_packet ssrc mediaSsrc pid blp), if_pos hheaded]
      exact rtcpMember_nack sender ssrc mediaSsrc pid blp
    rw [hone, ih]
    rfl

/-- **The loss reports of a run.** Packets arrive in any order, each less than half the number space
from the highest so far. The reports, handled by the sender, make it send again the packets at the
positions asked for and no others: in each gap the first 17 positions that the parity waiting then
does not protect. The positions rise, so none is asked for twice, and each was above all that had
arrived. -/
theorem nack_reports (crypto : CryptoProvider)
    (rtp : FeedbackRtc → List UInt8 → FeedbackRtc × Rc) (first : VideoArrival) {arrivals : List VideoArrival}
    (hnear : NackNear first.pos arrivals) (ssrc mediaSsrc : UInt32) {ds : List (List UInt8)}
    {sender : FeedbackRtc}
    (hds : List.Forall₂ (CarriesRtcp crypto sender.srtp) ds
      ((run nackStep ({}, []) (first :: arrivals)).2.map
        fun (pid, blp) => rtcpGenerateNack ssrc mediaSsrc pid blp)) :
    ds.foldl (fun s d => (nanoRtcMediaHandleRtpOrRtcp crypto rtp s d).1) sender =
      sender.withOut (((nackAsked first.pos arrivals).map seqOf).foldl (nackRetransmit mediaSsrc)
        sender.toNanoRtc) ∧
    (nackAsked first.pos arrivals).Pairwise (· < ·) ∧
    ∀ q, q ∈ nackAsked first.pos arrivals ↔
      ∃ before a after, arrivals = before ++ a :: after ∧ nackHighest first.pos before < q ∧
        q < a.pos ∧ q ≤ nackHighest first.pos before + 17 ∧
        rtcFecProtects a.fec (seqOf q) = false := by
  have hinit : run nackStep ({}, []) (first :: arrivals) =
      run nackStep (⟨true, seqOf first.pos⟩, []) arrivals := rfl
  rw [hinit] at hds
  have hnamed := (nack_state hnear []).2
  refine ⟨?_, (nackAsked_pairwise first.pos arrivals).1, fun q => ?_⟩
  · rw [handle_reports crypto rtp ssrc mediaSsrc hds, hnamed]
    rfl
  · rw [mem_nackAsked]
    simp only [mem_nackGap]

/-- A packet that leaves a gap of two, the first of which is in the ring of the sender. -/
def demoGap : List VideoArrival := [⟨fecRxInit 8, 4⟩]

/-- The sender of the source 7 with its second packet in the ring. -/
def demoNackSender : FeedbackRtc :=
  { demoSender with
    srtp := { nanoSrtpInit maxSsrcMap false with ready := true }
    pktRing := demoSender.pktRing.set 0 ⟨[0x80, 96, 0, 2, 0, 0, 0, 0, 0, 0, 0, 7, 1], 2, 13⟩ }

/-- The report as it is sent. -/
def demoNackWire : List UInt8 :=
  match nanoSrtpProtectRtcp .checksum { nanoSrtpInit maxSsrcMap true with ready := true }
    (rtcpGenerateNack 9 7 2 1) with
  | (_, .ok wire) => wire.bytes
  | (_, .error _) => []

theorem nack_reports_demo :
    [demoNackWire].foldl (fun s d =>
        (nanoRtcMediaHandleRtpOrRtcp .checksum (fun rtc _ => (rtc, .ok)) s d).1) demoNackSender =
      demoNackSender.withOut ((nackRetransmit 7) (nackRetransmit 7 demoNackSender.toNanoRtc 2) 3) := by
  have hcarries : CarriesRtcp .checksum demoNackSender.srtp demoNackWire (rtcpGenerateNack 9 7 2 1) :=
    ⟨by decide +kernel, by decide +kernel, .inl ⟨0, by decide +kernel⟩⟩
  have hreports : (run nackStep ({}, []) (⟨fecRxInit 8, 1⟩ :: demoGap)).2 = [(2, 1)] := by
    decide +kernel
  have h := @nack_reports .checksum (fun rtc _ => (rtc, .ok)) ⟨fecRxInit 8, 1⟩
    demoGap ⟨⟨by decide, by decide⟩, trivial⟩ 9 7 [demoNackWire] demoNackSender (by
      rw [hreports]
      exact List.Forall₂.cons hcarries List.Forall₂.nil)
  have hasked : nackAsked 1 demoGap = [2, 3] := by decide +kernel
  rw [hasked] at h
  exact h.1

end Nanortc.Spec
