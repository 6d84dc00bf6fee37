import Mathlib
import Nanortc.ForStd.Recent
import Nanortc.ForStd.Run
import Nanortc.Native.FecReceive
import Nanortc.Spec.FecRecovery

/-!
# What the receiver keeps for recovery

The ring of received packets is indexed by a counter of eight bits that also says how much of the
ring is in use. Past 255 packets the counter starts again, and until it reaches the size of the
ring only the packets since then are seen.

## Key results

- `FecRxHolds.exposed`: the packets seen are the latest of those since the counter started
- `FecLoss.attempt`: one attempt recovers the lost packet once all others of its group are seen
- `injected_le`: a packet is recovered at most as often as parity for it was received
- `fecHistory`: the three along every run
-/

namespace Nanortc.Spec

open Nanortc.ForStd Nanortc.Native

/-- A packet of the video stream after decryption, with the remote source at the time. -/
inductive FecRxInput where
  | media (mediaSsrc nowMs : UInt32) (pkt : List UInt8)
  | parity (mediaSsrc nowMs : UInt32) (fecRtp : List UInt8)
deriving DecidableEq

/-- Reception of a packet, with a ring of `groupSize`. -/
def fecRxStep (groupSize : Nat) (s : FecRx) : FecRxInput → FecRx
  | .media mediaSsrc nowMs pkt => rtcFecBufferMedia groupSize mediaSsrc nowMs s pkt
  | .parity mediaSsrc nowMs fecRtp => rtcFecOnRecv groupSize mediaSsrc nowMs s fecRtp

/-- The packet enters the ring. -/
def FecAdmits (pkt : List UInt8) : Prop := fecRtpHdr ≤ pkt.length ∧ pkt.length ≤ mediaBufSize

instance (pkt : List UInt8) : Decidable (FecAdmits pkt) := inferInstanceAs (Decidable (_ ∧ _))

/-- The media packet of an input. -/
def FecRxInput.media? : FecRxInput → Option (List UInt8)
  | .media _ _ pkt => if FecAdmits pkt then some pkt else none
  | .parity _ _ _ => none

/-- The media packets received. -/
def fecMedia (is : List FecRxInput) : List (List UInt8) := is.filterMap FecRxInput.media?

/-- The parity packet protects the sequence number. -/
def fecCovers (sn : UInt16) (fecRtp : List UInt8) : Bool :=
  decide ((sn - readU16be fecRtp (fecRtpHdr + 2)).toNat < fecMaxGroup) &&
    decide (readU16be fecRtp (fecRtpHdr + 12) &&&
      fecMaskBit (sn - readU16be fecRtp (fecRtpHdr + 2)) ≠ 0)

/-- The input is parity that protects the sequence number. -/
def FecRxInput.covers (sn : UInt16) : FecRxInput → Bool
  | .media _ _ _ => false
  | .parity _ _ fecRtp => fecCovers sn fecRtp

theorem fecMedia_append (is js : List FecRxInput) :
    fecMedia (is ++ js) = fecMedia is ++ fecMedia js := List.filterMap_append

variable {groupSize : Nat}

/-! ### One attempt -/

/-- The output buffer keeps its size. -/
theorem fecRecover_length (fec : List UInt8) (ssrc : UInt32) (recv : List (List UInt8))
    (out : List UInt8) : (fecRecover fec ssrc recv out).1.length = out.length := by
  unfold fecRecover
  split
  · rfl
  · dsimp only
    split
    · rfl
    · rename_i htotal
      split
      · rename_i off _
        split
        · rfl
        · rename_i hroom
          refine length_writeAt _ _ _ ?_
          generalize hseed : (FecFields.mk _ _ _ _ _ : FecFields) = seed
          have hlen : seed.payload.length ≤ (readU16be fec 10).toNat := by
            rw [← hseed]
            exact List.length_take_le _ _
          have hsum := (foldl_collect_keeps (recv.filter (fecIsMember (readU16be fec 2)
            (readU16be fec 12))) seed).1
          simp only [List.length_append, List.length_cons, List.length_nil, length_u16be,
            length_u32be, hsum]
          have hhdr : fecRtpHdr = 12 := rfl
          omega
      · rfl

/-- The packet that comes out has the sequence number reported, which the parity protects. -/
theorem fecRecover_ok {fec : List UInt8} {ssrc : UInt32} {recv : List (List UInt8)}
    {out : List UInt8} {len : Nat} {sn : UInt16}
    (h : (fecRecover fec ssrc recv out).2 = .ok (len, sn)) :
    fecSeq ((fecRecover fec ssrc recv out).1.take len) = sn ∧
      (sn - readU16be fec 2).toNat < fecMaxGroup ∧
      readU16be fec 12 &&& fecMaskBit (sn - readU16be fec 2) ≠ 0 := by
  unfold fecRecover at h ⊢
  split at h
  · exact nomatch h
  rename_i hshort
  rw [if_neg hshort]
  dsimp only at h ⊢
  split at h
  · exact nomatch h
  rename_i htotal
  rw [if_neg htotal]
  split at h
  · rename_i off hone
    split at h
    · exact nomatch h
    rename_i hroom
    rw [if_neg hroom]
    injection h with h
    injection h with hlen hsn
    -- the offset is one of the mask
    have hoff : off ∈ fecMissing (readU16be fec 2) (readU16be fec 12) recv := by
      rw [hone]
      exact List.mem_cons_self
    unfold fecMissing at hoff
    rw [List.mem_filter, List.mem_map] at hoff
    obtain ⟨⟨i, hi, rfl⟩, hbit⟩ := hoff
    rw [Bool.and_eq_true, decide_eq_true_eq] at hbit
    have hback : sn - readU16be fec 2 = UInt16.ofNat i := by
      rw [← hsn, UInt16.add_comm, UInt16.add_sub_cancel]
    refine ⟨?_, ?_, ?_⟩
    · rw [← hlen, hsn, Nat.add_comm]
      exact readU16be_append_u16be (p := [_, _]) rfl sn _
    · rw [hback, UInt16.toNat_ofNat']
      exact Nat.lt_of_le_of_lt (Nat.mod_le _ _) (List.mem_range.mp hi)
    · rw [hback]
      exact hbit.1
  · exact nomatch h

/-- **What an attempt does**: it gives nothing, or hands over one packet that the parity protects. -/
theorem rtcFecTry_cases (groupSize : Nat) (ssrc nowMs : UInt32) (s : FecRx) (fecRtp : List UInt8) :
    let r := rtcFecTry groupSize ssrc nowMs s fecRtp
    r.1.med = s.med ∧ r.1.n = s.n ∧ r.1.pending = s.pending ∧ r.1.recov.length = s.recov.length ∧
      (r.2 = false ∧ r.1.injected = s.injected ∨
        r.2 = true ∧ ∃ p, r.1.injected = s.injected ++ [p] ∧ fecCovers (fecSeq p) fecRtp = true) := by
  have hlen := fecRecover_length (fecRtp.drop fecRtpHdr) ssrc (fecExposed groupSize s) s.recov
  have hok (len : Nat) (sn : UInt16) (h : (fecRecover (fecRtp.drop fecRtpHdr) ssrc
      (fecExposed groupSize s) s.recov).2 = .ok (len, sn)) := fecRecover_ok h
  unfold rtcFecTry
  dsimp only
  split
  · exact ⟨rfl, rfl, rfl, rfl, .inl ⟨rfl, rfl⟩⟩
  revert hlen hok
  generalize fecRecover (fecRtp.drop fecRtpHdr) ssrc (fecExposed groupSize s) s.recov = r
  obtain ⟨recov, rc | ⟨len, sn⟩⟩ := r
  · exact fun hlen _ => ⟨rfl, rfl, rfl, hlen, .inl ⟨rfl, rfl⟩⟩
  · intro hlen hok
    obtain ⟨hseq, hoff, hbit⟩ := hok len sn rfl
    dsimp only
    split
    · exact ⟨rfl, rfl, rfl, hlen, .inl ⟨rfl, rfl⟩⟩
    · refine ⟨rfl, rfl, rfl, hlen, .inr ⟨rfl, _, rfl, ?_⟩⟩
      rw [readU16be_drop] at hoff hbit
      rw [readU16be_drop] at hbit
      unfold fecCovers
      rw [hseq, Bool.and_eq_true, decide_eq_true_eq, decide_eq_true_eq]
      exact ⟨hoff, hbit⟩

/-! ### The ring -/

/-- The ring after the media packets `ms`: it holds the latest of those since the counter was last
zero. -/
structure FecRxHolds (groupSize : Nat) (s : FecRx) (ms : List (List UInt8)) : Prop where
  n : s.n.toNat = ms.length % 256
  ring : Recent groupSize s.med (ms.drop (ms.length - ms.length % 256))
  recov : s.recov.length = mediaBufSize

theorem fecRxHolds_init : FecRxHolds groupSize (fecRxInit groupSize) [] where
  n := rfl
  ring := Recent.nil List.length_replicate
  recov := List.length_replicate

/-- A ring that is not written holds the same. -/
theorem FecRxHolds.same {s s' : FecRx} {ms : List (List UInt8)} (h : FecRxHolds groupSize s ms)
    (hmed : s'.med = s.med) (hn : s'.n = s.n) (hrecov : s'.recov.length = s.recov.length) :
    FecRxHolds groupSize s' ms :=
  ⟨by rw [hn, h.n], by rw [hmed]; exact h.ring, hrecov.trans h.recov⟩

/-- The next packet: the counter may start again, and the ring with it. -/
theorem FecRxHolds.push {s : FecRx} {ms : List (List UInt8)} (h : FecRxHolds groupSize s ms)
    (hsize : 0 < groupSize) (pkt : List UInt8) :
    FecRxHolds groupSize { s with med := s.med.set (s.n.toNat % groupSize) pkt, n := s.n + 1 }
      (ms ++ [pkt]) := by
  have hlen : (ms ++ [pkt]).length = ms.length + 1 := List.length_append
  have hn : (s.n + 1).toNat = (ms.length + 1) % 256 := by
    rw [UInt8.toNat_add, h.n]
    show (ms.length % 256 + 1) % 256 = _
    omega
  refine ⟨by rw [hlen]; exact hn, ?_, h.recov⟩
  show Recent groupSize (s.med.set (s.n.toNat % groupSize) pkt) _
  rw [hlen]
  by_cases hwrap : ms.length % 256 = 255
  · have hzero : (ms.length + 1) % 256 = 0 := by omega
    rw [hzero, Nat.sub_zero, ← hlen, List.drop_length]
    exact Recent.nil (by rw [List.length_set, h.ring.length])
  · have hnext : ms.length + 1 - (ms.length + 1) % 256 = ms.length - ms.length % 256 := by omega
    have hcount : (ms.drop (ms.length - ms.length % 256)).length = ms.length % 256 := by
      rw [List.length_drop]
      omega
    have hpush := h.ring.push hsize pkt
    rw [hcount] at hpush
    rw [hnext, List.drop_append_of_le_length (Nat.sub_le _ _), h.n]
    exact hpush

/-- **The packets seen** are the latest of those since the counter started. -/
theorem FecRxHolds.exposed {s : FecRx} {ms : List (List UInt8)} (h : FecRxHolds groupSize s ms) :
    (fecExposed groupSize s).Perm (ms.rtake (min (ms.length % 256) groupSize)) := by
  have hperm := h.ring.perm
  have hcount : (ms.drop (ms.length - ms.length % 256)).length = ms.length % 256 := by
    rw [List.length_drop]
    omega
  rw [hcount, List.drop_drop] at hperm
  have htake : fecExposed groupSize s = s.med.take (min (ms.length % 256) groupSize) := by
    unfold fecExposed
    rw [h.n]
    split <;> congr 1 <;> omega
  have hdrop : ms.length - ms.length % 256 + (ms.length % 256 - groupSize) =
      ms.length - min (ms.length % 256) groupSize := by
    omega
  rw [hdrop] at hperm
  rw [htake]
  exact hperm

/-- They are the latest packets received unless the counter started less than a ring ago. -/
theorem FecRxHolds.exposed_iff {s : FecRx} {ms : List (List UInt8)} (h : FecRxHolds groupSize s ms) :
    (fecExposed groupSize s).Perm (ms.rtake groupSize) ↔
      ms.length < 256 ∨ groupSize ≤ ms.length % 256 := by
  have hperm := h.exposed
  constructor
  · intro hall
    have hlen := (hall.symm.trans hperm).length_eq
    unfold List.rtake at hlen
    rw [List.length_drop, List.length_drop] at hlen
    omega
  · intro hcond
    have hsame : ms.rtake (min (ms.length % 256) groupSize) = ms.rtake groupSize := by
      unfold List.rtake
      congr 1
      omega
    rwa [hsame] at hperm

/-! ### Reception -/

/-- What reception of media does to the ring and to what was recovered. -/
theorem rtcFecBufferMedia_cases (groupSize : Nat) (ssrc nowMs : UInt32) (s : FecRx) (pkt : List UInt8) :
    let s' := rtcFecBufferMedia groupSize ssrc nowMs s pkt
    ¬ FecAdmits pkt ∧ s' = s ∨
    FecAdmits pkt ∧
      let r : FecRx := { s with med := s.med.set (s.n.toNat % groupSize) pkt, n := s.n + 1 }
      (s.pending = [] ∧ s' = r ∨
        s.pending ≠ [] ∧ (rtcFecTry groupSize ssrc nowMs r s.pending).2 = true ∧
          s' = { (rtcFecTry groupSize ssrc nowMs r s.pending).1 with pending := [] } ∨
        s.pending ≠ [] ∧ (rtcFecTry groupSize ssrc nowMs r s.pending).2 = false ∧
          s' = (rtcFecTry groupSize ssrc nowMs r s.pending).1) := by
  unfold rtcFecBufferMedia FecAdmits
  by_cases hadmitted : fecRtpHdr ≤ pkt.length ∧ pkt.length ≤ mediaBufSize
  · rw [if_neg (by omega)]
    refine .inr ⟨hadmitted, ?_⟩
    dsimp only
    by_cases hpending : s.pending = []
    · rw [if_neg (not_not.mpr hpending)]
      exact .inl ⟨hpending, rfl⟩
    · rw [if_pos hpending]
      refine .inr ?_
      cases htry : rtcFecTry groupSize ssrc nowMs _ s.pending with
      | mk s1 done =>
        cases done with
        | true => exact .inl ⟨hpending, rfl, rfl⟩
        | false => exact .inr ⟨hpending, rfl, rfl⟩
  · rw [if_pos (by omega)]
    exact .inl ⟨hadmitted, rfl⟩

/-- What reception of parity does to the ring and to what was recovered. -/
theorem rtcFecOnRecv_cases (groupSize : Nat) (ssrc nowMs : UInt32) (s : FecRx) (fecRtp : List UInt8) :
    ∃ r : FecRx, r.med = s.med ∧ r.n = s.n ∧ r.recov = s.recov ∧ r.pending = s.pending ∧
      r.injected = s.injected ∧
      let s' := rtcFecOnRecv groupSize ssrc nowMs s fecRtp
      let t := rtcFecTry groupSize ssrc nowMs r fecRtp
      (t.2 = true ∧ s' = { t.1 with pending := [] } ∨
        t.2 = false ∧ (fecRtpHdr + fecOverhead ≤ fecRtp.length ∧ fecRtp.length ≤ fecBufSize) ∧
          s' = { t.1 with pending := fecRtp } ∨
        t.2 = false ∧ ¬ (fecRtpHdr + fecOverhead ≤ fecRtp.length ∧ fecRtp.length ≤ fecBufSize) ∧
          s' = t.1) := by
  refine ⟨if fecRtp.length ≥ fecRtpHdr + fecOverhead then
    { s with
      protBase := readU16be fecRtp (fecRtpHdr + 2)
      protMask := readU16be fecRtp (fecRtpHdr + 12)
      protValid := true } else s, ?_, ?_, ?_, ?_, ?_, ?_⟩
  iterate 5 split <;> rfl
  unfold rtcFecOnRecv
  dsimp only
  cases htry : rtcFecTry groupSize ssrc nowMs _ fecRtp with
  | mk s1 done =>
    cases done with
    | true => exact .inl ⟨rfl, rfl⟩
    | false =>
      refine .inr ?_
      dsimp only
      by_cases hfits : fecRtpHdr + fecOverhead ≤ fecRtp.length ∧ fecRtp.length ≤ fecBufSize
      · rw [if_pos hfits]
        exact .inl ⟨rfl, hfits, rfl⟩
      · rw [if_neg hfits]
        exact .inr ⟨rfl, hfits, rfl⟩

/-- A step keeps what the ring holds. -/
theorem FecRxHolds.step {s : FecRx} {ms : List (List UInt8)} (h : FecRxHolds groupSize s ms)
    (hsize : 0 < groupSize) (i : FecRxInput) :
    FecRxHolds groupSize (fecRxStep groupSize s i) (ms ++ i.media?.toList) := by
  cases i with
  | media ssrc nowMs pkt =>
    show FecRxHolds groupSize (rtcFecBufferMedia groupSize ssrc nowMs s pkt) _
    rcases rtcFecBufferMedia_cases groupSize ssrc nowMs s pkt with
      ⟨hrefused, hs⟩ | ⟨hadmitted, hs⟩
    · have hnone : (FecRxInput.media ssrc nowMs pkt).media? = none := if_neg hrefused
      rw [hs, hnone, Option.toList_none, List.append_nil]
      exact h
    · have hsome : (FecRxInput.media ssrc nowMs pkt).media? = some pkt := if_pos hadmitted
      rw [hsome, Option.toList_some]
      have hpush := h.push hsize pkt
      obtain ⟨hmed, hn, -, hrecov, -⟩ := rtcFecTry_cases groupSize ssrc nowMs
        { s with med := s.med.set (s.n.toNat % groupSize) pkt, n := s.n + 1 } s.pending
      rcases hs with ⟨-, hs⟩ | ⟨-, -, hs⟩ | ⟨-, -, hs⟩ <;> rw [hs]
      · exact hpush
      · exact hpush.same hmed hn hrecov
      · exact hpush.same hmed hn hrecov
  | parity ssrc nowMs fecRtp =>
    show FecRxHolds groupSize (rtcFecOnRecv groupSize ssrc nowMs s fecRtp) (ms ++ [])
    rw [List.append_nil]
    obtain ⟨r, hmed, hn, hrecov, -, -, hs⟩ :=
      rtcFecOnRecv_cases groupSize ssrc nowMs s fecRtp
    have hr : FecRxHolds groupSize r ms := h.same hmed hn (congrArg List.length hrecov)
    obtain ⟨hmed, hn, -, hrecov, -⟩ := rtcFecTry_cases groupSize ssrc nowMs r fecRtp
    rcases hs with ⟨-, hs⟩ | ⟨-, -, hs⟩ | ⟨-, -, hs⟩ <;> rw [hs]
    all_goals exact hr.same hmed hn hrecov

/-- The ring along a run. -/
theorem fecRxHolds_run (hsize : 0 < groupSize) (is : List FecRxInput) :
    FecRxHolds groupSize (run (fecRxStep groupSize) (fecRxInit groupSize) is) (fecMedia is) := by
  refine run_induction (P := fun is s => FecRxHolds groupSize s (fecMedia is)) fecRxHolds_init
    (fun is i ih => ?_) is
  have hstep := ih.step hsize i
  have hlast : fecMedia [i] = i.media?.toList := by
    unfold fecMedia
    rw [List.filterMap_cons]
    cases i.media? <;> rfl
  rwa [fecMedia_append, hlast]

/-! ### At most once -/

/-- The parity packet that waits protects the sequence number. -/
def fecWaiting (sn : UInt16) (s : FecRx) : Nat :=
  if s.pending ≠ [] ∧ fecCovers sn s.pending = true then 1 else 0

/-- The packets with the sequence number that were recovered. -/
def fecInjected (sn : UInt16) (s : FecRx) : Nat := s.injected.countP fun p => fecSeq p == sn

theorem fecInjected_snoc (sn : UInt16) {s s' : FecRx} {p fecRtp : List UInt8}
    (h : s'.injected = s.injected ++ [p]) (hcovers : fecCovers (fecSeq p) fecRtp = true) :
    fecInjected sn s' ≤ fecInjected sn s + if fecCovers sn fecRtp = true then 1 else 0 := by
  unfold fecInjected
  rw [h, List.countP_append, List.countP_singleton]
  by_cases heq : fecSeq p = sn
  · rw [← heq, if_pos hcovers]
    split <;> omega
  · rw [if_neg (by rwa [beq_iff_eq])]
    omega

theorem fecInjected_same {sn : UInt16} {s s' : FecRx} (h : s'.injected = s.injected) :
    fecInjected sn s' = fecInjected sn s := by
  unfold fecInjected
  rw [h]

/-- A parity packet gives a number back once: when it does, it no longer waits. -/
theorem fecInjected_step (groupSize : Nat) (sn : UInt16) (s : FecRx) (i : FecRxInput) :
    fecInjected sn (fecRxStep groupSize s i) + fecWaiting sn (fecRxStep groupSize s i) ≤
      fecInjected sn s + fecWaiting sn s + if i.covers sn = true then 1 else 0 := by
  cases i with
  | media ssrc nowMs pkt =>
    show fecInjected sn (rtcFecBufferMedia groupSize ssrc nowMs s pkt) +
      fecWaiting sn (rtcFecBufferMedia groupSize ssrc nowMs s pkt) ≤
      fecInjected sn s + fecWaiting sn s + 0
    rcases rtcFecBufferMedia_cases groupSize ssrc nowMs s pkt with
      ⟨-, hs⟩ | ⟨-, hs⟩
    · rw [hs]
      omega
    · obtain ⟨-, -, hpending, -, hinjected⟩ := rtcFecTry_cases groupSize ssrc nowMs
        { s with med := s.med.set (s.n.toNat % groupSize) pkt, n := s.n + 1 } s.pending
      rcases hs with ⟨-, hs⟩ | ⟨hne, hdone, hs⟩ | ⟨-, hdone, hs⟩ <;> rw [hs]
      · exact Nat.le_refl _
      · rcases hinjected with ⟨hfail, -⟩ | ⟨-, p, hp, hcovers⟩
        · exact nomatch hfail.symm.trans hdone
        · have hle := fecInjected_snoc sn (s := s) hp hcovers
          have hwait : fecWaiting sn s = if fecCovers sn s.pending = true then 1 else 0 := by
            unfold fecWaiting
            simp only [ne_eq, hne, not_false_eq_true, true_and]
          rw [hwait]
          exact hle
      · rcases hinjected with ⟨-, hsame⟩ | ⟨hok, -⟩
        · have hwait : fecWaiting sn (rtcFecTry groupSize ssrc nowMs
              { s with med := s.med.set (s.n.toNat % groupSize) pkt, n := s.n + 1 }
              s.pending).1 = fecWaiting sn s := by
            unfold fecWaiting
            rw [hpending]
          rw [fecInjected_same (s := s) hsame, hwait]
          exact Nat.le_refl _
        · exact nomatch hok.symm.trans hdone
  | parity ssrc nowMs fecRtp =>
    show fecInjected sn (rtcFecOnRecv groupSize ssrc nowMs s fecRtp) +
      fecWaiting sn (rtcFecOnRecv groupSize ssrc nowMs s fecRtp) ≤
      fecInjected sn s + fecWaiting sn s + if fecCovers sn fecRtp = true then 1 else 0
    obtain ⟨r, -, -, -, hpend, hinj, hs⟩ :=
      rtcFecOnRecv_cases groupSize ssrc nowMs s fecRtp
    obtain ⟨-, -, hpending, -, hinjected⟩ :=
      rtcFecTry_cases groupSize ssrc nowMs r fecRtp
    rcases hs with ⟨hdone, hs⟩ | ⟨hdone, hfits, hs⟩ | ⟨hdone, -, hs⟩ <;> rw [hs]
    · rcases hinjected with ⟨hfail, -⟩ | ⟨-, p, hp, hcovers⟩
      · exact nomatch hfail.symm.trans hdone
      · have hle := fecInjected_snoc sn (s := s) (hp.trans (by rw [hinj])) hcovers
        show fecInjected sn (rtcFecTry groupSize ssrc nowMs r fecRtp).1 + 0 ≤ _
        omega
    · rcases hinjected with ⟨-, hsame⟩ | ⟨hok, -⟩
      · have hne : fecRtp ≠ [] := by
          rintro rfl
          exact absurd hfits.1 (by decide)
        show fecInjected sn (rtcFecTry groupSize ssrc nowMs r fecRtp).1 +
          (if fecRtp ≠ [] ∧ fecCovers sn fecRtp = true then 1 else 0) ≤ _
        rw [fecInjected_same (s := s) (hsame.trans hinj)]
        simp only [ne_eq, hne, not_false_eq_true, true_and]
        omega
      · exact nomatch hok.symm.trans hdone
    · rcases hinjected with ⟨-, hsame⟩ | ⟨hok, -⟩
      · have hwait : fecWaiting sn (rtcFecTry groupSize ssrc nowMs r fecRtp).1 =
            fecWaiting sn s := by
          unfold fecWaiting
          rw [hpending, hpend]
        rw [fecInjected_same (s := s) (hsame.trans hinj), hwait]
        omega
      · exact nomatch hok.symm.trans hdone

/-- **A packet is recovered at most as often as parity for it was received.** -/
theorem injected_le (sn : UInt16) (is : List FecRxInput) :
    fecInjected sn (run (fecRxStep groupSize) (fecRxInit groupSize) is) ≤
      is.countP (FecRxInput.covers sn) := by
  suffices hbound : fecInjected sn (run (fecRxStep groupSize) (fecRxInit groupSize) is) +
      fecWaiting sn (run (fecRxStep groupSize) (fecRxInit groupSize) is) ≤
      is.countP (FecRxInput.covers sn) by omega
  refine run_induction
    (P := fun is s => fecInjected sn s + fecWaiting sn s ≤ is.countP (FecRxInput.covers sn))
    ?_ (fun is i ih => ?_) is
  · exact Nat.le_refl 0
  · have hstep := fecInjected_step groupSize sn
      (run (fecRxStep groupSize) (fecRxInit groupSize) is) i
    rw [List.countP_append, List.countP_singleton]
    omega

/-! ### A single loss -/

/-- One packet of a protected group is lost: among the packets `seen` the others come at most once
each, and no packet that is not of the group has a sequence number of it. -/
structure FecLoss (ssrc : UInt32) (group : List (List UInt8)) (x fecRtp : List UInt8)
    (seen : List (List UInt8)) : Prop where
  admitted : FecGroup ssrc group
  lost : x ∈ group ∧ x ∉ seen
  sizes : ∀ p ∈ group, p.length ≤ mediaBufSize
  unpacks : ∃ u, rtpUnpack x = .ok u
  parity : fecRtp.drop fecRtpHdr = fecPacket group
  among : ∀ p ∈ seen, p ∈ group ∨ ∀ q ∈ group, fecSeq p ≠ fecSeq q
  once : (seen.filter (· ∈ group)).Nodup

/-- Every other packet of the group is there. -/
def OthersIn (group : List (List UInt8)) (x : List UInt8) (seen : List (List UInt8)) : Prop :=
  ∀ p ∈ group, p ≠ x → p ∈ seen

section

variable {ssrc : UInt32} {group seen recv : List (List UInt8)} {x fecRtp : List UInt8}
  (h : FecLoss ssrc group x fecRtp seen)
include h

/-- Fewer packets were seen. -/
theorem FecLoss.sub (hsub : recv.Subperm seen) : FecLoss ssrc group x fecRtp recv :=
  { h with
    lost := ⟨h.lost.1, fun hcon => h.lost.2 (hsub.subset hcon)⟩
    among := fun p hp => h.among p (hsub.subset hp)
    once := by
      obtain ⟨l, hperm, hl⟩ := hsub
      exact (hperm.filter _).nodup_iff.mp ((hl.filter _).nodup h.once) }

theorem FecLoss.received : FecReceived group (seen.filter (· ∈ group)) seen where
  some := h.once.subperm fun p hp => by simpa using (List.mem_filter.mp hp).2
  among := by
    refine ⟨seen.filter (fun p => !decide (p ∈ group)),
      (List.filter_append_perm (· ∈ group) seen).symm, fun u hu => .inr ?_⟩
    obtain ⟨hu, hout⟩ := List.mem_filter.mp hu
    have hout : u ∉ group := by simpa using hout
    exact (h.among u hu).resolve_left hout

/-- The packets kept are those of the group but the lost one, if all of these are there. -/
theorem FecLoss.perm_iff :
    group.Perm (x :: seen.filter (· ∈ group)) ↔ OthersIn group x seen := by
  have hnodup : group.Nodup := h.admitted.distinct.of_map fecSeq
  have hgone : x ∉ seen.filter (· ∈ group) := fun hcon => h.lost.2 (List.mem_of_mem_filter hcon)
  constructor
  · intro hperm p hp hne
    have hmem := hperm.mem_iff.mp hp
    rw [List.mem_cons] at hmem
    exact List.mem_of_mem_filter (hmem.resolve_left hne)
  · intro hall
    refine (List.perm_ext_iff_of_nodup hnodup (List.nodup_cons.mpr ⟨hgone, h.once⟩)).mpr fun p => ?_
    rw [List.mem_cons, List.mem_filter, decide_eq_true_eq]
    constructor
    · intro hp
      by_cases heq : p = x
      · exact .inl heq
      · exact .inr ⟨hall p hp heq, hp⟩
    · rintro (rfl | ⟨-, hp⟩)
      · exact h.lost.1
      · exact hp

/-- Unless all others are there, another is missing too. -/
theorem FecLoss.count (hnot : ¬ OthersIn group x seen) :
    (seen.filter (· ∈ group)).length + 1 ≠ group.length := by
  intro hcount
  refine hnot (h.perm_iff.mp ?_)
  have hgone : x ∉ seen.filter (· ∈ group) := fun hcon => h.lost.2 (List.mem_of_mem_filter hcon)
  have hsub : (x :: seen.filter (· ∈ group)).Subperm group := by
    refine (List.nodup_cons.mpr ⟨hgone, h.once⟩).subperm fun p hp => ?_
    rcases List.mem_cons.mp hp with rfl | hp
    · exact h.lost.1
    · exact h.received.some.subset hp
  exact (hsub.perm_of_length_le (by rw [List.length_cons, hcount])).symm

/-- **One attempt** hands over the lost packet if all others are seen, and nothing before. -/
theorem FecLoss.attempt {s : FecRx} (hseen : (fecExposed groupSize s).Perm seen)
    (hrecov : s.recov.length = mediaBufSize) (nowMs : UInt32) :
    let r := rtcFecTry groupSize ssrc nowMs s fecRtp
    (OthersIn group x seen → r.2 = true ∧ r.1.injected = s.injected ++ [x]) ∧
      (¬ OthersIn group x seen → r.2 = false) := by
  have hlen : ¬ fecRtp.length < fecRtpHdr + fecOverhead := by
    have hdrop := congrArg List.length h.parity
    rw [List.length_drop, (fecPacket_fields h.admitted).1] at hdrop
    have hover : fecOverhead = 14 := rfl
    omega
  have hr : FecReceived group (seen.filter (· ∈ group)) (fecExposed groupSize s) :=
    ⟨h.received.some, by
      obtain ⟨unrelated, hperm, hother⟩ := h.received.among
      exact ⟨unrelated, hseen.trans hperm, hother⟩⟩
  dsimp only
  unfold rtcFecTry
  rw [if_neg hlen, h.parity]
  constructor
  · intro hall
    have hroom : ∀ p ∈ group, p.length ≤ s.recov.length := fun p hp => by
      rw [hrecov]
      exact h.sizes p hp
    obtain ⟨hok, htake⟩ := fecRecover_one h.admitted hr (h.perm_iff.mpr hall) hroom
    revert hok htake
    generalize fecRecover (fecPacket group) ssrc (fecExposed groupSize s) s.recov = r
    obtain ⟨recov, rc | ⟨len, sn⟩⟩ := r
    · exact fun hok => nomatch hok
    · intro hok htake
      injection hok with hok
      injection hok with hlen _
      obtain ⟨u, hu⟩ := h.unpacks
      have htake : recov.take len = x := by rw [hlen]; exact htake
      dsimp only
      rw [htake, hu]
      exact ⟨rfl, rfl⟩
  · intro hnot
    rw [fecRecover_other h.admitted hr (h.count hnot)]

/-- The parity packet of the group may wait. -/
theorem FecLoss.fits :
    fecRtpHdr + fecOverhead ≤ fecRtp.length ∧ fecRtp.length ≤ fecBufSize := by
  have hdrop := congrArg List.length h.parity
  rw [List.length_drop, (fecPacket_fields h.admitted).1] at hdrop
  have hprot : fecProtLen group ≤ mediaBufSize - 12 := fecProtLen_le fun p hp =>
    Nat.sub_le_sub_right (h.sizes p hp) 12
  have hhdr : fecRtpHdr = 12 := rfl
  have hover : fecOverhead = 14 := rfl
  have hbuf : fecBufSize = mediaBufSize + 64 := rfl
  have hmedia : mediaBufSize = 1232 := rfl
  omega

end

/-- The packets seen depend on the ring and the counter only. -/
theorem fecExposed_congr {s s' : FecRx} (hmed : s'.med = s.med) (hn : s'.n = s.n) :
    fecExposed groupSize s' = fecExposed groupSize s := by
  unfold fecExposed
  rw [hmed, hn]

/-- From the arrival of the parity on, it waits while others are missing and then hands over the
lost packet. -/
def FecOutcome (groupSize : Nat) (group : List (List UInt8)) (x fecRtp : List UInt8)
    (injected : List (List UInt8)) (s : FecRx) : Prop :=
  s.pending = fecRtp ∧ s.injected = injected ∧ ¬ OthersIn group x (fecExposed groupSize s) ∨
    s.pending = [] ∧ s.injected = injected ++ [x]

section

variable {ssrc nowMs : UInt32} {group : List (List UInt8)} {x fecRtp : List UInt8} {s : FecRx}

/-- The parity arrives. -/
theorem FecLoss.onRecv (h : FecLoss ssrc group x fecRtp (fecExposed groupSize s))
    (hrecov : s.recov.length = mediaBufSize) :
    FecOutcome groupSize group x fecRtp s.injected
      (rtcFecOnRecv groupSize ssrc nowMs s fecRtp) := by
  obtain ⟨r, hmed, hn, hr, -, hinj, hs⟩ :=
    rtcFecOnRecv_cases groupSize ssrc nowMs s fecRtp
  have hseen : fecExposed groupSize r = fecExposed groupSize s := fecExposed_congr hmed hn
  obtain ⟨hall, hnot⟩ := h.attempt (s := r) (.of_eq hseen) (by rw [hr, hrecov]) nowMs
  obtain ⟨hmed', hn', -, -, hcases⟩ := rtcFecTry_cases groupSize ssrc nowMs r fecRtp
  have hsame := (fecExposed_congr hmed' hn').trans hseen
  by_cases hothers : OthersIn group x (fecExposed groupSize s)
  · obtain ⟨hdone, hx⟩ := hall hothers
    rcases hs with ⟨-, hs⟩ | ⟨hfail, -⟩ | ⟨hfail, -⟩
    · rw [hs]
      exact .inr ⟨rfl, hx.trans (by rw [hinj])⟩
    · exact nomatch hfail.symm.trans hdone
    · exact nomatch hfail.symm.trans hdone
  · have hfail := hnot hothers
    rcases hs with ⟨hdone, -⟩ | ⟨-, -, hs⟩ | ⟨-, hlong, -⟩
    · exact nomatch hfail.symm.trans hdone
    · rw [hs]
      have hnone : (rtcFecTry groupSize ssrc nowMs r fecRtp).1.injected = r.injected := by
        rcases hcases with ⟨-, hnone⟩ | ⟨hdone, -⟩
        · exact hnone
        · exact nomatch hfail.symm.trans hdone
      refine .inl ⟨rfl, hnone.trans hinj, ?_⟩
      have hexposed : fecExposed groupSize
          { (rtcFecTry groupSize ssrc nowMs r fecRtp).1 with pending := fecRtp } =
          fecExposed groupSize s := hsame
      rwa [hexposed]
    · exact absurd h.fits hlong

/-- A packet of the media arrives. -/
theorem FecOutcome.bufferMedia {injected : List (List UInt8)} {pkt : List UInt8}
    (ho : FecOutcome groupSize group x fecRtp injected s)
    (h : FecLoss ssrc group x fecRtp
      (fecExposed groupSize (rtcFecBufferMedia groupSize ssrc nowMs s pkt)))
    (hrecov : s.recov.length = mediaBufSize) :
    FecOutcome groupSize group x fecRtp injected
      (rtcFecBufferMedia groupSize ssrc nowMs s pkt) := by
  have hne : fecRtp ≠ [] := by
    rintro rfl
    exact absurd h.fits.1 (by decide)
  rcases rtcFecBufferMedia_cases groupSize ssrc nowMs s pkt with
    ⟨-, hs⟩ | ⟨-, hs⟩
  · rw [hs]
    exact ho
  rcases ho with ⟨hpending, hinj, -⟩ | ⟨hpending, hinj⟩
  · replace hs := hs.resolve_left fun hempty => hne (hpending.symm.trans hempty.1)
    -- the attempt sees what is exposed afterwards
    generalize hr : ({ s with
      med := s.med.set (s.n.toNat % groupSize) pkt, n := s.n + 1 } : FecRx) = r at hs
    rw [hpending] at hs
    have hrinj : r.injected = injected := by rw [← hr]; exact hinj
    have hrpend : r.pending = fecRtp := by rw [← hr]; exact hpending
    obtain ⟨hmed, hn, hpend, -, hcases⟩ :=
      rtcFecTry_cases groupSize ssrc nowMs r fecRtp
    have hseen : fecExposed groupSize (rtcFecBufferMedia groupSize ssrc nowMs s pkt) =
        fecExposed groupSize r := by
      rcases hs with ⟨-, -, hs⟩ | ⟨-, -, hs⟩ <;> rw [hs] <;> exact fecExposed_congr hmed hn
    rw [hseen] at h
    have hrrecov : r.recov.length = mediaBufSize := by rw [← hr]; exact hrecov
    obtain ⟨hall, hnot⟩ := h.attempt (s := r) (.refl _) hrrecov nowMs
    rcases hs with ⟨-, hdone, hs⟩ | ⟨-, hfail, hs⟩
    · rw [hs]
      have hothers : OthersIn group x (fecExposed groupSize r) := by
        by_contra hothers
        rw [hnot hothers] at hdone
        exact nomatch hdone
      exact .inr ⟨rfl, (hall hothers).2.trans (by rw [hrinj])⟩
    · have hothers : ¬ OthersIn group x (fecExposed groupSize r) := by
        intro hothers
        exact nomatch hfail.symm.trans (hall hothers).1
      have hnone : (rtcFecTry groupSize ssrc nowMs r fecRtp).1.injected = r.injected := by
        rcases hcases with ⟨-, hnone⟩ | ⟨hdone, -⟩
        · exact hnone
        · exact nomatch hfail.symm.trans hdone
      refine .inl ⟨?_, ?_, ?_⟩
      · rw [hs]
        exact hpend.trans hrpend
      · rw [hs]
        exact hnone.trans hrinj
      · rwa [hseen]
  · rcases hs with ⟨-, hs⟩ | ⟨hne, -⟩ | ⟨hne, -⟩
    · rw [hs]
      exact .inr ⟨hpending, hinj⟩
    · exact absurd hpending hne
    · exact absurd hpending hne

end

/-- The latest of two batches lie among the latest of the first and all of the second. -/
theorem rtake_append_suffix {α : Type*} {k n : Nat} (hk : k ≤ n) (as bs : List α) :
    (as ++ bs).rtake k <:+ as.rtake n ++ bs := by
  have hleft : (as ++ bs).rtake k <:+ as ++ bs := List.drop_suffix _ _
  have hright : as.rtake n ++ bs <:+ as ++ bs := by
    obtain ⟨rest, hrest⟩ : as.rtake n <:+ as := List.drop_suffix _ _
    exact ⟨rest, by rw [← List.append_assoc, hrest]⟩
  refine List.suffix_of_suffix_length_le hleft hright ?_
  unfold List.rtake
  simp only [List.length_drop, List.length_append]
  omega

/-- **A single loss**: once the parity is there, the lost packet is handed over as soon as all
others are seen. -/
theorem FecLoss.run {ssrc nowMs : UInt32} {group : List (List UInt8)} {x fecRtp : List UInt8}
    {before after : List FecRxInput} (hsize : 0 < groupSize)
    (h : FecLoss ssrc group x fecRtp ((fecMedia before).rtake groupSize ++ fecMedia after))
    (hmedia : ∀ i ∈ after, ∃ nowMs pkt, i = .media ssrc nowMs pkt) :
    FecOutcome groupSize group x fecRtp
      (run (fecRxStep groupSize) (fecRxInit groupSize) before).injected
      (run (fecRxStep groupSize) (fecRxInit groupSize)
        (before ++ .parity ssrc nowMs fecRtp :: after)) := by
  have hholds (is : List FecRxInput) := fecRxHolds_run hsize is
  -- the packets seen are among those of the hypothesis
  have hseen (js : List FecRxInput) (hjs : js <+: after) :
      (fecExposed groupSize (ForStd.run (fecRxStep groupSize) (fecRxInit groupSize)
        (before ++ .parity ssrc nowMs fecRtp :: js))).Subperm
        ((fecMedia before).rtake groupSize ++ fecMedia after) := by
    refine (hholds _).exposed.subperm.trans ?_
    have hall : fecMedia (before ++ .parity ssrc nowMs fecRtp :: js) =
        fecMedia before ++ fecMedia js := fecMedia_append _ _
    obtain ⟨rest, rfl⟩ := hjs
    rw [hall, fecMedia_append js rest, ← List.append_assoc]
    exact ((rtake_append_suffix (Nat.min_le_right _ _) _ _).sublist.trans
      (List.sublist_append_left _ _)).subperm
  have hprefix : ∀ js : List FecRxInput, js <+: after →
      FecOutcome groupSize group x fecRtp
        (ForStd.run (fecRxStep groupSize) (fecRxInit groupSize) before).injected
        (ForStd.run (fecRxStep groupSize) (fecRxInit groupSize)
          (before ++ .parity ssrc nowMs fecRtp :: js)) := by
    intro js
    induction js using List.reverseRecOn with
    | nil =>
      intro _
      rw [run_snoc]
      refine FecLoss.onRecv (h.sub ?_) (hholds before).recov
      refine (hholds before).exposed.subperm.trans ?_
      have hsub := rtake_append_suffix (Nat.min_le_right ((fecMedia before).length % 256) groupSize)
        (fecMedia before) []
      rw [List.append_nil, List.append_nil] at hsub
      exact (hsub.sublist.trans (List.sublist_append_left _ _)).subperm
    | append_singleton js i ih =>
      intro hjs
      have hnext := hseen _ hjs
      have hi : i ∈ after := hjs.subset (List.mem_append_right js List.mem_cons_self)
      obtain ⟨nowMs', pkt, rfl⟩ := hmedia i hi
      have hone := ih ((List.prefix_append js _).trans hjs)
      rw [← List.cons_append, ← List.append_assoc, run_snoc] at hnext ⊢
      exact hone.bufferMedia (h.sub hnext) (hholds _).recov
  exact hprefix after (List.prefix_refl after)

/-- **The receive history of FEC.** The packets seen are the latest received exactly when the
counter of eight bits has not started again or has counted a ring since; then one lost packet is
handed over as soon as its parity and all others of its group are there, if the group's packets
come once and no other parity after its own; and no packet is handed over more often than parity
for it came. -/
theorem fecHistory (hsize : 0 < groupSize) (is : List FecRxInput) :
    let s := run (fecRxStep groupSize) (fecRxInit groupSize) is
    ((fecExposed groupSize s).Perm ((fecMedia is).rtake groupSize) ↔
      (fecMedia is).length < 256 ∨ groupSize ≤ (fecMedia is).length % 256) ∧
    (∀ ssrc nowMs group x fecRtp before after, is = before ++ .parity ssrc nowMs fecRtp :: after →
      (∀ i ∈ after, ∃ nowMs pkt, i = .media ssrc nowMs pkt) →
      FecLoss ssrc group x fecRtp ((fecMedia before).rtake groupSize ++ fecMedia after) →
      OthersIn group x ((fecMedia is).rtake groupSize) →
      (fecMedia is).length < 256 ∨ groupSize ≤ (fecMedia is).length % 256 →
      s.injected = (run (fecRxStep groupSize) (fecRxInit groupSize) before).injected ++ [x]) ∧
    ∀ sn, (s.injected.countP fun p => fecSeq p == sn) ≤ is.countP (FecRxInput.covers sn) := by
  have hiff := (fecRxHolds_run hsize is).exposed_iff
  refine ⟨hiff, ?_, fun sn => injected_le sn is⟩
  intro ssrc nowMs group x fecRtp before after his hmedia hloss hothers hcond
  rcases (his ▸ hloss.run hsize hmedia : FecOutcome groupSize group x fecRtp _ _) with
    ⟨-, -, hnot⟩ | ⟨-, hx⟩
  · have hperm := hiff.mpr hcond
    exact absurd (fun p hp hne => hperm.mem_iff.mpr (hothers p hp hne)) hnot
  · exact hx

/-- The parity of two packets, and then one of them. -/
def demoFecArrival : List FecRxInput :=
  [.parity 0x01020304 0 (List.replicate 12 0 ++ fecPacket demoFecGroup),
    .media 0x01020304 5 (demoFecGroup.getD 1 [])]

theorem fecHistory_demo :
    (run (fecRxStep 8) (fecRxInit 8) demoFecArrival).injected = [demoFecGroup.getD 0 []] := by
  refine (@fecHistory 8 (by decide) demoFecArrival).2.1 0x01020304 0 demoFecGroup
    (demoFecGroup.getD 0 []) (List.replicate 12 0 ++ fecPacket demoFecGroup) []
    [.media 0x01020304 5 (demoFecGroup.getD 1 [])] rfl ?_ ?_ ?_ ?_
  · intro i hi
    exact ⟨_, _, List.mem_singleton.mp hi⟩
  · exact {
      admitted := demoFecGroup_group
      lost := by decide
      sizes := by decide
      unpacks := ⟨_, rfl⟩
      parity := rfl
      among := by decide
      once := by decide }
  · unfold OthersIn
    decide
  · decide

/-- A packet of the stream before the group. -/
def demoFecEarlier : FecRxInput := .media 0x01020304 0 (0x80 :: List.replicate 11 0)

/-- 255 packets, one of the group, and the parity. -/
def demoFecWrap : List FecRxInput :=
  List.replicate 255 demoFecEarlier ++
    [.media 0x01020304 5 (demoFecGroup.getD 1 []),
      .parity 0x01020304 5 (List.replicate 12 0 ++ fecPacket demoFecGroup)]

/-- The counter starts again with the 256th packet: nothing of the ring is seen, and the lost packet
of the group whose other packet was the last to arrive does not come back. -/
theorem fecHistory_wrap :
    (fecMedia demoFecWrap).length = 256 ∧ (fecMedia demoFecWrap).rtake 1 = [demoFecGroup.getD 1 []] ∧
      ¬ (fecExposed 8 (run (fecRxStep 8) (fecRxInit 8) demoFecWrap)).Perm
        ((fecMedia demoFecWrap).rtake 8) ∧
      (run (fecRxStep 8) (fecRxInit 8) demoFecWrap).injected = [] := by
  decide +kernel

end Nanortc.Spec
