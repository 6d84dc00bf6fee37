import Mathlib
import Nanortc.Native.Sctp

/-!
# The receive table

What compaction, merging and storing do to the descriptors of the receive table, apart from the
bytes behind them: which descriptors they free and which fields they change.

## Key results

- `nsctpRxReclaim_valid`: compaction frees the delivered descriptors that are acknowledged
- `nsctpGapDrainLoop_eq`: the drain moves the cumulative TSN over TSNs of the table
- `nsctpRxJoin_core`: what a join does to each descriptor
-/

namespace Nanortc.Native

/-- What a descriptor says about its message, apart from the place of its bytes and whether it is in
use. -/
def RxEntry.core (e : RxEntry) : RxEntry := { e with dataOffset := 0, dataLen := 0, valid := false }

variable {e e' : RxEntry}

theorem RxEntry.core_tsn (h : e.core = e'.core) : e.tsn = e'.tsn :=
  show e.core.tsn = e'.core.tsn from congrArg RxEntry.tsn h

theorem RxEntry.core_flags (h : e.core = e'.core) : e.flags = e'.flags :=
  show e.core.flags = e'.core.flags from congrArg RxEntry.flags h

theorem RxEntry.core_delivered (h : e.core = e'.core) : e.delivered = e'.delivered :=
  show e.core.delivered = e'.core.delivered from congrArg RxEntry.delivered h

theorem RxEntry.core_forwarded (h : e.core = e'.core) : e.forwarded = e'.forwarded :=
  show e.core.forwarded = e'.core.forwarded from congrArg RxEntry.forwarded h

theorem RxEntry.core_streamId (h : e.core = e'.core) : e.streamId = e'.streamId :=
  show e.core.streamId = e'.core.streamId from congrArg RxEntry.streamId h

theorem RxEntry.core_ssn (h : e.core = e'.core) : e.ssn = e'.ssn :=
  show e.core.ssn = e'.core.ssn from congrArg RxEntry.ssn h

theorem RxEntry.core_ppid (h : e.core = e'.core) : e.ppid = e'.ppid :=
  show e.core.ppid = e'.core.ppid from congrArg RxEntry.ppid h

end Nanortc.Native

namespace Nanortc.Spec

open Nanortc.ForStd Nanortc.Native

theorem find_eq_none {r : SctpRecv} {p : RxEntry → Bool} :
    r.find p = none ↔ ∀ i, p (r.rx i) = false := by
  simp [SctpRecv.find]

theorem find_eq_some {r : SctpRecv} {p : RxEntry → Bool} {i : RxSlot} (h : r.find p = some i) :
    p (r.rx i) = true := by
  have h' := List.find?_some h
  exact h'

theorem find_isSome {r : SctpRecv} {p : RxEntry → Bool} :
    (r.find p).isSome ↔ ∃ i, p (r.rx i) = true := by
  simp [SctpRecv.find]

/-! ### Compaction -/

/-- Only the places of the bytes change: the descriptors say the same and stay in use. -/
structure SameCores (r r' : SctpRecv) : Prop where
  core : ∀ j, (r'.rx j).core = (r.rx j).core
  valid : ∀ j, (r'.rx j).valid = (r.rx j).valid
  cumulativeTsn : r'.cumulativeTsn = r.cumulativeTsn
  recvGapCount : r'.recvGapCount = r.recvGapCount

theorem SameCores.refl (r : SctpRecv) : SameCores r r := ⟨fun _ => rfl, fun _ => rfl, rfl, rfl⟩

theorem SameCores.trans {r r' r'' : SctpRecv} (h : SameCores r r') (h' : SameCores r' r'') :
    SameCores r r'' :=
  ⟨fun j => (h'.core j).trans (h.core j), fun j => (h'.valid j).trans (h.valid j),
    h'.cumulativeTsn.trans h.cumulativeTsn, h'.recvGapCount.trans h.recvGapCount⟩

theorem nsctpRxDrop_rx (r : SctpRecv) (i j : RxSlot) :
    (nsctpRxDrop r i).rx j =
      { r.rx j with
        dataOffset :=
          if (r.rx j).valid ∧ (r.rx j).dataOffset > (r.rx i).dataOffset then
            sub16 (r.rx j).dataOffset (r.rx i).dataLen
          else (r.rx j).dataOffset
        dataLen := if i = j then 0 else (r.rx j).dataLen } := by
  have hother : (nsctpRxDrop r i).rx j = if i = j then
      { (if (r.rx i).valid ∧ (r.rx i).dataOffset > (r.rx i).dataOffset then
          { r.rx i with dataOffset := sub16 (r.rx i).dataOffset (r.rx i).dataLen }
        else r.rx i : RxEntry) with dataLen := 0 }
      else if (r.rx j).valid ∧ (r.rx j).dataOffset > (r.rx i).dataOffset then
        { r.rx j with dataOffset := sub16 (r.rx j).dataOffset (r.rx i).dataLen }
      else r.rx j := by
    unfold nsctpRxDrop
    rw [SctpRecv.rx_setRx, SctpRecv.rx_mapRx, SctpRecv.rx_mapRx]
    rfl
  rw [hother]
  split
  · rename_i h
    subst h
    split <;> rfl
  · split <;> rfl

theorem nsctpRxDrop_same (r : SctpRecv) (i : RxSlot) : SameCores r (nsctpRxDrop r i) :=
  ⟨fun j => by rw [nsctpRxDrop_rx]; rfl, fun j => by rw [nsctpRxDrop_rx], rfl, rfl⟩

/-- The descriptor is delivered and acknowledged, so compaction frees it. -/
def Spent (r : SctpRecv) (i : RxSlot) : Prop :=
  (r.rx i).delivered = true ∧ i32 ((r.rx i).tsn - r.cumulativeTsn) ≤ 0

instance (r : SctpRecv) (i : RxSlot) : Decidable (Spent r i) :=
  inferInstanceAs (Decidable (_ ∧ _))

/-- The pool with the bytes of a delivered descriptor taken out. -/
def nsctpRxCompact (r : SctpRecv) (i : RxSlot) : SctpRecv :=
  if (r.rx i).dataLen ≠ 0 then nsctpRxDrop r i else r

theorem nsctpRxCompact_same (r : SctpRecv) (i : RxSlot) : SameCores r (nsctpRxCompact r i) := by
  unfold nsctpRxCompact
  split
  · exact nsctpRxDrop_same r i
  · exact .refl r

/-- The descriptor taken out of use. -/
def nsctpRxFree (r : SctpRecv) (i : RxSlot) : SctpRecv :=
  { r.setRx i { r.rx i with valid := false } with recvGapCount := r.recvGapCount - 1 }

theorem nsctpRxFree_core (r : SctpRecv) (i j : RxSlot) :
    ((nsctpRxFree r i).rx j).core = (r.rx j).core := by
  show ((r.setRx i _).rx j).core = _
  rw [SctpRecv.rx_setRx]
  split
  · rename_i h
    subst h
    rfl
  · rfl

theorem nsctpRxFree_valid (r : SctpRecv) (i j : RxSlot) :
    ((nsctpRxFree r i).rx j).valid = ((r.rx j).valid && !decide (i = j)) := by
  show ((r.setRx i _).rx j).valid = _
  rw [SctpRecv.rx_setRx]
  by_cases h : i = j
  · subst h
    simp
  · simp [h]

/-- The turn of the compaction for one descriptor, in steps. -/
theorem nsctpRxReclaimSlot_eq (r : SctpRecv) (i : RxSlot) :
    nsctpRxReclaimSlot r i =
      if (r.rx i).valid = true ∧ (r.rx i).delivered = true then
        if Spent r i then nsctpRxFree (nsctpRxCompact r i) i else nsctpRxCompact r i
      else r := by
  unfold nsctpRxReclaimSlot
  cases hv : (r.rx i).valid with
  | false => rfl
  | true =>
    cases hd : (r.rx i).delivered with
    | false => rfl
    | true =>
      show (if i32 (((nsctpRxCompact r i).rx i).tsn - (nsctpRxCompact r i).cumulativeTsn) ≤ 0
        then nsctpRxFree (nsctpRxCompact r i) i else nsctpRxCompact r i) = _
      have hsame := nsctpRxCompact_same r i
      rw [RxEntry.core_tsn (hsame.core i), hsame.cumulativeTsn]
      simp only [Spent, hd, true_and, and_self, if_true]

/-- What a turn of the compaction leaves of each descriptor. -/
theorem nsctpRxReclaimSlot_core (r : SctpRecv) (i j : RxSlot) :
    ((nsctpRxReclaimSlot r i).rx j).core = (r.rx j).core ∧
    ((nsctpRxReclaimSlot r i).rx j).valid = ((r.rx j).valid && !decide (i = j ∧ Spent r j)) ∧
    (nsctpRxReclaimSlot r i).cumulativeTsn = r.cumulativeTsn := by
  rw [nsctpRxReclaimSlot_eq]
  have hsame := nsctpRxCompact_same r i
  split
  · split
    · rename_i hspent
      refine ⟨(nsctpRxFree_core ..).trans (hsame.core j), ?_, hsame.cumulativeTsn⟩
      rw [nsctpRxFree_valid, hsame.valid j]
      by_cases h : i = j
      · subst h
        simp [hspent]
      · simp [h]
    · rename_i hspent
      refine ⟨hsame.core j, ?_, hsame.cumulativeTsn⟩
      rw [hsame.valid j]
      by_cases h : i = j
      · subst h
        simp [hspent]
      · simp [h]
  · rename_i hno
    refine ⟨rfl, ?_, rfl⟩
    by_cases h : i = j ∧ Spent r j
    · obtain ⟨rfl, hspent⟩ := h
      have hv : (r.rx i).valid = false :=
        Bool.eq_false_iff.mpr fun hv => hno ⟨hv, hspent.1⟩
      rw [hv]
      rfl
    · simp [h]

/-- What the turns for some descriptors leave of each descriptor. -/
theorem foldl_reclaim_core (is : List RxSlot) (r : SctpRecv) (j : RxSlot) :
    ((is.foldl nsctpRxReclaimSlot r).rx j).core = (r.rx j).core ∧
    ((is.foldl nsctpRxReclaimSlot r).rx j).valid =
      ((r.rx j).valid && !decide (j ∈ is ∧ Spent r j)) ∧
    (is.foldl nsctpRxReclaimSlot r).cumulativeTsn = r.cumulativeTsn := by
  induction is generalizing r with
  | nil => simp
  | cons i is ih =>
    obtain ⟨hcore, hvalid, hcum⟩ := nsctpRxReclaimSlot_core r i j
    obtain ⟨hcore', hvalid', hcum'⟩ := ih (nsctpRxReclaimSlot r i)
    have hspent : Spent (nsctpRxReclaimSlot r i) j ↔ Spent r j := by
      unfold Spent
      rw [RxEntry.core_delivered hcore, RxEntry.core_tsn hcore, hcum]
    refine ⟨hcore'.trans hcore, ?_, hcum'.trans hcum⟩
    rw [List.foldl_cons, hvalid', hvalid]
    have hiff : j ∈ i :: is ∧ Spent r j ↔ (i = j ∧ Spent r j) ∨ (j ∈ is ∧ Spent r j) := by
      rw [List.mem_cons, or_and_right, eq_comm]
    simp only [hspent, hiff, Bool.and_assoc, Bool.decide_or, Bool.not_or]

theorem nsctpRxReclaim_core (r : SctpRecv) (j : RxSlot) :
    ((nsctpRxReclaim r).rx j).core = (r.rx j).core :=
  (foldl_reclaim_core (List.finRange sctpMaxRecvGap) r j).1

/-- **Compaction frees the delivered descriptors that are acknowledged.** -/
theorem nsctpRxReclaim_valid (r : SctpRecv) (j : RxSlot) :
    ((nsctpRxReclaim r).rx j).valid = ((r.rx j).valid && !decide (Spent r j)) := by
  have h := (foldl_reclaim_core (List.finRange sctpMaxRecvGap) r j).2.1
  simp only [List.mem_finRange, true_and] at h
  exact h

@[simp] theorem nsctpRxReclaim_cumulativeTsn (r : SctpRecv) :
    (nsctpRxReclaim r).cumulativeTsn = r.cumulativeTsn :=
  (foldl_reclaim_core (List.finRange sctpMaxRecvGap) r ⟨0, by decide⟩).2.2

/-! ### The drain -/

/-- The drain moves the cumulative TSN over TSNs of the table, and it stops early only in front of
one that is not there. -/
theorem nsctpGapDrainLoop_eq (turns : Nat) (r : SctpRecv) :
    ∃ k ≤ turns, nsctpGapDrainLoop turns r =
        { r with cumulativeTsn := r.cumulativeTsn + UInt32.ofNat k } ∧
      (∀ m < k, ∃ i, (r.rx i).valid = true ∧
        (r.rx i).tsn = r.cumulativeTsn + UInt32.ofNat (m + 1)) ∧
      (k < turns → ∀ i, (r.rx i).valid = true →
        (r.rx i).tsn ≠ r.cumulativeTsn + UInt32.ofNat (k + 1)) := by
  induction turns generalizing r with
  | zero => exact ⟨0, Nat.le_refl 0, by simp [nsctpGapDrainLoop], by simp, by simp⟩
  | succ turns ih =>
    unfold nsctpGapDrainLoop
    cases hfind : r.find fun e => e.valid && e.tsn == r.cumulativeTsn + 1 with
    | none =>
      refine ⟨0, Nat.zero_le _, by simp, by simp, fun _ i hv htsn => ?_⟩
      have hno := find_eq_none.mp hfind i
      rw [hv, htsn] at hno
      simp at hno
    | some i =>
      have hi := find_eq_some hfind
      simp only [Bool.and_eq_true, beq_iff_eq] at hi
      obtain ⟨k, hk, heq, hpassed, hstop⟩ :=
        ih { r with cumulativeTsn := r.cumulativeTsn + 1 }
      have hadd (m : Nat) : r.cumulativeTsn + 1 + UInt32.ofNat m =
          r.cumulativeTsn + UInt32.ofNat (m + 1) := by
        rw [UInt32.ofNat_add, UInt32.add_assoc, UInt32.add_comm (UInt32.ofNat m)]
        rfl
      refine ⟨k + 1, Nat.succ_le_succ hk, ?_, ?_, ?_⟩
      · dsimp only
        rw [heq]
        dsimp only
        rw [hadd]
      · intro m hm
        cases m with
        | zero => exact ⟨i, hi.1, hi.2⟩
        | succ m =>
          obtain ⟨j, hv, htsn⟩ := hpassed m (Nat.lt_of_succ_lt_succ hm)
          exact ⟨j, hv, htsn.trans (hadd (m + 1))⟩
      · intro hlt j hv
        have hne := hstop (Nat.lt_of_succ_lt_succ hlt) j hv
        rwa [show (r.cumulativeTsn + 1 + UInt32.ofNat (k + 1)) = _ from hadd (k + 1)] at hne

/-- Different small numbers of steps lead to different TSNs. -/
theorem tsn_add_inj {c : UInt32} {m n : Nat} (hm : m < 2 ^ 32) (hn : n < 2 ^ 32)
    (h : c + UInt32.ofNat m = c + UInt32.ofNat n) : m = n := by
  have := congrArg UInt32.toNat h
  rw [UInt32.toNat_add, UInt32.toNat_add, UInt32.toNat_ofNat', UInt32.toNat_ofNat'] at this
  have hc := c.toNat_lt
  omega

theorem nsctpGapDrain_core (r : SctpRecv) (j : RxSlot) :
    ((nsctpGapDrain r).rx j).core = (r.rx j).core := by
  obtain ⟨k, -, heq, -⟩ := nsctpGapDrainLoop_eq sctpMaxRecvGap r
  unfold nsctpGapDrain
  rw [nsctpRxReclaim_core, heq]
  rfl

/-- A descriptor in use stays so, unless it is delivered and acknowledged by then. -/
theorem nsctpGapDrain_valid (r : SctpRecv) (j : RxSlot) :
    ((nsctpGapDrain r).rx j).valid = ((r.rx j).valid && !decide
      ((r.rx j).delivered = true ∧ i32 ((r.rx j).tsn - (nsctpGapDrain r).cumulativeTsn) ≤ 0)) := by
  obtain ⟨k, -, heq, -⟩ := nsctpGapDrainLoop_eq sctpMaxRecvGap r
  unfold nsctpGapDrain
  rw [nsctpRxReclaim_valid, nsctpRxReclaim_cumulativeTsn, heq]
  rfl

/-! ### Moving and joining -/

/-- The rotation of `nsctp_rx_move`, without its early return. -/
def nsctpRxRotate (r : SctpRecv) (slot : RxSlot) (pos : Nat) : SctpRecv :=
  let off := (r.rx slot).dataOffset
  let n := (r.rx slot).dataLen
  let buf := nsctpReverse (nsctpReverse (nsctpReverse r.recvGapBuf pos (off - pos)) off n) pos
    (off - pos + n)
  let r := { r with recvGapBuf := buf }
  let r := r.mapRx fun j e =>
    if e.valid ∧ j ≠ slot ∧ e.dataOffset ≥ pos ∧ e.dataOffset < off then
      { e with dataOffset := (e.dataOffset + n) % 65536 }
    else e
  r.setRx slot { r.rx slot with dataOffset := pos }

theorem nsctpRxMove_eq (r : SctpRecv) (slot : RxSlot) (pos : Nat) :
    nsctpRxMove r slot pos =
      if (r.rx slot).dataOffset = pos ∨ (r.rx slot).dataLen = 0 then r
      else nsctpRxRotate r slot pos := rfl

theorem nsctpRxRotate_rx (r : SctpRecv) (slot : RxSlot) (pos : Nat) (j : RxSlot) :
    (nsctpRxRotate r slot pos).rx j =
      { r.rx j with
        dataOffset :=
          if slot = j then pos
          else if (r.rx j).valid ∧ pos ≤ (r.rx j).dataOffset ∧
              (r.rx j).dataOffset < (r.rx slot).dataOffset then
            ((r.rx j).dataOffset + (r.rx slot).dataLen) % 65536
          else (r.rx j).dataOffset } := by
  have hrx : (nsctpRxRotate r slot pos).rx j =
      if slot = j then
        { (if (r.rx slot).valid ∧ slot ≠ slot ∧ (r.rx slot).dataOffset ≥ pos ∧
              (r.rx slot).dataOffset < (r.rx slot).dataOffset then
            { r.rx slot with dataOffset := ((r.rx slot).dataOffset + (r.rx slot).dataLen) % 65536 }
          else r.rx slot : RxEntry) with dataOffset := pos }
      else if (r.rx j).valid ∧ j ≠ slot ∧ (r.rx j).dataOffset ≥ pos ∧
          (r.rx j).dataOffset < (r.rx slot).dataOffset then
        { r.rx j with dataOffset := ((r.rx j).dataOffset + (r.rx slot).dataLen) % 65536 }
      else r.rx j := by
    unfold nsctpRxRotate
    rw [SctpRecv.rx_setRx, SctpRecv.rx_mapRx, SctpRecv.rx_mapRx]
    rfl
  rw [hrx]
  by_cases h : slot = j
  · subst h
    rw [if_pos rfl, if_pos rfl, if_neg fun h => h.2.1 rfl]
  · rw [if_neg h, if_neg h]
    by_cases hv : (r.rx j).valid ∧ pos ≤ (r.rx j).dataOffset ∧
        (r.rx j).dataOffset < (r.rx slot).dataOffset
    · rw [if_pos hv, if_pos ⟨hv.1, fun h' => h h'.symm, hv.2.1, hv.2.2⟩]
    · rw [if_neg hv, if_neg fun h => hv ⟨h.1, h.2.2.1, h.2.2.2⟩]

theorem nsctpRxMove_rx (r : SctpRecv) (slot : RxSlot) (pos : Nat) (j : RxSlot) :
    (nsctpRxMove r slot pos).rx j =
      { r.rx j with dataOffset := ((nsctpRxMove r slot pos).rx j).dataOffset } := by
  rw [nsctpRxMove_eq]
  split
  · rfl
  · rw [nsctpRxRotate_rx]

theorem nsctpRxMove_frame (r : SctpRecv) (slot : RxSlot) (pos : Nat) :
    (nsctpRxMove r slot pos).cumulativeTsn = r.cumulativeTsn ∧
    (nsctpRxMove r slot pos).recvGapCount = r.recvGapCount ∧
    (nsctpRxMove r slot pos).recvGapBufUsed = r.recvGapBufUsed := by
  rw [nsctpRxMove_eq]
  split <;> exact ⟨rfl, rfl, rfl⟩

theorem nsctpRxMove_same (r : SctpRecv) (slot : RxSlot) (pos : Nat) :
    SameCores r (nsctpRxMove r slot pos) :=
  ⟨fun j => by rw [nsctpRxMove_rx]; rfl, fun j => by rw [nsctpRxMove_rx],
    (nsctpRxMove_frame r slot pos).1, (nsctpRxMove_frame r slot pos).2.1⟩

theorem nsctpRxMove_dataLen (r : SctpRecv) (slot : RxSlot) (pos : Nat) (j : RxSlot) :
    ((nsctpRxMove r slot pos).rx j).dataLen = (r.rx j).dataLen := by
  rw [nsctpRxMove_rx]

theorem nsctpRxAlign_same (r : SctpRecv) (i j : RxSlot) : SameCores r (nsctpRxAlign r i j) :=
  (nsctpRxMove_same r i 0).trans (nsctpRxMove_same _ j _)

theorem nsctpRxAlign_dataLen (r : SctpRecv) (i j k : RxSlot) :
    ((nsctpRxAlign r i j).rx k).dataLen = (r.rx k).dataLen :=
  (nsctpRxMove_dataLen ..).trans (nsctpRxMove_dataLen ..)

theorem nsctpRxAlign_frame (r : SctpRecv) (i j : RxSlot) :
    (nsctpRxAlign r i j).recvGapBufUsed = r.recvGapBufUsed :=
  (nsctpRxMove_frame ..).2.2.trans (nsctpRxMove_frame ..).2.2

/-- The first descriptor takes over the second, which is freed; no other changes. -/
theorem nsctpRxTakeOver_rx (r : SctpRecv) {i j : RxSlot} (k : RxSlot) :
    (nsctpRxTakeOver r i j).rx k =
      if j = k then { r.rx j with valid := false }
      else if i = k then
        { r.rx i with
          dataLen := (r.rx i).dataLen + (r.rx j).dataLen
          tsn := (r.rx j).tsn
          flags := (r.rx i).flags ||| ((r.rx j).flags &&& sctpDataFlagEnd)
          forwarded := (r.rx i).forwarded || (r.rx j).forwarded }
      else r.rx k := by
  show ((SctpRecv.setRx _ i _).setRx j _).rx k = _
  rw [SctpRecv.rx_setRx, SctpRecv.rx_setRx]

theorem nsctpRxTakeOver_frame (r : SctpRecv) (i j : RxSlot) :
    (nsctpRxTakeOver r i j).cumulativeTsn = r.cumulativeTsn ∧
    (nsctpRxTakeOver r i j).recvGapCount = r.recvGapCount - 1 ∧
    (nsctpRxTakeOver r i j).recvGapBufUsed = r.recvGapBufUsed ∧
    (nsctpRxTakeOver r i j).recvGapBuf = r.recvGapBuf := ⟨rfl, rfl, rfl, rfl⟩

theorem nsctpRxJoin_frame (r : SctpRecv) (i j : RxSlot) :
    (nsctpRxJoin r i j).cumulativeTsn = r.cumulativeTsn ∧
    (nsctpRxJoin r i j).recvGapCount = r.recvGapCount - 1 ∧
    (nsctpRxJoin r i j).recvGapBufUsed = r.recvGapBufUsed := by
  have hsame := nsctpRxAlign_same r i j
  obtain ⟨hcum, hcount, hused, -⟩ := nsctpRxTakeOver_frame (nsctpRxAlign r i j) i j
  exact ⟨hcum.trans hsame.cumulativeTsn, hcount.trans (congrArg (· - 1) hsame.recvGapCount),
    hused.trans (nsctpRxAlign_frame r i j)⟩

/-- **What a join does to each descriptor.** -/
theorem nsctpRxJoin_core (r : SctpRecv) {i j : RxSlot} (hij : i ≠ j) :
    ((nsctpRxJoin r i j).rx i).core =
      { (r.rx i).core with
        tsn := (r.rx j).tsn
        flags := (r.rx i).flags ||| ((r.rx j).flags &&& sctpDataFlagEnd)
        forwarded := (r.rx i).forwarded || (r.rx j).forwarded } ∧
    (∀ k, k ≠ i → ((nsctpRxJoin r i j).rx k).core = (r.rx k).core) ∧
    (∀ k, ((nsctpRxJoin r i j).rx k).valid = ((r.rx k).valid && !decide (j = k))) := by
  have hsame := nsctpRxAlign_same r i j
  have hforwarded (l : RxSlot) : ((nsctpRxAlign r i j).rx l).forwarded = (r.rx l).forwarded :=
    RxEntry.core_forwarded (hsame.core l)
  unfold nsctpRxJoin
  refine ⟨?_, fun k hk => ?_, fun k => ?_⟩
  · rw [nsctpRxTakeOver_rx, if_neg (fun h => hij h.symm), if_pos rfl, hforwarded, hforwarded,
      RxEntry.core_tsn (hsame.core j), RxEntry.core_flags (hsame.core i),
      RxEntry.core_flags (hsame.core j), ← hsame.core i]
    rfl
  · rw [nsctpRxTakeOver_rx, if_neg (fun h : i = k => hk h.symm), ← hsame.core k]
    split
    · rename_i h
      subst h
      rfl
    · rfl
  · rw [nsctpRxTakeOver_rx, ← hsame.valid k]
    by_cases hj : j = k
    · simp [hj]
    · rw [if_neg hj]
      split
      · rename_i h
        subst h
        simp [hj]
      · simp [hj]

/-- What makes two descriptors a pair to join. -/
theorem nsctpRxJoinable_iff (c : UInt32) (a b : RxEntry) :
    nsctpRxJoinable c a b = true ↔
      a.valid = true ∧ a.delivered = false ∧ b.valid = true ∧ b.delivered = false ∧
        i32 (b.tsn - c) ≤ 0 ∧ nsctpFragmentsFollow a b = true := by
  simp [nsctpRxJoinable, and_assoc]

theorem nsctpFragmentsFollow_iff (a b : RxEntry) :
    nsctpFragmentsFollow a b = true ↔
      b.tsn = a.tsn + 1 ∧ a.streamId = b.streamId ∧ a.ssn = b.ssn ∧ a.ppid = b.ppid ∧
        hasFlag (a.flags ^^^ b.flags) sctpDataFlagUnordered = false ∧
        hasFlag a.flags sctpDataFlagEnd = false ∧ hasFlag b.flags sctpDataFlagBegin = false := by
  simp [nsctpFragmentsFollow, and_assoc]

theorem nsctpRxJoinable_ne {r : SctpRecv} {i j : RxSlot}
    (h : nsctpRxJoinable r.cumulativeTsn (r.rx i) (r.rx j) = true) : i ≠ j := by
  rintro rfl
  have hfollow := ((nsctpRxJoinable_iff ..).mp h).2.2.2.2.2
  have htsn := ((nsctpFragmentsFollow_iff ..).mp hfollow).1
  have := congrArg UInt32.toNat htsn
  rw [UInt32.toNat_add, show (1 : UInt32).toNat = 1 from rfl] at this
  have := (r.rx i).tsn.toNat_lt
  omega

theorem nsctpRxFindJoin_some {r : SctpRecv} {i j : RxSlot} (h : nsctpRxFindJoin r = some (i, j)) :
    nsctpRxJoinable r.cumulativeTsn (r.rx i) (r.rx j) = true := by
  unfold nsctpRxFindJoin at h
  obtain ⟨i', -, h⟩ := List.exists_of_findSome?_eq_some h
  obtain ⟨j', hj, h⟩ := Option.map_eq_some_iff.mp h
  obtain ⟨rfl, rfl⟩ := Prod.mk.inj h
  have h' := List.find?_some hj
  exact h'

/-- The joins of `nsctp_rx_merge`, each with the state it is made in. -/
def nsctpRxJoins : (turns : Nat) → SctpRecv → List (SctpRecv × RxSlot × RxSlot)
  | 0, _ => []
  | turns + 1, r =>
    match nsctpRxFindJoin r with
    | none => []
    | some (i, j) =>
      if (r.rx i).dataLen + (r.rx j).dataLen > sctpMaxMessageSize then []
      else (r, i, j) :: nsctpRxJoins turns (nsctpRxJoin r i j)

/-- The rule for merging: what every join of it keeps. -/
theorem nsctpRxMergeLoop_induction {P : SctpRecv → Prop} {turns : Nat} {r : SctpRecv} (h0 : P r)
    (hstep : ∀ t i j, (t, i, j) ∈ nsctpRxJoins turns r → P t →
      nsctpRxJoinable t.cumulativeTsn (t.rx i) (t.rx j) = true → P (nsctpRxJoin t i j)) :
    P (nsctpRxMergeLoop turns r).1 := by
  induction turns generalizing r with
  | zero => exact h0
  | succ turns ih =>
    unfold nsctpRxMergeLoop
    unfold nsctpRxJoins at hstep
    cases hfind : nsctpRxFindJoin r with
    | none => exact h0
    | some p =>
      obtain ⟨i, j⟩ := p
      rw [hfind] at hstep
      dsimp only at hstep ⊢
      split
      · exact h0
      · rename_i hlen
        rw [if_neg hlen] at hstep
        apply ih
        · exact hstep r i j List.mem_cons_self h0 (nsctpRxFindJoin_some hfind)
        · intro t k l hmem
          exact hstep t k l (List.mem_cons_of_mem _ hmem)

@[simp] theorem nsctpRxMerge_cumulativeTsn (r : SctpRecv) :
    (nsctpRxMerge r).1.cumulativeTsn = r.cumulativeTsn :=
  nsctpRxMergeLoop_induction (P := fun t => t.cumulativeTsn = r.cumulativeTsn) rfl
    fun _ _ _ _ h _ => (nsctpRxJoin_frame ..).1.trans h

/-! ### Storing -/

theorem nsctpStore_rx (r : SctpRecv) (slot : RxSlot) (d : NsctpData) (j : RxSlot) :
    (nsctpStore r slot d).rx j =
      if slot = j then { nsctpIncoming d with dataOffset := r.recvGapBufUsed } else r.rx j :=
  SctpRecv.rx_setRx ..

@[simp] theorem nsctpStore_cumulativeTsn (r : SctpRecv) (slot : RxSlot) (d : NsctpData) :
    (nsctpStore r slot d).cumulativeTsn = r.cumulativeTsn := rfl

/-- The free descriptor is not in use. -/
theorem nsctpFreeSlot_some {r : SctpRecv} {slot : RxSlot} (h : nsctpFreeSlot r = some slot) :
    (r.rx slot).valid = false := by
  have key (is : List RxSlot) (acc : Option RxSlot)
      (hacc : ∀ i, acc = some i → (r.rx i).valid = false) :
      ∀ i, is.foldl (fun slot i => if (r.rx i).valid then slot else some i) acc = some i →
        (r.rx i).valid = false := by
    induction is generalizing acc with
    | nil => exact hacc
    | cons i is ih =>
      apply ih
      intro k hk
      dsimp only at hk
      split at hk
      · exact hacc k hk
      · rename_i hv
        obtain rfl := Option.some.inj hk
        exact Bool.eq_false_iff.mpr hv
  exact key (List.finRange sctpMaxRecvGap) none (fun _ h => nomatch h) slot h

/-- What a stored chunk has passed. -/
theorem nsctpAdmit_store {r : SctpRecv} {streams streams' : List SctpStream} {d : NsctpData}
    {slot : RxSlot} (h : nsctpAdmit r streams d = (streams', .store slot)) :
    (r.rx slot).valid = false ∧ nsctpRxFull r d = false ∧
    (∀ i, (r.rx i).valid = true → (r.rx i).tsn ≠ d.tsn) := by
  unfold nsctpAdmit at h
  split at h
  · exact nomatch (Prod.mk.inj h).2
  rename_i hdup
  have hnone : ∀ i, (r.rx i).valid = true → (r.rx i).tsn ≠ d.tsn := by
    intro i hv htsn
    exact hdup (find_isSome.mpr ⟨i, by simp [hv, htsn]⟩)
  split at h
  · split at h
    · exact nomatch (Prod.mk.inj h).2
    rename_i hfree
    split at h
    · exact nomatch (Prod.mk.inj h).2
    rename_i hfull
    split at h
    · exact nomatch (Prod.mk.inj h).2
    · obtain ⟨-, hslot⟩ := Prod.mk.inj h
      obtain rfl := Admission.store.inj hslot
      exact ⟨nsctpFreeSlot_some hfree, Bool.eq_false_iff.mpr hfull, hnone⟩
  · exact nomatch (Prod.mk.inj h).2

end Nanortc.Spec
