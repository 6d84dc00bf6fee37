import Nanortc.ForStd.Pool
import Nanortc.Spec.SctpTable

/-!
# The receive pool

The byte pool behind the receive table: the descriptors that hold bytes divide the used part of the
pool exactly, and the functions of `nano_sctp.c` that compact, rotate, join and store keep the
division and what the descriptors hold. A descriptor without bytes (a delivered marker, or an empty
payload) has no place in the pool.

## Key results

- `Pooled.reclaim`, `Pooled.drain`, `Pooled.move`, `Pooled.join`, `Pooled.store`: the division is kept
- `rxBytes_reclaim`, `rxBytes_move`, `rxBytes_takeOver`, `rxBytes_store`: and the contents
- `nsctpAssemble_data`: a gathered message is the contents of its parts, one after the other
-/

namespace Nanortc.Spec

open Nanortc.ForStd Nanortc.Native

/-- The descriptor has bytes in the pool. -/
def Filled (r : SctpRecv) (i : RxSlot) : Prop := (r.rx i).valid = true ∧ (r.rx i).dataLen ≠ 0

/-- The bytes of a descriptor. -/
def rxBytes (r : SctpRecv) (i : RxSlot) : List UInt8 :=
  slice r.recvGapBuf (r.rx i).dataOffset (r.rx i).dataLen

/-- The number of descriptors in use. -/
def rxInUse (r : SctpRecv) : Nat := (List.finRange sctpMaxRecvGap).countP fun i => (r.rx i).valid

/-- The descriptors with bytes divide the used part of the pool, and the counter counts the
descriptors in use. -/
structure Pooled (r : SctpRecv) : Prop where
  tiles : Tiles (Filled r) (fun i => (r.rx i).dataOffset) (fun i => (r.rx i).dataLen)
    r.recvGapBufUsed
  used : r.recvGapBufUsed ≤ sctpRecvGapBufSize
  room : r.recvGapBuf.length = sctpRecvGapBufSize
  count : r.recvGapCount = rxInUse r

theorem sub16_eq {a n : Nat} (h : n ≤ a) (ha : a < 65536) : sub16 a n = a - n := by
  unfold sub16
  omega

/-! ### The counter -/

theorem countP_set {α : Type*} {p q : α → Bool} {a : α} {l : List α} (hl : l.Nodup) (ha : a ∈ l)
    (hp : p a = true) (hq : q a = false) (hother : ∀ x, x ≠ a → q x = p x) :
    l.countP p = l.countP q + 1 := by
  induction l with
  | nil => exact absurd ha List.not_mem_nil
  | cons x l ih =>
    obtain ⟨hx, hl⟩ := List.nodup_cons.mp hl
    by_cases hxa : x = a
    · subst hxa
      have heq : l.countP q = l.countP p := by
        apply List.countP_congr
        intro y hy
        have hne : y ≠ x := fun h => hx (h ▸ hy)
        simp [hother y hne]
      simp [hp, hq, heq]
    · have hmem : a ∈ l := (List.mem_cons.mp ha).resolve_left fun h => hxa h.symm
      rw [List.countP_cons, List.countP_cons, ih hl hmem, hother x hxa]
      omega

/-- A descriptor taken into use. -/
theorem rxInUse_take {r r' : SctpRecv} {i : RxSlot} (hfree : (r.rx i).valid = false)
    (huse : (r'.rx i).valid = true) (hother : ∀ j, j ≠ i → (r'.rx j).valid = (r.rx j).valid) :
    rxInUse r' = rxInUse r + 1 :=
  countP_set (List.nodup_finRange _) (List.mem_finRange i) huse hfree
    fun j hj => (hother j hj).symm

/-- The descriptors in use are the same. -/
theorem rxInUse_congr {r r' : SctpRecv} (h : ∀ j, (r'.rx j).valid = (r.rx j).valid) :
    rxInUse r' = rxInUse r := by
  unfold rxInUse
  simp only [h]

/-! ### Compaction -/

theorem Pooled.off_lt {r : SctpRecv} (h : Pooled r) {i : RxSlot} (hi : Filled r i) :
    (r.rx i).dataOffset + (r.rx i).dataLen ≤ sctpRecvGapBufSize :=
  (h.tiles.bounded i hi).trans h.used

/-- Where the compaction leaves the bytes of a descriptor. -/
theorem Pooled.dropOffset {r : SctpRecv} (h : Pooled r) {i j : RxSlot} (hi : Filled r i)
    (hj : Filled r j) :
    ((nsctpRxDrop r i).rx j).dataOffset =
      if (r.rx i).dataOffset < (r.rx j).dataOffset then (r.rx j).dataOffset - (r.rx i).dataLen
      else (r.rx j).dataOffset := by
  rw [nsctpRxDrop_rx]
  dsimp only
  have hsize : sctpRecvGapBufSize = 4096 := rfl
  by_cases hlt : (r.rx i).dataOffset < (r.rx j).dataOffset
  · have := h.tiles.before hi hj hlt
    have := h.off_lt hj
    rw [if_pos ⟨hj.1, hlt⟩, if_pos hlt, sub16_eq (by omega) (by omega)]
  · rw [if_neg fun h => hlt h.2, if_neg hlt]

theorem filled_drop {r : SctpRecv} {i : RxSlot} (j : RxSlot) :
    Filled (nsctpRxDrop r i) j ↔ j ≠ i ∧ Filled r j := by
  unfold Filled
  rw [nsctpRxDrop_rx]
  dsimp only
  by_cases hij : i = j
  · simp [hij]
  · have hji : j ≠ i := fun h => hij h.symm
    simp [hij, hji]

theorem Pooled.drop {r : SctpRecv} (h : Pooled r) {i : RxSlot} (hi : Filled r i) :
    Pooled (nsctpRxDrop r i) := by
  have hbound := h.off_lt hi
  have hused := h.used
  have hroom := h.room
  have hsize : sctpRecvGapBufSize = 4096 := rfl
  have hfit : (r.rx i).dataOffset + (r.rx i).dataLen ≤ r.recvGapBufUsed := h.tiles.bounded i hi
  have heq : (nsctpRxDrop r i).recvGapBufUsed = r.recvGapBufUsed - (r.rx i).dataLen :=
    sub16_eq (by omega) (by omega)
  constructor
  · rw [heq]
    apply h.tiles.remove hi fun j => filled_drop j
    intro j hji hj
    refine ⟨?_, h.dropOffset hi hj⟩
    rw [nsctpRxDrop_rx]
    exact if_neg fun hij => hji hij.symm
  · rw [heq]
    omega
  · show (writeAt r.recvGapBuf _ _).length = _
    rw [length_writeAt, hroom]
    rw [List.length_take, List.length_drop]
    omega
  · rw [rxInUse_congr (nsctpRxDrop_same r i).valid]
    exact h.count

/-- The compaction keeps what the other descriptors hold. -/
theorem rxBytes_drop {r : SctpRecv} (h : Pooled r) {i j : RxSlot} (hi : Filled r i)
    (hj : (r.rx j).valid = true) (hji : j ≠ i) : rxBytes (nsctpRxDrop r i) j = rxBytes r j := by
  have hlen : ((nsctpRxDrop r i).rx j).dataLen = (r.rx j).dataLen := by
    rw [nsctpRxDrop_rx]
    exact if_neg fun hij => hji hij.symm
  unfold rxBytes
  rw [hlen]
  by_cases hn : (r.rx j).dataLen = 0
  · rw [hn, slice_zero, slice_zero]
  · rw [h.dropOffset hi ⟨hj, hn⟩]
    exact h.tiles.slice_remove (h.room ▸ h.used) hi ⟨hj, hn⟩ hji

theorem Pooled.compact {r : SctpRecv} (h : Pooled r) {i : RxSlot} (hi : (r.rx i).valid = true) :
    Pooled (nsctpRxCompact r i) := by
  unfold nsctpRxCompact
  split
  · rename_i hn
    exact h.drop ⟨hi, hn⟩
  · exact h

theorem rxBytes_compact {r : SctpRecv} (h : Pooled r) {i j : RxSlot} (hi : (r.rx i).valid = true)
    (hj : (r.rx j).valid = true) (hji : j ≠ i) : rxBytes (nsctpRxCompact r i) j = rxBytes r j := by
  unfold nsctpRxCompact
  split
  · rename_i hn
    exact rxBytes_drop h ⟨hi, hn⟩ hj hji
  · rfl

/-- After the compaction the delivered descriptor holds nothing. -/
theorem nsctpRxCompact_dataLen (r : SctpRecv) (i : RxSlot) :
    ((nsctpRxCompact r i).rx i).dataLen = 0 := by
  unfold nsctpRxCompact
  split
  · rw [nsctpRxDrop_rx]
    exact if_pos rfl
  · rename_i hn
    exact Decidable.not_not.mp hn

theorem nsctpRxFree_rx (r : SctpRecv) {i j : RxSlot} (hji : j ≠ i) :
    (nsctpRxFree r i).rx j = r.rx j := by
  show (r.setRx i _).rx j = _
  rw [SctpRecv.rx_setRx, if_neg fun hij => hji hij.symm]

/-- A descriptor without bytes is taken out of use. -/
theorem Pooled.free {r : SctpRecv} (h : Pooled r) {i : RxSlot} (hi : (r.rx i).valid = true)
    (hn : (r.rx i).dataLen = 0) : Pooled (nsctpRxFree r i) := by
  have hfree : ((nsctpRxFree r i).rx i).valid = false := by
    rw [nsctpRxFree_valid]
    simp
  have hfilled (j : RxSlot) : Filled (nsctpRxFree r i) j ↔ Filled r j := by
    by_cases hji : j = i
    · subst hji
      simp [Filled, hfree, hn]
    · unfold Filled
      rw [nsctpRxFree_rx r hji]
  constructor
  · apply h.tiles.congr hfilled
    intro j hj
    have hji : j ≠ i := by
      rintro rfl
      exact hj.2 hn
    rw [nsctpRxFree_rx r hji]
    exact ⟨rfl, rfl⟩
  · exact h.used
  · exact h.room
  · have hcount := rxInUse_take hfree hi fun j hji => congrArg RxEntry.valid (nsctpRxFree_rx r hji).symm
    show r.recvGapCount - 1 = _
    rw [h.count, hcount, Nat.add_sub_cancel]

theorem rxBytes_free (r : SctpRecv) {i j : RxSlot} (hji : j ≠ i) :
    rxBytes (nsctpRxFree r i) j = rxBytes r j := by
  unfold rxBytes
  rw [nsctpRxFree_rx r hji]
  rfl

/-- The turn of the compaction for one descriptor keeps the division, and what the descriptors hold
that are not delivered. -/
theorem Pooled.reclaimSlot {r : SctpRecv} (h : Pooled r) (i : RxSlot) :
    Pooled (nsctpRxReclaimSlot r i) ∧ ∀ j, (r.rx j).valid = true → (r.rx j).delivered = false →
      rxBytes (nsctpRxReclaimSlot r i) j = rxBytes r j := by
  rw [nsctpRxReclaimSlot_eq]
  split
  · rename_i hi
    have hpool := h.compact hi.1
    have hne (j : RxSlot) (hd : (r.rx j).delivered = false) : j ≠ i := by
      rintro rfl
      rw [hi.2] at hd
      exact nomatch hd
    split
    · have hvalid := ((nsctpRxCompact_same r i).valid i).trans hi.1
      refine ⟨hpool.free hvalid (nsctpRxCompact_dataLen r i), fun j hj hd => ?_⟩
      rw [rxBytes_free _ (hne j hd), rxBytes_compact h hi.1 hj (hne j hd)]
    · exact ⟨hpool, fun j hj hd => rxBytes_compact h hi.1 hj (hne j hd)⟩
  · exact ⟨h, fun j _ _ => rfl⟩

theorem foldl_reclaim_pooled (is : List RxSlot) {r : SctpRecv} (h : Pooled r) :
    Pooled (is.foldl nsctpRxReclaimSlot r) ∧
    ∀ j, (r.rx j).valid = true → (r.rx j).delivered = false →
      rxBytes (is.foldl nsctpRxReclaimSlot r) j = rxBytes r j := by
  induction is generalizing r with
  | nil => exact ⟨h, fun j _ _ => rfl⟩
  | cons i is ih =>
    obtain ⟨hpool, hbytes⟩ := h.reclaimSlot i
    obtain ⟨hpool', hbytes'⟩ := ih hpool
    refine ⟨hpool', fun j hj hd => ?_⟩
    obtain ⟨hcore, hvalid, -⟩ := nsctpRxReclaimSlot_core r i j
    have hd' := (RxEntry.core_delivered hcore).trans hd
    have hj' : ((nsctpRxReclaimSlot r i).rx j).valid = true := by
      rw [hvalid, hj]
      simp [Spent, hd]
    rw [List.foldl_cons, hbytes' j hj' hd', hbytes j hj hd]

/-- **Compaction keeps the division of the pool.** -/
theorem Pooled.reclaim {r : SctpRecv} (h : Pooled r) : Pooled (nsctpRxReclaim r) :=
  (foldl_reclaim_pooled _ h).1

/-- **Compaction keeps what waits for delivery.** -/
theorem rxBytes_reclaim {r : SctpRecv} (h : Pooled r) {j : RxSlot} (hj : (r.rx j).valid = true)
    (hd : (r.rx j).delivered = false) : rxBytes (nsctpRxReclaim r) j = rxBytes r j :=
  (foldl_reclaim_pooled _ h).2 j hj hd

/-- Nothing of the table and the pool differs. -/
structure SamePool (r r' : SctpRecv) : Prop where
  recvGap : r'.recvGap = r.recvGap
  recvGapBuf : r'.recvGapBuf = r.recvGapBuf
  recvGapBufUsed : r'.recvGapBufUsed = r.recvGapBufUsed
  recvGapCount : r'.recvGapCount = r.recvGapCount

theorem SamePool.rx {r r' : SctpRecv} (h : SamePool r r') (j : RxSlot) : r'.rx j = r.rx j := by
  unfold SctpRecv.rx
  rw [h.recvGap]

theorem Pooled.same {r r' : SctpRecv} (h : Pooled r) (hsame : SamePool r r') : Pooled r' := by
  constructor
  · rw [hsame.recvGapBufUsed]
    apply h.tiles.congr
    · intro j
      unfold Filled
      rw [hsame.rx]
    · intro j _
      rw [hsame.rx]
      exact ⟨rfl, rfl⟩
  · rw [hsame.recvGapBufUsed]
    exact h.used
  · rw [hsame.recvGapBuf]
    exact h.room
  · rw [hsame.recvGapCount, rxInUse_congr fun j => congrArg RxEntry.valid (hsame.rx j)]
    exact h.count

theorem rxBytes_same {r r' : SctpRecv} (hsame : SamePool r r') (j : RxSlot) :
    rxBytes r' j = rxBytes r j := by
  unfold rxBytes
  rw [hsame.rx, hsame.recvGapBuf]

theorem nsctpGapDrainLoop_pool (r : SctpRecv) :
    SamePool r (nsctpGapDrainLoop sctpMaxRecvGap r) := by
  obtain ⟨k, -, heq, -⟩ := nsctpGapDrainLoop_eq sctpMaxRecvGap r
  rw [heq]
  exact ⟨rfl, rfl, rfl, rfl⟩

theorem Pooled.drain {r : SctpRecv} (h : Pooled r) : Pooled (nsctpGapDrain r) :=
  (h.same (nsctpGapDrainLoop_pool r)).reclaim

theorem rxBytes_drain {r : SctpRecv} (h : Pooled r) {j : RxSlot} (hj : (r.rx j).valid = true)
    (hd : (r.rx j).delivered = false) : rxBytes (nsctpGapDrain r) j = rxBytes r j := by
  have hsame := nsctpGapDrainLoop_pool r
  unfold nsctpGapDrain
  rw [rxBytes_reclaim (h.same hsame) (by rwa [hsame.rx]) (by rwa [hsame.rx]), rxBytes_same hsame]

/-! ### Rotations -/

theorem Pooled.rotateOffset {r : SctpRecv} (h : Pooled r) {i j : RxSlot} {pos : Nat}
    (hi : Filled r i) (hj : Filled r j) (hji : j ≠ i) :
    ((nsctpRxRotate r i pos).rx j).dataOffset =
      if pos ≤ (r.rx j).dataOffset ∧ (r.rx j).dataOffset < (r.rx i).dataOffset then
        (r.rx j).dataOffset + (r.rx i).dataLen
      else (r.rx j).dataOffset := by
  have hsize : sctpRecvGapBufSize = 4096 := rfl
  have := h.off_lt hi
  rw [nsctpRxRotate_rx]
  dsimp only
  rw [if_neg fun hij => hji hij.symm]
  by_cases hmoved : pos ≤ (r.rx j).dataOffset ∧ (r.rx j).dataOffset < (r.rx i).dataOffset
  · rw [if_pos ⟨hj.1, hmoved⟩, if_pos hmoved, Nat.mod_eq_of_lt (by omega)]
  · rw [if_neg fun h => hmoved h.2, if_neg hmoved]

theorem nsctpRxRotate_self (r : SctpRecv) (i : RxSlot) (pos : Nat) :
    ((nsctpRxRotate r i pos).rx i).dataOffset = pos := by
  rw [nsctpRxRotate_rx]
  exact if_pos rfl

theorem nsctpRxRotate_buf (r : SctpRecv) (i : RxSlot) (pos : Nat) :
    (nsctpRxRotate r i pos).recvGapBuf =
      reverseWithin (reverseWithin (reverseWithin r.recvGapBuf pos ((r.rx i).dataOffset - pos))
        (r.rx i).dataOffset (r.rx i).dataLen) pos
        ((r.rx i).dataOffset - pos + (r.rx i).dataLen) := rfl

theorem nsctpRxMove_valid (r : SctpRecv) (i : RxSlot) (pos : Nat) (j : RxSlot) :
    ((nsctpRxMove r i pos).rx j).valid = (r.rx j).valid := (nsctpRxMove_same r i pos).valid j

theorem filled_move {r : SctpRecv} {i : RxSlot} {pos : Nat} (j : RxSlot) :
    Filled (nsctpRxMove r i pos) j ↔ Filled r j := by
  unfold Filled
  rw [nsctpRxMove_valid, nsctpRxMove_dataLen]

/-- The place that a descriptor is rotated to lies between the other descriptors. -/
def Between (r : SctpRecv) (i : RxSlot) (pos : Nat) : Prop :=
  pos ≤ (r.rx i).dataOffset ∧ ∀ j, j ≠ i → Filled r j →
    (r.rx j).dataOffset + (r.rx j).dataLen ≤ pos ∨ pos ≤ (r.rx j).dataOffset

/-- **A rotation keeps the division of the pool.** -/
theorem Pooled.move {r : SctpRecv} (h : Pooled r) {i : RxSlot} {pos : Nat}
    (hi : (r.rx i).valid = true) (hpos : (r.rx i).dataLen ≠ 0 → Between r i pos) :
    Pooled (nsctpRxMove r i pos) := by
  rw [nsctpRxMove_eq]
  split
  · exact h
  · rename_i hno
    rw [not_or] at hno
    have hfill : Filled r i := ⟨hi, hno.2⟩
    obtain ⟨hle, hbetween⟩ := hpos hno.2
    have hmove : nsctpRxMove r i pos = nsctpRxRotate r i pos := by
      rw [nsctpRxMove_eq, if_neg (not_or.mpr hno)]
    have hbound := h.off_lt hfill
    have hroom := h.room
    constructor
    · apply h.tiles.rotate hfill hle hbetween
      · intro j
        rw [← hmove]
        exact filled_move j
      · intro j _
        rw [← hmove, nsctpRxMove_dataLen]
      · exact nsctpRxRotate_self r i pos
      · exact fun j hji hj => h.rotateOffset hfill hj hji
    · exact h.used
    · rw [nsctpRxRotate_buf]
      have h1 : (reverseWithin r.recvGapBuf pos ((r.rx i).dataOffset - pos)).length =
          r.recvGapBuf.length := length_reverseWithin (by omega)
      have h2 := @length_reverseWithin _ (reverseWithin r.recvGapBuf pos
        ((r.rx i).dataOffset - pos)) (r.rx i).dataOffset (r.rx i).dataLen (by omega)
      rw [length_reverseWithin (by omega), h2, h1, hroom]
    · rw [← hmove, rxInUse_congr (nsctpRxMove_valid r i pos), (nsctpRxMove_frame r i pos).2.1]
      exact h.count

/-- **A rotation keeps what every descriptor holds.** -/
theorem rxBytes_move {r : SctpRecv} (h : Pooled r) {i j : RxSlot} {pos : Nat}
    (hi : (r.rx i).valid = true) (hpos : (r.rx i).dataLen ≠ 0 → Between r i pos)
    (hj : (r.rx j).valid = true) : rxBytes (nsctpRxMove r i pos) j = rxBytes r j := by
  by_cases hn : (r.rx j).dataLen = 0
  · unfold rxBytes
    rw [nsctpRxMove_dataLen, hn, slice_zero, slice_zero]
  unfold rxBytes
  rw [nsctpRxMove_dataLen, nsctpRxMove_eq]
  split
  · rfl
  · rename_i hno
    rw [not_or] at hno
    have hfill : Filled r i := ⟨hi, hno.2⟩
    obtain ⟨hle, hbetween⟩ := hpos hno.2
    rw [nsctpRxRotate_buf]
    apply h.tiles.slice_rotate (h.room ▸ h.used) hfill hle hbetween ⟨hj, hn⟩
    · rintro rfl
      exact nsctpRxRotate_self r j pos
    · exact fun hji => h.rotateOffset hfill ⟨hj, hn⟩ hji

/-- After the rotation the descriptor is at its place. -/
theorem nsctpRxMove_self (r : SctpRecv) {i : RxSlot} (pos : Nat) (hn : (r.rx i).dataLen ≠ 0) :
    ((nsctpRxMove r i pos).rx i).dataOffset = pos := by
  rw [nsctpRxMove_eq]
  split
  · rename_i h
    exact h.resolve_right hn
  · exact nsctpRxRotate_self r i pos

theorem between_zero (r : SctpRecv) (i : RxSlot) : Between r i 0 :=
  ⟨Nat.zero_le _, fun _ _ _ => .inr (Nat.zero_le _)⟩

/-- Behind a descriptor at the front. -/
theorem Pooled.between_behind {r : SctpRecv} (h : Pooled r) {i j : RxSlot} (hij : i ≠ j)
    (hi : Filled r i) (hj : Filled r j) (hfront : (r.rx i).dataOffset = 0) :
    Between r j (r.rx i).dataLen := by
  have hbehind (k : RxSlot) (hki : k ≠ i) (hk : Filled r k) :
      (r.rx i).dataLen ≤ (r.rx k).dataOffset := by
    have := h.tiles.apart k i hk hi hki
    have := h.tiles.pos k hk
    omega
  refine ⟨hbehind j hij.symm hj, fun k hkj hk => ?_⟩
  by_cases hki : k = i
  · subst hki
    exact .inl (by omega)
  · exact .inr (hbehind k hki hk)

/-! ### Joins -/

/-- The alignment of two descriptors with bytes. -/
theorem Pooled.align {r : SctpRecv} (h : Pooled r) {i j : RxSlot} (hij : i ≠ j) (hi : Filled r i)
    (hj : Filled r j) :
    Pooled (nsctpRxAlign r i j) ∧
    (∀ k, (r.rx k).valid = true → rxBytes (nsctpRxAlign r i j) k = rxBytes r k) ∧
    ((nsctpRxAlign r i j).rx j).dataOffset =
      ((nsctpRxAlign r i j).rx i).dataOffset + ((nsctpRxAlign r i j).rx i).dataLen := by
  have h1 : Pooled (nsctpRxMove r i 0) := h.move hi.1 fun _ => between_zero r i
  have hfront := nsctpRxMove_self r 0 hi.2
  have hi1 : Filled (nsctpRxMove r i 0) i := (filled_move i).mpr hi
  have hj1 : Filled (nsctpRxMove r i 0) j := (filled_move j).mpr hj
  have hbetween := h1.between_behind hij hi1 hj1 hfront
  refine ⟨h1.move hj1.1 fun _ => hbetween, fun k hk => ?_, ?_⟩
  · have hk1 := (nsctpRxMove_valid r i 0 k).trans hk
    exact (rxBytes_move h1 hj1.1 (fun _ => hbetween) hk1).trans
      (rxBytes_move h hi.1 (fun _ => between_zero r i) hk)
  · -- the second descriptor is moved behind the first, which stays at the front
    have hself : ((nsctpRxAlign r i j).rx j).dataOffset = ((nsctpRxMove r i 0).rx i).dataLen :=
      nsctpRxMove_self _ _ hj1.2
    have hkeep : ((nsctpRxAlign r i j).rx i).dataOffset = 0 := by
      unfold nsctpRxAlign
      dsimp only
      rw [nsctpRxMove_eq]
      split
      · exact hfront
      · rw [h1.rotateOffset hj1 hi1 hij, hfront, if_neg fun hle => hi1.2 (Nat.le_zero.mp hle.1)]
    rw [hself, hkeep, nsctpRxAlign_dataLen, nsctpRxMove_dataLen, Nat.zero_add]

theorem nsctpRxTakeOver_first (r : SctpRecv) {i j : RxSlot} (hij : i ≠ j) :
    ((nsctpRxTakeOver r i j).rx i).dataOffset = (r.rx i).dataOffset ∧
    ((nsctpRxTakeOver r i j).rx i).dataLen = (r.rx i).dataLen + (r.rx j).dataLen ∧
    ((nsctpRxTakeOver r i j).rx i).valid = (r.rx i).valid := by
  rw [nsctpRxTakeOver_rx, if_neg fun hji => hij hji.symm, if_pos rfl]
  exact ⟨rfl, rfl, rfl⟩

theorem nsctpRxTakeOver_second (r : SctpRecv) (i j : RxSlot) :
    (nsctpRxTakeOver r i j).rx j = { r.rx j with valid := false } := by
  rw [nsctpRxTakeOver_rx, if_pos rfl]

theorem nsctpRxTakeOver_other (r : SctpRecv) {i j k : RxSlot} (hki : k ≠ i) (hkj : k ≠ j) :
    (nsctpRxTakeOver r i j).rx k = r.rx k := by
  rw [nsctpRxTakeOver_rx, if_neg fun h => hkj h.symm, if_neg fun h => hki h.symm]

/-- The first descriptor of a join takes over a neighbour with bytes. -/
theorem Pooled.takeOver {r : SctpRecv} (h : Pooled r) {i j : RxSlot} (hij : i ≠ j)
    (hi : Filled r i) (hj : Filled r j)
    (hnext : (r.rx j).dataOffset = (r.rx i).dataOffset + (r.rx i).dataLen) :
    Pooled (nsctpRxTakeOver r i j) := by
  have hrx_i := nsctpRxTakeOver_first r hij
  have hrx_j : ((nsctpRxTakeOver r i j).rx j).valid = false := by rw [nsctpRxTakeOver_second]
  have hrx (k : RxSlot) (hki : k ≠ i) (hkj : k ≠ j) := nsctpRxTakeOver_other r hki hkj
  have hfilled (k : RxSlot) : Filled (nsctpRxTakeOver r i j) k ↔ k ≠ j ∧ Filled r k := by
    by_cases hkj : k = j
    · subst hkj
      simp [Filled, hrx_j]
    · by_cases hki : k = i
      · subst hki
        have := hi.2
        simp only [Filled, hrx_i.2.2, hrx_i.2.1, hi.1, ne_eq, hkj, not_false_eq_true, true_and]
        omega
      · unfold Filled
        rw [hrx k hki hkj]
        simp [hkj]
  constructor
  · apply h.tiles.join hij hi hj hnext hfilled hrx_i.2.1
    · intro k hki hk
      by_cases hkj : k = j
      · subst hkj
        rw [nsctpRxTakeOver_second]
      · rw [hrx k hki hkj]
    · intro k _
      by_cases hkj : k = j
      · subst hkj
        rw [nsctpRxTakeOver_second]
      · by_cases hki : k = i
        · subst hki
          exact hrx_i.1
        · rw [hrx k hki hkj]
  · exact h.used
  · exact h.room
  · have hcount := rxInUse_take hrx_j hj.1 fun k hkj => by
      by_cases hki : k = i
      · subst hki
        exact hrx_i.2.2.symm
      · rw [hrx k hki hkj]
    show r.recvGapCount - 1 = _
    rw [h.count, hcount, Nat.add_sub_cancel]

/-- A neighbour without bytes is only taken out of use. -/
theorem Pooled.takeOver_empty {r : SctpRecv} (h : Pooled r) {i j : RxSlot} (hij : i ≠ j)
    (hj : (r.rx j).valid = true) (hn : (r.rx j).dataLen = 0) : Pooled (nsctpRxTakeOver r i j) := by
  have hrx_i := nsctpRxTakeOver_first r hij
  have hrx_j : ((nsctpRxTakeOver r i j).rx j).valid = false := by rw [nsctpRxTakeOver_second]
  have hplace (k : RxSlot) (hkj : k ≠ j) :
      ((nsctpRxTakeOver r i j).rx k).valid = (r.rx k).valid ∧
      ((nsctpRxTakeOver r i j).rx k).dataOffset = (r.rx k).dataOffset ∧
      ((nsctpRxTakeOver r i j).rx k).dataLen = (r.rx k).dataLen := by
    by_cases hki : k = i
    · subst hki
      exact ⟨hrx_i.2.2, hrx_i.1, by rw [hrx_i.2.1, hn, Nat.add_zero]⟩
    · rw [nsctpRxTakeOver_other r hki hkj]
      exact ⟨rfl, rfl, rfl⟩
  constructor
  · apply h.tiles.congr
    · intro k
      by_cases hkj : k = j
      · subst hkj
        simp [Filled, hrx_j, hn]
      · unfold Filled
        rw [(hplace k hkj).1, (hplace k hkj).2.2]
    · intro k hk
      have hkj : k ≠ j := by
        rintro rfl
        exact hk.2 hn
      exact (hplace k hkj).2
  · exact h.used
  · exact h.room
  · have hcount := rxInUse_take hrx_j hj fun k hkj => (hplace k hkj).1.symm
    show r.recvGapCount - 1 = _
    rw [h.count, hcount, Nat.add_sub_cancel]

/-- What the first descriptor of a join holds afterwards. -/
theorem rxBytes_takeOver (r : SctpRecv) {i j : RxSlot} (hij : i ≠ j)
    (hnext : (r.rx j).dataLen ≠ 0 →
      (r.rx j).dataOffset = (r.rx i).dataOffset + (r.rx i).dataLen) :
    rxBytes (nsctpRxTakeOver r i j) i = rxBytes r i ++ rxBytes r j := by
  obtain ⟨hoff, hlen, -⟩ := nsctpRxTakeOver_first r hij
  have hbuf : (nsctpRxTakeOver r i j).recvGapBuf = r.recvGapBuf := rfl
  unfold rxBytes
  rw [hoff, hlen, hbuf, slice_add]
  by_cases hn : (r.rx j).dataLen = 0
  · rw [hn, slice_zero, slice_zero]
  · rw [hnext hn]

/-- **A join keeps the division of the pool**, if the first descriptor has bytes. -/
theorem Pooled.join {r : SctpRecv} (h : Pooled r) {i j : RxSlot} (hij : i ≠ j) (hi : Filled r i)
    (hj : (r.rx j).valid = true) :
    Pooled (nsctpRxJoin r i j) ∧
    rxBytes (nsctpRxJoin r i j) i = rxBytes r i ++ rxBytes r j ∧
    ∀ k, k ≠ i → k ≠ j → (r.rx k).valid = true → rxBytes (nsctpRxJoin r i j) k = rxBytes r k := by
  have hother (t : SctpRecv) (k : RxSlot) (hki : k ≠ i) (hkj : k ≠ j) :
      rxBytes (nsctpRxTakeOver t i j) k = rxBytes t k := by
    unfold rxBytes
    rw [nsctpRxTakeOver_other t hki hkj]
    rfl
  unfold nsctpRxJoin
  by_cases hn : (r.rx j).dataLen = 0
  · -- the second move of the alignment does nothing
    have halign : nsctpRxAlign r i j = nsctpRxMove r i 0 := by
      unfold nsctpRxAlign
      dsimp only
      rw [nsctpRxMove_eq, if_pos (.inr (by rw [nsctpRxMove_dataLen, hn]))]
    have hpool : Pooled (nsctpRxMove r i 0) := h.move hi.1 fun _ => between_zero r i
    have hbytes (k : RxSlot) (hk : (r.rx k).valid = true) :=
      rxBytes_move h hi.1 (fun _ => between_zero r i) hk
    have hj1 : ((nsctpRxMove r i 0).rx j).valid = true := by rw [nsctpRxMove_valid, hj]
    have hn1 : ((nsctpRxMove r i 0).rx j).dataLen = 0 := by rw [nsctpRxMove_dataLen, hn]
    rw [halign]
    refine ⟨hpool.takeOver_empty hij hj1 hn1, ?_, fun k hki hkj hk => ?_⟩
    · rw [rxBytes_takeOver _ hij fun h => absurd hn1 h, hbytes i hi.1, hbytes j hj]
    · rw [hother _ k hki hkj, hbytes k hk]
  · obtain ⟨hpool, hbytes, hnext⟩ := h.align hij hi ⟨hj, hn⟩
    have hfill (k : RxSlot) (hk : Filled r k) : Filled (nsctpRxAlign r i j) k := by
      unfold Filled
      rw [nsctpRxAlign_dataLen, (nsctpRxAlign_same r i j).valid]
      exact hk
    refine ⟨hpool.takeOver hij (hfill i hi) (hfill j ⟨hj, hn⟩) hnext, ?_, fun k hki hkj hk => ?_⟩
    · rw [rxBytes_takeOver _ hij fun _ => hnext, hbytes i hi.1, hbytes j hj]
    · rw [hother _ k hki hkj, hbytes k hk]

/-! ### Storing -/

theorem nsctpStore_other (r : SctpRecv) {slot i : RxSlot} (d : NsctpData) (hi : i ≠ slot) :
    (nsctpStore r slot d).rx i = r.rx i := by
  rw [nsctpStore_rx, if_neg fun h => hi h.symm]

theorem nsctpStore_self (r : SctpRecv) (slot : RxSlot) (d : NsctpData) :
    (nsctpStore r slot d).rx slot = { nsctpIncoming d with dataOffset := r.recvGapBufUsed } := by
  rw [nsctpStore_rx, if_pos rfl]

/-- **Storing keeps the division of the pool.** -/
theorem Pooled.store {r : SctpRecv} (h : Pooled r) {slot : RxSlot} {d : NsctpData}
    (hfree : (r.rx slot).valid = false)
    (hfit : r.recvGapBufUsed + d.payload.length ≤ sctpRecvGapBufSize) :
    Pooled (nsctpStore r slot d) := by
  have hself := nsctpStore_self r slot d
  have hdead : ¬Filled r slot := by simp [Filled, hfree]
  have hroom := h.room
  constructor
  · by_cases hn : d.payload.length = 0
    · -- an empty payload takes no place
      have hused : (nsctpStore r slot d).recvGapBufUsed = r.recvGapBufUsed := by
        show r.recvGapBufUsed + d.payload.length = _
        omega
      rw [hused]
      apply h.tiles.congr
      · intro i
        by_cases hi : i = slot
        · subst hi
          simp [Filled, hself, nsctpIncoming, hn, hfree]
        · unfold Filled
          rw [nsctpStore_other r d hi]
      · intro i hi
        have hne : i ≠ slot := by
          rintro rfl
          exact hdead hi
        rw [nsctpStore_other r d hne]
        exact ⟨rfl, rfl⟩
    · have hused : (nsctpStore r slot d).recvGapBufUsed =
          r.recvGapBufUsed + ((nsctpStore r slot d).rx slot).dataLen := by
        rw [hself]
        rfl
      rw [hused]
      apply h.tiles.append (k := slot)
      · rw [Filled, hself]
        exact ⟨rfl, hn⟩
      · rw [hself]
      · rw [hself]
        exact Nat.pos_of_ne_zero hn
      · intro i hi
        unfold Filled
        rw [nsctpStore_other r d hi]
        exact ⟨Iff.rfl, fun _ => ⟨rfl, rfl⟩⟩
      · exact hdead
  · exact hfit
  · show (writeAt r.recvGapBuf r.recvGapBufUsed d.payload).length = _
    rw [length_writeAt _ _ _ (by omega), hroom]
  · have hcount := @rxInUse_take r (nsctpStore r slot d) slot hfree (by rw [hself]; rfl)
      fun j hj => congrArg RxEntry.valid (nsctpStore_other r d hj)
    show r.recvGapCount + 1 = _
    rw [h.count, hcount]

/-- What the new descriptor holds, and that the others keep what they hold. -/
theorem rxBytes_store {r : SctpRecv} (h : Pooled r) {slot : RxSlot} {d : NsctpData}
    (hfree : (r.rx slot).valid = false)
    (hfit : r.recvGapBufUsed + d.payload.length ≤ sctpRecvGapBufSize) :
    rxBytes (nsctpStore r slot d) slot = d.payload ∧
    ∀ i, (r.rx i).valid = true → rxBytes (nsctpStore r slot d) i = rxBytes r i := by
  have hroom := h.room
  constructor
  · unfold rxBytes
    rw [nsctpStore_self]
    exact slice_writeAt r.recvGapBuf d.payload r.recvGapBufUsed (by omega)
  · intro i hi
    have hne : i ≠ slot := by
      rintro rfl
      rw [hfree] at hi
      exact nomatch hi
    unfold rxBytes
    rw [nsctpStore_other r d hne]
    by_cases hn : (r.rx i).dataLen = 0
    · rw [hn, slice_zero, slice_zero]
    · show slice (writeAt r.recvGapBuf r.recvGapBufUsed d.payload) _ _ = _
      exact slice_writeAt_before _ _ (by omega) (h.tiles.bounded i ⟨hi, hn⟩)

/-! ### Marks -/

/-- The tables differ only in marks that say nothing about bytes. -/
structure SameBytes (r r' : SctpRecv) : Prop where
  place : ∀ i, (r'.rx i).valid = (r.rx i).valid ∧ (r'.rx i).dataOffset = (r.rx i).dataOffset ∧
    (r'.rx i).dataLen = (r.rx i).dataLen
  recvGapBuf : r'.recvGapBuf = r.recvGapBuf
  recvGapBufUsed : r'.recvGapBufUsed = r.recvGapBufUsed
  recvGapCount : r'.recvGapCount = r.recvGapCount

theorem Pooled.marks {r r' : SctpRecv} (h : Pooled r) (hsame : SameBytes r r') : Pooled r' := by
  constructor
  · rw [hsame.recvGapBufUsed]
    apply h.tiles.congr
    · intro i
      unfold Filled
      rw [(hsame.place i).1, (hsame.place i).2.2]
    · exact fun i _ => (hsame.place i).2
  · rw [hsame.recvGapBufUsed]
    exact h.used
  · rw [hsame.recvGapBuf]
    exact h.room
  · rw [hsame.recvGapCount, rxInUse_congr fun i => (hsame.place i).1]
    exact h.count

theorem rxBytes_marks {r r' : SctpRecv} (hsame : SameBytes r r') (i : RxSlot) :
    rxBytes r' i = rxBytes r i := by
  unfold rxBytes
  rw [(hsame.place i).2.1, (hsame.place i).2.2, hsame.recvGapBuf]

/-- The descriptor marked as delivered. -/
def rxDeliver (r : SctpRecv) (j : RxSlot) : SctpRecv :=
  r.setRx j { r.rx j with delivered := true }

theorem rxDeliver_rx (r : SctpRecv) (j k : RxSlot) :
    (rxDeliver r j).rx k = { r.rx k with delivered := (r.rx k).delivered || decide (j = k) } := by
  unfold rxDeliver
  rw [SctpRecv.rx_setRx]
  split
  · rename_i h
    subst h
    simp
  · rename_i h
    simp [h]

theorem rxDeliver_same (r : SctpRecv) (j : RxSlot) : SameBytes r (rxDeliver r j) :=
  ⟨fun i => by rw [rxDeliver_rx]; exact ⟨rfl, rfl, rfl⟩, rfl, rfl, rfl⟩

/-! ### Assembly -/

/-- One part of a message moved behind the `pos` bytes in front. -/
def nsctpAssembleStep (p : SctpRecv × Nat) (j : RxSlot) : SctpRecv × Nat :=
  (rxDeliver (nsctpRxMove p.1 j p.2) j, p.2 + (p.1.rx j).dataLen)

theorem nsctpAssemble_eq (r : SctpRecv) (parts : List RxSlot) :
    nsctpAssemble r parts = parts.foldl nsctpAssembleStep (r, 0) := by
  unfold nsctpAssemble
  congr 1
  funext p j
  unfold nsctpAssembleStep rxDeliver
  dsimp only
  rw [nsctpRxMove_dataLen]

/-- The parts that were moved fill the front of the pool, the others lie behind it. -/
structure Fronted (r : SctpRecv) (pos : Nat) (moved : List RxSlot) : Prop where
  pooled : Pooled r
  front : ∀ k ∈ moved, Filled r k → (r.rx k).dataOffset + (r.rx k).dataLen ≤ pos
  behind : ∀ k, k ∉ moved → Filled r k → pos ≤ (r.rx k).dataOffset
  bytes : r.recvGapBuf.take pos = moved.flatMap (rxBytes r)

/-- A rotation touches nothing in front of the place. -/
theorem take_rotate (b : List UInt8) {pos off n : Nat} (hpos : pos ≤ off)
    (h : off + n ≤ b.length) :
    (reverseWithin (reverseWithin (reverseWithin b pos (off - pos)) off n) pos
      (off - pos + n)).take pos = b.take pos := by
  apply List.ext_getElem?
  intro k
  rw [List.getElem?_take, List.getElem?_take]
  split
  · rw [getElem?_rotate b hpos h, if_neg (by omega), if_neg (by omega)]
  · rfl

theorem Fronted.step {r : SctpRecv} {pos : Nat} {moved : List RxSlot} (h : Fronted r pos moved)
    {j : RxSlot} (hj : (r.rx j).valid = true) (hnew : j ∉ moved)
    (hmoved : ∀ k ∈ moved, (r.rx k).valid = true) :
    Fronted (nsctpAssembleStep (r, pos) j).1 (nsctpAssembleStep (r, pos) j).2 (moved ++ [j]) ∧
    ∀ k, (r.rx k).valid = true →
      rxBytes (nsctpAssembleStep (r, pos) j).1 k = rxBytes r k := by
  have hbetween : (r.rx j).dataLen ≠ 0 → Between r j pos := by
    intro hn
    refine ⟨h.behind j hnew ⟨hj, hn⟩, fun k hkj hk => ?_⟩
    by_cases hkm : k ∈ moved
    · exact .inl (h.front k hkm hk)
    · exact .inr (h.behind k hkm hk)
  have hpool := h.pooled.move hj hbetween
  have hmarks := rxDeliver_same (nsctpRxMove r j pos) j
  have hkeep (k : RxSlot) (hk : (r.rx k).valid = true) :
      rxBytes (rxDeliver (nsctpRxMove r j pos) j) k = rxBytes r k := by
    rw [rxBytes_marks hmarks, rxBytes_move h.pooled hj hbetween hk]
  have hfill (k : RxSlot) : Filled (rxDeliver (nsctpRxMove r j pos) j) k ↔ Filled r k := by
    unfold Filled
    rw [(hmarks.place k).1, (hmarks.place k).2.2, nsctpRxMove_valid, nsctpRxMove_dataLen]
  have hlen (k : RxSlot) : ((rxDeliver (nsctpRxMove r j pos) j).rx k).dataLen = (r.rx k).dataLen :=
    (hmarks.place k).2.2.trans (nsctpRxMove_dataLen r j pos k)
  have hoff (k : RxSlot) : ((rxDeliver (nsctpRxMove r j pos) j).rx k).dataOffset =
      ((nsctpRxMove r j pos).rx k).dataOffset := (hmarks.place k).2.1
  refine ⟨?_, hkeep⟩
  show Fronted (rxDeliver (nsctpRxMove r j pos) j) (pos + (r.rx j).dataLen) (moved ++ [j])
  have hflat : (moved ++ [j]).flatMap (rxBytes (rxDeliver (nsctpRxMove r j pos) j)) =
      moved.flatMap (rxBytes r) ++ rxBytes r j := by
    rw [List.flatMap_append, List.flatMap_singleton, hkeep j hj]
    congr 1
    exact List.flatMap_congr fun k hk => hkeep k (hmoved k hk)
  by_cases hn : (r.rx j).dataLen = 0
  · -- a part without bytes stays where it is
    have hstay : nsctpRxMove r j pos = r := by rw [nsctpRxMove_eq, if_pos (.inr hn)]
    have hempty : rxBytes r j = [] := by
      unfold rxBytes
      rw [hn, slice_zero]
    refine ⟨hpool.marks hmarks, fun k hk hf => ?_, fun k hk hf => ?_, ?_⟩
    · rw [hoff, hlen, hstay, hn]
      rw [hfill] at hf
      rw [List.mem_append, List.mem_singleton] at hk
      cases hk with
      | inl hk => exact h.front k hk hf
      | inr hk =>
        subst hk
        exact absurd hn hf.2
    · rw [hoff, hstay, hn]
      rw [hfill] at hf
      exact h.behind k (fun hkm => hk (List.mem_append_left _ hkm)) hf
    · rw [hflat, hempty, List.append_nil, hn, hmarks.recvGapBuf, hstay]
      exact h.bytes
  · have hfj : Filled r j := ⟨hj, hn⟩
    have hself := nsctpRxMove_self r pos hn
    obtain ⟨hle, -⟩ := hbetween hn
    have hrot : nsctpRxMove r j pos = r ∧ (r.rx j).dataOffset = pos ∨
        nsctpRxMove r j pos = nsctpRxRotate r j pos := by
      rw [nsctpRxMove_eq]
      split
      · rename_i hor
        exact .inl ⟨rfl, hor.resolve_right hn⟩
      · exact .inr rfl
    have hoffset (k : RxSlot) (hkj : k ≠ j) (hk : Filled r k) :
        ((nsctpRxMove r j pos).rx k).dataOffset =
          if pos ≤ (r.rx k).dataOffset ∧ (r.rx k).dataOffset < (r.rx j).dataOffset then
            (r.rx k).dataOffset + (r.rx j).dataLen
          else (r.rx k).dataOffset := by
      cases hrot with
      | inl hstay =>
        rw [hstay.1, if_neg]
        omega
      | inr hrot =>
        rw [hrot]
        exact h.pooled.rotateOffset hfj hk hkj
    refine ⟨hpool.marks hmarks, fun k hk hf => ?_, fun k hk hf => ?_, ?_⟩
    · rw [hfill] at hf
      rw [hoff, hlen]
      by_cases hkj : k = j
      · rw [hkj, hself]
      · have hkm : k ∈ moved := by
          rw [List.mem_append, List.mem_singleton] at hk
          exact hk.resolve_right hkj
        have := h.front k hkm hf
        have := h.pooled.tiles.pos k hf
        rw [hoffset k hkj hf, if_neg (by omega)]
        omega
    · rw [hfill] at hf
      rw [List.mem_append, List.mem_singleton, not_or] at hk
      have := h.behind k hk.1 hf
      have := h.pooled.tiles.apart k j hf hfj hk.2
      have := h.pooled.tiles.pos k hf
      rw [hoff, hoffset k hk.2 hf]
      split <;> omega
    · have hfront : (nsctpRxMove r j pos).recvGapBuf.take pos = r.recvGapBuf.take pos := by
        cases hrot with
        | inl hstay => rw [hstay.1]
        | inr hrot =>
          have := h.pooled.off_lt hfj
          have := h.pooled.room
          rw [hrot, nsctpRxRotate_buf]
          exact take_rotate _ hle (by omega)
      have hbytes : slice (nsctpRxMove r j pos).recvGapBuf pos (r.rx j).dataLen = rxBytes r j := by
        rw [← rxBytes_move h.pooled hj hbetween hj]
        unfold rxBytes
        rw [hself, nsctpRxMove_dataLen]
      rw [hflat, hmarks.recvGapBuf, ← slice_front, slice_add, slice_front, hfront, Nat.zero_add,
        hbytes, h.bytes]

/-- **A gathered message is the contents of its parts, one after the other.** -/
theorem nsctpAssemble_data {r : SctpRecv} (h : Pooled r) {parts : List RxSlot}
    (hnodup : parts.Nodup) (hvalid : ∀ j ∈ parts, (r.rx j).valid = true) :
    (nsctpAssemble r parts).1.recvGapBuf.take (nsctpAssemble r parts).2 =
      parts.flatMap (rxBytes r) ∧
    Pooled (nsctpAssemble r parts).1 ∧
    ∀ k, (r.rx k).valid = true → rxBytes (nsctpAssemble r parts).1 k = rxBytes r k := by
  have key (rest moved : List RxSlot) (p : SctpRecv × Nat) (hp : Fronted p.1 p.2 moved)
      (hnodup : (moved ++ rest).Nodup) (hv : ∀ j ∈ moved ++ rest, (p.1.rx j).valid = true) :
      Fronted (rest.foldl nsctpAssembleStep p).1 (rest.foldl nsctpAssembleStep p).2
        (moved ++ rest) ∧
      ∀ k, (p.1.rx k).valid = true →
        rxBytes (rest.foldl nsctpAssembleStep p).1 k = rxBytes p.1 k := by
    induction rest generalizing moved p with
    | nil =>
      rw [List.append_nil]
      exact ⟨hp, fun k _ => rfl⟩
    | cons j rest ih =>
      have hj : j ∉ moved := by
        intro hmem
        exact (List.nodup_append.mp hnodup).2.2 j hmem j List.mem_cons_self rfl
      obtain ⟨hstep, hkeep⟩ := hp.step (hv j (by simp)) hj
        fun k hk => hv k (List.mem_append_left _ hk)
      have hstay (k : RxSlot) : ((nsctpAssembleStep p j).1.rx k).valid = (p.1.rx k).valid := by
        unfold nsctpAssembleStep
        dsimp only
        rw [((rxDeliver_same _ j).place k).1, nsctpRxMove_valid]
      have happend : moved ++ j :: rest = moved ++ [j] ++ rest := by simp
      rw [happend] at hnodup hv ⊢
      obtain ⟨hrest, hkeep'⟩ := ih (moved ++ [j]) (nsctpAssembleStep p j) hstep hnodup
        fun k hk => (hstay k).trans (hv k hk)
      refine ⟨hrest, fun k hk => ?_⟩
      rw [List.foldl_cons, hkeep' k ((hstay k).trans hk), hkeep k hk]
  have h0 : Fronted r 0 [] :=
    ⟨h, fun k hk => absurd hk List.not_mem_nil, fun k _ _ => Nat.zero_le _, rfl⟩
  rw [nsctpAssemble_eq]
  obtain ⟨hfront, hkeep⟩ := key parts [] (r, 0) h0 hnodup hvalid
  refine ⟨?_, hfront.pooled, hkeep⟩
  rw [hfront.bytes, List.nil_append]
  exact List.flatMap_congr fun k hk => hkeep k (hvalid k hk)

end Nanortc.Spec
