import Mathlib
import Nanortc.Native.SctpTables

/-!
# SCTP tables of every admitted size

The cursors, counts and loop indices of the SCTP tables are 8-bit. With sizes of at most 128 the
send queue and the output ring hold what was queued, a full one differs from an empty one, and every
loop ends. The checks of `nanortc_config.h` admit any larger power of two for two of the tables, and
any size at all for the output ring.

## Key results

- `ringLogged_holds`: one call on a ring and the list it holds
- `ringSound_run`, `gapSound_run`: every run of calls, for addressable sizes
- `not_ringCorrect_large`, `not_ringCorrect_of_not_pow2`, `not_gapCorrect_large`: the other sizes
- `tables_correct_iff`: the sizes whose tables are correct
-/

namespace Nanortc.Spec

open Nanortc.ForStd Nanortc.Native

/-! ### Rings -/

section

variable {α : Type} {size : Nat}

/-- A ring with the list of what was queued in it and not yet released. -/
def ringLogged (size : Nat) (s : CellRing α × List α) (c : RingCall α) : CellRing α × List α :=
  (ringCall size s.1 c,
    match c with
    | .send xs => if nsctpSendRoom size s.1 xs.length then s.2 ++ xs else s.2
    | .queue x => if nsctpRingFull size s.1 then s.2 else s.2 ++ [x]
    | .release => if s.1.head ≠ s.1.tail then s.2.drop 1 else s.2
    | .mark k f => if k < s.1.count.toNat then s.2.modify k f else s.2)

/-- The ring of a new association. -/
def ringInit (x : α) : CellRing α × List α := (⟨fun _ => x, 0, 0⟩, [])

/-- What holds of a ring that works: it holds what was queued, full and empty are told apart,
accesses are in range, and the loops over it end. -/
structure RingSound (size : Nat) (r : CellRing α) (l : List α) : Prop where
  holds : r.Holds size l
  empty_iff : r.head = r.tail ↔ l = []
  full_iff : nsctpRingFull size r = true ↔ l.length = size
  room_iff : ∀ n, nsctpSendRoom size r n = true ↔ l.length + n ≤ size
  inRange : ∀ i, ringCell size i < size
  forwards : ∀ {σ : Type} (body : UInt8 → σ → LoopFlow σ) (s : σ), ∃ turns,
    forLoop (· != r.tail) body turns r.head s = some (visit body (counters r.head l.length) s)
  backwards : ∀ (stop : UInt8 → Bool) (k : Nat), k < l.length → ∃ turns j, j ≤ k ∧
    backLoop stop r.head turns (r.head + UInt8.ofNat k) = some (r.head + UInt8.ofNat j)

/-- A size whose rings work in every run of calls. -/
def RingCorrect (α : Type) (size : Nat) : Prop :=
  ∀ (x : α) (calls : List (RingCall α)),
    RingSound size (run (ringLogged size) (ringInit x) calls).1
      (run (ringLogged size) (ringInit x) calls).2

theorem nsctpRingFull_iff {r : CellRing α} {l : List α} (h : r.Holds size l) :
    nsctpRingFull size r = true ↔ l.length = size := by
  have hroom := h.room
  rw [nsctpRingFull, h.count, decide_eq_true_iff]
  omega

theorem nsctpSendRoom_iff {r : CellRing α} {l : List α} (h : r.Holds size l) (n : Nat) :
    nsctpSendRoom size r n = true ↔ l.length + n ≤ size := by
  have hroom := h.room
  rw [nsctpSendRoom, sqCount, h.count]
  simp only [Bool.not_eq_true', Bool.or_eq_false_iff, decide_eq_false_iff_not]
  omega

/-- A ring of an addressable size that holds its list works. -/
theorem RingSound.of_holds (hsize : CellRing.Addressable size) {r : CellRing α} {l : List α}
    (h : r.Holds size l) : RingSound size r l where
  holds := h
  empty_iff := h.empty_iff
  full_iff := nsctpRingFull_iff h
  room_iff := nsctpSendRoom_iff h
  inRange := ringCell_lt hsize.pos
  forwards body s := ⟨l.length + 1, h.forLoop body s⟩
  backwards stop k hk := by
    have hroom := h.room
    have hsmall := hsize.small
    obtain ⟨j, hj, hloop, -⟩ := backLoop_counters stop r.head k (by omega)
    exact ⟨k + 1, j, hj, hloop⟩

/-- The fragments of a message are queued one behind the other. -/
theorem holds_foldl_push (hsize : CellRing.Addressable size) {r : CellRing α} {l xs : List α}
    (h : r.Holds size l) (hroom : l.length + xs.length ≤ size) :
    (xs.foldl (CellRing.push size) r).Holds size (l ++ xs) := by
  induction xs generalizing r l with
  | nil => rwa [List.append_nil]
  | cons x xs ih =>
    rw [List.length_cons] at hroom
    have hpush := h.push hsize (by omega) x
    have := ih hpush (by rw [List.length_append, List.length_singleton]; omega)
    rwa [List.append_assoc, List.singleton_append] at this

/-- **One call keeps the ring and its list together.** -/
theorem ringLogged_holds (hsize : CellRing.Addressable size) {s : CellRing α × List α}
    (h : s.1.Holds size s.2) (c : RingCall α) :
    (ringLogged size s c).1.Holds size (ringLogged size s c).2 := by
  cases c with
  | send xs =>
    simp only [ringLogged, ringCall]
    split
    · rename_i hadmit
      exact holds_foldl_push hsize h ((nsctpSendRoom_iff h _).mp hadmit)
    · exact h
  | queue x =>
    simp only [ringLogged, ringCall]
    split
    · exact h
    · rename_i hfull
      have hroom := h.room
      exact h.push hsize (by have := mt (nsctpRingFull_iff h).mpr hfull; omega) x
  | release =>
    simp only [ringLogged, ringCall]
    split
    · rename_i hne
      cases hl : s.2 with
      | nil => exact absurd (h.empty_iff.mpr hl) hne
      | cons x l =>
        rw [hl] at h
        exact h.pop
    · exact h
  | mark k f =>
    simp only [ringLogged, ringCall]
    split
    · rename_i hk
      exact h.modify hsize (by rwa [h.count] at hk) f
    · exact h

/-- **Every run of calls** leaves a ring that works. -/
theorem ringSound_run (hsize : CellRing.Addressable size) : RingCorrect α size := fun x calls =>
  RingSound.of_holds hsize
    (run_invariant (P := fun s : CellRing α × List α => s.1.Holds size s.2)
      (fun _ c h => ringLogged_holds hsize h c) (CellRing.holds_empty x 0) calls)

/-- As long as there is room every packet is queued, and the head stays. -/
theorem RingCorrect.queue (h : RingCorrect α size) (x : α) (xs : List α) (hxs : xs.length ≤ size) :
    (run (ringLogged size) (ringInit x) (xs.map .queue)).2 = xs ∧
      (run (ringLogged size) (ringInit x) (xs.map .queue)).1.head = 0 := by
  induction xs using List.reverseRecOn with
  | nil => exact ⟨rfl, rfl⟩
  | append_singleton xs y ih =>
    rw [List.length_append, List.length_singleton] at hxs
    obtain ⟨hlist, hhead⟩ := ih (by omega)
    have hfull := mt (h x (xs.map .queue)).full_iff.mp (by rw [hlist]; omega)
    rw [List.map_append, List.map_singleton, run_snoc]
    simp only [ringLogged, ringCall]
    rw [if_neg hfull, if_neg hfull, hlist]
    exact ⟨rfl, hhead⟩

/-- From 256 cells on an 8-bit count cannot say that the ring is full. -/
theorem not_ringCorrect_large (x : α) (hsize : 256 ≤ size) : ¬ RingCorrect α size := by
  intro h
  have hsound := h x ((List.replicate 256 x).map .queue)
  obtain ⟨hlist, -⟩ := h.queue x (List.replicate 256 x) (by rwa [List.length_replicate])
  have hcount := hsound.holds.count
  rw [hlist, List.length_replicate] at hcount
  have := CellRing.count (run (ringLogged size) (ringInit x)
    ((List.replicate 256 x).map .queue)).1 |>.toNat_lt
  omega

/-- A size that is no power of two has two cursors with one cell. -/
theorem exists_masked_zero {n : Nat} (hn : 0 < n) (hpow : ¬ n.isPowerOfTwo) :
    ∃ k, 0 < k ∧ k < n ∧ k &&& (n - 1) = 0 := by
  have hone : n ≠ 1 := fun h => hpow ⟨0, h⟩
  have hlow := Nat.pow_log_le_self 2 (show n - 1 ≠ 0 by omega)
  have hhigh := Nat.lt_pow_succ_log_self (b := 2) (by decide) (n - 1)
  have hne : n ≠ 2 ^ (Nat.log 2 (n - 1) + 1) := fun h => hpow ⟨_, h⟩
  rw [Nat.succ_eq_add_one] at hhigh
  have hdouble : 2 ^ (Nat.log 2 (n - 1) + 1) = 2 ^ Nat.log 2 (n - 1) * 2 :=
    Nat.pow_succ _ _
  refine ⟨2 ^ (Nat.log 2 (n - 1) + 1) - (n - 1 + 1), by omega, by omega, ?_⟩
  apply Nat.eq_of_testBit_eq
  intro i
  rw [Nat.testBit_and, Nat.testBit_two_pow_sub_succ hhigh, Nat.zero_testBit]
  cases (n - 1).testBit i with
  | false => rw [Bool.and_false]
  | true => rw [Bool.not_true, Bool.and_false, Bool.false_and]

/-- A ring whose size is no power of two loses a packet. -/
theorem not_ringCorrect_of_not_pow2 {x y : α} (hxy : x ≠ y) (hpos : 0 < size) (hsize : size < 256)
    (hpow : ¬ size.isPowerOfTwo) : ¬ RingCorrect α size := by
  intro h
  obtain ⟨k, hk0, hk, hmask⟩ := exists_masked_zero hpos hpow
  -- `k` packets and one more, which is written over the first
  obtain ⟨hlist, hhead⟩ := h.queue x (List.replicate k x) (by rw [List.length_replicate]; omega)
  obtain ⟨hlist', hhead'⟩ := h.queue x (List.replicate k x ++ [y])
    (by rw [List.length_append, List.length_replicate, List.length_singleton]; omega)
  have hsound := h x ((List.replicate k x).map .queue)
  have hsound' := h x ((List.replicate k x ++ [y]).map .queue)
  have hfirst : (run (ringLogged size) (ringInit x) ((List.replicate k x ++ [y]).map .queue)).1.get
      size (0 + UInt8.ofNat 0) = x := by
    rw [← hhead']
    apply hsound'.holds.cells
    rw [hlist', List.getElem?_append_left (by rw [List.length_replicate]; omega),
      List.getElem?_replicate, if_pos hk0]
  have hfull := mt hsound.full_iff.mp (by rw [hlist, List.length_replicate]; omega)
  have htail := hsound.holds.tail
  rw [hhead, hlist, List.length_replicate] at htail
  have hcell : ringCell size (0 + UInt8.ofNat k) = ringCell size (0 + UInt8.ofNat 0) := by
    have hk' : (0 + UInt8.ofNat k).toNat = k := by
      rw [UInt8.zero_add, UInt8.toNat_ofNat']
      omega
    rw [ringCell, hk', hmask, ringCell]
    exact (Nat.zero_and _).symm
  rw [List.map_append, List.map_singleton, run_snoc] at hfirst
  simp only [ringLogged, ringCall] at hfirst
  rw [if_neg hfull, CellRing.get, CellRing.push] at hfirst
  dsimp only at hfirst
  rw [htail, hcell, Function.update_self] at hfirst
  exact hxy hfirst.symm

end

/-! ### Receive-gap table -/

section

variable {size : Nat}

/-- The descriptors in use. -/
def gapUsed (size : Nat) (t : GapTable) : Nat :=
  (List.range size).countP fun i => (t.recvGap i).valid

/-- What holds of a table that works: the count is the number of descriptors in use, every loop over
the table ends, the slot search tells a full table, and the signed index of the sort in
`nsctp_encode_sack_with_gaps` is the index. -/
structure GapSound (size : Nat) (t : GapTable) : Prop where
  counted : t.recvGapCount.toNat = gapUsed size t
  loops : ∀ {σ : Type} (body : UInt8 → σ → LoopFlow σ) (s : σ), ∃ turns,
    forLoop (belowGap size) body turns 0 s = some (visit body (counters 0 size) s)
  search : ∀ tsn, ∃ turns found, nsctpFindSlot size turns t tsn = some found ∧
    (found.duplicate = false →
      (found.slot.toNat = size ∧ gapUsed size t = size) ∨
      (found.slot.toNat < size ∧ (t.recvGap found.slot.toNat).valid = false))
  sortIndex : ∀ i : UInt8, i.toNat < size → i.toInt8.toInt = i.toNat

/-- A size whose tables work in every run of calls. -/
def GapCorrect (size : Nat) : Prop :=
  ∀ calls : List GapCall, GapSound size (run (gapCall size) GapTable.init calls)

/-- Every loop over the table visits its descriptors. -/
theorem forLoop_belowGap (hsize : size < 256) {turns : Nat} (hturns : size < turns) {σ : Type}
    (body : UInt8 → σ → LoopFlow σ) (s : σ) :
    forLoop (belowGap size) body turns 0 s = some (visit body (counters 0 size) s) := by
  have hnat (k : Nat) (hk : k < 256) : (0 + UInt8.ofNat k).toNat = k := by
    rw [UInt8.zero_add, UInt8.toNat_ofNat']
    omega
  apply forLoop_counters hturns
  · intro k hk
    rw [belowGap, hnat k (by omega)]
    exact decide_eq_true hk
  · rw [belowGap, hnat size hsize]
    exact decide_eq_false (lt_irrefl _)

theorem mem_counters {i j : UInt8} {n : Nat} (h : j ∈ counters i n) :
    ∃ k < n, j = i + UInt8.ofNat k := by
  induction n generalizing i with
  | zero => exact nomatch h
  | succ n ih =>
    obtain rfl | h := List.mem_cons.mp h
    · exact ⟨0, Nat.succ_pos n, by simp⟩
    · obtain ⟨k, hk, rfl⟩ := ih h
      exact ⟨k + 1, by omega, ofNat_succ i k⟩

theorem counters_mem (i : UInt8) {k n : Nat} (hk : k < n) : i + UInt8.ofNat k ∈ counters i n := by
  induction n generalizing i k with
  | zero => exact nomatch hk
  | succ n ih =>
    cases k with
    | zero => exact List.mem_cons.mpr (.inl (by simp))
    | succ k =>
      have := ih (i + 1) (Nat.lt_of_succ_lt_succ hk)
      rw [ofNat_succ] at this
      exact List.mem_cons_of_mem _ this

/-- The slot search keeps its slot when it meets no free descriptor, else the last free one. -/
theorem visit_slotTurn (t : GapTable) (tsn : UInt32) (is : List UInt8) (found : SlotSearch)
    (hno : (visit (nsctpSlotTurn t tsn) is found).duplicate = false) :
    ((visit (nsctpSlotTurn t tsn) is found).slot = found.slot ∧
      ∀ i ∈ is, (t.recvGap i.toNat).valid = true) ∨
    ((visit (nsctpSlotTurn t tsn) is found).slot ∈ is ∧
      (t.recvGap (visit (nsctpSlotTurn t tsn) is found).slot.toNat).valid = false) := by
  induction is generalizing found with
  | nil => exact .inl ⟨rfl, fun i h => absurd h List.not_mem_nil⟩
  | cons i is ih =>
    rw [visit] at hno ⊢
    by_cases hdup : ((t.recvGap i.toNat).valid && (t.recvGap i.toNat).tsn == tsn) = true
    · have hturn : nsctpSlotTurn t tsn i found = .leave { found with duplicate := true } := by
        rw [nsctpSlotTurn, if_pos hdup]
      rw [hturn] at hno
      cases hno
    cases hvalid : (t.recvGap i.toNat).valid with
    | true =>
      have hturn : nsctpSlotTurn t tsn i found = .next found := by
        rw [nsctpSlotTurn, if_neg hdup, hvalid]
        rfl
      rw [hturn] at hno ⊢
      obtain ⟨hslot, hall⟩ | ⟨hmem, hfree⟩ := ih found hno
      · exact .inl ⟨hslot, fun j hj => (List.mem_cons.mp hj).elim (fun h => h ▸ hvalid) (hall j)⟩
      · exact .inr ⟨List.mem_cons_of_mem _ hmem, hfree⟩
    | false =>
      have hturn : nsctpSlotTurn t tsn i found = .next { found with slot := i } := by
        rw [nsctpSlotTurn, if_neg hdup, hvalid]
        rfl
      rw [hturn] at hno ⊢
      obtain ⟨hslot, -⟩ | ⟨hmem, hfree⟩ := ih { found with slot := i } hno
      · exact .inr ⟨List.mem_cons.mpr (.inl hslot), by rw [hslot]; exact hvalid⟩
      · exact .inr ⟨List.mem_cons_of_mem _ hmem, hfree⟩

theorem gapUsed_le (t : GapTable) : gapUsed size t ≤ size := by
  have := List.countP_le_length (p := fun i => (t.recvGap i).valid) (l := List.range size)
  rwa [List.length_range] at this

/-- Writing one descriptor changes the number in use by that descriptor. -/
theorem gapUsed_update (t : GapTable) {i : Nat} (hi : i < size) (e : RxEntry) (n : UInt8) :
    gapUsed size ⟨Function.update t.recvGap i e, n⟩ + (t.recvGap i).valid.toNat =
      gapUsed size t + e.valid.toNat := by
  induction size with
  | zero => exact nomatch hi
  | succ size ih =>
    simp only [gapUsed, List.range_succ, List.countP_append, List.countP_singleton] at ih ⊢
    by_cases hlast : i = size
    · subst hlast
      have hrest : (List.range i).countP (fun j => (Function.update t.recvGap i e j).valid) =
          (List.range i).countP fun j => (t.recvGap j).valid := by
        apply List.countP_congr
        intro j hj
        rw [Function.update_of_ne (List.mem_range.mp hj).ne]
      rw [hrest, Function.update_self]
      cases e.valid <;> cases (t.recvGap i).valid <;> simp
    · have := ih (by omega)
      rw [Function.update_of_ne (Ne.symm hlast)]
      omega

/-- The search of a table of addressable size. -/
theorem findSlot_spec (hsize : size < 256) {turns : Nat} (hturns : size < turns) (t : GapTable)
    (tsn : UInt32) :
    ∃ found, nsctpFindSlot size turns t tsn = some found ∧
      (found.duplicate = false →
        (found.slot.toNat = size ∧ gapUsed size t = size) ∨
        (found.slot.toNat < size ∧ (t.recvGap found.slot.toNat).valid = false)) := by
  refine ⟨_, forLoop_belowGap hsize hturns _ _, fun hno => ?_⟩
  obtain ⟨hslot, hall⟩ | ⟨hmem, hfree⟩ := visit_slotTurn t tsn _ _ hno
  · -- every descriptor is in use
    left
    rw [hslot]
    refine ⟨by rw [UInt8.toNat_ofNat']; omega, ?_⟩
    have hused : gapUsed size t = (List.range size).length := by
      apply List.countP_eq_length.mpr
      intro i hi
      have hlt := List.mem_range.mp hi
      have := hall _ (counters_mem 0 hlt)
      rwa [UInt8.zero_add, UInt8.toNat_ofNat', Nat.mod_eq_of_lt (show i < 2 ^ 8 by omega)] at this
    rw [hused, List.length_range]
  · right
    obtain ⟨k, hk, heq⟩ := mem_counters hmem
    refine ⟨?_, hfree⟩
    rw [heq, UInt8.zero_add, UInt8.toNat_ofNat']
    omega

/-- One call keeps the count. -/
theorem gapCall_counted (hsize : size < 256) {t : GapTable}
    (h : t.recvGapCount.toNat = gapUsed size t) (c : GapCall) :
    (gapCall size t c).recvGapCount.toNat = gapUsed size (gapCall size t c) := by
  have h1 : (1 : UInt8).toNat = 1 := rfl
  cases c with
  | data gap e =>
    obtain ⟨found, hfind, hspec⟩ := findSlot_spec hsize hsize t e.tsn
    simp only [gapCall, hfind]
    split
    · exact h
    · rename_i hstore
      simp only [Bool.or_eq_true, not_or, beq_iff_eq, Bool.not_eq_true] at hstore
      obtain ⟨⟨hdup, hne⟩, -⟩ := hstore
      obtain ⟨hlt, hfree⟩ := (hspec hdup).resolve_left fun hfull => hne hfull.1
      have hupdate := gapUsed_update t hlt { e with valid := true } (t.recvGapCount + 1)
      have hle := @gapUsed_le size
        ⟨Function.update t.recvGap found.slot.toNat { e with valid := true }, t.recvGapCount + 1⟩
      rw [hfree, Bool.toNat_false, Bool.toNat_true] at hupdate
      rw [UInt8.toNat_add, h1]
      omega
  | free i =>
    simp only [gapCall]
    split
    · rename_i hused
      have hupdate := gapUsed_update t hused.1 { t.recvGap i with valid := false }
        (t.recvGapCount - 1)
      rw [hused.2, Bool.toNat_false, Bool.toNat_true] at hupdate
      have hlt := t.recvGapCount.toNat_lt
      rw [UInt8.toNat_sub, h1]
      dsimp only at hupdate ⊢
      omega
    · exact h

/-- **Every run of calls** leaves a table that works. -/
theorem gapSound_run (hsize : size ≤ 128) : GapCorrect size := fun calls => {
  counted := by
    have hinit : GapTable.init.recvGapCount.toNat = gapUsed size GapTable.init := by
      show 0 = _
      rw [gapUsed, eq_comm, List.countP_eq_zero]
      exact fun _ _ h => nomatch h
    exact run_invariant (P := fun t => t.recvGapCount.toNat = gapUsed size t)
      (fun _ c h => gapCall_counted (by omega) h c) hinit calls
  loops := fun body s => ⟨size + 1, forLoop_belowGap (by omega) (Nat.lt_succ_self _) body s⟩
  search := fun tsn => ⟨size + 1, findSlot_spec (by omega) (Nat.lt_succ_self _) _ tsn⟩
  sortIndex := fun i hi => by
    have hlt : 2 * i.toBitVec.toNat < 2 ^ 8 := by
      have : i.toBitVec.toNat = i.toNat := rfl
      omega
    exact BitVec.toInt_eq_toNat_of_lt hlt }

/-- From 256 descriptors on a loop over the table has no end. -/
theorem not_gapCorrect_large (hsize : 256 ≤ size) : ¬ GapCorrect size := by
  intro h
  obtain ⟨turns, hloop⟩ := (h []).loops (fun _ s => .next s) ()
  have hmore (i : UInt8) : belowGap size i = true := by
    have := i.toNat_lt
    exact decide_eq_true (by omega)
  rw [forLoop_diverges hmore (fun _ s => ⟨s, rfl⟩)] at hloop
  exact nomatch hloop

end

/-! ### Configurations -/

/-- The tables of a configuration work, whatever the association does with them. -/
structure TablesCorrect (s : SctpSizes) : Prop where
  sendQueue : RingCorrect SendEntry s.maxSendQueue
  recvGap : GapCorrect s.maxRecvGap
  outQueue : RingCorrect (List UInt8) s.outQueueSize

/-- A table size that passes its check is a power of two. -/
theorem tableSizeOk_pow2 {n : Nat} (h : tableSizeOk n = true) : n.isPowerOfTwo := by
  simp only [tableSizeOk, Bool.not_eq_true', Bool.or_eq_false_iff, decide_eq_false_iff_not,
    bne_eq_false_iff_eq] at h
  exact (Nat.and_sub_one_eq_zero_iff_isPowerOfTwo (by omega)).mp h.2

/-- The next power of two behind 128 is 256. -/
theorem le_256_of_pow2 {n : Nat} (h : n.isPowerOfTwo) (hn : ¬ n ≤ 128) : 256 ≤ n := by
  obtain ⟨k, rfl⟩ := h
  have hk : 7 < k := (Nat.pow_lt_pow_iff_right (show 1 < 2 by decide)).mp (show 2 ^ 7 < 2 ^ k by omega)
  exact Nat.pow_le_pow_right (show 0 < 2 by decide) (show 8 ≤ k by omega)

/-- **The sizes whose tables are correct**, of all that pass the checks. -/
theorem tables_correct_iff (s : SctpSizes) (h : s.passesChecks = true) :
    TablesCorrect s ↔
      s.maxSendQueue ≤ 128 ∧ s.maxRecvGap ≤ 128 ∧ s.outQueueSize ≤ 128 ∧
        s.outQueueSize.isPowerOfTwo := by
  simp only [SctpSizes.passesChecks, Bool.and_eq_true, decide_eq_true_iff] at h
  obtain ⟨⟨hsend, hgap⟩, hout⟩ := h
  constructor
  · intro htables
    have hsmall : s.outQueueSize < 256 := by
      by_contra hlarge
      exact not_ringCorrect_large [] (by omega) htables.outQueue
    have hpow : s.outQueueSize.isPowerOfTwo := by
      by_contra hpow
      exact not_ringCorrect_of_not_pow2 (show ([] : List UInt8) ≠ [0] by decide) hout hsmall hpow
        htables.outQueue
    refine ⟨?_, ?_, ?_, hpow⟩
    · by_contra hlarge
      exact not_ringCorrect_large default (le_256_of_pow2 (tableSizeOk_pow2 hsend) hlarge)
        htables.sendQueue
    · by_contra hlarge
      exact not_gapCorrect_large (le_256_of_pow2 (tableSizeOk_pow2 hgap) hlarge) htables.recvGap
    · by_contra hlarge
      have := le_256_of_pow2 hpow hlarge
      omega
  · rintro ⟨hsend', hgap', hout', hpow⟩
    exact ⟨ringSound_run ⟨tableSizeOk_pow2 hsend, by omega⟩, gapSound_run hgap',
      ringSound_run ⟨hpow, by omega⟩⟩

/-! ### The association's tables -/

/-- `nsctp_out_full` of the association is that of the ring its output queue stands for. -/
theorem nsctpOutFull_ring {sctp : NanoSctp} {r : CellRing (List UInt8)}
    (h : r.Holds sctpOutQueueSize sctp.outQueue) :
    nsctpRingFull sctpOutQueueSize r = nsctpOutFull sctp := by
  rw [nsctpRingFull, h.count]
  rfl

/-- `nsctp_queue_output` of the association is a call on that ring. -/
theorem nsctpQueueOutput_ring {sctp : NanoSctp} {r : CellRing (List UInt8)}
    (h : r.Holds sctpOutQueueSize sctp.outQueue) (vtag : UInt32) (chunk : List UInt8)
    (hmtu : (nsctpEncodeHeader sctp.localPort sctp.remotePort vtag ++ chunk).length ≤ sctpMtu) :
    (ringCall sctpOutQueueSize r (.queue (nsctpFinalizeChecksum
      (nsctpEncodeHeader sctp.localPort sctp.remotePort vtag ++ chunk)))).Holds sctpOutQueueSize
      (nsctpQueueOutput sctp vtag chunk).outQueue := by
  have hsize : CellRing.Addressable sctpOutQueueSize := ⟨⟨2, rfl⟩, by decide⟩
  have hcall := ringLogged_holds hsize (s := (r, sctp.outQueue)) h (.queue (nsctpFinalizeChecksum
    (nsctpEncodeHeader sctp.localPort sctp.remotePort vtag ++ chunk)))
  simp only [ringLogged, nsctpOutFull_ring h] at hcall
  rw [nsctpQueueOutput]
  by_cases hfull : nsctpOutFull sctp = true
  · rw [if_pos hfull] at hcall
    rwa [if_pos (.inl hfull)]
  · rw [if_neg hfull] at hcall
    rwa [if_neg fun hc => hc.elim hfull (by omega)]

/-- The room check of `nsctp_send_options` counts the entries of the send queue. -/
theorem nsctpSendRoom_ring {sctp : NanoSctp} {r : CellRing SendEntry}
    (h : r.Holds sctpMaxSendQueue sctp.sendQueue) (count : Nat) :
    nsctpSendRoom sctpMaxSendQueue r count =
      !(count > sctpMaxSendQueue || count > sctpMaxSendQueue - sctp.sendQueue.length) := by
  rw [nsctpSendRoom, sqCount, h.count]

/-- A loop over the descriptors of the association with an 8-bit index. -/
theorem forLoop_finRange {σ : Type} (f : σ → RxSlot → σ) (s : σ) :
    forLoop (belowGap sctpMaxRecvGap) (fun i s => .next (if h : i.toNat < sctpMaxRecvGap then
      f s ⟨i.toNat, h⟩ else s)) 256 0 s = some ((List.finRange sctpMaxRecvGap).foldl f s) := by
  have hcounters : counters 0 sctpMaxRecvGap =
      (List.finRange sctpMaxRecvGap).map (fun i : RxSlot => UInt8.ofNat i.val) := by decide
  rw [forLoop_belowGap (by decide) (by decide), visit_next, hcounters, List.foldl_map]
  refine congrArg some (List.foldl_ext _ _ _ fun s i _ => ?_)
  have hi : (UInt8.ofNat i).toNat = i := by
    have : (i : Nat) < 8 := i.isLt
    rw [UInt8.toNat_ofNat']
    omega
  have hlt : (UInt8.ofNat i).toNat < sctpMaxRecvGap := by
    rw [hi]
    exact i.isLt
  rw [dif_pos hlt]
  exact congrArg (f s) (Fin.ext hi)

/-- `nsctp_rx_reclaim` with its 8-bit index. -/
theorem nsctpRxReclaim_loop (recv : SctpRecv) :
    forLoop (belowGap sctpMaxRecvGap) (fun i r => .next (if h : i.toNat < sctpMaxRecvGap then
      nsctpRxReclaimSlot r ⟨i.toNat, h⟩ else r)) 256 0 recv = some (nsctpRxReclaim recv) :=
  forLoop_finRange nsctpRxReclaimSlot recv

/-- The tables of the default configuration. -/
theorem tables_correct_default : TablesCorrect SctpSizes.default :=
  (tables_correct_iff SctpSizes.default (by decide)).mpr
    ⟨by decide, by decide, by decide, ⟨2, rfl⟩⟩

/-- A send queue of 256 entries passes the checks. -/
theorem tables_not_correct :
    SctpSizes.passesChecks ⟨256, 8, 4⟩ = true ∧ ¬ TablesCorrect ⟨256, 8, 4⟩ :=
  ⟨by decide, fun h => not_ringCorrect_large default (le_refl 256) h.sendQueue⟩

end Nanortc.Spec
