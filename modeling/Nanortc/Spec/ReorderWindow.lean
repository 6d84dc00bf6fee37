import Mathlib
import Nanortc.ForStd.Recent
import Nanortc.ForStd.Run
import Nanortc.Native.VideoReceive

/-!
# The window of the reorder buffer

Sequence numbers stand for positions, which the head of the window passes one after the other. A
push is of the position that its number has from the head on, and what is popped at a position is
the first packet that was pushed for it.

## Key results

- `reorderPopLoop_spec`: what the loop returns, and that it is over within a window of turns
- `reorderNextTimeoutMs_zero`: the timeout is 0 exactly when a packet would be popped
- `ReorderKept.step`: the positions along one call
- `reorder_window`: order, loss marks and contents along every run
-/

namespace Nanortc.Spec

open Nanortc.ForStd Nanortc.Native

/-! ### Slots -/

/-- The slot at an index. -/
def reorderCell (r : NanoReorder) (j : Nat) : ReorderSlot := r.slots.getD j default

/-- Every packet lies in the slot of its number. -/
structure ReorderPlaced (r : NanoReorder) : Prop where
  length : r.slots.length = videoReorderSlots
  placed : ∀ j < videoReorderSlots, (reorderCell r j).occupied = true →
    reorderSlotIdx (reorderCell r j).seq = j

theorem reorderSlotIdx_lt (seq : UInt16) : reorderSlotIdx seq < videoReorderSlots :=
  Nat.mod_lt _ (by decide)

theorem slot_eq_cell (r : NanoReorder) (seq : UInt16) :
    r.slot seq = reorderCell r (reorderSlotIdx seq) := rfl

/-- A slot that is written, and the others. -/
theorem reorderCell_set {r : NanoReorder} (hlen : r.slots.length = videoReorderSlots)
    {i : Nat} (hi : i < videoReorderSlots) (s : ReorderSlot) (j : Nat) :
    (r.slots.set i s).getD j default = if j = i then s else reorderCell r j :=
  getD_set (hlen ▸ hi) s default j

/-- A packet in the window has waited for too long. -/
def ReorderAged (r : NanoReorder) (nowMs : UInt32) (s : ReorderSlot) : Prop :=
  s.occupied = true ∧ 0 < i16 (s.seq - r.nextSeq) ∧ i16 (s.seq - r.nextSeq) < videoReorderSlots ∧
    nowMs - s.arrivalMs ≥ videoReorderMaxWaitMs

theorem reorderShouldSkip_iff (r : NanoReorder) (nowMs : UInt32) :
    reorderShouldSkip r nowMs = true ↔ ∃ s ∈ r.slots, ReorderAged r nowMs s := by
  unfold reorderShouldSkip ReorderAged
  rw [List.any_eq_true]
  simp only [Bool.and_eq_true, decide_eq_true_eq, and_assoc]

theorem headReady_iff (r : NanoReorder) :
    r.headReady = true ↔ (r.slot r.nextSeq).occupied = true ∧ (r.slot r.nextSeq).seq = r.nextSeq := by
  unfold NanoReorder.headReady
  rw [Bool.and_eq_true, beq_iff_eq]

/-- An index of a slot, for a packet in it. -/
theorem ReorderPlaced.cell_of_mem {r : NanoReorder} (h : ReorderPlaced r) {s : ReorderSlot}
    (hs : s ∈ r.slots) (hocc : s.occupied = true) : reorderCell r (reorderSlotIdx s.seq) = s := by
  obtain ⟨j, hj, rfl⟩ := List.mem_iff_getElem.mp hs
  have hcell : reorderCell r j = r.slots[j] := List.getD_eq_getElem _ _ hj
  have hidx := h.placed j (h.length ▸ hj) (by rw [hcell]; exact hocc)
  rw [hcell] at hidx
  rw [hidx, hcell]

/-! ### Popping -/

/-- The window after `k` packets were skipped. -/
def reorderSkipped (r : NanoReorder) (k : Nat) : NanoReorder :=
  { r with nextSeq := r.nextSeq + UInt16.ofNat k, pendingLost := r.pendingLost || decide (k ≠ 0) }

theorem reorderSkipped_zero (r : NanoReorder) : reorderSkipped r 0 = r := by
  unfold reorderSkipped
  rw [decide_eq_false (not_not.mpr rfl), Bool.or_false]
  show { r with nextSeq := r.nextSeq + 0 } = r
  rw [UInt16.add_zero]

theorem reorderSkipped_succ (r : NanoReorder) (k : Nat) :
    reorderSkipped (reorderSkipped r 1) k = reorderSkipped r (k + 1) := by
  have hseq : r.nextSeq + UInt16.ofNat 1 + UInt16.ofNat k = r.nextSeq + UInt16.ofNat (k + 1) := by
    rw [UInt16.add_assoc, Nat.add_comm k 1, UInt16.ofNat_add]
  have hlost : (r.pendingLost || decide (1 ≠ 0) || decide (k ≠ 0)) =
      (r.pendingLost || decide (k + 1 ≠ 0)) := by
    rw [decide_eq_true (by decide : (1 : Nat) ≠ 0), decide_eq_true (Nat.succ_ne_zero k),
      Bool.or_true, Bool.true_or]
  exact congrArg₂ (fun n l => { r with nextSeq := n, pendingLost := l }) hseq hlost

/-- The packet that comes out after `k` packets were skipped. -/
def reorderOut (r : NanoReorder) (k : Nat) : NanoReorder × Option (ReorderSlot × Bool) :=
  ((reorderSkipped r k).takeHead,
    some ((reorderSkipped r k).slot (reorderSkipped r k).nextSeq, (reorderSkipped r k).pendingLost))

/-- An aged packet is reached: every packet skipped brings the head one closer to it. -/
theorem reorderPopLoop_aged {nowMs : UInt32} {s : ReorderSlot} (hocc : s.occupied = true)
    (hage : nowMs - s.arrivalMs ≥ videoReorderMaxWaitMs) (d : Nat) {r : NanoReorder}
    (h : ReorderPlaced r) (hs : s ∈ r.slots) (hd : i16 (s.seq - r.nextSeq) = d)
    (hwindow : d < videoReorderSlots) :
    ∃ k ≤ d, (reorderSkipped r k).headReady = true ∧
      ∀ turns, d < turns → reorderPopLoop nowMs turns r = reorderOut r k := by
  induction d generalizing r with
  | zero =>
    have hseq : s.seq = r.nextSeq := by
      have hlt := (s.seq - r.nextSeq).toNat_lt
      have h1 := s.seq.toNat_lt
      have h2 := r.nextSeq.toNat_lt
      rw [i16_eq, UInt16.toNat_sub] at hd
      rw [← UInt16.toNat_inj]
      split at hd <;> omega
    have hready : r.headReady = true := by
      rw [headReady_iff, slot_eq_cell, ← hseq, h.cell_of_mem hs hocc]
      exact ⟨hocc, rfl⟩
    refine ⟨0, Nat.le_refl 0, by rw [reorderSkipped_zero]; exact hready, fun turns hturns => ?_⟩
    obtain ⟨turns, rfl⟩ := Nat.exists_eq_add_of_lt hturns
    unfold reorderOut
    rw [reorderSkipped_zero, reorderPopLoop, if_pos hready]
  | succ d ih =>
    by_cases hready : r.headReady = true
    · refine ⟨0, Nat.zero_le _, by rw [reorderSkipped_zero]; exact hready, fun turns hturns => ?_⟩
      obtain ⟨turns, rfl⟩ := Nat.exists_eq_add_of_lt hturns
      unfold reorderOut
      rw [reorderSkipped_zero, reorderPopLoop, if_pos hready]
    · have hskip : reorderShouldSkip r nowMs = true :=
        (reorderShouldSkip_iff r nowMs).mpr ⟨s, hs, hocc, by omega, by omega, hage⟩
      have hnear : i16 (s.seq - (reorderSkipped r 1).nextSeq) = d := by
        have h1 := s.seq.toNat_lt
        have h2 := r.nextSeq.toNat_lt
        have h8 : videoReorderSlots = 8 := rfl
        show i16 (s.seq - (r.nextSeq + 1)) = d
        rw [i16_eq, UInt16.toNat_sub] at hd
        rw [i16_eq, UInt16.toNat_sub, UInt16.toNat_add]
        have hone : (1 : UInt16).toNat = 1 := rfl
        rw [hone]
        split at hd <;> split <;> omega
      obtain ⟨k, hk, hfound, hloop⟩ :=
        ih (r := reorderSkipped r 1) ⟨h.length, h.placed⟩ hs hnear (by omega)
      rw [reorderSkipped_succ] at hfound
      refine ⟨k + 1, by omega, hfound, fun turns hturns => ?_⟩
      obtain ⟨turns, rfl⟩ : ∃ n, turns = n + 1 := ⟨turns - 1, by omega⟩
      have hnext : ({ r with nextSeq := r.nextSeq + 1, pendingLost := true } : NanoReorder) =
          reorderSkipped r 1 := by
        unfold reorderSkipped
        rw [decide_eq_true (by decide : (1 : Nat) ≠ 0), Bool.or_true]
        rfl
      have hout : reorderOut (reorderSkipped r 1) k = reorderOut r (k + 1) := by
        unfold reorderOut
        rw [reorderSkipped_succ]
      rw [reorderPopLoop, if_neg hready, if_pos hskip, hnext, hloop turns (by omega), hout]

/-- **What `reorderPop` returns**: the first packet there is from the head on if it is at the head
or a packet has waited for too long, else nothing; its loop is over within a window of turns. -/
theorem reorderPopLoop_spec {r : NanoReorder} (h : ReorderPlaced r) (nowMs : UInt32) :
    (r.headReady = true ∨ reorderShouldSkip r nowMs = true) ∧
      (∃ k < videoReorderSlots, (reorderSkipped r k).headReady = true ∧
        ∀ turns ≥ videoReorderSlots, reorderPopLoop nowMs turns r = reorderOut r k) ∨
    (¬ r.headReady = true ∧ ¬ reorderShouldSkip r nowMs = true) ∧
      ∀ turns ≥ videoReorderSlots, reorderPopLoop nowMs turns r = (r, none) := by
  have h8 : videoReorderSlots = 8 := rfl
  by_cases hready : r.headReady = true
  · refine .inl ⟨.inl hready, 0, by decide, by rw [reorderSkipped_zero]; exact hready, ?_⟩
    intro turns hturns
    obtain ⟨turns, rfl⟩ : ∃ n, turns = n + 1 := ⟨turns - 1, by omega⟩
    unfold reorderOut
    rw [reorderSkipped_zero, reorderPopLoop, if_pos hready]
  by_cases hskip : reorderShouldSkip r nowMs = true
  · obtain ⟨s, hs, hocc, hpos, hwindow, hage⟩ := (reorderShouldSkip_iff r nowMs).mp hskip
    obtain ⟨k, hk, hfound, hloop⟩ := reorderPopLoop_aged hocc hage
      (i16 (s.seq - r.nextSeq)).toNat h hs (by omega) (by omega)
    exact .inl ⟨.inr hskip, k, by omega, hfound, fun turns hturns => hloop turns (by omega)⟩
  · refine .inr ⟨⟨hready, hskip⟩, fun turns hturns => ?_⟩
    obtain ⟨turns, rfl⟩ : ∃ n, turns = n + 1 := ⟨turns - 1, by omega⟩
    rw [reorderPopLoop, if_neg hready, if_neg hskip]

/-! ### The timeout -/

theorem foldl_timeout_zero (r : NanoReorder) (nowMs : UInt32) (slots : List ReorderSlot)
    (best : UInt32) :
    slots.foldl (fun best s =>
      if s.occupied ∧ 0 < i16 (s.seq - r.nextSeq) ∧ i16 (s.seq - r.nextSeq) < videoReorderSlots then
        let age := nowMs - s.arrivalMs
        let left := if age ≥ videoReorderMaxWaitMs then 0 else videoReorderMaxWaitMs - age
        if left < best then left else best
      else best) best = 0 ↔ best = 0 ∨ ∃ s ∈ slots, ReorderAged r nowMs s := by
  induction slots generalizing best with
  | nil => exact (or_iff_left nofun).symm
  | cons s slots ih =>
    rw [List.foldl_cons, ih, List.exists_mem_cons_iff, ← or_assoc]
    refine or_congr_left ?_
    dsimp only
    by_cases hwindow : s.occupied = true ∧ 0 < i16 (s.seq - r.nextSeq) ∧
        i16 (s.seq - r.nextSeq) < videoReorderSlots
    · rw [if_pos hwindow]
      by_cases hage : nowMs - s.arrivalMs ≥ videoReorderMaxWaitMs
      · rw [if_pos hage]
        refine iff_of_true ?_ (.inr ⟨hwindow.1, hwindow.2.1, hwindow.2.2, hage⟩)
        split
        · rfl
        · rename_i hpos
          exact UInt32.le_antisymm (UInt32.not_lt.mp hpos) UInt32.zero_le
      · rw [if_neg hage]
        have hleft : videoReorderMaxWaitMs - (nowMs - s.arrivalMs) ≠ 0 := by
          have hlt := UInt32.not_le.mp hage
          rw [UInt32.lt_iff_toNat_lt] at hlt
          intro hcon
          have hcon := congrArg UInt32.toNat hcon
          rw [UInt32.toNat_sub_of_le _ _ (UInt32.le_iff_toNat_le.mpr (Nat.le_of_lt hlt))] at hcon
          have hzero : (0 : UInt32).toNat = 0 := rfl
          omega
        have hnot : ¬ ReorderAged r nowMs s := fun hcon => hage hcon.2.2.2
        rw [or_iff_left hnot]
        split
        · rename_i hlt
          refine iff_of_false hleft ?_
          rintro rfl
          exact UInt32.not_lt_zero hlt
        · rfl
    · rw [if_neg hwindow]
      have hnot : ¬ ReorderAged r nowMs s := fun hcon => hwindow ⟨hcon.1, hcon.2.1, hcon.2.2.1⟩
      rw [or_iff_left hnot]

/-- **The timeout is 0** exactly when a packet would be popped. -/
theorem reorderNextTimeoutMs_zero {r : NanoReorder} (h : ReorderPlaced r) (nowMs : UInt32) :
    reorderNextTimeoutMs r nowMs = 0 ↔ (reorderPop r nowMs).2.isSome = true := by
  unfold reorderNextTimeoutMs reorderPop
  by_cases hinit : r.inited = true
  · rw [hinit, Bool.not_true, if_neg nofun, if_pos rfl]
    rcases reorderPopLoop_spec h nowMs with ⟨hfound, k, -, -, hloop⟩ | ⟨⟨hready, hskip⟩, hloop⟩
    · rw [hloop _ (Nat.le_refl _)]
      refine iff_of_true ?_ rfl
      split
      · rfl
      · rename_i hready
        rw [foldl_timeout_zero, ← reorderShouldSkip_iff]
        exact .inr (hfound.resolve_left hready)
    · rw [hloop _ (Nat.le_refl _), if_neg hready, foldl_timeout_zero, ← reorderShouldSkip_iff]
      refine iff_of_false ?_ nofun
      rintro (hcon | hcon)
      · exact nomatch hcon
      · exact hskip hcon
  · rw [Bool.not_eq_true] at hinit
    rw [hinit]
    exact iff_of_false nofun nofun

/-! ### Positions -/

/-- A call. -/
inductive ReorderInput where
  | push (seq : UInt16) (ts : UInt32) (marker : Bool) (data : List UInt8) (nowMs : UInt32)
  | pop (nowMs : UInt32)
deriving DecidableEq

/-- The buffer, the position of its head and those of the packets in its slots, and the packets
pushed and popped with their positions, oldest first. -/
structure ReorderLog where
  r : NanoReorder
  head : Nat
  places : Nat → Nat
  pushes : List (Nat × ReorderSlot)
  pops : List (Nat × ReorderSlot × Bool)

/-- The buffer after `reorder_init`. -/
def reorderLogInit : ReorderLog := ⟨reorderInit, 0, fun _ => 0, [], []⟩

/-- The first packet is at the position of its number. -/
def ReorderLog.start (l : ReorderLog) (seq : UInt16) : ReorderLog :=
  if l.r.inited then l
  else { l with r := { l.r with inited := true, nextSeq := seq }, head := seq.toNat }

/-- The slot of the number holds a packet of that number already. -/
def reorderHas (r : NanoReorder) (seq : UInt16) : Prop :=
  (r.slot seq).occupied = true ∧ (r.slot seq).seq = seq

instance (r : NanoReorder) (seq : UInt16) : Decidable (reorderHas r seq) :=
  inferInstanceAs (Decidable (_ ∧ _))

/-- A push. The position is that of the number from the head on; a late packet has none. -/
def reorderLogPush (l : ReorderLog) (seq : UInt16) (ts : UInt32) (marker : Bool)
    (data : List UInt8) (nowMs : UInt32) : ReorderLog :=
  let r := (reorderPush l.r seq ts marker data nowMs).1
  if data = [] ∨ data.length > mediaBufSize then { l with r := r }
  else
    let l := l.start seq
    if i16 (seq - l.r.nextSeq) < 0 then { l with r := r }
    else
      let place := l.head + (i16 (seq - l.r.nextSeq)).toNat
      { r := r
        head := max l.head (place + 1 - videoReorderSlots)
        places :=
          if reorderHas l.r seq then l.places
          else Function.update l.places (reorderSlotIdx seq) place
        pushes := l.pushes ++ [(place, ⟨data, ts, nowMs, seq, marker, true⟩)]
        pops := l.pops }

/-- A pop. -/
def reorderLogPop (l : ReorderLog) (nowMs : UInt32) : ReorderLog :=
  match reorderPop l.r nowMs with
  | (r, none) => { l with r := r }
  | (r, some (s, lost)) =>
    let place := l.head + (s.seq - l.r.nextSeq).toNat
    { l with r := r, head := place + 1, pops := l.pops ++ [(place, s, lost)] }

/-- One call. -/
def reorderLogStep (l : ReorderLog) : ReorderInput → ReorderLog
  | .push seq ts marker data nowMs => reorderLogPush l seq ts marker data nowMs
  | .pop nowMs => reorderLogPop l nowMs

/-- What one popped packet is to the one before: it is of a later position, so of a later number in
serial order if the head moved by less than half of the numbers, and it is not marked exactly if
its position is the next. -/
structure ReorderNext (a b : Nat × ReorderSlot × Bool) : Prop where
  order : a.1 < b.1
  serial : b.1 < a.1 + 2 ^ 15 → 0 < i16 (b.2.1.seq - a.2.1.seq)
  lost : b.2.2 = false ↔ b.1 = a.1 + 1

/-- The positions fit the buffer. -/
structure ReorderKept (l : ReorderLog) : Prop where
  placed : ReorderPlaced l.r
  nextSeq : l.r.inited = true → l.r.nextSeq = UInt16.ofNat l.head
  blank : l.r.inited = false → (∀ j, (reorderCell l.r j).occupied = false) ∧ l.pushes = [] ∧ l.pops = []
  seqs : ∀ e ∈ l.pops, e.2.1.seq = UInt16.ofNat e.1
  chain : l.pops.IsChain ReorderNext
  last : ∀ e ∈ l.pops.getLast?, e.1 < l.head ∧ (l.r.pendingLost = false ↔ l.head = e.1 + 1)

/-- The packets in the slots and those popped are the first ones pushed for their positions. -/
structure ReorderFirst (l : ReorderLog) : Prop where
  slots : ∀ j < videoReorderSlots, (reorderCell l.r j).occupied = true →
    (reorderCell l.r j).seq = UInt16.ofNat (l.places j) ∧ l.places j < l.head + videoReorderSlots ∧
      l.pushes.find? (·.1 == l.places j) = some (l.places j, reorderCell l.r j)
  ahead : ∀ e ∈ l.pushes, e.1 < l.head + videoReorderSlots ∧
    (l.head ≤ e.1 → (reorderCell l.r (e.1 % videoReorderSlots)).occupied = true ∧
      l.places (e.1 % videoReorderSlots) = e.1)
  popped : ∀ e ∈ l.pops, l.pushes.find? (·.1 == e.1) = some (e.1, e.2.1)

/-- The call leaves no packet in its slot until the numbers come round to it again. -/
def ReorderFresh (l : ReorderLog) (i : ReorderInput) : Prop :=
  ∀ j < videoReorderSlots, (reorderCell l.r j).occupied = true →
    (reorderLogStep l i).head + videoReorderSlots ≤ l.places j + 2 ^ 16

instance (l : ReorderLog) (i : ReorderInput) : Decidable (ReorderFresh l i) :=
  inferInstanceAs (Decidable (∀ j < videoReorderSlots, _ → _))

theorem reorderSlotIdx_ofNat (p : Nat) :
    reorderSlotIdx (UInt16.ofNat p) = p % videoReorderSlots := by
  have h8 : videoReorderSlots = 8 := rfl
  unfold reorderSlotIdx
  rw [UInt16.toNat_ofNat', h8]
  omega

/-- A number that is not behind the head. -/
theorem seq_eq_add {seq n : UInt16} (h : ¬ i16 (seq - n) < 0) :
    seq = n + UInt16.ofNat (i16 (seq - n)).toNat := by
  have h1 := seq.toNat_lt
  have h2 := n.toNat_lt
  rw [i16_eq, UInt16.toNat_sub] at h ⊢
  rw [← UInt16.toNat_inj, UInt16.toNat_add, UInt16.toNat_ofNat']
  split at h <;> split <;> omega

theorem ofNat_eq_ofNat_iff {a b : Nat} : UInt16.ofNat a = UInt16.ofNat b ↔ a % 2 ^ 16 = b % 2 ^ 16 := by
  rw [← UInt16.toNat_inj, UInt16.toNat_ofNat', UInt16.toNat_ofNat']

theorem reorderKept_init : ReorderKept reorderLogInit where
  placed := ⟨rfl, by decide⟩
  nextSeq := nofun
  blank _ := by
    refine ⟨fun j => ?_, rfl, rfl⟩
    unfold reorderCell reorderLogInit reorderInit
    rw [List.getD_eq_getElem?_getD, List.getElem?_replicate]
    split <;> rfl
  seqs := nofun
  chain := .nil
  last := nofun

theorem reorderFirst_init : ReorderFirst reorderLogInit where
  slots j hj hocc := by
    have hnone := (reorderKept_init.blank rfl).1 j
    exact nomatch hocc.symm.trans hnone
  ahead := nofun
  popped := nofun

/-! ### A pop -/

section

variable {l : ReorderLog}

/-- **A pop** finds nothing and changes nothing, or takes out the packet at the position that the
head moves on to. -/
theorem reorderLogPop_cases (h : ReorderKept l) (nowMs : UInt32) :
    reorderLogPop l nowMs = l ∨ l.r.inited = true ∧ ∃ k < videoReorderSlots,
      let q := reorderSkipped l.r k
      let s := reorderCell l.r ((l.head + k) % videoReorderSlots)
      s.occupied = true ∧ s.seq = UInt16.ofNat (l.head + k) ∧
      q.nextSeq = UInt16.ofNat (l.head + k) ∧
      reorderLogPop l nowMs =
        { l with
          r := q.takeHead, head := l.head + k + 1
          pops := l.pops ++ [(l.head + k, s, q.pendingLost)] } := by
  have h8 : videoReorderSlots = 8 := rfl
  unfold reorderLogPop reorderPop
  by_cases hinit : l.r.inited = true
  · rw [if_pos hinit]
    rcases reorderPopLoop_spec h.placed nowMs with ⟨-, k, hk, hfound, hloop⟩ | ⟨-, hloop⟩
    · refine .inr ⟨hinit, k, hk, ?_⟩
      have hnext : (reorderSkipped l.r k).nextSeq = UInt16.ofNat (l.head + k) := by
        rw [UInt16.ofNat_add, ← h.nextSeq hinit]
        rfl
      have hslot : (reorderSkipped l.r k).slot (reorderSkipped l.r k).nextSeq =
          reorderCell l.r ((l.head + k) % videoReorderSlots) := by
        rw [slot_eq_cell, hnext, reorderSlotIdx_ofNat]
        rfl
      rw [headReady_iff, hslot, hnext] at hfound
      have hplace : l.head + (UInt16.ofNat (l.head + k) - l.r.nextSeq).toNat = l.head + k := by
        rw [h.nextSeq hinit, UInt16.toNat_sub, UInt16.toNat_ofNat', UInt16.toNat_ofNat']
        omega
      refine ⟨hfound.1, hfound.2, hnext, ?_⟩
      rw [hloop _ (Nat.le_refl _)]
      unfold reorderOut
      dsimp only
      rw [hslot, hfound.2, hplace]
    · rw [hloop _ (Nat.le_refl _)]
      exact .inl rfl
  · rw [if_neg hinit]
    exact .inl rfl

/-- The slots after the head was taken out. -/
theorem reorderCell_takeHead {r : NanoReorder} (hlen : r.slots.length = videoReorderSlots)
    (j : Nat) :
    reorderCell r.takeHead j =
      if j = reorderSlotIdx r.nextSeq then { r.slot r.nextSeq with occupied := false }
      else reorderCell r j :=
  reorderCell_set hlen (reorderSlotIdx_lt _) _ j

theorem ReorderKept.pop (h : ReorderKept l) (nowMs : UInt32) : ReorderKept (reorderLogPop l nowMs) := by
  rcases reorderLogPop_cases h nowMs with hsame | ⟨hinit, k, hk, hocc, hseq, hnext, hstep⟩
  · rw [hsame]
    exact h
  rw [hstep]
  have hcells := reorderCell_takeHead (r := reorderSkipped l.r k) h.placed.length
  refine ⟨⟨?_, fun j hj hjocc => ?_⟩, fun _ => ?_, fun hno => ?_, fun e he => ?_, ?_, ?_⟩
  · show (List.set _ _ _).length = _
    rw [List.length_set]
    exact h.placed.length
  · rw [hcells] at hjocc ⊢
    split at hjocc
    · exact nomatch hjocc
    · rename_i hne
      rw [if_neg hne]
      exact h.placed.placed j hj hjocc
  · show (reorderSkipped l.r k).nextSeq + 1 = UInt16.ofNat (l.head + k + 1)
    rw [hnext]
    exact (UInt16.ofNat_add (l.head + k) 1).symm
  · exact nomatch hno.symm.trans hinit
  · rcases List.mem_append.mp he with he | he
    · exact h.seqs e he
    · rw [List.mem_singleton.mp he]
      exact hseq
  · -- the order of the positions gives that of the numbers
    refine h.chain.append (.singleton _) fun a ha b hb => ?_
    obtain rfl := Option.some.inj hb
    obtain ⟨hlt, hlost⟩ := h.last a ha
    refine ⟨Nat.lt_of_lt_of_le hlt (Nat.le_add_right _ _), fun hhalf => ?_, ?_⟩
    · dsimp only at hhalf ⊢
      rw [hseq, h.seqs a (List.mem_of_getLast? ha), i16_ofNat_sub_ofNat _ _ (by omega) (by omega)]
      omega
    · show (l.r.pendingLost || decide (k ≠ 0)) = false ↔ l.head + k = a.1 + 1
      rw [Bool.or_eq_false_iff, hlost, decide_eq_false_iff_not, not_not]
      omega
  · intro e he
    rw [List.getLast?_concat] at he
    obtain rfl := Option.some.inj he
    exact ⟨Nat.lt_succ_self _, iff_of_true rfl rfl⟩

theorem ReorderFirst.pop (h : ReorderKept l) (hf : ReorderFirst l) {nowMs : UInt32}
    (hfresh : ReorderFresh l (.pop nowMs)) : ReorderFirst (reorderLogPop l nowMs) := by
  have hfresh : ∀ j < videoReorderSlots, (reorderCell l.r j).occupied = true →
    (reorderLogPop l nowMs).head + videoReorderSlots ≤ l.places j + 2 ^ 16 := hfresh
  rcases reorderLogPop_cases h nowMs with hsame | ⟨hinit, k, hk, hocc, hseq, hnext, hstep⟩
  · rw [hsame]
    exact hf
  have h8 : videoReorderSlots = 8 := rfl
  have hcells := reorderCell_takeHead (r := reorderSkipped l.r k) h.placed.length
  have hidx : reorderSlotIdx (reorderSkipped l.r k).nextSeq = (l.head + k) % videoReorderSlots := by
    rw [hnext, reorderSlotIdx_ofNat]
  rw [hidx] at hcells
  have hj : (l.head + k) % videoReorderSlots < videoReorderSlots := Nat.mod_lt _ (by decide)
  obtain ⟨hpos, hbound, hfirst⟩ := hf.slots _ hj hocc
  -- the packet is of this round of the numbers
  have hplace : l.places ((l.head + k) % videoReorderSlots) = l.head + k := by
    have hle := hfresh _ hj hocc
    rw [hstep] at hle
    have hmod := ofNat_eq_ofNat_iff.mp (hpos.symm.trans hseq)
    dsimp only at hle
    omega
  rw [hstep]
  refine ⟨fun j hj hjocc => ?_, fun e he => ?_, fun e he => ?_⟩
  · dsimp only at hjocc ⊢
    rw [hcells] at hjocc ⊢
    split at hjocc
    · exact nomatch hjocc
    · rename_i hne
      rw [if_neg hne]
      obtain ⟨hseq, hlt, hfind⟩ := hf.slots j hj hjocc
      exact ⟨hseq, by omega, hfind⟩
  · obtain ⟨hlt, hahead⟩ := hf.ahead e he
    dsimp only
    refine ⟨by omega, fun hle => ?_⟩
    obtain ⟨heocc, heplace⟩ := hahead (by omega)
    have hne : e.1 % videoReorderSlots ≠ (l.head + k) % videoReorderSlots := by
      intro hcon
      rw [hcon, hplace] at heplace
      omega
    rw [hcells, if_neg hne]
    exact ⟨heocc, heplace⟩
  · rcases List.mem_append.mp he with he | he
    · exact hf.popped e he
    · rw [List.mem_singleton.mp he]
      rw [hplace] at hfirst
      exact hfirst

/-! ### A push -/

theorem start_r (l : ReorderLog) (seq : UInt16) : (l.start seq).r =
    if l.r.inited then l.r else { l.r with inited := true, nextSeq := seq } := by
  unfold ReorderLog.start
  split <;> rfl

theorem start_inited (l : ReorderLog) (seq : UInt16) : (l.start seq).r.inited = true := by
  unfold ReorderLog.start
  split
  · assumption
  · rfl

/-- The first packet makes its number the head. -/
theorem ReorderKept.start (h : ReorderKept l) (seq : UInt16) : ReorderKept (l.start seq) := by
  unfold ReorderLog.start
  split
  · exact h
  · rename_i hinit
    obtain ⟨-, -, hpops⟩ := h.blank (Bool.eq_false_iff.mpr hinit)
    exact {
      placed := ⟨h.placed.length, h.placed.placed⟩
      nextSeq := fun _ => UInt16.ofNat_toNat.symm
      blank := nofun
      seqs := h.seqs
      chain := h.chain
      last := by
        intro e he
        dsimp only at he
        rw [hpops] at he
        exact nomatch he }

theorem ReorderFirst.start (h : ReorderKept l) (hf : ReorderFirst l) (seq : UInt16) :
    ReorderFirst (l.start seq) := by
  unfold ReorderLog.start
  split
  · exact hf
  · rename_i hinit
    obtain ⟨hempty, hpushes, hpops⟩ := h.blank (Bool.eq_false_iff.mpr hinit)
    refine ⟨fun j _ hocc => ?_, fun e he => ?_, hf.popped⟩
    · exact nomatch (hempty j).symm.trans hocc
    · dsimp only at he
      rw [hpushes] at he
      exact nomatch he

/-- **A push** is refused, comes late, or is of a position from the head on, to which the window
moves; it is stored unless the slot holds a packet of its number. -/
theorem reorderLogPush_cases (seq : UInt16) (ts : UInt32) (marker : Bool) (data : List UInt8)
    (nowMs : UInt32) :
    let l' := reorderLogPush l seq ts marker data nowMs
    let l1 := l.start seq
    let place := l1.head + (i16 (seq - l1.r.nextSeq)).toNat
    let s : ReorderSlot := ⟨data, ts, nowMs, seq, marker, true⟩
    l' = l ∨ l' = l1 ∨
    ¬ i16 (seq - l1.r.nextSeq) < 0 ∧ l'.head = max l1.head (place + 1 - videoReorderSlots) ∧
      l'.pops = l1.pops ∧ l'.pushes = l1.pushes ++ [(place, s)] ∧
      l'.r.nextSeq = (reorderAdvance l1.r seq).nextSeq ∧ l'.r.inited = true ∧
      l'.r.pendingLost = (reorderAdvance l1.r seq).pendingLost ∧
      (reorderHas l1.r seq ∧ l'.r.slots = l1.r.slots ∧ l'.places = l1.places ∨
        ¬ reorderHas l1.r seq ∧ l'.r.slots = l1.r.slots.set (reorderSlotIdx seq) s ∧
          l'.places = Function.update l1.places (reorderSlotIdx seq) place) := by
  have hslots (r : NanoReorder) : (reorderAdvance r seq).slots = r.slots := by
    unfold reorderAdvance
    split <;> rfl
  have hinited (r : NanoReorder) : (reorderAdvance r seq).inited = r.inited := by
    unfold reorderAdvance
    split <;> rfl
  have hslot (r : NanoReorder) : (reorderAdvance r seq).slot seq = r.slot seq := by
    unfold NanoReorder.slot
    rw [hslots]
  dsimp only
  unfold reorderLogPush reorderPush
  by_cases hrefused : data = [] ∨ data.length > mediaBufSize
  · rw [if_pos hrefused, if_pos hrefused]
    exact .inl rfl
  rw [if_neg hrefused, if_neg hrefused]
  refine .inr ?_
  dsimp only
  rw [← start_r]
  have hstart := start_inited l seq
  generalize l.start seq = l1 at hstart
  by_cases hlate : i16 (seq - l1.r.nextSeq) < 0
  · rw [if_pos hlate, if_pos hlate]
    exact .inl rfl
  rw [if_neg hlate, if_neg hlate]
  refine .inr ⟨hlate, rfl, rfl, rfl, ?_⟩
  dsimp only
  rw [hslot]
  by_cases hhas : reorderHas l1.r seq
  · have hthere : (l1.r.slot seq).occupied = true ∧ (l1.r.slot seq).seq = seq := hhas
    rw [if_pos hthere, if_pos hhas]
    exact ⟨rfl, (hinited _).trans hstart, rfl, .inl ⟨hhas, hslots _, rfl⟩⟩
  · have hnot : ¬ ((l1.r.slot seq).occupied = true ∧ (l1.r.slot seq).seq = seq) := hhas
    rw [if_neg hnot, if_neg hhas]
    refine ⟨rfl, (hinited _).trans hstart, rfl, .inr ⟨hhas, ?_, rfl⟩⟩
    rw [← hslots l1.r]

/-- Where the window moves to. -/
theorem reorderAdvance_spec {l1 : ReorderLog} (h : ReorderKept l1) (hinit : l1.r.inited = true)
    {seq : UInt16} (hlate : ¬ i16 (seq - l1.r.nextSeq) < 0) :
    let place := l1.head + (i16 (seq - l1.r.nextSeq)).toNat
    let head := max l1.head (place + 1 - videoReorderSlots)
    seq = UInt16.ofNat place ∧ (reorderAdvance l1.r seq).nextSeq = UInt16.ofNat head ∧
      ((reorderAdvance l1.r seq).pendingLost = false ↔
        l1.r.pendingLost = false ∧ head = l1.head) := by
  have h8 : videoReorderSlots = 8 := rfl
  have hseq : seq = UInt16.ofNat (l1.head + (i16 (seq - l1.r.nextSeq)).toNat) := by
    rw [UInt16.ofNat_add, ← h.nextSeq hinit]
    exact seq_eq_add hlate
  refine ⟨hseq, ?_⟩
  generalize hahead : i16 (seq - l1.r.nextSeq) = ahead at *
  unfold reorderAdvance
  rw [hahead]
  split
  · rename_i hfar
    refine ⟨?_, iff_of_false nofun (by omega)⟩
    show seq - UInt16.ofNat videoReorderSlots + 1 = _
    rw [hseq, ← UInt16.toNat_inj, UInt16.toNat_add, UInt16.toNat_sub, UInt16.toNat_ofNat',
      UInt16.toNat_ofNat', UInt16.toNat_ofNat']
    have hone : (1 : UInt16).toNat = 1 := rfl
    omega
  · rename_i hnear
    refine ⟨?_, (and_iff_left (by omega)).symm⟩
    rw [h.nextSeq hinit]
    congr 1
    omega

theorem ReorderKept.push (h : ReorderKept l) (seq : UInt16) (ts : UInt32) (marker : Bool)
    (data : List UInt8) (nowMs : UInt32) :
    ReorderKept (reorderLogPush l seq ts marker data nowMs) := by
  have h1 := h.start seq
  have hinit := start_inited l seq
  rcases reorderLogPush_cases (l := l) seq ts marker data nowMs with
    hsame | hstart | ⟨hlate, hhead, hpops, -, hnext, hinited, hlost, hslots⟩
  · rw [hsame]
    exact h
  · rw [hstart]
    exact h1
  revert h1 hinit hlate hhead hpops hnext hlost hslots
  generalize l.start seq = l1
  generalize reorderLogPush l seq ts marker data nowMs = l' at *
  intro h1 hinit hlate hhead hpops hnext hlost hslots
  obtain ⟨-, hadv, hadvLost⟩ := reorderAdvance_spec h1 hinit hlate
  refine ⟨?_, fun _ => ?_, fun hno => ?_, ?_, ?_, ?_⟩
  · rcases hslots with ⟨-, hslots, -⟩ | ⟨-, hslots, -⟩
    · refine ⟨by rw [hslots]; exact h1.placed.length, fun j hj hocc => ?_⟩
      unfold reorderCell at hocc ⊢
      rw [hslots] at hocc ⊢
      exact h1.placed.placed j hj hocc
    · refine ⟨by rw [hslots, List.length_set]; exact h1.placed.length, fun j hj hocc => ?_⟩
      have hcell := reorderCell_set h1.placed.length (reorderSlotIdx_lt seq)
        ⟨data, ts, nowMs, seq, marker, true⟩ j
      unfold reorderCell at hocc ⊢
      rw [hslots, hcell] at hocc ⊢
      split at hocc
      · rename_i heq
        rw [if_pos heq]
        exact heq.symm
      · rename_i hne
        rw [if_neg hne]
        exact h1.placed.placed j hj hocc
  · rw [hnext, hadv, hhead]
  · exact nomatch hno.symm.trans hinited
  · rw [hpops]
    exact h1.seqs
  · rw [hpops]
    exact h1.chain
  · rw [hpops]
    intro e he
    obtain ⟨hlt, hflag⟩ := h1.last e he
    rw [hlost, hadvLost, hflag, hhead]
    omega

theorem start_cell (l : ReorderLog) (seq : UInt16) (j : Nat) :
    reorderCell (l.start seq).r j = reorderCell l.r j ∧ (l.start seq).places = l.places := by
  unfold ReorderLog.start
  split <;> exact ⟨rfl, rfl⟩

theorem ReorderFirst.push (h : ReorderKept l) (hf : ReorderFirst l) {seq : UInt16} {ts : UInt32}
    {marker : Bool} {data : List UInt8} {nowMs : UInt32}
    (hfresh : ReorderFresh l (.push seq ts marker data nowMs)) :
    ReorderFirst (reorderLogPush l seq ts marker data nowMs) := by
  have h8 : videoReorderSlots = 8 := rfl
  have hfresh (j : Nat) (hj : j < videoReorderSlots)
      (hocc : (reorderCell (l.start seq).r j).occupied = true) :
      (reorderLogPush l seq ts marker data nowMs).head + videoReorderSlots ≤
        (l.start seq).places j + 2 ^ 16 := by
    obtain ⟨hcell, hplaces⟩ := start_cell l seq j
    rw [hcell] at hocc
    rw [hplaces]
    exact hfresh j hj hocc
  have h1 := h.start seq
  have hf1 := hf.start h seq
  have hinit := start_inited l seq
  rcases reorderLogPush_cases (l := l) seq ts marker data nowMs with
    hsame | hstart | ⟨hlate, hhead, hpops, hpushes, -, -, -, hslots⟩
  · rw [hsame]
    exact hf
  · rw [hstart]
    exact hf1
  revert h1 hf1 hinit hfresh hlate hhead hpops hpushes hslots
  generalize l.start seq = l1
  generalize reorderLogPush l seq ts marker data nowMs = l'
  intro hfresh h1 hf1 hinit hlate hhead hpops hpushes hslots
  obtain ⟨hseq, -, -⟩ := reorderAdvance_spec h1 hinit hlate
  generalize hplace : l1.head + (i16 (seq - l1.r.nextSeq)).toNat = place at *
  have hbehind : l1.head ≤ place := by omega
  have hidx : reorderSlotIdx seq = place % videoReorderSlots := by rw [hseq, reorderSlotIdx_ofNat]
  have hj : place % videoReorderSlots < videoReorderSlots := Nat.mod_lt _ (by decide)
  -- a packet pushed before for the position is in its slot
  have hagain (e : Nat × ReorderSlot) (he : e ∈ l1.pushes) (heq : e.1 = place) :
      reorderHas l1.r seq := by
    obtain ⟨-, hahead⟩ := hf1.ahead e he
    rw [heq] at hahead
    obtain ⟨hocc, hplaces⟩ := hahead hbehind
    obtain ⟨hcell, -, -⟩ := hf1.slots _ hj hocc
    unfold reorderHas
    rw [slot_eq_cell, hidx]
    exact ⟨hocc, by rw [hcell, hplaces, hseq]⟩
  have hfound {p : Nat} {s : ReorderSlot} (h : l1.pushes.find? (·.1 == p) = some (p, s)) :
      l'.pushes.find? (·.1 == p) = some (p, s) := by
    rw [hpushes, List.find?_append, h]
    rfl
  have hpopped : ∀ e ∈ l'.pops, l'.pushes.find? (·.1 == e.1) = some (e.1, e.2.1) := by
    rw [hpops]
    exact fun e he => hfound (hf1.popped e he)
  rcases hslots with ⟨hhas, hslots, hplaces⟩ | ⟨hnot, hslots, hplaces⟩
  · -- the slot holds the packet pushed first for this position
    have hsame (j : Nat) : reorderCell l'.r j = reorderCell l1.r j := by
      unfold reorderCell
      rw [hslots]
    have hthere : l1.places (place % videoReorderSlots) = place := by
      unfold reorderHas at hhas
      rw [slot_eq_cell, hidx] at hhas
      obtain ⟨hpos, hbound, -⟩ := hf1.slots _ hj hhas.1
      have hle := hfresh _ hj hhas.1
      have hmod := ofNat_eq_ofNat_iff.mp (hpos.symm.trans (hhas.2.trans hseq))
      omega
    refine ⟨fun j hj hocc => ?_, fun e he => ?_, hpopped⟩
    · rw [hsame] at hocc ⊢
      rw [hplaces]
      obtain ⟨hpos, hbound, hfirst⟩ := hf1.slots j hj hocc
      exact ⟨hpos, by omega, hfound hfirst⟩
    · rw [hsame, hplaces]
      rw [hpushes] at he
      rcases List.mem_append.mp he with he | he
      · obtain ⟨hbound, hahead⟩ := hf1.ahead e he
        exact ⟨by omega, fun hle => hahead (by omega)⟩
      · rw [List.mem_singleton.mp he]
        unfold reorderHas at hhas
        rw [slot_eq_cell, hidx] at hhas
        exact ⟨by omega, fun _ => ⟨hhas.1, hthere⟩⟩
  · have hcell (j : Nat) : reorderCell l'.r j = if j = place % videoReorderSlots then
        ⟨data, ts, nowMs, seq, marker, true⟩ else reorderCell l1.r j := by
      have hset := reorderCell_set h1.placed.length (reorderSlotIdx_lt seq)
        ⟨data, ts, nowMs, seq, marker, true⟩ j
      rw [hidx] at hset
      rw [← hset, ← hidx, ← hslots]
      rfl
    rw [hidx] at hplaces
    refine ⟨fun j hj hocc => ?_, fun e he => ?_, hpopped⟩
    · rw [hcell] at hocc ⊢
      rw [hplaces]
      by_cases heq : j = place % videoReorderSlots
      · rw [heq, if_pos rfl, Function.update_self]
        have hnone : l1.pushes.find? (·.1 == place) = none := by
          rw [List.find?_eq_none]
          intro e he hcon
          exact hnot (hagain e he (beq_iff_eq.mp hcon))
        refine ⟨hseq, by omega, ?_⟩
        rw [hpushes, List.find?_append, hnone, Option.none_or, List.find?_cons_of_pos]
        exact beq_self_eq_true place
      · rw [if_neg heq] at hocc ⊢
        rw [Function.update_of_ne heq]
        obtain ⟨hpos, hbound, hfirst⟩ := hf1.slots j hj hocc
        exact ⟨hpos, by omega, hfound hfirst⟩
    · rw [hcell, hplaces]
      rw [hpushes] at he
      rcases List.mem_append.mp he with he | he
      · obtain ⟨hbound, hahead⟩ := hf1.ahead e he
        refine ⟨by omega, fun hle => ?_⟩
        have hne : e.1 % videoReorderSlots ≠ place % videoReorderSlots := by
          intro hcon
          have hcon : e.1 % 8 = place % 8 := hcon
          exact hnot (hagain e he (by omega))
        rw [if_neg hne, Function.update_of_ne hne]
        exact hahead (by omega)
      · rw [List.mem_singleton.mp he, if_pos rfl, Function.update_self]
        exact ⟨by omega, fun _ => ⟨rfl, rfl⟩⟩

end

/-! ### Runs -/

/-- **The positions along one call.** -/
theorem ReorderKept.step {l : ReorderLog} (h : ReorderKept l) (i : ReorderInput) :
    ReorderKept (reorderLogStep l i) := by
  cases i with
  | push seq ts marker data nowMs => exact h.push seq ts marker data nowMs
  | pop nowMs => exact h.pop nowMs

theorem ReorderFirst.step {l : ReorderLog} {i : ReorderInput} (hfresh : ReorderFresh l i)
    (h : ReorderKept l ∧ ReorderFirst l) :
    ReorderKept (reorderLogStep l i) ∧ ReorderFirst (reorderLogStep l i) := by
  cases i with
  | push seq ts marker data nowMs => exact ⟨h.1.step _, h.2.push h.1 hfresh⟩
  | pop nowMs => exact ⟨h.1.step _, h.2.pop h.1 hfresh⟩

/-- **The reorder buffer** after any calls: the packets popped are in the order of their positions
and marked exactly where the next position was missed, and their numbers are those of the
positions; the loop of a pop is over within eight turns, and the timeout is 0 exactly when it
returns a packet. If no packet stays in its slot until the numbers come round, each is the first
packet pushed for its position. -/
theorem reorder_window (is : List ReorderInput) :
    let l := run reorderLogStep reorderLogInit is
    (l.pops.IsChain ReorderNext ∧ ∀ e ∈ l.pops, e.2.1.seq = UInt16.ofNat e.1) ∧
    (∀ nowMs, (∀ turns ≥ videoReorderSlots,
        reorderPopLoop nowMs turns l.r = reorderPopLoop nowMs videoReorderSlots l.r) ∧
      (reorderNextTimeoutMs l.r nowMs = 0 ↔ (reorderPop l.r nowMs).2.isSome = true)) ∧
    (AllSteps reorderLogStep reorderLogInit ReorderFresh is →
      ∀ e ∈ l.pops, l.pushes.find? (·.1 == e.1) = some (e.1, e.2.1)) := by
  have h : ReorderKept (run reorderLogStep reorderLogInit is) :=
    run_invariant (fun _ i h => h.step i) reorderKept_init is
  refine ⟨⟨h.chain, h.seqs⟩, fun nowMs => ⟨fun turns hturns => ?_,
    reorderNextTimeoutMs_zero h.placed nowMs⟩, fun hfresh => ?_⟩
  · rcases reorderPopLoop_spec h.placed nowMs with ⟨-, k, -, -, hloop⟩ | ⟨-, hloop⟩
    · rw [hloop turns hturns, hloop _ (Nat.le_refl _)]
    · rw [hloop turns hturns, hloop _ (Nat.le_refl _)]
  · have hboth := run_allSteps (P := fun l => ReorderKept l ∧ ReorderFirst l)
      (fun _ _ => ReorderFirst.step) hfresh ⟨reorderKept_init, reorderFirst_init⟩
    exact hboth.2.popped

/-- Two packets that change places, and the one between them that never comes. -/
def demoReorder : List ReorderInput :=
  [.push 65535 1 false [1] 0, .push 2 3 true [4] 0, .push 0 2 false [2] 1, .pop 1, .pop 1, .pop 1,
    .pop 30]

theorem reorder_window_demo :
    let l := run reorderLogStep reorderLogInit demoReorder
    l.pops.map (fun e => (e.2.1.seq, e.2.1.data, e.2.2)) =
      [(65535, [1], false), (0, [2], false), (2, [4], true)] ∧
    ∀ e ∈ l.pops, l.pushes.find? (·.1 == e.1) = some (e.1, e.2.1) :=
  ⟨by decide, (reorder_window demoReorder).2.2 (by decide)⟩

/-- A number pushed twice keeps the bytes of its first push, and a head that moves by more than half
of the numbers between two pops leaves serial order. -/
theorem reorder_repeated :
    ((run reorderLogStep reorderLogInit
      [.push 1 0 false [1] 0, .push 1 0 false [2] 0, .pop 0]).pops.map fun e => e.2.1.data) = [[1]] ∧
    ((run reorderLogStep reorderLogInit
      [.push 0 0 false [1] 0, .pop 0, .push 20000 0 false [2] 0, .push 40000 0 false [3] 0,
        .pop 30]).pops.map fun e => e.2.1.seq) = [0, 40000] ∧ i16 (40000 - 0) < 0 := by
  decide

end Nanortc.Spec
