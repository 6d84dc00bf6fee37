import Mathlib
import Nanortc.ForStd.Recent
import Nanortc.ForStd.Run
import Nanortc.ForStd.Timer
import Nanortc.Native.Jitter

/-!
# Playout through the jitter buffer

Sequence numbers stand for positions, which the head of the buffer passes one after the other. As
long as no packet is pushed late or twice, the slots hold the packets of the positions from the head
on, and each of them is played out once unless a push moves the head past it. A late packet is
written to the slot of the position one buffer size ahead of its own.

## Key results

- `jitterPop_cases`: what `jitterPop` takes out and where the head moves to
- `JitterOrder.step`, `JitterHolds.step`: the order of playout, and what the slots hold
- `jitterNextTimeoutMs_zero`: the timeout is 0 exactly when a packet would be played out
- `jitter_playout`: the three along every run
-/

namespace Nanortc.Spec

open Nanortc.ForStd Nanortc.Native

/-! ### Slots -/

/-- The slot at an index. -/
def jitterCell (jb : NanoJitter) (j : Nat) : JitterSlot := jb.slots.getD j default

theorem jitterSlot_eq_cell (jb : NanoJitter) (seq : UInt16) :
    jb.slot seq = jitterCell jb (jitterSlotIdx seq) := rfl

theorem jitterSlotIdx_lt (seq : UInt16) : jitterSlotIdx seq < jitterSlots := Nat.mod_lt _ (by decide)

theorem jitterSlotIdx_ofNat (p : Nat) : jitterSlotIdx (UInt16.ofNat p) = p % jitterSlots := by
  have h32 : jitterSlots = 32 := rfl
  unfold jitterSlotIdx
  rw [UInt16.toNat_ofNat', h32]
  omega

/-- The slots after the head was passed. -/
theorem jitterCell_passHead {jb : NanoJitter} (hlen : jb.slots.length = jitterSlots) (j : Nat) :
    jitterCell jb.passHead j =
      if j = jitterSlotIdx jb.headSeq then { jitterCell jb j with occupied := false }
      else jitterCell jb j := by
  have hset := getD_set (by rw [hlen]; exact jitterSlotIdx_lt jb.headSeq)
    { jb.slot jb.headSeq with occupied := false } default j
  refine hset.trans ?_
  split
  · rename_i hj
    rw [hj, jitterSlot_eq_cell]
  · rfl

/-- The head moved on by `n` empties the slots it passes. -/
theorem jitterAdvance_spec (n : Nat) {jb : NanoJitter} (hlen : jb.slots.length = jitterSlots)
    {head : Nat} (hhead : jb.headSeq = UInt16.ofNat head) :
    (jitterAdvance n jb).headSeq = UInt16.ofNat (head + n) ∧
      (jitterAdvance n jb).slots.length = jitterSlots ∧
      (jitterAdvance n jb).depthMs = jb.depthMs ∧ (jitterAdvance n jb).started = jb.started ∧
      ∀ j, jitterCell (jitterAdvance n jb) j =
        if ∃ m < n, (head + m) % jitterSlots = j then
          { jitterCell jb j with occupied := false }
        else jitterCell jb j := by
  induction n generalizing jb head with
  | zero =>
    refine ⟨hhead, hlen, rfl, rfl, fun j => ?_⟩
    rw [if_neg (by rintro ⟨m, hm, -⟩; omega)]
    rfl
  | succ n ih =>
    have hnext : jb.passHead.headSeq = UInt16.ofNat (head + 1) := by
      show jb.headSeq + 1 = _
      rw [hhead]
      exact (UInt16.ofNat_add head 1).symm
    have hlen' : jb.passHead.slots.length = jitterSlots := List.length_set.trans hlen
    obtain ⟨hseq, hl, hdepth, hstarted, hcells⟩ := ih hlen' hnext
    refine ⟨?_, hl, hdepth, hstarted, fun j => ?_⟩
    · rw [jitterAdvance, hseq, Nat.add_right_comm, Nat.add_assoc]
    · rw [jitterAdvance, hcells, jitterCell_passHead hlen, hhead, jitterSlotIdx_ofNat]
      by_cases hj : j = head % jitterSlots
      · rw [if_pos hj, ite_self, if_pos ⟨0, Nat.succ_pos n, hj.symm⟩]
      · rw [if_neg hj]
        refine if_congr ?_ rfl rfl
        constructor
        · rintro ⟨m, hm, heq⟩
          exact ⟨m + 1, by omega, by rw [← heq, Nat.add_right_comm, Nat.add_assoc]⟩
        · rintro ⟨m, hm, heq⟩
          cases m with
          | zero => exact absurd heq.symm hj
          | succ m => exact ⟨m, by omega, by rw [← heq, Nat.add_right_comm, Nat.add_assoc]⟩

/-! ### Popping -/

/-- The slot of the number `i` ahead of the head holds its packet. -/
theorem jitterMoved_holds_iff {jb : NanoJitter} {head : Nat} (hhead : jb.headSeq = UInt16.ofNat head) (i : Nat) :
    jb.holds i = true ↔ (jitterCell jb ((head + i) % jitterSlots)).occupied = true ∧
      (jitterCell jb ((head + i) % jitterSlots)).seq = UInt16.ofNat (head + i) := by
  have hseq : jb.headSeq + UInt16.ofNat i = UInt16.ofNat (head + i) := by
    rw [hhead, UInt16.ofNat_add]
  unfold NanoJitter.holds
  dsimp only
  rw [hseq, jitterSlot_eq_cell, jitterSlotIdx_ofNat, Bool.and_eq_true, beq_iff_eq]

/-- The head moved on by `i`. -/
def jitterMoved (jb : NanoJitter) (i : Nat) : NanoJitter :=
  { jb with headSeq := jb.headSeq + UInt16.ofNat i }

theorem jitterMoved_zero (jb : NanoJitter) : jitterMoved jb 0 = jb := by
  show { jb with headSeq := jb.headSeq + 0 } = jb
  rw [UInt16.add_zero]

/-- What happens at a head that is found. -/
theorem jitterPopHead_cases (jb : NanoJitter) (nowMs : UInt32) (bufLen : Nat) :
    let s := jb.slot jb.headSeq
    s.seq ≠ jb.headSeq ∧ jitterPopHead jb nowMs bufLen = (jb.passHead, .noData, none) ∨
    s.seq = jb.headSeq ∧ jb.due nowMs s = false ∧
      jitterPopHead jb nowMs bufLen = (jb, .noData, none) ∨
    s.seq = jb.headSeq ∧ jb.due nowMs s = true ∧
      (bufLen < s.data.length ∧ jitterPopHead jb nowMs bufLen = (jb, .bufferTooSmall, none) ∨
        s.data.length ≤ bufLen ∧ jitterPopHead jb nowMs bufLen = (jb.passHead, .ok, some s)) := by
  unfold jitterPopHead
  dsimp only
  by_cases hseq : (jb.slot jb.headSeq).seq ≠ jb.headSeq
  · rw [if_pos hseq]
    exact .inl ⟨hseq, rfl⟩
  rw [if_neg hseq]
  refine .inr ?_
  by_cases hdue : jb.due nowMs (jb.slot jb.headSeq) = true
  · rw [if_neg (by rw [hdue]; nofun)]
    refine .inr ⟨not_not.mp hseq, hdue, ?_⟩
    by_cases hfits : bufLen < (jb.slot jb.headSeq).data.length
    · rw [if_pos hfits]
      exact .inl ⟨hfits, rfl⟩
    · rw [if_neg hfits]
      exact .inr ⟨Nat.not_lt.mp hfits, rfl⟩
  · rw [Bool.not_eq_true] at hdue
    rw [if_pos (by rw [hdue]; rfl)]
    exact .inl ⟨not_not.mp hseq, hdue, rfl⟩

/-- The first packet behind a missing head. -/
theorem jitterSkip_eq_some {jb q : NanoJitter} {nowMs : UInt32} (h : jitterSkip jb nowMs = some q) :
    ∃ i < jitterSlots, 0 < i ∧ jb.holds i = true ∧ (∀ m, 0 < m → m < i → jb.holds m = false) ∧
      jb.due nowMs (jb.slot (jb.headSeq + UInt16.ofNat i)) = true ∧ q = jitterMoved jb i := by
  have h32 : jitterSlots = 32 := rfl
  unfold jitterSkip at h
  cases hfind : (List.range' 1 (jitterSlots - 1)).find? jb.holds with
  | none =>
    rw [hfind] at h
    exact nomatch h
  | some i =>
    rw [hfind] at h
    dsimp only at h
    split at h
    swap
    · exact nomatch h
    rename_i hdue
    injection h with h
    obtain ⟨hholds, before, after, hsplit, hearlier⟩ := List.find?_eq_some_iff_append.mp hfind
    have hi : i ∈ List.range' 1 (jitterSlots - 1) := by
      rw [hsplit]
      exact List.mem_append_right _ List.mem_cons_self
    have hrange := List.mem_range'_1.mp hi
    refine ⟨i, by omega, by omega, hholds, fun m hpos hm => ?_, hdue, h.symm⟩
    -- the numbers looked at before are smaller
    have hmem : m ∈ before ++ i :: after := by
      rw [← hsplit, List.mem_range'_1]
      omega
    have hsorted : (before ++ i :: after).Pairwise (· < ·) := by
      rw [← hsplit]
      exact List.pairwise_lt_range'
    rcases List.mem_append.mp hmem with hmem | hmem
    · exact Bool.not_eq_true' _ ▸ hearlier m hmem
    · rcases List.mem_cons.mp hmem with rfl | hmem
      · exact absurd hm (Nat.lt_irrefl _)
      · have hlt := (List.pairwise_cons.mp (List.pairwise_append.mp hsorted).2.1).1 m hmem
        omega

/-- **What `jitterPop` does**: nothing, the drop of a packet of another number in the head slot, or
a move of the head to the first packet that is there, which comes out if the buffer holds it. -/
theorem jitterPop_cases {jb : NanoJitter} {head : Nat} (hhead : jb.headSeq = UInt16.ofNat head)
    (nowMs : UInt32) (bufLen : Nat) :
    jitterPop jb nowMs bufLen = (jb, .noData, none) ∨
    (jb.started = true ∧ (jb.slot jb.headSeq).occupied = true ∧
      (jb.slot jb.headSeq).seq ≠ jb.headSeq ∧
      jitterPop jb nowMs bufLen = (jb.passHead, .noData, none)) ∨
    jb.started = true ∧ ∃ i < jitterSlots, jb.holds i = true ∧ (∀ m < i, jb.holds m = false) ∧
      (0 < i → (jb.slot jb.headSeq).occupied = false) ∧
      let s := jitterCell jb ((head + i) % jitterSlots)
      (bufLen < s.data.length ∧
          jitterPop jb nowMs bufLen = (jitterMoved jb i, .bufferTooSmall, none) ∨
        s.data.length ≤ bufLen ∧
          jitterPop jb nowMs bufLen = ((jitterMoved jb i).passHead, .ok, some s)) := by
  have hslot (i : Nat) : (jitterMoved jb i).slot (jitterMoved jb i).headSeq =
      jitterCell jb ((head + i) % jitterSlots) := by
    have hseq : (jitterMoved jb i).headSeq = UInt16.ofNat (head + i) := by
      rw [UInt16.ofNat_add, ← hhead]
      rfl
    rw [jitterSlot_eq_cell, hseq, jitterSlotIdx_ofNat]
    rfl
  have hnumber (i : Nat) : (jitterMoved jb i).headSeq = UInt16.ofNat (head + i) := by
    rw [UInt16.ofNat_add, ← hhead]
    rfl
  unfold jitterPop
  by_cases hstarted : jb.started = true
  swap
  · rw [Bool.not_eq_true] at hstarted
    rw [if_pos (by rw [hstarted]; rfl)]
    exact .inl rfl
  rw [if_neg (by rw [hstarted]; nofun)]
  by_cases hocc : (jb.slot jb.headSeq).occupied = true
  · rw [if_pos hocc]
    rcases jitterPopHead_cases jb nowMs bufLen with ⟨hne, heq⟩ | ⟨-, -, heq⟩ | ⟨hseq, -, hout⟩
    · exact .inr (.inl ⟨hstarted, hocc, hne, heq⟩)
    · exact .inl heq
    · have hzero := hslot 0
      rw [jitterMoved_zero] at hzero
      have hholds : jb.holds 0 = true := by
        rw [jitterMoved_holds_iff hhead, ← hzero]
        exact ⟨hocc, hseq.trans hhead⟩
      refine .inr (.inr ⟨hstarted, 0, by decide, hholds, nofun, nofun, ?_⟩)
      rw [jitterMoved_zero, ← hzero]
      exact hout
  · rw [if_neg hocc]
    cases hskip : jitterSkip jb nowMs with
    | none => exact .inl rfl
    | some q =>
      obtain ⟨i, hi, hpos, hholds, hearlier, hdue, rfl⟩ := jitterSkip_eq_some hskip
      obtain ⟨-, hseq⟩ := (jitterMoved_holds_iff hhead i).mp hholds
      have hcases := jitterPopHead_cases (jitterMoved jb i) nowMs bufLen
      dsimp only at hcases
      have hdue' : (jitterMoved jb i).due nowMs (jitterCell jb ((head + i) % jitterSlots)) = true := by
        rw [← hslot]
        exact hdue
      rw [hslot, hnumber] at hcases
      rcases hcases with ⟨hne, -⟩ | ⟨-, hnot, -⟩ | ⟨-, -, hout⟩
      · exact absurd hseq hne
      · exact nomatch hnot.symm.trans hdue'
      · refine .inr (.inr ⟨hstarted, i, hi, hholds, fun m hm => ?_,
          fun _ => Bool.eq_false_iff.mpr hocc, hout⟩)
        -- the head itself is empty
        cases m with
        | zero =>
          rw [← Bool.not_eq_true, jitterMoved_holds_iff hhead, ← hslot, jitterMoved_zero]
          exact fun hcon => hocc hcon.1
        | succ m => exact hearlier (m + 1) (Nat.succ_pos m) hm

/-! ### The timeout -/

/-- **The timeout is 0** exactly when a packet would be played out, if the head slot holds no packet
of another number and the caller's buffer holds every packet. -/
theorem jitterNextTimeoutMs_zero {jb : NanoJitter}
    (hown : (jb.slot jb.headSeq).occupied = true → (jb.slot jb.headSeq).seq = jb.headSeq)
    (nowMs : UInt32) {bufLen : Nat} (hfits : ∀ j, (jitterCell jb j).data.length ≤ bufLen) :
    jitterNextTimeoutMs jb nowMs = 0 ↔ (jitterPop jb nowMs bufLen).2.2.isSome = true := by
  have hdue (s : JitterSlot) : timeLeft nowMs s.arrivalMs jb.depthMs = 0 ↔ jb.due nowMs s = true := by
    unfold NanoJitter.due
    rw [decide_eq_true_eq]
    refine ⟨timeLeft_zero, fun h => ?_⟩
    unfold timeLeft
    rw [if_pos h]
  have hout (q : NanoJitter) (hseq : (q.slot q.headSeq).seq = q.headSeq)
      (hlen : (q.slot q.headSeq).data.length ≤ bufLen) :
      (jitterPopHead q nowMs bufLen).2.2.isSome = true ↔ q.due nowMs (q.slot q.headSeq) = true := by
    rcases jitterPopHead_cases q nowMs bufLen with
      ⟨hne, -⟩ | ⟨-, hnot, heq⟩ | ⟨-, hyes, ⟨hlt, -⟩ | ⟨-, heq⟩⟩
    · exact absurd hseq hne
    · rw [heq, hnot]
      exact iff_of_false nofun nofun
    · exact absurd hlt (Nat.not_lt.mpr hlen)
    · rw [heq, hyes]
      exact iff_of_true rfl rfl
  unfold jitterNextTimeoutMs jitterPop
  by_cases hstarted : jb.started = true
  swap
  · rw [Bool.not_eq_true] at hstarted
    rw [if_pos (by rw [hstarted]; rfl), if_pos (by rw [hstarted]; rfl)]
    exact iff_of_false nofun nofun
  rw [if_neg (by rw [hstarted]; nofun), if_neg (by rw [hstarted]; nofun)]
  have hrange : List.range jitterSlots = 0 :: List.range' 1 (jitterSlots - 1) := rfl
  rw [hrange]
  have hzero : jb.holds 0 = (jb.slot jb.headSeq).occupied := by
    unfold NanoJitter.holds
    show ((jb.slot (jb.headSeq + 0)).occupied && (jb.slot (jb.headSeq + 0)).seq == jb.headSeq + 0) = _
    rw [UInt16.add_zero]
    by_cases hocc : (jb.slot jb.headSeq).occupied = true
    · rw [hocc, hown hocc, beq_self_eq_true]
      rfl
    · rw [Bool.not_eq_true] at hocc
      rw [hocc]
      rfl
  by_cases hocc : (jb.slot jb.headSeq).occupied = true
  · rw [List.find?_cons_of_pos (hzero.trans hocc), if_pos hocc]
    have hmoved : jb.headSeq + UInt16.ofNat 0 = jb.headSeq := UInt16.add_zero _
    dsimp only
    rw [hmoved]
    exact (hdue _).trans (hout jb (hown hocc) (hfits _)).symm
  · rw [List.find?_cons_of_neg (by rw [hzero]; exact hocc), if_neg hocc]
    unfold jitterSkip
    cases hfind : (List.range' 1 (jitterSlots - 1)).find? jb.holds with
    | none => exact iff_of_false nofun nofun
    | some i =>
      have hholds := List.find?_some hfind
      have hseq : ((jitterMoved jb i).slot (jitterMoved jb i).headSeq).seq =
          (jitterMoved jb i).headSeq := by
        unfold NanoJitter.holds at hholds
        rw [Bool.and_eq_true, beq_iff_eq] at hholds
        exact hholds.2
      have hmoved := hout (jitterMoved jb i) hseq (hfits _)
      dsimp only
      refine (hdue _).trans ?_
      by_cases hyes : jb.due nowMs (jb.slot (jb.headSeq + UInt16.ofNat i)) = true
      · rw [if_pos hyes]
        exact iff_of_true hyes (hmoved.mpr hyes)
      · rw [if_neg hyes]
        exact iff_of_false hyes nofun

/-! ### Positions -/

/-- A call. -/
inductive JitterInput where
  | push (seq : UInt16) (timestamp : UInt32) (data : List UInt8) (nowMs : UInt32)
  | pop (nowMs : UInt32) (bufLen : Nat)
deriving DecidableEq

/-- The buffer and the position of its head, the packets pushed from the head on and those played
out with their positions, and the moves of the head that pushes made, oldest first. -/
structure JitterLog where
  jb : NanoJitter
  head : Nat
  pushes : List (Nat × JitterSlot)
  pops : List (Nat × JitterSlot)
  jumps : List (Nat × Nat)

/-- The buffer after `jitter_init`. -/
def jitterLogInit (depthMs : UInt32) : JitterLog := ⟨jitterInit depthMs, 0, [], [], []⟩

/-- The first packet is at the position of its number. -/
def JitterLog.start (l : JitterLog) (seq : UInt16) : JitterLog :=
  if l.jb.started then l
  else { l with jb := { l.jb with headSeq := seq, started := true }, head := seq.toNat }

/-- A push. The position is that of the number from the head on; a late packet has none. -/
def jitterLogPush (l : JitterLog) (seq : UInt16) (timestamp : UInt32) (data : List UInt8)
    (nowMs : UInt32) : JitterLog :=
  match jitterPush l.jb seq timestamp data nowMs with
  | (jb, .ok) =>
    let l := l.start seq
    if i16 (seq - l.jb.headSeq) < 0 then { l with jb := jb }
    else
      let place := l.head + (i16 (seq - l.jb.headSeq)).toNat
      let head := max l.head (place + 1 - jitterSlots)
      { jb := jb
        head := head
        pushes := l.pushes ++ [(place, ⟨data, seq, timestamp, nowMs, true⟩)]
        pops := l.pops
        jumps := l.jumps ++ [(l.head, head)] }
  | (jb, _) => { l with jb := jb }

/-- A pop. -/
def jitterLogPop (l : JitterLog) (nowMs : UInt32) (bufLen : Nat) : JitterLog :=
  let r := jitterPop l.jb nowMs bufLen
  let head := l.head + (r.1.headSeq - l.jb.headSeq).toNat
  { l with
    jb := r.1
    head := head
    pops := l.pops ++ (r.2.2.map fun s => (head - 1, s)).toList }

/-- One call. -/
def jitterLogStep (l : JitterLog) : JitterInput → JitterLog
  | .push seq timestamp data nowMs => jitterLogPush l seq timestamp data nowMs
  | .pop nowMs bufLen => jitterLogPop l nowMs bufLen

/-- What one packet played out is to the one before: it is of a later position, so of a later number
in serial order if the head moved by less than half of the numbers. -/
structure JitterNext (a b : Nat × JitterSlot) : Prop where
  order : a.1 < b.1
  serial : b.1 < a.1 + 2 ^ 15 → 0 < i16 (b.2.seq - a.2.seq)

/-- The head is where the positions say, and what was played out is in order. -/
structure JitterOrder (l : JitterLog) : Prop where
  length : l.jb.slots.length = jitterSlots
  headSeq : l.jb.started = true → l.jb.headSeq = UInt16.ofNat l.head
  blank : l.jb.started = false → (∀ j, (jitterCell l.jb j).occupied = false) ∧ l.pushes = [] ∧
    l.pops = [] ∧ l.jumps = []
  seqs : ∀ e ∈ l.pops, e.2.seq = UInt16.ofNat e.1
  chain : l.pops.IsChain JitterNext
  last : ∀ e ∈ l.pops.getLast?, e.1 < l.head
  jumps : ∀ j ∈ l.jumps, j.2 ≤ l.head

/-- A packet waits in its slot, or was played out, or a push moved the head past it. -/
def JitterFate (l : JitterLog) (e : Nat × JitterSlot) : Prop :=
  (l.head ≤ e.1 ∧ e.1 < l.head + jitterSlots ∧ jitterCell l.jb (e.1 % jitterSlots) = e.2) ∨
    (e ∈ l.pops ∧ e.1 < l.head) ∨ ∃ j ∈ l.jumps, j.1 ≤ e.1 ∧ e.1 < j.2

/-- The slots hold packets of the positions from the head on, and no packet is unaccounted for. -/
structure JitterHolds (l : JitterLog) : Prop where
  slots : ∀ j < jitterSlots, (jitterCell l.jb j).occupied = true → ∃ p, l.head ≤ p ∧
    p < l.head + jitterSlots ∧ p % jitterSlots = j ∧ (p, jitterCell l.jb j) ∈ l.pushes
  pushed : ∀ e ∈ l.pushes, e.2.occupied = true ∧ e.2.seq = UInt16.ofNat e.1
  fate : ∀ e ∈ l.pushes, JitterFate l e
  distinct : (l.pushes.map Prod.fst).Nodup
  popped : ∀ e ∈ l.pops, e ∈ l.pushes
  sizes : ∀ j, (jitterCell l.jb j).data.length ≤ jitterSlotDataSize

/-- The call pushes no packet that is late, unless it is too late to be taken, and none whose number
waits already. -/
def JitterFresh (l : JitterLog) : JitterInput → Prop
  | .push seq _ data _ => data ≠ [] → data.length ≤ jitterSlotDataSize → l.jb.started = true →
    (0 ≤ i16 (seq - l.jb.headSeq) ∨ i16 (seq - l.jb.headSeq) ≤ -jitterSlots) ∧
      ¬ ((l.jb.slot seq).occupied = true ∧ (l.jb.slot seq).seq = seq)
  | .pop _ _ => True

instance (l : JitterLog) : (i : JitterInput) → Decidable (JitterFresh l i)
  | .push _ _ _ _ => inferInstanceAs (Decidable (_ → _ → _ → _))
  | .pop _ _ => instDecidableTrue

theorem jitterCell_init (depthMs : UInt32) (j : Nat) :
    (jitterCell (jitterInit depthMs) j).occupied = false ∧
      (jitterCell (jitterInit depthMs) j).data = [] := by
  unfold jitterCell jitterInit
  rw [List.getD_eq_getElem?_getD, List.getElem?_replicate]
  split <;> exact ⟨rfl, rfl⟩

theorem jitterOrder_init (depthMs : UInt32) : JitterOrder (jitterLogInit depthMs) where
  length := rfl
  headSeq := nofun
  blank _ := ⟨fun j => (jitterCell_init depthMs j).1, rfl, rfl, rfl⟩
  seqs := nofun
  chain := .nil
  last := nofun
  jumps := nofun

theorem jitterHolds_init (depthMs : UInt32) : JitterHolds (jitterLogInit depthMs) where
  slots j _ hocc := nomatch hocc.symm.trans (jitterCell_init depthMs j).1
  pushed := nofun
  fate := nofun
  distinct := .nil
  popped := nofun
  sizes j := by
    have hdata : (jitterCell (jitterLogInit depthMs).jb j).data = [] := (jitterCell_init depthMs j).2
    rw [hdata]
    exact Nat.zero_le _

/-! ### A pop -/

section

variable {l : JitterLog}

/-- **A pop** changes nothing, drops a packet of another number in the head slot, or moves the head
over missing positions to a packet, which comes out if the buffer holds it. -/
theorem jitterLogPop_cases (h : JitterOrder l) (nowMs : UInt32) (bufLen : Nat) :
    let l' := jitterLogPop l nowMs bufLen
    l' = l ∨
    (l.jb.started = true ∧ (jitterCell l.jb (l.head % jitterSlots)).occupied = true ∧
      (jitterCell l.jb (l.head % jitterSlots)).seq ≠ UInt16.ofNat l.head ∧
      l' = { l with jb := l.jb.passHead, head := l.head + 1 }) ∨
    l.jb.started = true ∧ ∃ i < jitterSlots, (∀ m < i, l.jb.holds m = false) ∧
      let s := jitterCell l.jb ((l.head + i) % jitterSlots)
      s.occupied = true ∧ s.seq = UInt16.ofNat (l.head + i) ∧
      (l' = { l with jb := jitterMoved l.jb i, head := l.head + i } ∨
        l' =
          { l with
            jb := (jitterMoved l.jb i).passHead
            head := l.head + i + 1
            pops := l.pops ++ [(l.head + i, s)] }) := by
  have hsame : ({ l with
      jb := l.jb
      head := l.head + (l.jb.headSeq - l.jb.headSeq).toNat
      pops := l.pops ++ (Option.map (fun s : JitterSlot =>
        (l.head + (l.jb.headSeq - l.jb.headSeq).toNat - 1, s)) none).toList } : JitterLog) = l := by
    rw [UInt16.sub_self]
    show { l with pops := l.pops ++ [] } = l
    rw [List.append_nil]
  dsimp only
  unfold jitterLogPop
  by_cases hstarted : l.jb.started = true
  swap
  · have hnone : jitterPop l.jb nowMs bufLen = (l.jb, .noData, none) := by
      rw [Bool.not_eq_true] at hstarted
      unfold jitterPop
      rw [if_pos (by rw [hstarted]; rfl)]
    rw [hnone]
    exact .inl hsame
  have hhead := h.headSeq hstarted
  rcases jitterPop_cases hhead nowMs bufLen with
    hnone | ⟨-, hocc, hne, hdrop⟩ | ⟨-, i, hi, hholds, hmissing, -, hout⟩
  · rw [hnone]
    exact .inl hsame
  · rw [jitterSlot_eq_cell, hhead, jitterSlotIdx_ofNat] at hocc hne
    refine .inr (.inl ⟨hstarted, hocc, hne, ?_⟩)
    have hone : (l.jb.passHead.headSeq - l.jb.headSeq).toNat = 1 := by
      show (l.jb.headSeq + 1 - l.jb.headSeq).toNat = 1
      rw [UInt16.add_comm, UInt16.add_sub_cancel]
      rfl
    rw [hdrop]
    dsimp only
    rw [hone]
    show { l with jb := _, head := _, pops := l.pops ++ [] } = _
    rw [List.append_nil]
  · obtain ⟨hocc, hseq⟩ := (jitterMoved_holds_iff hhead i).mp hholds
    have h32 : jitterSlots = 32 := rfl
    have hmoved : ((jitterMoved l.jb i).headSeq - l.jb.headSeq).toNat = i := by
      show (l.jb.headSeq + UInt16.ofNat i - l.jb.headSeq).toNat = i
      rw [UInt16.add_comm, UInt16.add_sub_cancel, UInt16.toNat_ofNat']
      omega
    refine .inr (.inr ⟨hstarted, i, hi, hmissing, hocc, hseq, ?_⟩)
    rcases hout with ⟨-, hout⟩ | ⟨-, hout⟩
    · rw [hout]
      dsimp only
      rw [hmoved]
      refine .inl ?_
      show { l with jb := _, head := _, pops := l.pops ++ [] } = _
      rw [List.append_nil]
    · have hpassed : ((jitterMoved l.jb i).passHead.headSeq - l.jb.headSeq).toNat = i + 1 := by
        show (l.jb.headSeq + UInt16.ofNat i + 1 - l.jb.headSeq).toNat = i + 1
        have hsum : l.jb.headSeq + UInt16.ofNat i + 1 = UInt16.ofNat (i + 1) + l.jb.headSeq := by
          rw [UInt16.add_assoc, UInt16.add_comm, UInt16.ofNat_add]
          rfl
        rw [hsum, UInt16.add_sub_cancel, UInt16.toNat_ofNat']
        omega
      rw [hout]
      dsimp only
      rw [hpassed]
      exact .inr rfl

theorem JitterOrder.pop (h : JitterOrder l) (nowMs : UInt32) (bufLen : Nat) :
    JitterOrder (jitterLogPop l nowMs bufLen) := by
  have hpass (jb : NanoJitter) (hlen : jb.slots.length = jitterSlots) :
      jb.passHead.slots.length = jitterSlots := List.length_set.trans hlen
  have hnext (n : Nat) : UInt16.ofNat n + 1 = UInt16.ofNat (n + 1) := (UInt16.ofNat_add n 1).symm
  have hmoved (hstarted : l.jb.started = true) (i : Nat) :
      (jitterMoved l.jb i).headSeq = UInt16.ofNat (l.head + i) := by
    rw [UInt16.ofNat_add, ← h.headSeq hstarted]
    rfl
  rcases jitterLogPop_cases h nowMs bufLen with
    hsame | ⟨hstarted, -, -, hdrop⟩ | ⟨hstarted, i, hi, -, hocc, hseq, hmove | hout⟩
  · rw [hsame]
    exact h
  · rw [hdrop]
    refine ⟨hpass _ h.length, fun _ => ?_, fun hno => (nomatch hno.symm.trans hstarted), h.seqs,
      h.chain, fun e he => Nat.lt_succ_of_lt (h.last e he),
      fun j hj => Nat.le_succ_of_le (h.jumps j hj)⟩
    show l.jb.headSeq + 1 = _
    rw [h.headSeq hstarted, hnext]
  · rw [hmove]
    exact ⟨h.length, fun _ => hmoved hstarted i, fun hno => (nomatch hno.symm.trans hstarted), h.seqs,
      h.chain, fun e he => Nat.lt_of_lt_of_le (h.last e he) (Nat.le_add_right _ _),
      fun j hj => Nat.le_trans (h.jumps j hj) (Nat.le_add_right _ _)⟩
  · rw [hout]
    refine ⟨hpass (jitterMoved l.jb i) h.length, fun _ => ?_,
      fun hno => (nomatch hno.symm.trans hstarted), fun e he => ?_, ?_, fun e he => ?_,
      fun j hj => Nat.le_succ_of_le (Nat.le_trans (h.jumps j hj) (Nat.le_add_right _ _))⟩
    · show (jitterMoved l.jb i).headSeq + 1 = _
      rw [hmoved hstarted, hnext]
    · rcases List.mem_append.mp he with he | he
      · exact h.seqs e he
      · rw [List.mem_singleton.mp he]
        exact hseq
    · refine h.chain.append (.singleton _) fun a ha b hb => ?_
      obtain rfl := Option.some.inj hb
      have hlt := h.last a ha
      refine ⟨Nat.lt_of_lt_of_le hlt (Nat.le_add_right _ _), fun hhalf => ?_⟩
      dsimp only at hhalf ⊢
      rw [hseq, h.seqs a (List.mem_of_getLast? ha), i16_ofNat_sub_ofNat _ _ (by omega) (by omega)]
      omega
    · dsimp only at he
      rw [List.getLast?_concat] at he
      obtain rfl := Option.some.inj he
      exact Nat.lt_succ_self _

/-- A position of which the slot holds the packet is that of the packet. -/
theorem JitterHolds.at_place (hh : JitterHolds l) {p : Nat} (hlo : l.head ≤ p)
    (hhi : p < l.head + jitterSlots) (hocc : (jitterCell l.jb (p % jitterSlots)).occupied = true) :
    (p, jitterCell l.jb (p % jitterSlots)) ∈ l.pushes := by
  have h32 : jitterSlots = 32 := rfl
  obtain ⟨q, hqlo, hqhi, hmod, hmem⟩ := hh.slots _ (Nat.mod_lt _ (by decide)) hocc
  have hmod : q % 32 = p % 32 := hmod
  obtain rfl : q = p := by omega
  exact hmem

/-- The positions that a pop moves over hold no packets. -/
theorem JitterHolds.missing (h : JitterOrder l) (hh : JitterHolds l) (hstarted : l.jb.started = true)
    {i : Nat} (hmissing : ∀ m < i, l.jb.holds m = false) {p : Nat} (hlo : l.head ≤ p)
    (hhi : p < l.head + jitterSlots) (hocc : (jitterCell l.jb (p % jitterSlots)).occupied = true) :
    l.head + i ≤ p := by
  by_contra hlt
  have hmem := hh.at_place hlo hhi hocc
  have hno := hmissing (p - l.head) (by omega)
  rw [← Bool.not_eq_true, jitterMoved_holds_iff (h.headSeq hstarted), Nat.add_sub_cancel' hlo] at hno
  exact hno ⟨hocc, (hh.pushed _ hmem).2⟩

theorem JitterHolds.pop (h : JitterOrder l) (hh : JitterHolds l) (nowMs : UInt32) (bufLen : Nat) :
    JitterHolds (jitterLogPop l nowMs bufLen) := by
  have h32 : jitterSlots = 32 := rfl
  rcases jitterLogPop_cases h nowMs bufLen with
    hsame | ⟨-, hocc, hne, -⟩ | ⟨hstarted, i, hi, hmissing, hocc, hseq, hmove | hout⟩
  · rw [hsame]
    exact hh
  · have hmem := hh.at_place (Nat.le_refl _) (by omega) hocc
    exact absurd (hh.pushed _ hmem).2 hne
  · rw [hmove]
    refine ⟨fun j hj hjocc => ?_, hh.pushed, fun e he => ?_, hh.distinct, hh.popped, hh.sizes⟩
    · obtain ⟨p, hlo, hhi, rfl, hmem⟩ := hh.slots j hj hjocc
      have hle := hh.missing h hstarted hmissing hlo hhi hjocc
      exact ⟨p, hle, by dsimp only; omega, rfl, hmem⟩
    · rcases hh.fate e he with ⟨hlo, hhi, hcell⟩ | ⟨hpop, hlt⟩ | hjump
      · have hle := hh.missing h hstarted hmissing hlo hhi
          (by rw [hcell]; exact (hh.pushed e he).1)
        exact .inl ⟨hle, by dsimp only; omega, hcell⟩
      · exact .inr (.inl ⟨hpop, Nat.lt_of_lt_of_le hlt (Nat.le_add_right _ _)⟩)
      · exact .inr (.inr hjump)
  · have hcells (j : Nat) := @jitterCell_passHead (jitterMoved l.jb i) h.length j
    have hidx : jitterSlotIdx (jitterMoved l.jb i).headSeq = (l.head + i) % jitterSlots := by
      have hseq : (jitterMoved l.jb i).headSeq = UInt16.ofNat (l.head + i) := by
        rw [UInt16.ofNat_add, ← h.headSeq hstarted]
        rfl
      rw [hseq, jitterSlotIdx_ofNat]
    rw [hidx] at hcells
    have hcells (j : Nat) : jitterCell (jitterMoved l.jb i).passHead j =
        if j = (l.head + i) % jitterSlots then { jitterCell l.jb j with occupied := false }
        else jitterCell l.jb j := hcells j
    have hmem := hh.at_place (Nat.le_add_right _ _) (by omega) hocc
    rw [hout]
    refine ⟨fun j hj hjocc => ?_, hh.pushed, fun e he => ?_, hh.distinct, fun e he => ?_,
      fun j => ?_⟩
    · dsimp only at hjocc ⊢
      rw [hcells] at hjocc ⊢
      split at hjocc
      · exact nomatch hjocc
      rename_i hne
      rw [if_neg hne]
      obtain ⟨p, hlo, hhi, rfl, hmem⟩ := hh.slots j hj hjocc
      have hle := hh.missing h hstarted hmissing hlo hhi hjocc
      have hother : p ≠ l.head + i := by
        rintro rfl
        exact hne rfl
      exact ⟨p, by omega, by omega, rfl, hmem⟩
    · rcases hh.fate e he with ⟨hlo, hhi, hcell⟩ | ⟨hpop, hlt⟩ | hjump
      · have hle := hh.missing h hstarted hmissing hlo hhi
          (by rw [hcell]; exact (hh.pushed e he).1)
        by_cases hthis : e.1 = l.head + i
        · -- the packet comes out
          refine .inr (.inl ⟨List.mem_append_right _ ?_, by dsimp only; omega⟩)
          rw [← hthis, hcell]
          exact List.mem_cons_self
        · refine .inl ⟨by dsimp only; omega, by dsimp only; omega, ?_⟩
          have hother : e.1 % jitterSlots ≠ (l.head + i) % jitterSlots := by
            rw [h32]
            omega
          dsimp only
          rw [hcells, if_neg hother, hcell]
      · exact .inr (.inl ⟨List.mem_append_left _ hpop, by dsimp only; omega⟩)
      · exact .inr (.inr hjump)
    · rcases List.mem_append.mp he with he | he
      · exact hh.popped e he
      · rw [List.mem_singleton.mp he]
        exact hmem
    · dsimp only
      rw [hcells]
      split
      · exact hh.sizes j
      · exact hh.sizes j

/-! ### A push -/

theorem jitterStart_jb (l : JitterLog) (seq : UInt16) : (l.start seq).jb =
    if l.jb.started then l.jb else { l.jb with headSeq := seq, started := true } := by
  unfold JitterLog.start
  split <;> rfl

theorem jitterStart_started (l : JitterLog) (seq : UInt16) : (l.start seq).jb.started = true := by
  unfold JitterLog.start
  split
  · assumption
  · rfl

/-- The slot of the number is written. -/
def jitterWritten (jb : NanoJitter) (s : JitterSlot) : NanoJitter :=
  { jb with slots := jb.slots.set (jitterSlotIdx s.seq) s }

/-- The first packet makes its number the head. -/
theorem JitterOrder.start (h : JitterOrder l) (seq : UInt16) : JitterOrder (l.start seq) := by
  unfold JitterLog.start
  split
  · exact h
  · rename_i hstarted
    obtain ⟨-, -, hpops, hjumps⟩ := h.blank (Bool.eq_false_iff.mpr hstarted)
    exact {
      length := h.length
      headSeq := fun _ => UInt16.ofNat_toNat.symm
      blank := nofun
      seqs := h.seqs
      chain := h.chain
      last := by
        intro e he
        dsimp only at he
        rw [hpops] at he
        exact nomatch he
      jumps := by
        intro j hj
        dsimp only at hj
        rw [hjumps] at hj
        exact nomatch hj }

theorem JitterHolds.start (h : JitterOrder l) (hh : JitterHolds l) (seq : UInt16) :
    JitterHolds (l.start seq) := by
  unfold JitterLog.start
  split
  · exact hh
  · rename_i hstarted
    obtain ⟨hempty, hpushes, -⟩ := h.blank (Bool.eq_false_iff.mpr hstarted)
    refine ⟨fun j _ hocc => ?_, hh.pushed, fun e he => ?_, hh.distinct, hh.popped, hh.sizes⟩
    · exact nomatch (hempty j).symm.trans hocc
    · dsimp only at he
      rw [hpushes] at he
      exact nomatch he

/-- The number of a packet from the head on. -/
theorem jitterPlace_spec {l1 : JitterLog} (h : JitterOrder l1) (hstarted : l1.jb.started = true)
    {seq : UInt16} (hlate : ¬ i16 (seq - l1.jb.headSeq) < 0) :
    let place := l1.head + (i16 (seq - l1.jb.headSeq)).toNat
    seq = UInt16.ofNat place ∧ (i16 (seq - l1.jb.headSeq) ≥ jitterSlots →
      (seq - UInt16.ofNat jitterSlots + 1 - l1.jb.headSeq).toNat =
        place + 1 - jitterSlots - l1.head) := by
  have h32 : jitterSlots = 32 := rfl
  have h1 := seq.toNat_lt
  have h2 := l1.jb.headSeq.toNat_lt
  constructor
  · rw [UInt16.ofNat_add, ← h.headSeq hstarted, ← UInt16.toNat_inj, UInt16.toNat_add,
      UInt16.toNat_ofNat']
    rw [i16_eq, UInt16.toNat_sub] at hlate ⊢
    split at hlate <;> split <;> omega
  · intro hfar
    have hone : (1 : UInt16).toNat = 1 := rfl
    rw [i16_eq, UInt16.toNat_sub] at hfar hlate ⊢
    rw [UInt16.toNat_sub, UInt16.toNat_add, UInt16.toNat_sub, UInt16.toNat_ofNat']
    split at hlate <;> omega

/-- **A push** is refused, writes the slot of a late packet, or is of a position from the head on, to
which the window moves before its slot is written. -/
theorem jitterLogPush_cases (h : JitterOrder l) (seq : UInt16) (timestamp : UInt32)
    (data : List UInt8) (nowMs : UInt32) :
    let l' := jitterLogPush l seq timestamp data nowMs
    let l1 := l.start seq
    let place := l1.head + (i16 (seq - l1.jb.headSeq)).toNat
    let head := max l1.head (place + 1 - jitterSlots)
    let s : JitterSlot := ⟨data, seq, timestamp, nowMs, true⟩
    l' = l ∨ data ≠ [] ∧ data.length ≤ jitterSlotDataSize ∧
      (i16 (seq - l1.jb.headSeq) < 0 ∧ ¬ i16 (seq - l1.jb.headSeq) ≤ -jitterSlots ∧
          l' = { l1 with jb := jitterWritten l1.jb s } ∨
        ¬ i16 (seq - l1.jb.headSeq) < 0 ∧ l' =
          { jb := jitterWritten (jitterAdvance (head - l1.head) l1.jb) s
            head := head
            pushes := l1.pushes ++ [(place, s)]
            pops := l1.pops
            jumps := l1.jumps ++ [(l1.head, head)] }) := by
  have h32 : jitterSlots = 32 := rfl
  dsimp only
  unfold jitterLogPush jitterPush
  by_cases hempty : data = []
  · rw [if_pos hempty]
    exact .inl rfl
  rw [if_neg hempty]
  by_cases hlong : data.length > jitterSlotDataSize
  · rw [if_pos hlong]
    exact .inl rfl
  rw [if_neg hlong]
  dsimp only
  rw [← jitterStart_jb]
  by_cases hold : i16 (seq - (l.start seq).jb.headSeq) < 0 ∧
      -i16 (seq - (l.start seq).jb.headSeq) ≥ jitterSlots
  · rw [if_pos hold]
    -- the first packet is not behind the head, which is its own
    have hstarted : l.jb.started = true := by
      by_contra hno
      rw [jitterStart_jb, if_neg hno, UInt16.sub_self] at hold
      exact absurd hold.1 (by decide)
    rw [jitterStart_jb, if_pos hstarted]
    exact .inl rfl
  rw [if_neg hold]
  refine .inr ⟨hempty, Nat.not_lt.mp hlong, ?_⟩
  dsimp only
  have h1 := h.start seq
  have hstarted := jitterStart_started l seq
  generalize l.start seq = l1 at *
  by_cases hlate : i16 (seq - l1.jb.headSeq) < 0
  · rw [if_pos hlate, if_neg (by omega)]
    exact .inl ⟨hlate, by omega, rfl⟩
  · rw [if_neg hlate]
    refine .inr ⟨hlate, ?_⟩
    have hadvance : (if i16 (seq - l1.jb.headSeq) ≥ jitterSlots then
        jitterAdvance (seq - UInt16.ofNat jitterSlots + 1 - l1.jb.headSeq).toNat l1.jb else l1.jb) =
        jitterAdvance (max l1.head (l1.head + (i16 (seq - l1.jb.headSeq)).toNat + 1 - jitterSlots) -
          l1.head) l1.jb := by
      split
      · rename_i hfar
        rw [(jitterPlace_spec h1 hstarted hlate).2 hfar]
        congr 1
        omega
      · rename_i hnear
        have hzero : max l1.head (l1.head + (i16 (seq - l1.jb.headSeq)).toNat + 1 - jitterSlots) -
            l1.head = 0 := by omega
        rw [hzero]
        rfl
    rw [hadvance]
    rfl

theorem jitterCell_written {jb : NanoJitter} (hlen : jb.slots.length = jitterSlots)
    (s : JitterSlot) (j : Nat) :
    jitterCell (jitterWritten jb s) j =
      if j = jitterSlotIdx s.seq then s else jitterCell jb j :=
  getD_set (by rw [hlen]; exact jitterSlotIdx_lt s.seq) s default j

theorem JitterOrder.push (h : JitterOrder l) (seq : UInt16) (timestamp : UInt32)
    (data : List UInt8) (nowMs : UInt32) :
    JitterOrder (jitterLogPush l seq timestamp data nowMs) := by
  have h1 := h.start seq
  have hstarted := jitterStart_started l seq
  rcases jitterLogPush_cases h seq timestamp data nowMs with
    hsame | ⟨-, -, ⟨-, -, hwrite⟩ | ⟨hlate, hwrite⟩⟩
  · rw [hsame]
    exact h
  · rw [hwrite]
    exact ⟨List.length_set.trans h1.length, h1.headSeq,
      fun hno => (nomatch hno.symm.trans hstarted), h1.seqs, h1.chain, h1.last, h1.jumps⟩
  · rw [hwrite]
    generalize l.start seq = l1 at *
    generalize hhead : max l1.head (l1.head + (i16 (seq - l1.jb.headSeq)).toNat + 1 - jitterSlots) =
      head
    have hle : l1.head ≤ head := by omega
    obtain ⟨hseq, hlen, -, hst, -⟩ :=
      jitterAdvance_spec (head - l1.head) h1.length (h1.headSeq hstarted)
    rw [Nat.add_sub_cancel' hle] at hseq
    refine ⟨List.length_set.trans hlen, fun _ => hseq,
      fun hno => (nomatch hno.symm.trans (hst.trans hstarted)), h1.seqs, h1.chain,
      fun e he => Nat.lt_of_lt_of_le (h1.last e he) hle, fun j hj => ?_⟩
    rcases List.mem_append.mp hj with hj | hj
    · exact Nat.le_trans (h1.jumps j hj) hle
    · rw [List.mem_singleton.mp hj]

theorem JitterHolds.push (h : JitterOrder l) (hh : JitterHolds l) {seq : UInt16}
    {timestamp : UInt32} {data : List UInt8} {nowMs : UInt32}
    (hfresh : JitterFresh l (.push seq timestamp data nowMs)) :
    JitterHolds (jitterLogPush l seq timestamp data nowMs) := by
  have h32 : jitterSlots = 32 := rfl
  have h1 := h.start seq
  have hh1 := hh.start h seq
  have hstarted := jitterStart_started l seq
  -- the condition at the buffer that has started
  have hfresh (hne : data ≠ []) (hlen : data.length ≤ jitterSlotDataSize) :
      (0 ≤ i16 (seq - (l.start seq).jb.headSeq) ∨
        i16 (seq - (l.start seq).jb.headSeq) ≤ -jitterSlots) ∧
      ¬ (((l.start seq).jb.slot seq).occupied = true ∧ ((l.start seq).jb.slot seq).seq = seq) := by
    by_cases hst : l.jb.started = true
    · rw [jitterStart_jb, if_pos hst]
      exact hfresh hne hlen hst
    · rw [jitterStart_jb, if_neg hst]
      refine ⟨.inl ?_, fun hcon => ?_⟩
      · show 0 ≤ i16 (seq - seq)
        rw [UInt16.sub_self]
        decide
      · obtain ⟨hempty, -, -⟩ := h.blank (Bool.eq_false_iff.mpr hst)
        exact nomatch (hempty _).symm.trans hcon.1
  rcases jitterLogPush_cases h seq timestamp data nowMs with
    hsame | ⟨hne, hlen, ⟨hlate, hnear, -⟩ | ⟨hlate, hwrite⟩⟩
  · rw [hsame]
    exact hh
  · exact ((hfresh hne hlen).1.elim (fun hge => absurd hlate (by omega)) hnear).elim
  rw [hwrite]
  obtain ⟨-, hnew⟩ := hfresh hne hlen
  clear hfresh hwrite
  generalize l.start seq = l1 at *
  obtain ⟨hseq, -⟩ := jitterPlace_spec h1 hstarted hlate
  generalize hplace : l1.head + (i16 (seq - l1.jb.headSeq)).toNat = place at *
  generalize hhead : max l1.head (place + 1 - jitterSlots) = head
  have hbehind : l1.head ≤ place := by omega
  obtain ⟨-, hlen', -, -, hpassed⟩ :=
    jitterAdvance_spec (head - l1.head) h1.length (h1.headSeq hstarted)
  have hidx : jitterSlotIdx seq = place % jitterSlots := by rw [hseq, jitterSlotIdx_ofNat]
  rw [jitterSlot_eq_cell, hidx] at hnew
  -- no packet waits at the position
  have hfree (e : Nat × JitterSlot) (he : e ∈ l1.pushes) (heq : e.1 = place)
      (hcell : jitterCell l1.jb (e.1 % jitterSlots) = e.2) : False := by
    obtain ⟨hocc, hnum⟩ := hh1.pushed e he
    rw [heq] at hcell hnum
    exact hnew ⟨by rw [hcell]; exact hocc, by rw [hcell, hnum, ← hseq]⟩
  -- what the slots hold before the write
  have hkept {p : Nat} (hlo : head ≤ p) (hhi : p < l1.head + jitterSlots) :
      jitterCell (jitterAdvance (head - l1.head) l1.jb) (p % jitterSlots) =
        jitterCell l1.jb (p % jitterSlots) := by
    rw [hpassed, if_neg]
    rintro ⟨m, hm, hmod⟩
    have hmod : (l1.head + m) % 32 = p % 32 := hmod
    omega
  have hcells (j : Nat) : jitterCell (jitterWritten (jitterAdvance (head - l1.head) l1.jb)
      ⟨data, seq, timestamp, nowMs, true⟩) j =
      if j = place % jitterSlots then ⟨data, seq, timestamp, nowMs, true⟩
      else jitterCell (jitterAdvance (head - l1.head) l1.jb) j := by
    rw [jitterCell_written hlen', ← hidx]
  refine ⟨fun j hj hocc => ?_, fun e he => ?_, fun e he => ?_, ?_, fun e he => ?_, fun j => ?_⟩
  · dsimp only at hocc ⊢
    rw [hcells] at hocc ⊢
    by_cases hthis : j = place % jitterSlots
    · rw [if_pos hthis]
      exact ⟨place, by omega, by omega, hthis.symm, List.mem_append_right _ List.mem_cons_self⟩
    · rw [if_neg hthis] at hocc ⊢
      rw [hpassed] at hocc ⊢
      split at hocc
      · exact nomatch hocc
      rename_i hnot
      rw [if_neg hnot]
      obtain ⟨p, hlo, hhi, hmod, hmem⟩ := hh1.slots j hj hocc
      refine ⟨p, ?_, by omega, hmod, List.mem_append_left _ hmem⟩
      by_contra hlt
      exact hnot ⟨p - l1.head, by omega, by rw [Nat.add_sub_cancel' hlo, hmod]⟩
  · rcases List.mem_append.mp he with he | he
    · exact hh1.pushed e he
    · rw [List.mem_singleton.mp he]
      exact ⟨rfl, hseq⟩
  · rcases List.mem_append.mp he with he | he
    · rcases hh1.fate e he with ⟨hlo, hhi, hcell⟩ | ⟨hpop, hlt⟩ | ⟨j, hj, hpast⟩
      · by_cases hpast : e.1 < head
        · exact .inr (.inr ⟨_, List.mem_append_right _ List.mem_cons_self, hlo, hpast⟩)
        · refine .inl ⟨by dsimp only; omega, by dsimp only; omega, ?_⟩
          dsimp only
          have hother : e.1 % jitterSlots ≠ place % jitterSlots := by
            intro hmod
            have hmod : e.1 % 32 = place % 32 := hmod
            exact hfree e he (by omega) hcell
          rw [hcells, if_neg hother, hkept (by omega) hhi, hcell]
      · exact .inr (.inl ⟨hpop, by dsimp only; omega⟩)
      · exact .inr (.inr ⟨j, List.mem_append_left _ hj, hpast⟩)
    · rw [List.mem_singleton.mp he]
      refine .inl ⟨by dsimp only; omega, by dsimp only; omega, ?_⟩
      dsimp only
      rw [hcells, if_pos rfl]
  · rw [List.map_append, List.map_singleton, List.nodup_append]
    refine ⟨hh1.distinct, List.nodup_singleton _, fun p hp q hq => ?_⟩
    rw [List.mem_singleton.mp hq]
    rintro rfl
    obtain ⟨e, he, heq⟩ := List.mem_map.mp hp
    rcases hh1.fate e he with ⟨-, -, hcell⟩ | ⟨-, hlt⟩ | ⟨j, hj, hpast⟩
    · exact hfree e he heq hcell
    · omega
    · have hle := h1.jumps j hj
      omega
  · exact List.mem_append_left _ (hh1.popped e he)
  · rw [hcells]
    split
    · exact hlen
    · rw [hpassed]
      split
      · exact hh1.sizes j
      · exact hh1.sizes j

end

/-! ### Runs -/

/-- The order along one call. -/
theorem JitterOrder.step {l : JitterLog} (h : JitterOrder l) (i : JitterInput) :
    JitterOrder (jitterLogStep l i) := by
  cases i with
  | push seq timestamp data nowMs => exact h.push seq timestamp data nowMs
  | pop nowMs bufLen => exact h.pop nowMs bufLen

/-- What the slots hold along one call. -/
theorem JitterHolds.step {l : JitterLog} {i : JitterInput} (hfresh : JitterFresh l i)
    (h : JitterOrder l ∧ JitterHolds l) :
    JitterOrder (jitterLogStep l i) ∧ JitterHolds (jitterLogStep l i) := by
  refine ⟨h.1.step i, ?_⟩
  cases i with
  | push seq timestamp data nowMs => exact h.2.push h.1 hfresh
  | pop nowMs bufLen => exact h.2.pop h.1 nowMs bufLen

/-- **Playout.** After any calls the packets played out are in the order of their positions, with
the numbers of these. If no packet was pushed late or twice, each of them is one that was pushed,
with its own data; each packet pushed waits in its slot, was played out, or was passed by a push
that moved the head on; and the timeout is 0 exactly when a packet would be played out. -/
theorem jitter_playout (depthMs : UInt32) (is : List JitterInput) :
    let l := run jitterLogStep (jitterLogInit depthMs) is
    (l.pops.IsChain JitterNext ∧ ∀ e ∈ l.pops, e.2.seq = UInt16.ofNat e.1) ∧
    (AllSteps jitterLogStep (jitterLogInit depthMs) JitterFresh is →
      (l.pushes.map Prod.fst).Nodup ∧ (∀ e ∈ l.pops, e ∈ l.pushes) ∧
      (∀ e ∈ l.pushes, JitterFate l e) ∧
      ∀ nowMs bufLen, jitterSlotDataSize ≤ bufLen →
        (jitterNextTimeoutMs l.jb nowMs = 0 ↔ (jitterPop l.jb nowMs bufLen).2.2.isSome = true)) := by
  have h : JitterOrder (run jitterLogStep (jitterLogInit depthMs) is) :=
    run_invariant (fun _ i h => h.step i) (jitterOrder_init depthMs) is
  refine ⟨⟨h.chain, h.seqs⟩, fun hfresh => ?_⟩
  have hboth := run_allSteps (P := fun l => JitterOrder l ∧ JitterHolds l)
    (fun _ _ => JitterHolds.step) hfresh ⟨jitterOrder_init depthMs, jitterHolds_init depthMs⟩
  have hh := hboth.2
  refine ⟨hh.distinct, hh.popped, hh.fate, fun nowMs bufLen hbuf => ?_⟩
  refine jitterNextTimeoutMs_zero (fun hocc => ?_) nowMs fun j => Nat.le_trans (hh.sizes j) hbuf
  -- the head slot holds a packet of the head's position
  by_cases hstarted : (run jitterLogStep (jitterLogInit depthMs) is).jb.started = true
  · have hhead := h.headSeq hstarted
    rw [jitterSlot_eq_cell, hhead, jitterSlotIdx_ofNat] at hocc ⊢
    have hmem := hh.at_place (Nat.le_refl _) (Nat.lt_add_of_pos_right (by decide)) hocc
    exact (hh.pushed _ hmem).2
  · obtain ⟨hempty, -⟩ := h.blank (Bool.eq_false_iff.mpr hstarted)
    exact nomatch (hempty _).symm.trans hocc

/-- Three packets in another order, on both sides of the wrap of the numbers. -/
def demoPlayout : List JitterInput :=
  [.push 65535 1 [1] 0, .push 1 3 [3] 1, .push 0 2 [2] 2, .pop 20 640, .pop 22 640, .pop 22 640]

theorem jitter_playout_demo :
    let l := run jitterLogStep (jitterLogInit 20) demoPlayout
    (∀ e ∈ l.pushes, JitterFate l e) ∧ l.pops.map (fun e => e.2.data) = [[1], [2], [3]] :=
  ⟨((jitter_playout 20 demoPlayout).2 (by decide)).2.2.1, by decide⟩

/-- The packet 0 was played out when a second copy of it arrives: it takes the slot of the packet
32, which waits, and this one is not played out; once the head is there, the timeout is 0 while
nothing comes out. -/
theorem jitter_late :
    let before : List JitterInput := [.push 0 0 [1] 0, .pop 0 640, .push 32 0 [2] 0, .push 31 0 [3] 0]
    let late : List JitterInput := [.push 0 0 [1] 0]
    let pops : List JitterInput := [.pop 0 640, .pop 0 640, .pop 0 640]
    ((run jitterLogStep (jitterLogInit 0) (before ++ pops)).pops.map fun e => e.2.data) =
      [[1], [3], [2]] ∧
    ((run jitterLogStep (jitterLogInit 0) (before ++ late ++ pops)).pops.map fun e => e.2.data) =
      [[1], [3]] ∧
    let l := run jitterLogStep (jitterLogInit 0) (before ++ late ++ [.push 33 0 [4] 0, .pop 0 640])
    jitterNextTimeoutMs l.jb 0 = 0 ∧ (jitterPop l.jb 0 640).2.2 = none := by
  decide +kernel

end Nanortc.Spec
