import Nanortc.Native.Srtp

/-!
# Packet indices of SRTP

A packet of a run has an unbounded position; its sequence number and rollover counter are the
remainder and quotient by `2^16`. The receiver sees the sequence number only and estimates the
counter. This file follows the estimate over a list of arriving positions.

## Key results

- `packetIndex_inj`: the index determines the rollover counter
- `estimatesRight_iff`: from a fresh slot and within a window of `2^14`, the estimate is right on
  every arrival exactly when none is past the first wrap and the stale pattern does not occur
-/

namespace Nanortc.Spec

open Nanortc.ForStd Nanortc.Native

/-- Sequence number of position `i`. -/
def seqOf (i : Nat) : UInt16 := UInt16.ofNat i

/-- Rollover counter of position `i`. -/
def rocOf (i : Nat) : UInt32 := UInt32.ofNat (i / 2 ^ 16)

theorem toNat_packetIndex (roc : UInt32) (seq : UInt16) :
    (packetIndex roc seq).toNat = roc.toNat * 2 ^ 16 + seq.toNat := by
  have hr := roc.toNat_lt
  have hs := seq.toNat_lt
  have hmod : roc.toNat <<< 16 % 2 ^ 64 = roc.toNat <<< 16 := by
    rw [Nat.shiftLeft_eq]; omega
  simp only [packetIndex, UInt64.toNat_or, UInt64.toNat_shiftLeft, UInt32.toNat_toUInt64,
    UInt16.toNat_toUInt64, UInt64.reduceToNat, Nat.reduceMod, hmod]
  rw [← Nat.shiftLeft_add_eq_or_of_lt hs, Nat.shiftLeft_eq]

/-- Two indices with one sequence number differ in the rollover counter. -/
theorem packetIndex_inj {roc roc' : UInt32} {seq : UInt16}
    (h : packetIndex roc seq = packetIndex roc' seq) : roc = roc' := by
  have := congrArg UInt64.toNat h
  rw [toNat_packetIndex, toNat_packetIndex] at this
  exact UInt32.toNat_inj.mp (by omega)

/-! ### One arrival -/

/-- The receiver's estimate for each arriving position is the position's rollover counter. -/
def estimatesRight (ss : SsrcState) : List Nat → Prop
  | [] => True
  | i :: is => srtpEstimateRoc ss (seqOf i) = rocOf i ∧
      estimatesRight (srtpUpdateSeq ss (rocOf i) (seqOf i)) is

/-- Every position lies within `2^14` of the highest one before it, `high` at the start. -/
def inWindow (high : Nat) : List Nat → Prop
  | [] => True
  | i :: is => (i ≤ high + 2 ^ 14 ∧ high ≤ i + 2 ^ 14) ∧ inWindow (max high i) is

/-- The first arrival in the lower half of the sequence space, `m`, is directly followed by the
arrival half the space above it. -/
def staleFirst : List Nat → Prop
  | [] => False
  | i :: is => if i < 2 ^ 15 then is.head? = some (i + 2 ^ 15) else staleFirst is

/-- A slot before the first wrap with highest sequence number `m`. -/
def slotAt (ssrc : UInt32) (m : Nat) : SsrcState := ⟨ssrc, 0, UInt16.ofNat m, true⟩

theorem rocOf_of_lt {i : Nat} (h : i < 2 ^ 16) : rocOf i = 0 := by
  rw [rocOf, Nat.div_eq_of_lt h]; rfl

theorem rocOf_ne_zero {i : Nat} (hlo : 2 ^ 16 ≤ i) (hhi : i < 2 ^ 17) : rocOf i ≠ 0 := by
  intro h
  have := congrArg UInt32.toNat h
  rw [rocOf, UInt32.toNat_ofNat', UInt32.toNat_zero] at this
  omega

/-- Before the first wrap a sequence number less than half the space ahead and not too far behind
is taken to be unwrapped. -/
theorem estimate_slotAt (ssrc : UInt32) (m i : Nat) (hlo : (m : Int) - 2 ^ 14 ≤ i)
    (hhi : i < m + 2 ^ 15) : srtpEstimateRoc (slotAt ssrc m) (seqOf i) = 0 := by
  have hd := i16_ofNat_sub_ofNat i m (by omega) (by omega)
  simp only [srtpEstimateRoc, slotAt, seqOf, hd]
  rw [if_neg (by omega : ¬ ((i : Int) - m < -0x4000))]
  simp

/-- With no highest sequence number recorded every arrival is taken to be unwrapped. -/
theorem estimate_slotAt_zero (ssrc : UInt32) (i : Nat) :
    srtpEstimateRoc (slotAt ssrc 0) (seqOf i) = 0 := by
  simp [srtpEstimateRoc, slotAt]

/-- Half the space ahead the difference reads as negative and a wrap is assumed. -/
theorem estimate_slotAt_half (ssrc : UInt32) (m : Nat) (h0 : 0 < m) (hm : m < 2 ^ 15) :
    srtpEstimateRoc (slotAt ssrc m) (seqOf (m + 2 ^ 15)) = 1 := by
  have hne : UInt16.ofNat m ≠ 0 := by
    intro h
    have := congrArg UInt16.toNat h
    rw [UInt16.toNat_ofNat', UInt16.toNat_zero] at this
    omega
  have hd : i16 (UInt16.ofNat (m + 2 ^ 15) - UInt16.ofNat m) = -2 ^ 15 := by
    rw [i16_eq, UInt16.toNat_sub, UInt16.toNat_ofNat', UInt16.toNat_ofNat']
    split <;> omega
  simp only [srtpEstimateRoc, slotAt, seqOf, hd]
  rw [if_pos (Or.inl hne), if_pos (by decide)]
  rfl

/-- An arrival ahead becomes the highest sequence number. -/
theorem update_slotAt_ahead (ssrc : UInt32) (m i : Nat) (hlo : m < i) (hhi : i < m + 2 ^ 15) :
    srtpUpdateSeq (slotAt ssrc m) 0 (seqOf i) = slotAt ssrc i := by
  have hd := i16_ofNat_sub_ofNat i m (by omega) (by omega)
  simp only [srtpUpdateSeq, slotAt, seqOf, hd]
  rw [if_pos (Or.inr ⟨trivial, by omega⟩)]

/-- An arrival that is not ahead leaves the slot alone. -/
theorem update_slotAt_behind (ssrc : UInt32) (m i : Nat) (hlo : (m : Int) - 2 ^ 15 ≤ i)
    (hhi : i ≤ m) : srtpUpdateSeq (slotAt ssrc m) 0 (seqOf i) = slotAt ssrc m := by
  have hd := i16_ofNat_sub_ofNat i m (by omega) (by omega)
  simp only [srtpUpdateSeq, slotAt, seqOf, hd]
  rw [if_neg]
  rintro (h | ⟨-, h⟩)
  · exact absurd h (by decide)
  · omega

/-- Nothing in the upper half of the sequence space is ahead of an empty slot. -/
theorem update_slotAt_zero (ssrc : UInt32) (i : Nat) (hlo : 2 ^ 15 ≤ i) (hhi : i < 2 ^ 16) :
    srtpUpdateSeq (slotAt ssrc 0) 0 (seqOf i) = slotAt ssrc 0 := by
  have hd : i16 (UInt16.ofNat i - UInt16.ofNat 0) = (i : Int) - 2 ^ 16 := by
    rw [i16_eq, UInt16.toNat_sub, UInt16.toNat_ofNat', UInt16.toNat_ofNat']
    split <;> omega
  simp only [srtpUpdateSeq, slotAt, seqOf, hd]
  rw [if_neg]
  rintro (h | ⟨-, h⟩)
  · exact absurd h (by decide)
  · omega

/-! ### Runs of arrivals -/

/-- An arrival past the first wrap whose estimate is zero is estimated wrong, and the run is not
free of such arrivals. -/
private theorem past_wrap {ss : SsrcState} {i : Nat} (is : List Nat)
    (hi : 2 ^ 16 ≤ i) (hhi : i < 2 ^ 17) (he : srtpEstimateRoc ss (seqOf i) = 0) :
    ¬ estimatesRight ss (i :: is) ∧ ¬ ∀ x ∈ i :: is, x < 2 ^ 16 := by
  constructor
  · rintro ⟨h, -⟩
    exact rocOf_ne_zero hi hhi (h.symm.trans he)
  · intro h
    have := h i List.mem_cons_self
    omega

/-- When the recorded number is less than a window behind the highest arrival, the estimate goes
wrong only past the first wrap. -/
theorem estimatesRight_near (ssrc : UInt32) (l : List Nat) (m high : Nat) (hm : m ≤ high)
    (hnear : high < m + 2 ^ 14) (hhigh : high < 2 ^ 16) (hwin : inWindow high l) :
    estimatesRight (slotAt ssrc m) l ↔ ∀ i ∈ l, i < 2 ^ 16 := by
  induction l generalizing m high with
  | nil => simp [estimatesRight]
  | cons i is ih =>
    obtain ⟨⟨hup, hdown⟩, hwin⟩ := hwin
    have he := estimate_slotAt ssrc m i (by omega) (by omega)
    by_cases hi : 2 ^ 16 ≤ i
    · have hp := past_wrap is hi (by omega) he
      exact iff_of_false hp.1 hp.2
    · have hroc : rocOf i = 0 := rocOf_of_lt (by omega)
      rw [estimatesRight, hroc, he, List.forall_mem_cons]
      simp only [true_and, show i < 2 ^ 16 by omega]
      by_cases hahead : m < i
      · rw [update_slotAt_ahead ssrc m i hahead (by omega)]
        exact ih i (max high i) (by omega) (by omega) (by omega) hwin
      · rw [update_slotAt_behind ssrc m i (by omega) (by omega)]
        rw [show max high i = high by omega] at hwin
        exact ih m high hm hnear hhigh hwin

/-- When the recorded number is a whole window behind the highest arrival, the arrival half the
space above it is estimated wrong too. -/
theorem estimatesRight_far (ssrc : UInt32) (l : List Nat) (m : Nat) (h0 : 0 < m) (hm : m < 2 ^ 15)
    (hnew : m ∉ l) (hwin : inWindow (m + 2 ^ 14) l) :
    estimatesRight (slotAt ssrc m) l ↔
      (∀ i ∈ l, i < 2 ^ 16) ∧ l.head? ≠ some (m + 2 ^ 15) := by
  cases l with
  | nil => simp [estimatesRight]
  | cons i is =>
    obtain ⟨⟨hup, hdown⟩, hwin⟩ := hwin
    have hne : i ≠ m := fun h => hnew (h ▸ List.mem_cons_self)
    rw [List.head?_cons, ne_eq, Option.some.injEq]
    by_cases hhalf : i = m + 2 ^ 15
    · subst hhalf
      have he := estimate_slotAt_half ssrc m h0 hm
      have hroc : rocOf (m + 2 ^ 15) = 0 := rocOf_of_lt (by omega)
      apply iff_of_false
      · rintro ⟨h, -⟩
        rw [he, hroc] at h
        exact absurd h (by decide)
      · rintro ⟨-, h⟩
        exact h rfl
    · simp only [hhalf, not_false_eq_true, and_true]
      have he := estimate_slotAt ssrc m i (by omega) (by omega)
      have hi : i < 2 ^ 16 := by omega
      rw [estimatesRight, rocOf_of_lt hi, he, List.forall_mem_cons,
        update_slotAt_ahead ssrc m i (by omega) (by omega)]
      simp only [true_and, hi]
      exact estimatesRight_near ssrc is i (max (m + 2 ^ 14) i) (by omega) (by omega) (by omega) hwin

/-- The next arrival is not out of the window. -/
private theorem head?_ne_of_inWindow {high i : Nat} {is : List Nat} (hwin : inWindow high is)
    (hi : high + 2 ^ 14 < i) : is.head? ≠ some i := by
  cases is with
  | nil => simp
  | cons x is =>
    rw [List.head?_cons, ne_eq, Option.some.injEq]
    have := hwin.1.1
    omega

/-- While every arrival was in the upper half of the space the slot records nothing. -/
theorem estimatesRight_empty (ssrc : UInt32) (l : List Nat) (high : Nat) (hlo : 2 ^ 15 ≤ high)
    (hhigh : high < 2 ^ 16) (hnodup : l.Nodup) (hwin : inWindow high l) :
    estimatesRight (slotAt ssrc 0) l ↔ (∀ i ∈ l, i < 2 ^ 16) ∧ ¬ staleFirst l := by
  induction l generalizing high with
  | nil => simp [estimatesRight, staleFirst]
  | cons i is ih =>
    obtain ⟨⟨hup, hdown⟩, hwin⟩ := hwin
    have he := estimate_slotAt_zero ssrc i
    by_cases hi : 2 ^ 16 ≤ i
    · have hp := past_wrap is hi (by omega) he
      exact iff_of_false hp.1 fun h => hp.2 h.1
    · have hi' : i < 2 ^ 16 := by omega
      rw [estimatesRight, rocOf_of_lt hi', he, List.forall_mem_cons]
      simp only [true_and, hi']
      obtain ⟨hnew, hnodup⟩ := List.nodup_cons.mp hnodup
      by_cases hhalf : 2 ^ 15 ≤ i
      · rw [update_slotAt_zero ssrc i hhalf hi', staleFirst, if_neg (by omega)]
        exact ih (max high i) (by omega) (by omega) hnodup hwin
      · rw [update_slotAt_ahead ssrc 0 i (by omega) (by omega), staleFirst, if_pos (by omega)]
        rw [show max high i = high by omega] at hwin
        -- the arrival is up to a whole window behind; only at the full distance can half the
        -- space above it still be in the window
        by_cases hfar : high = i + 2 ^ 14
        · subst hfar
          exact estimatesRight_far ssrc is i (by omega) (by omega) hnew hwin
        · rw [estimatesRight_near ssrc is i high (by omega) (by omega) hhigh hwin]
          have hno : is.head? ≠ some (i + 2 ^ 15) := head?_ne_of_inWindow hwin (by omega)
          simp only [hno, not_false_eq_true, and_true]

/-- **Exactly when the receiver's estimate follows a run.** The first position is before the first
wrap and every later one within `2^14` of the highest before it. -/
theorem estimatesRight_iff (ssrc : UInt32) (i : Nat) (is : List Nat) (hfirst : i < 2 ^ 16)
    (hnodup : (i :: is).Nodup) (hwin : inWindow i is) :
    estimatesRight (slotAt ssrc 0) (i :: is) ↔
      (∀ x ∈ i :: is, x < 2 ^ 16) ∧ ¬ staleFirst (i :: is) := by
  obtain ⟨hnew, hnodup'⟩ := List.nodup_cons.mp hnodup
  by_cases hhalf : 2 ^ 15 ≤ i
  · rw [estimatesRight, rocOf_of_lt hfirst, estimate_slotAt_zero, List.forall_mem_cons,
      update_slotAt_zero ssrc i hhalf hfirst, staleFirst, if_neg (by omega)]
    simp only [true_and, hfirst]
    exact estimatesRight_empty ssrc is i hhalf hfirst hnodup' hwin
  · have hno : is.head? ≠ some (i + 2 ^ 15) := head?_ne_of_inWindow hwin (by omega)
    rw [estimatesRight, rocOf_of_lt hfirst, estimate_slotAt_zero, List.forall_mem_cons,
      staleFirst, if_pos (by omega)]
    simp only [true_and, hfirst, hno, not_false_eq_true, and_true]
    by_cases h0 : i = 0
    · subst h0
      rw [update_slotAt_behind ssrc 0 0 (by omega) (by omega)]
      exact estimatesRight_near ssrc is 0 0 (by omega) (by omega) (by omega) hwin
    · rw [update_slotAt_ahead ssrc 0 i (by omega) (by omega)]
      exact estimatesRight_near ssrc is i i (by omega) (by omega) hfirst hwin

end Nanortc.Spec
