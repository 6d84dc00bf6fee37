import Nanortc.Native.Media

/-!
# Transmit slots

What acquiring and committing a transmit slot does: a slot is there exactly if the output queue has
room and one of the buffers is free, and a packet written to an acquired slot is always queued.

## Key results

- `nanoRtcTxSlotAcquire_free` / `nanoRtcTxSlotAcquire_blocked`: the two outcomes of an acquisition
- `rtcTxSlotCommitRoute_free`: a commit into a free slot succeeds
-/

namespace Nanortc.Spec

open Nanortc.ForStd Nanortc.Native

/-- The output queue has room and some transmit slot is free. -/
def txSlotFree (rtc : NanoRtc) : Bool :=
  rtcOutputHasSpace rtc && (List.range txSlotCount).any fun i => !(rtc.txSlots.getD i default).inUse

/-- The slots in the order in which an acquisition looks at them are all the slots. -/
theorem mem_txSlotOrder (cursor i : Nat) :
    i ∈ (List.range txSlotCount).map (fun n => (cursor + n) % txSlotCount) ↔ i < txSlotCount := by
  rw [List.mem_map]
  constructor
  · intro ⟨n, _, h⟩
    rw [← h]
    exact Nat.mod_lt _ (by decide)
  · intro h
    refine ⟨(i + txSlotCount - cursor % txSlotCount) % txSlotCount, ?_, ?_⟩
    · rw [List.mem_range]
      exact Nat.mod_lt _ (by decide)
    · unfold txSlotCount at h ⊢
      omega

/-- A free slot is found. -/
theorem nanoRtcTxSlotAcquire_free {rtc : NanoRtc} (h : txSlotFree rtc) :
    ∃ slot, slot < txSlotCount ∧ (rtc.txSlots.getD slot default).inUse = false ∧
      nanoRtcTxSlotAcquire rtc =
        ({ rtc with txSlotCursor := (slot + 1) % txSlotCount }, .ok slot) := by
  simp only [txSlotFree, Bool.and_eq_true, List.any_eq_true, List.mem_range] at h
  obtain ⟨hspace, i, hi, hfree⟩ := h
  have hi := (mem_txSlotOrder rtc.txSlotCursor i).mpr hi
  unfold nanoRtcTxSlotAcquire
  simp only [hspace, Bool.not_true, Bool.false_eq_true, if_false]
  cases hfind : ((List.range txSlotCount).map fun n => (rtc.txSlotCursor + n) % txSlotCount).find?
      fun i => !(rtc.txSlots.getD i default).inUse with
  | none =>
    have := List.find?_eq_none.mp hfind i hi
    exact absurd hfree this
  | some slot =>
    refine ⟨slot, ?_, ?_, rfl⟩
    · exact (mem_txSlotOrder rtc.txSlotCursor slot).mp (List.mem_of_find?_eq_some hfind)
    · simpa using List.find?_some hfind

/-- Without a free slot nothing changes. -/
theorem nanoRtcTxSlotAcquire_blocked {rtc : NanoRtc} (h : txSlotFree rtc = false) :
    nanoRtcTxSlotAcquire rtc = (rtc, .error .wouldBlock) := by
  unfold nanoRtcTxSlotAcquire
  by_cases hspace : rtcOutputHasSpace rtc
  · simp only [hspace, Bool.not_true, Bool.false_eq_true, if_false]
    cases hfind : ((List.range txSlotCount).map fun n => (rtc.txSlotCursor + n) % txSlotCount).find?
        fun i => !(rtc.txSlots.getD i default).inUse with
    | none => rfl
    | some slot =>
      exfalso
      have hlt := (mem_txSlotOrder rtc.txSlotCursor slot).mp (List.mem_of_find?_eq_some hfind)
      have hfree := List.find?_some hfind
      simp only [txSlotFree, hspace, Bool.true_and, List.any_eq_false, List.mem_range] at h
      exact h slot hlt hfree
  · simp [hspace]

/-- The entry of a datagram in a queue with room. -/
theorem rtcEnqueueTransmitRef_space {rtc : NanoRtc} (h : rtcOutputHasSpace rtc) (data : Backing)
    (len : Nat) (dest : NanortcAddr) (localSrc : Option NanortcAddr) (route : TxRoute) :
    (rtcEnqueueTransmitRef rtc data len dest localSrc route).2 = .ok ∧
      (rtcEnqueueTransmitRef rtc data len dest localSrc route).1.outTail = rtc.outTail + 1 := by
  have hroom : ¬ (rtc.outTail - rtc.outHead).toNat ≥ outQueueSize := by
    simpa [rtcOutputHasSpace] using h
  unfold rtcEnqueueTransmitRef rtcEnqueueOutput
  dsimp only
  rw [if_neg hroom]
  dsimp only
  split <;> exact ⟨rfl, rfl⟩

/-- A datagram finds the queue full, or becomes its last entry. -/
theorem nanoRtcEnqueueTransmit_cases (rtc : NanoRtc) (data : Backing) (len : Nat)
    (dest : NanortcAddr) (force : Bool) :
    (rtcOutputHasSpace rtc = false ∧
      nanoRtcEnqueueTransmit rtc data len dest force = (rtc, .bufferTooSmall)) ∨
    (rtcOutputHasSpace rtc = true ∧ ∃ wrap,
      nanoRtcEnqueueTransmit rtc data len dest force = ({ rtc with
        outQueue := rtc.outQueue.set (outSlot rtc.outTail)
          (.transmit ⟨data, len, dest, rtcDefaultSrc rtc⟩)
        outWrapMeta := wrap
        outTail := rtc.outTail + 1 }, .ok)) := by
  unfold nanoRtcEnqueueTransmit
  generalize (if force = true then TxRoute.forceTurn else .selected) = route
  unfold rtcEnqueueTransmitRef rtcEnqueueOutput rtcOutputHasSpace
  dsimp only
  by_cases hfull : (rtc.outTail - rtc.outHead).toNat ≥ outQueueSize
  · rw [if_pos hfull]
    exact .inl ⟨decide_eq_false (Nat.not_lt.mpr hfull), rfl⟩
  · rw [if_neg hfull]
    refine .inr ⟨decide_eq_true (Nat.not_le.mp hfull), ?_⟩
    dsimp only
    split
    · exact ⟨_, rfl⟩
    · exact ⟨_, rfl⟩

/-- A packet is queued from a free slot while the queue has room. -/
theorem rtcTxSlotCommitRoute_free {rtc : NanoRtc} {slot len : Nat} (hslot : slot < txSlotCount)
    (hlen : len ≤ txSlotSize) (hfree : (rtc.txSlots.getD slot default).inUse = false)
    (hspace : rtcOutputHasSpace rtc) (dest : NanortcAddr) (localSrc : Option NanortcAddr)
    (route : TxRoute) :
    (rtcTxSlotCommitRoute rtc slot len dest localSrc route).2 = .ok ∧
      (rtcTxSlotCommitRoute rtc slot len dest localSrc route).1.outTail = rtc.outTail + 1 := by
  obtain ⟨hok, htail⟩ :=
    rtcEnqueueTransmitRef_space hspace (.txSlot slot) len dest localSrc route
  unfold rtcTxSlotCommitRoute
  rw [if_neg (by omega), if_neg (by rw [hfree]; decide)]
  cases hr : rtcEnqueueTransmitRef rtc (.txSlot slot) len dest localSrc route with
  | mk out rc =>
    rw [hr] at hok htail
    obtain rfl : rc = .ok := hok
    exact ⟨rfl, htail⟩

/-- Writing a slot's bytes leaves the queue and the marks of all slots alone. -/
theorem writeTxSlot_inUse (rtc : NanoRtc) (slot i : Nat) (bytes : List UInt8) :
    ((rtc.writeTxSlot slot bytes).txSlots.getD i default).inUse =
      (rtc.txSlots.getD i default).inUse := by
  unfold NanoRtc.writeTxSlot
  dsimp only
  simp only [List.getD_eq_getElem?_getD]
  by_cases h : slot = i
  · subst h
    rw [List.getElem?_set_self']
    cases rtc.txSlots[slot]? <;> rfl
  · rw [List.getElem?_set_ne h]

end Nanortc.Spec
