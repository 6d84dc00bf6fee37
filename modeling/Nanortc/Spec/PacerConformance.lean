import Mathlib
import Nanortc.ForStd.Recent
import Nanortc.ForStd.Run
import Nanortc.Spec.TxSlots

/-!
# Conformance of the pacer

Fragments wait in the packet ring between the two cursors of the pacer. A pump refills the token
bucket and hands fragments to the output queue, oldest first, while there is credit for them or they
have waited for too long.

## Key results

- `pacerRelease_spec`: what one pump hands over, and why it stops
- `PaceKept.step`: the fragments in the ring along one call
- `paceCredit`: the bytes handed over by successive pumps
- `PaceArmed.pump`: a pump at the reported deadline hands over a fragment
-/

namespace Nanortc.Spec

open Nanortc.ForStd Nanortc.Native

/-! ### Fragments in the ring -/

/-- The ring slot at a cursor. -/
def paceSlot (rtc : NanoRtc) (c : UInt16) : PktSlot := rtc.pktRing.getD (pktSlot c) default

/-- The fragment at a cursor is older than the latency cap. -/
def paceAged (rtc : NanoRtc) (c : UInt16) : Bool :=
  nanoTimeElapsed rtc.nowMs (rtc.pacer.enqueueMs.getD (pktSlot c) 0) ≥ pacingMaxQueueMs

/-- The number of fragments that wait. -/
def paceDepth (rtc : NanoRtc) : Nat := (rtc.pacer.tail - rtc.pacer.head).toNat

/-- The bytes of the `k` oldest fragments. -/
def paceBytes (rtc : NanoRtc) (k : Nat) : Nat :=
  ((List.range k).map fun i => (paceSlot rtc (rtc.pacer.head + UInt16.ofNat i)).len).sum

/-- The bytes of those of the `k` oldest fragments that are older than the latency cap. -/
def paceAgedBytes (rtc : NanoRtc) (k : Nat) : Nat :=
  ((List.range k).map fun i =>
    if paceAged rtc (rtc.pacer.head + UInt16.ofNat i) then
      (paceSlot rtc (rtc.pacer.head + UInt16.ofNat i)).len
    else 0).sum

/-- The queue entry of the fragment at a cursor. -/
def paceEntry (rtc : NanoRtc) (c : UInt16) : NanortcOutput :=
  .transmit ⟨.pktRing (pktSlot c), (paceSlot rtc c).len, rtc.remoteAddr, rtcDefaultSrc rtc⟩

theorem add_ofNat_succ (c : UInt16) (i : Nat) :
    c + 1 + UInt16.ofNat i = c + UInt16.ofNat (i + 1) := by
  rw [UInt16.add_assoc, Nat.add_comm i 1, UInt16.ofNat_add]
  rfl

theorem add_ofNat_zero (c : UInt16) : c + UInt16.ofNat 0 = c := UInt16.add_zero c

/-- Cursors that are less than the queue apart have entries of their own. -/
theorem outSlot_ne {t : UInt16} {a b : Nat} (hab : a < b) (hb : b < outQueueSize) :
    outSlot (t + UInt16.ofNat a) ≠ outSlot (t + UInt16.ofNat b) := by
  have h32 : outQueueSize = 32 := rfl
  have ht := t.toNat_lt
  unfold outSlot
  rw [UInt16.toNat_add, UInt16.toNat_add, UInt16.toNat_ofNat', UInt16.toNat_ofNat', h32]
  omega

/-- `k` fragments were handed to the output queue, oldest first. -/
structure PaceReleased (rtc rtc' : NanoRtc) (k : Nat) : Prop where
  same : ∃ q w b, rtc' = { rtc with
    outQueue := q
    outWrapMeta := w
    outTail := rtc.outTail + UInt16.ofNat k
    pacer := { rtc.pacer with head := rtc.pacer.head + UInt16.ofNat k, budgetBytes := b } }
  idle : k = 0 → rtc' = rtc
  depth : k ≤ paceDepth rtc
  room : k = 0 ∨ (rtc.outTail - rtc.outHead).toNat + k ≤ outQueueSize
  length : rtc'.outQueue.length = rtc.outQueue.length
  entries : ∀ i < k, rtc'.outQueue.getD (outSlot (rtc.outTail + UInt16.ofNat i)) default =
    paceEntry rtc (rtc.pacer.head + UInt16.ofNat i)
  others : ∀ j, (∀ i < k, j ≠ outSlot (rtc.outTail + UInt16.ofNat i)) →
    rtc'.outQueue.getD j default = rtc.outQueue.getD j default
  budget : rtc'.pacer.budgetBytes.toNat + paceBytes rtc k ≤
    rtc.pacer.budgetBytes.toNat + paceAgedBytes rtc k

/-- Why no further fragment is handed over. -/
def PaceStopped (rtc : NanoRtc) : Prop :=
  rtc.pacer.head = rtc.pacer.tail ∨
  (rtc.pacer.budgetBytes.toNat < (paceSlot rtc rtc.pacer.head).len ∧
    paceAged rtc rtc.pacer.head = false) ∨
  rtcOutputHasSpace rtc = false

theorem PaceReleased.none (rtc : NanoRtc) : PaceReleased rtc rtc 0 where
  same := by
    refine ⟨rtc.outQueue, rtc.outWrapMeta, rtc.pacer.budgetBytes, ?_⟩
    rw [add_ofNat_zero, add_ofNat_zero]
  idle _ := rfl
  depth := Nat.zero_le _
  room := .inl rfl
  length := rfl
  entries := nofun
  others _ _ := rfl
  budget := Nat.le_refl _

theorem paceBytes_succ {rtc rtc1 : NanoRtc} (hring : rtc1.pktRing = rtc.pktRing)
    (hhead : rtc1.pacer.head = rtc.pacer.head + 1) (k : Nat) :
    paceBytes rtc (k + 1) = (paceSlot rtc rtc.pacer.head).len + paceBytes rtc1 k := by
  unfold paceBytes paceSlot
  rw [List.range_succ_eq_map, List.map_cons, List.sum_cons, List.map_map, add_ofNat_zero, hring,
    hhead]
  congr 3
  funext i
  show (rtc.pktRing.getD (pktSlot (rtc.pacer.head + UInt16.ofNat (i + 1))) default).len = _
  rw [add_ofNat_succ]

theorem paceAgedBytes_succ {rtc rtc1 : NanoRtc} (hring : rtc1.pktRing = rtc.pktRing)
    (hstamps : rtc1.pacer.enqueueMs = rtc.pacer.enqueueMs) (hnow : rtc1.nowMs = rtc.nowMs)
    (hhead : rtc1.pacer.head = rtc.pacer.head + 1) (k : Nat) :
    paceAgedBytes rtc (k + 1) =
      (if paceAged rtc rtc.pacer.head then (paceSlot rtc rtc.pacer.head).len else 0) +
        paceAgedBytes rtc1 k := by
  unfold paceAgedBytes paceSlot paceAged
  rw [List.range_succ_eq_map, List.map_cons, List.sum_cons, List.map_map, add_ofNat_zero, hring,
    hhead, hstamps, hnow]
  congr 3
  funext i
  rw [Function.comp_apply, add_ofNat_succ]

/-- One fragment more in front. -/
theorem PaceReleased.cons {rtc rtc1 rtc' : NanoRtc} {k : Nat} {w : List WrapMeta} {b : UInt32}
    (hqueue : rtc.outQueue.length = outQueueSize) (hwaits : rtc.pacer.head ≠ rtc.pacer.tail)
    (hspace : rtcOutputHasSpace rtc = true)
    (hstep : rtc1 = { rtc with
      outQueue := rtc.outQueue.set (outSlot rtc.outTail) (paceEntry rtc rtc.pacer.head)
      outWrapMeta := w
      outTail := rtc.outTail + 1
      pacer := { rtc.pacer with head := rtc.pacer.head + 1, budgetBytes := b } })
    (hbudget : b.toNat + (paceSlot rtc rtc.pacer.head).len ≤ rtc.pacer.budgetBytes.toNat +
      if paceAged rtc rtc.pacer.head then (paceSlot rtc rtc.pacer.head).len else 0)
    (h : PaceReleased rtc1 rtc' k) : PaceReleased rtc rtc' (k + 1) := by
  have h32 : outQueueSize = 32 := rfl
  have hspace : (rtc.outTail - rtc.outHead).toNat < outQueueSize := of_decide_eq_true hspace
  have hout : (rtc1.outTail - rtc1.outHead).toNat = (rtc.outTail - rtc.outHead).toNat + 1 := by
    rw [hstep]
    show (rtc.outTail + 1 - rtc.outHead).toNat = _
    have h1 := rtc.outTail.toNat_lt
    have h2 := rtc.outHead.toNat_lt
    have hone : (1 : UInt16).toNat = 1 := rfl
    rw [UInt16.toNat_sub] at hspace ⊢
    rw [UInt16.toNat_sub, UInt16.toNat_add]
    omega
  have hroom : (rtc.outTail - rtc.outHead).toNat + (k + 1) ≤ outQueueSize := by
    rcases h.room with rfl | hroom
    · exact hspace
    · omega
  have hset (j : Nat) : rtc1.outQueue.getD j default =
      if j = outSlot rtc.outTail then paceEntry rtc rtc.pacer.head
      else rtc.outQueue.getD j default := by
    rw [hstep]
    exact getD_set (by rw [hqueue]; exact Nat.mod_lt _ (by decide)) _ _ j
  have htail (i : Nat) : rtc1.outTail + UInt16.ofNat i = rtc.outTail + UInt16.ofNat (i + 1) := by
    rw [hstep]
    exact add_ofNat_succ _ _
  have hhead (i : Nat) :
      rtc1.pacer.head + UInt16.ofNat i = rtc.pacer.head + UInt16.ofNat (i + 1) := by
    rw [hstep]
    exact add_ofNat_succ _ _
  refine ⟨?_, nofun, ?_, .inr hroom, ?_, fun i hi => ?_, fun j hj => ?_, ?_⟩
  · obtain ⟨q, w', b', hsame⟩ := h.same
    refine ⟨q, w', b', ?_⟩
    rw [hsame, htail, hhead, hstep]
  · have hdepth := h.depth
    unfold paceDepth at hdepth ⊢
    rw [hstep] at hdepth
    have hdepth : k ≤ (rtc.pacer.tail - (rtc.pacer.head + 1)).toNat := hdepth
    have h1 := rtc.pacer.tail.toNat_lt
    have h2 := rtc.pacer.head.toNat_lt
    have hone : (1 : UInt16).toNat = 1 := rfl
    have hne : rtc.pacer.head.toNat ≠ rtc.pacer.tail.toNat := fun hcon =>
      hwaits (UInt16.toNat_inj.mp hcon)
    rw [UInt16.toNat_sub] at hdepth ⊢
    rw [UInt16.toNat_add] at hdepth
    omega
  · rw [h.length, hstep]
    exact List.length_set
  · cases i with
    | zero =>
      rw [add_ofNat_zero, add_ofNat_zero, h.others _ fun i hi => ?_, hset, if_pos rfl]
      rw [htail]
      have hne := outSlot_ne (t := rtc.outTail) (Nat.succ_pos i) (show i + 1 < outQueueSize by omega)
      rwa [add_ofNat_zero] at hne
    | succ i =>
      have hentry := h.entries i (Nat.lt_of_succ_lt_succ hi)
      rw [htail, hhead] at hentry
      rw [hentry, hstep]
      rfl
  · have hrest := h.others j fun i hi => by
      rw [htail]
      exact hj (i + 1) (Nat.succ_lt_succ hi)
    have hfirst := hj 0 (Nat.succ_pos k)
    rw [add_ofNat_zero] at hfirst
    rw [hrest, hset, if_neg hfirst]
  · have hbytes := @paceBytes_succ rtc rtc1 (by rw [hstep]) (by rw [hstep]) k
    have haged := @paceAgedBytes_succ rtc rtc1 (by rw [hstep]) (by rw [hstep])
      (by rw [hstep]) (by rw [hstep]) k
    have hrest := h.budget
    have hb : rtc1.pacer.budgetBytes = b := by rw [hstep]
    rw [hb] at hrest
    omega

/-- **What a pump hands over**: the oldest fragments, until none is left, there is neither credit
nor age for the next one, or the output queue is full. -/
theorem pacerRelease_spec (turns : Nat) {rtc : NanoRtc} (hturns : paceDepth rtc = turns)
    (hqueue : rtc.outQueue.length = outQueueSize)
    (hlen : ∀ i < turns, 0 < (paceSlot rtc (rtc.pacer.head + UInt16.ofNat i)).len) :
    ∃ k, PaceReleased rtc (pacerRelease turns rtc) k ∧ PaceStopped (pacerRelease turns rtc) := by
  have h1 := rtc.pacer.tail.toNat_lt
  have h2 := rtc.pacer.head.toNat_lt
  unfold paceDepth at hturns
  induction turns generalizing rtc with
  | zero =>
    refine ⟨0, PaceReleased.none rtc, .inl ?_⟩
    rw [UInt16.toNat_sub] at hturns
    show rtc.pacer.head = rtc.pacer.tail
    rw [← UInt16.toNat_inj]
    omega
  | succ turns ih =>
    have hwaits : rtc.pacer.head ≠ rtc.pacer.tail := by
      intro hcon
      rw [hcon, UInt16.sub_self] at hturns
      exact nomatch hturns
    have hfirst := hlen 0 (Nat.succ_pos turns)
    rw [add_ofNat_zero] at hfirst
    have hlenslot : (rtc.pktRing.getD (pktSlot rtc.pacer.head) default).len ≠ 0 :=
      Nat.pos_iff_ne_zero.mp hfirst
    unfold pacerRelease
    dsimp only
    rw [if_neg hwaits, if_neg hlenslot]
    by_cases hgo : (rtc.pktRing.getD (pktSlot rtc.pacer.head) default).len ≤
        rtc.pacer.budgetBytes.toNat ∨ paceAged rtc rtc.pacer.head = true
    swap
    · -- neither credit nor age
      obtain ⟨hcredit, hage⟩ := not_or.mp hgo
      rw [if_pos]
      · exact ⟨0, PaceReleased.none rtc, .inr (.inl ⟨Nat.not_le.mp hcredit,
          Bool.eq_false_iff.mpr hage⟩)⟩
      · unfold paceAged at hage
        rw [decide_eq_false hcredit, Bool.eq_false_iff.mpr hage]
        rfl
    rw [if_neg]
    swap
    · rw [Bool.and_eq_true, Bool.not_eq_true', Bool.not_eq_true', decide_eq_false_iff_not]
      rintro ⟨hcredit, hage⟩
      exact hgo.elim hcredit fun haged => nomatch hage.symm.trans haged
    by_cases hspace : rtcOutputHasSpace rtc = true
    swap
    · rw [Bool.not_eq_true] at hspace
      rw [if_pos (by rw [hspace]; rfl)]
      exact ⟨0, PaceReleased.none rtc, .inr (.inr hspace)⟩
    rw [if_neg (by rw [hspace]; nofun)]
    rcases nanoRtcEnqueueTransmit_cases rtc (.pktRing (pktSlot rtc.pacer.head))
      (rtc.pktRing.getD (pktSlot rtc.pacer.head) default).len rtc.remoteAddr false with
      ⟨hfull, -⟩ | ⟨-, w, hput⟩
    · exact nomatch hfull.symm.trans hspace
    rw [hput]
    dsimp only
    generalize hb : (if decide ((rtc.pktRing.getD (pktSlot rtc.pacer.head) default).len ≤
      rtc.pacer.budgetBytes.toNat) = true then rtc.pacer.budgetBytes -
      UInt32.ofNat (rtc.pktRing.getD (pktSlot rtc.pacer.head) default).len else 0) = b
    have hbudget : b.toNat + (paceSlot rtc rtc.pacer.head).len ≤ rtc.pacer.budgetBytes.toNat +
        if paceAged rtc rtc.pacer.head then (paceSlot rtc rtc.pacer.head).len else 0 := by
      rw [← hb]
      by_cases hcredit : (rtc.pktRing.getD (pktSlot rtc.pacer.head) default).len ≤
          rtc.pacer.budgetBytes.toNat
      · have hsmall := rtc.pacer.budgetBytes.toNat_lt
        have hnat : (UInt32.ofNat (rtc.pktRing.getD (pktSlot rtc.pacer.head) default).len).toNat =
            (rtc.pktRing.getD (pktSlot rtc.pacer.head) default).len := by
          rw [UInt32.toNat_ofNat', Nat.mod_eq_of_lt (by omega)]
        rw [if_pos (decide_eq_true hcredit), UInt32.toNat_sub_of_le _ _
          (UInt32.le_iff_toNat_le.mpr (by rw [hnat]; exact hcredit)), hnat]
        unfold paceSlot
        omega
      · rw [if_neg (by rw [decide_eq_false hcredit]; nofun), if_pos (hgo.resolve_left hcredit)]
        exact Nat.add_le_add_right (Nat.zero_le _) _
    obtain ⟨k, hrest, hstop⟩ := @ih { rtc with
      outQueue := rtc.outQueue.set (outSlot rtc.outTail) (paceEntry rtc rtc.pacer.head)
      outWrapMeta := w
      outTail := rtc.outTail + 1
      pacer := { rtc.pacer with head := rtc.pacer.head + 1, budgetBytes := b } }
      (by
        show (rtc.pacer.tail - (rtc.pacer.head + 1)).toNat = turns
        have hone : (1 : UInt16).toNat = 1 := rfl
        rw [UInt16.toNat_sub] at hturns ⊢
        rw [UInt16.toNat_add]
        omega)
      (List.length_set.trans hqueue)
      (fun i hi => by
        have hnext := hlen (i + 1) (Nat.succ_lt_succ hi)
        rw [← add_ofNat_succ] at hnext
        exact hnext)
      h1 (rtc.pacer.head + 1).toNat_lt
    exact ⟨k + 1, PaceReleased.cons hqueue hwaits hspace rfl hbudget hrest, hstop⟩

/-! ### A pump -/

/-- The time since the last refill. -/
def paceElapsed (rtc : NanoRtc) : Nat :=
  if rtc.pacer.refillInited then (nanoTimeElapsed rtc.nowMs rtc.pacer.lastRefillMs).toNat else 0

/-- **The refill** adds the credit of at most a second, up to the burst size. -/
theorem pacerRefill_spec {rtc : NanoRtc}
    (hcap : rtc.pacer.budgetBytes.toNat ≤ pacingMaxBurstBytes.toNat) :
    ∃ b : UInt32, pacerRefill rtc = { rtc.pacer with
        budgetBytes := b, lastRefillMs := rtc.nowMs, refillInited := true } ∧
      b.toNat = min (rtc.pacer.budgetBytes.toNat +
        pacerRateBps rtc * min (paceElapsed rtc) 1000 / 8000) pacingMaxBurstBytes.toNat := by
  have hburst : pacingMaxBurstBytes.toNat = 3000 := rfl
  unfold pacerRefill paceElapsed
  dsimp only
  by_cases hinit : rtc.pacer.refillInited = true
  swap
  · rw [if_neg hinit, if_neg hinit]
    have hzero : min (nanoTimeElapsed rtc.nowMs rtc.nowMs).toNat 1000 = 0 := by
      unfold nanoTimeElapsed
      rw [UInt32.sub_self]
      rfl
    dsimp only
    rw [hzero, if_neg (Nat.lt_irrefl 0)]
    refine ⟨rtc.pacer.budgetBytes, rfl, ?_⟩
    rw [Nat.zero_min, Nat.mul_zero, Nat.zero_div, Nat.add_zero, Nat.min_eq_left hcap]
  · rw [if_pos hinit, if_pos hinit]
    by_cases hpos : min (nanoTimeElapsed rtc.nowMs rtc.pacer.lastRefillMs).toNat 1000 > 0
    · rw [if_pos hpos]
      refine ⟨_, by rw [hinit], ?_⟩
      rw [UInt32.toNat_ofNat', Nat.mod_eq_of_lt (by omega)]
    · rw [if_neg hpos]
      have hzero : (nanoTimeElapsed rtc.nowMs rtc.pacer.lastRefillMs).toNat = 0 := by omega
      have hsame : rtc.pacer.lastRefillMs = rtc.nowMs := by
        have h1 := rtc.nowMs.toNat_lt
        have h2 := rtc.pacer.lastRefillMs.toNat_lt
        unfold nanoTimeElapsed at hzero
        rw [UInt32.toNat_sub] at hzero
        rw [← UInt32.toNat_inj]
        omega
      refine ⟨rtc.pacer.budgetBytes, by rw [← hsame, ← hinit], ?_⟩
      rw [hzero, Nat.zero_min, Nat.mul_zero, Nat.zero_div, Nat.add_zero, Nat.min_eq_left hcap]

/-- The fragments that wait are whole: their slots say how long they are. -/
def PaceWhole (rtc : NanoRtc) : Prop :=
  ∀ i < paceDepth rtc, (paceSlot rtc (rtc.pacer.head + UInt16.ofNat i)).len =
      (paceSlot rtc (rtc.pacer.head + UInt16.ofNat i)).buf.length ∧
    0 < (paceSlot rtc (rtc.pacer.head + UInt16.ofNat i)).len ∧
    (paceSlot rtc (rtc.pacer.head + UInt16.ofNat i)).len ≤ mediaBufSize

/-- **A pump** of fragments that wait refills the bucket and hands over the oldest ones. -/
theorem nanoRtcPacerPump_spec {rtc : NanoRtc} (hwaits : rtc.pacer.head ≠ rtc.pacer.tail)
    (hcap : rtc.pacer.budgetBytes.toNat ≤ pacingMaxBurstBytes.toNat)
    (hqueue : rtc.outQueue.length = outQueueSize) (hwhole : PaceWhole rtc) :
    ∃ r r' k, r = { rtc with pacer := pacerRefill rtc } ∧ PaceReleased r r' k ∧ PaceStopped r' ∧
      nanoRtcPacerPump rtc =
        { r' with pacer := { r'.pacer with nextReleaseMs := pacerNextRelease r' } } := by
  obtain ⟨b, hrefill, -⟩ := pacerRefill_spec hcap
  have hdepth : paceDepth { rtc with pacer := pacerRefill rtc } = paceDepth rtc := by
    unfold paceDepth
    rw [hrefill]
  obtain ⟨k, hreleased, hstopped⟩ := pacerRelease_spec (paceDepth rtc)
    (show paceDepth { rtc with pacer := pacerRefill rtc } = _ from hdepth) hqueue (fun i hi => by
      have hpos := (hwhole i hi).2.1
      rw [hrefill]
      exact hpos)
  refine ⟨_, _, k, rfl, hreleased, hstopped, ?_⟩
  unfold nanoRtcPacerPump
  rw [if_neg hwaits]
  have hturns : (NanoPacer.tail (pacerRefill rtc) - NanoPacer.head (pacerRefill rtc)).toNat =
      paceDepth rtc := hdepth
  dsimp only
  rw [hturns]

/-! ### Calls -/

/-- A call, a clock reading, a new bandwidth estimate, or what others do to the output queue. -/
inductive PaceInput where
  | clock (nowMs : UInt32)
  | rate (bweEstimate : UInt32)
  | enqueue (wireSeq : UInt16) (wire : List UInt8)
  | queue (outHead outTail : UInt16)
  | pump
deriving DecidableEq

/-- What one pump did: its clock and rate, the time since the last refill, the bytes handed over,
those of them that were older than the latency cap, and the credit left. -/
structure PaceRecord where
  clock : UInt32
  rate : Nat
  elapsed : Nat
  bytes : Nat
  aged : Nat
  budget : Nat
deriving Repr, DecidableEq

/-- The pacer with the fragments enqueued and handed over so far, oldest first, and its pumps. -/
structure PaceLog where
  rtc : NanoRtc
  enqueued : List (List UInt8)
  released : List (List UInt8)
  pumps : List PaceRecord

/-- The start, from any connection object whose pacer is as `nanortc_init` leaves it. -/
def paceLogInit (rtc : NanoRtc) : PaceLog := ⟨rtc, [], [], []⟩

/-- The bytes of a queued datagram. -/
def outputBytes (rtc : NanoRtc) : NanortcOutput → List UInt8
  | .transmit t => (rtc.bytes t.data).take t.len
  | .event _ _ => []

/-- The datagrams that a call put into the output queue. -/
def paceOutput (rtc rtc' : NanoRtc) : List (List UInt8) :=
  (List.range (rtc'.outTail - rtc.outTail).toNat).map fun i =>
    outputBytes rtc' (rtc'.outQueue.getD (outSlot (rtc.outTail + UInt16.ofNat i)) default)

/-- A pump. -/
def paceLogPump (l : PaceLog) : PaceLog :=
  let rtc := nanoRtcPacerPump l.rtc
  let out := paceOutput l.rtc rtc
  { rtc := rtc
    enqueued := l.enqueued
    released := l.released ++ out
    pumps :=
      if l.rtc.pacer.head = l.rtc.pacer.tail then l.pumps
      else
        l.pumps ++ [⟨l.rtc.nowMs, pacerRateBps l.rtc, paceElapsed l.rtc,
          (out.map List.length).sum, paceAgedBytes l.rtc out.length,
          rtc.pacer.budgetBytes.toNat⟩] }

/-- One call. -/
def paceLogStep (l : PaceLog) : PaceInput → PaceLog
  | .clock nowMs => { l with rtc := { l.rtc with nowMs := nowMs } }
  | .rate bweEstimate => { l with rtc := { l.rtc with bweEstimate := bweEstimate } }
  | .enqueue wireSeq wire =>
    { l with rtc := rtcCommitFragment l.rtc wireSeq wire, enqueued := l.enqueued ++ [wire] }
  | .queue outHead outTail => { l with rtc := { l.rtc with outHead := outHead, outTail := outTail } }
  | .pump => paceLogPump l

/-- The ring has room for a fragment that is enqueued, as the sender of the frame checks, and the
fragment is a packet. -/
def PaceRoom (l : PaceLog) : PaceInput → Prop
  | .enqueue _ wire => paceDepth l.rtc < pktRingSize ∧ wire ≠ [] ∧ wire.length ≤ mediaBufSize
  | _ => True

instance (l : PaceLog) : (i : PaceInput) → Decidable (PaceRoom l i)
  | .enqueue _ _ => inferInstanceAs (Decidable (_ ∧ _))
  | .clock _ | .rate _ | .queue _ _ | .pump => instDecidableTrue

/-- One pump after another: the time between them, and what it may hand over. -/
structure PaceCredit (a b : PaceRecord) : Prop where
  time : b.elapsed = (b.clock - a.clock).toNat
  credit : b.budget + b.bytes ≤ a.budget + b.rate * b.elapsed / 8000 + b.aged

/-- The fragments that wait, oldest first. -/
def paceWaiting (rtc : NanoRtc) : List (List UInt8) :=
  (List.range (paceDepth rtc)).map fun i => (paceSlot rtc (rtc.pacer.head + UInt16.ofNat i)).buf

/-- The fragments enqueued are those handed over and those in the ring, and the pumps keep to their
credit. -/
structure PaceKept (l : PaceLog) : Prop where
  ring : l.rtc.pktRing.length = pktRingSize
  stamps : l.rtc.pacer.enqueueMs.length = pktRingSize
  queue : l.rtc.outQueue.length = outQueueSize
  tail : l.rtc.pktRingTail = l.rtc.pacer.tail
  depth : paceDepth l.rtc ≤ pktRingSize
  whole : PaceWhole l.rtc
  order : l.released ++ paceWaiting l.rtc = l.enqueued
  budget : l.rtc.pacer.budgetBytes.toNat ≤ pacingMaxBurstBytes.toNat
  chain : l.pumps.IsChain PaceCredit
  cap : ∀ r ∈ l.pumps, r.budget + r.bytes ≤ pacingMaxBurstBytes.toNat + r.aged
  last : ∀ r ∈ l.pumps.getLast?, r.budget = l.rtc.pacer.budgetBytes.toNat ∧
    l.rtc.pacer.refillInited = true ∧ l.rtc.pacer.lastRefillMs = r.clock

section

variable {l : PaceLog}

/-- The fragments at the first cursors. -/
theorem paceWaiting_split {rtc : NanoRtc} {k : Nat} (hk : k ≤ paceDepth rtc) :
    paceWaiting rtc = ((List.range k).map fun i =>
        (paceSlot rtc (rtc.pacer.head + UInt16.ofNat i)).buf) ++
      (List.range (paceDepth rtc - k)).map fun i =>
        (paceSlot rtc (rtc.pacer.head + UInt16.ofNat k + UInt16.ofNat i)).buf := by
  unfold paceWaiting
  conv_lhs => rw [← Nat.add_sub_cancel' hk]
  rw [List.range_add, List.map_append, List.map_map]
  congr 1
  refine List.map_congr_left fun i _ => ?_
  rw [Function.comp_apply, UInt16.ofNat_add, UInt16.add_assoc]

/-- The depth after `k` fragments. -/
theorem paceDepth_moved {rtc : NanoRtc} {head tail : UInt16} (k : Nat)
    (hk : k ≤ (tail - head).toNat) (hhead : rtc.pacer.head = head + UInt16.ofNat k)
    (htail : rtc.pacer.tail = tail) : paceDepth rtc = (tail - head).toNat - k := by
  have h1 := tail.toNat_lt
  have h2 := head.toNat_lt
  unfold paceDepth
  rw [hhead, htail]
  rw [UInt16.toNat_sub] at hk ⊢
  rw [UInt16.toNat_sub, UInt16.toNat_add, UInt16.toNat_ofNat']
  omega

/-- **What a pump adds to the log** when fragments wait. -/
theorem paceLogPump_spec (h : PaceKept l) (hwaits : l.rtc.pacer.head ≠ l.rtc.pacer.tail) :
    ∃ r r' k, r = { l.rtc with pacer := pacerRefill l.rtc } ∧ PaceReleased r r' k ∧ PaceStopped r' ∧
      paceLogPump l =
        { rtc := { r' with pacer := { r'.pacer with nextReleaseMs := pacerNextRelease r' } }
          enqueued := l.enqueued
          released := l.released ++ (List.range k).map fun i =>
            (paceSlot l.rtc (l.rtc.pacer.head + UInt16.ofNat i)).buf
          pumps := l.pumps ++ [⟨l.rtc.nowMs, pacerRateBps l.rtc, paceElapsed l.rtc,
            paceBytes l.rtc k, paceAgedBytes l.rtc k, r'.pacer.budgetBytes.toNat⟩] } := by
  obtain ⟨r, r', k, hr, hreleased, hstopped, hpump⟩ :=
    nanoRtcPacerPump_spec hwaits h.budget h.queue h.whole
  obtain ⟨b, hrefill, -⟩ := pacerRefill_spec h.budget
  refine ⟨r, r', k, hr, hreleased, hstopped, ?_⟩
  have hslot (c : UInt16) : paceSlot r c = paceSlot l.rtc c := by rw [hr]; rfl
  have hhead : r.pacer.head = l.rtc.pacer.head := by
    rw [hr]
    show (pacerRefill l.rtc).head = _
    rw [hrefill]
  have hdepth : paceDepth r = paceDepth l.rtc := by
    unfold paceDepth
    rw [hr]
    show ((pacerRefill l.rtc).tail - (pacerRefill l.rtc).head).toNat = _
    rw [hrefill]
  have hk : k ≤ paceDepth l.rtc := hdepth ▸ hreleased.depth
  have h32 : pktRingSize = 32 := rfl
  have hdeep := h.depth
  -- the datagrams in the queue are the fragments
  have hout : paceOutput l.rtc (nanoRtcPacerPump l.rtc) = (List.range k).map fun i =>
      (paceSlot l.rtc (l.rtc.pacer.head + UInt16.ofNat i)).buf := by
    obtain ⟨q, w, b', hsame⟩ := hreleased.same
    have htail : (nanoRtcPacerPump l.rtc).outTail = l.rtc.outTail + UInt16.ofNat k := by
      rw [hpump, hsame, hr]
    have hqueue : (nanoRtcPacerPump l.rtc).outQueue = r'.outQueue := by rw [hpump]
    have hring : (nanoRtcPacerPump l.rtc).pktRing = l.rtc.pktRing := by rw [hpump, hsame, hr]
    have hcount : ((nanoRtcPacerPump l.rtc).outTail - l.rtc.outTail).toNat = k := by
      rw [htail, UInt16.add_comm, UInt16.add_sub_cancel, UInt16.toNat_ofNat']
      omega
    unfold paceOutput
    rw [hcount]
    refine List.map_congr_left fun i hi => ?_
    have hi := List.mem_range.mp hi
    have hentry := hreleased.entries i hi
    have houtTail : r.outTail = l.rtc.outTail := by rw [hr]
    rw [houtTail, hhead] at hentry
    obtain ⟨hlen, -, -⟩ := h.whole i (by omega)
    rw [hqueue, hentry]
    unfold paceEntry outputBytes NanoRtc.bytes
    dsimp only
    rw [hring, hslot, hlen]
    exact List.take_length
  have hbytes : ((paceOutput l.rtc (nanoRtcPacerPump l.rtc)).map List.length).sum =
      paceBytes l.rtc k := by
    rw [hout, List.map_map]
    unfold paceBytes
    congr 1
    refine List.map_congr_left fun i hi => ?_
    have hi := List.mem_range.mp hi
    exact (h.whole i (by omega)).1.symm
  have hcount : (paceOutput l.rtc (nanoRtcPacerPump l.rtc)).length = k := by
    rw [hout, List.length_map, List.length_range]
  unfold paceLogPump
  dsimp only
  rw [if_neg hwaits, hbytes, hcount, hout, hpump]

theorem PaceKept.pump (h : PaceKept l) : PaceKept (paceLogPump l) := by
  by_cases hwaits : l.rtc.pacer.head = l.rtc.pacer.tail
  · have hsame : paceLogPump l = l := by
      unfold paceLogPump nanoRtcPacerPump paceOutput
      rw [if_pos hwaits]
      dsimp only
      rw [if_pos hwaits, UInt16.sub_self]
      show { l with released := l.released ++ [] } = l
      rw [List.append_nil]
    rw [hsame]
    exact h
  obtain ⟨r, r', k, hr, hreleased, -, hpump⟩ := paceLogPump_spec h hwaits
  obtain ⟨b, hrefill, hb⟩ := pacerRefill_spec h.budget
  obtain ⟨q, w, b', hsame⟩ := hreleased.same
  have hpacer : r.pacer = pacerRefill l.rtc := by rw [hr]
  have hdepth : paceDepth r = paceDepth l.rtc := by
    unfold paceDepth
    rw [hpacer, hrefill]
  have hk : k ≤ paceDepth l.rtc := hdepth ▸ hreleased.depth
  have hmoved : r'.pacer.head = l.rtc.pacer.head + UInt16.ofNat k ∧
      r'.pacer.tail = l.rtc.pacer.tail := by
    rw [hsame, hpacer, hrefill]
    exact ⟨rfl, rfl⟩
  have hdepth' : paceDepth r' = paceDepth l.rtc - k := paceDepth_moved k hk hmoved.1 hmoved.2
  have hring : r'.pktRing = l.rtc.pktRing := by rw [hsame, hr]
  have hslot (c : UInt16) : paceSlot r' c = paceSlot l.rtc c := by
    unfold paceSlot
    rw [hring]
  -- the credit of this pump
  have hbytes : paceBytes r k = paceBytes l.rtc k := by
    unfold paceBytes paceSlot
    rw [hpacer, hrefill, hr]
  have haged : paceAgedBytes r k = paceAgedBytes l.rtc k := by
    unfold paceAgedBytes paceAged paceSlot
    rw [hpacer, hrefill, hr]
  have hbudget := hreleased.budget
  rw [hbytes, haged, hpacer, hrefill] at hbudget
  have hbudget : r'.pacer.budgetBytes.toNat + paceBytes l.rtc k ≤
      b.toNat + paceAgedBytes l.rtc k := hbudget
  have hagedle : paceAgedBytes l.rtc k ≤ paceBytes l.rtc k := by
    refine List.sum_le_sum fun i _ => ?_
    split
    · exact Nat.le_refl _
    · exact Nat.zero_le _
  have helapsed : pacerRateBps l.rtc * min (paceElapsed l.rtc) 1000 / 8000 ≤
      pacerRateBps l.rtc * paceElapsed l.rtc / 8000 :=
    Nat.div_le_div_right (Nat.mul_le_mul_left _ (Nat.min_le_left _ _))
  rw [hpump]
  refine
    { ring := by rw [hring]; exact h.ring
      stamps := ?_
      queue := ?_
      tail := ?_
      depth := ?_
      whole := fun i hi => ?_
      order := ?_
      budget := ?_
      chain := ?_
      cap := fun e he => ?_
      last := fun e he => ?_ }
  · have hstamps : r'.pacer.enqueueMs = l.rtc.pacer.enqueueMs := by rw [hsame, hpacer, hrefill]
    show r'.pacer.enqueueMs.length = _
    rw [hstamps]
    exact h.stamps
  · have hlen := hreleased.length
    rw [hr] at hlen
    exact hlen.trans h.queue
  · have htail : r'.pktRingTail = l.rtc.pktRingTail := by rw [hsame, hr]
    show r'.pktRingTail = r'.pacer.tail
    rw [htail, hmoved.2]
    exact h.tail
  · have hdeep := h.depth
    show paceDepth r' ≤ _
    omega
  · have hi : i < paceDepth r' := hi
    have hcursor : r'.pacer.head + UInt16.ofNat i = l.rtc.pacer.head + UInt16.ofNat (k + i) := by
      rw [hmoved.1, UInt16.ofNat_add, UInt16.add_assoc]
    show (paceSlot r' (r'.pacer.head + UInt16.ofNat i)).len =
        (paceSlot r' (r'.pacer.head + UInt16.ofNat i)).buf.length ∧
      0 < (paceSlot r' (r'.pacer.head + UInt16.ofNat i)).len ∧
      (paceSlot r' (r'.pacer.head + UInt16.ofNat i)).len ≤ mediaBufSize
    rw [hslot, hcursor]
    exact h.whole (k + i) (by omega)
  · have hrest : paceWaiting { r' with
        pacer := { r'.pacer with nextReleaseMs := pacerNextRelease r' } } =
        (List.range (paceDepth l.rtc - k)).map fun i =>
          (paceSlot l.rtc (l.rtc.pacer.head + UInt16.ofNat k + UInt16.ofNat i)).buf := by
      show (List.range (paceDepth r')).map (fun i =>
        (paceSlot r' (r'.pacer.head + UInt16.ofNat i)).buf) = _
      rw [hdepth', hmoved.1]
      exact List.map_congr_left fun i _ => by rw [hslot]
    dsimp only
    rw [hrest, List.append_assoc, ← paceWaiting_split hk]
    exact h.order
  · show r'.pacer.budgetBytes.toNat ≤ _
    omega
  · refine h.chain.append (.singleton _) fun a ha e he => ?_
    obtain rfl := Option.some.inj he
    obtain ⟨hlast, hinited, hclock⟩ := h.last a ha
    refine ⟨?_, ?_⟩
    · show paceElapsed l.rtc = (l.rtc.nowMs - a.clock).toNat
      unfold paceElapsed nanoTimeElapsed
      rw [if_pos hinited, hclock]
    · dsimp only
      omega
  · rcases List.mem_append.mp he with he | he
    · exact h.cap e he
    · rw [List.mem_singleton.mp he]
      dsimp only
      omega
  · dsimp only at he
    rw [List.getLast?_concat] at he
    obtain rfl := Option.some.inj he
    refine ⟨rfl, ?_⟩
    show r'.pacer.refillInited = true ∧ r'.pacer.lastRefillMs = l.rtc.nowMs
    rw [hsame, hpacer, hrefill]
    exact ⟨rfl, rfl⟩

theorem pktSlot_ne {c : UInt16} {a b : Nat} (hab : a < b) (hb : b < pktRingSize) :
    pktSlot (c + UInt16.ofNat a) ≠ pktSlot (c + UInt16.ofNat b) := by
  have h32 : pktRingSize = 32 := rfl
  have hc := c.toNat_lt
  unfold pktSlot
  rw [UInt16.toNat_add, UInt16.toNat_add, UInt16.toNat_ofNat', UInt16.toNat_ofNat', h32]
  omega

theorem paceTail_eq (rtc : NanoRtc) :
    rtc.pacer.tail = rtc.pacer.head + UInt16.ofNat (paceDepth rtc) := by
  unfold paceDepth
  rw [UInt16.ofNat_toNat, UInt16.add_comm, UInt16.sub_add_cancel]

/-- A fragment enqueued is the last one, and the others are where they were. -/
theorem rtcCommitFragment_spec (h : PaceKept l) (wireSeq : UInt16) (wire : List UInt8) :
    let rtc := rtcCommitFragment l.rtc wireSeq wire
    rtc.pacer.head = l.rtc.pacer.head ∧ rtc.pacer.tail = l.rtc.pacer.tail + 1 ∧
      (∀ c, paceSlot rtc c = if pktSlot c = pktSlot l.rtc.pacer.tail then
        ⟨wire, wireSeq, wire.length⟩ else paceSlot l.rtc c) ∧
      ∀ c, rtc.pacer.enqueueMs.getD (pktSlot c) 0 = if pktSlot c = pktSlot l.rtc.pacer.tail then
        l.rtc.nowMs else l.rtc.pacer.enqueueMs.getD (pktSlot c) 0 := by
  have hslot (c : UInt16) : pktSlot c < pktRingSize := Nat.mod_lt _ (by decide)
  refine ⟨rfl, ?_, fun c => ?_, fun c => ?_⟩
  · show l.rtc.pktRingTail + 1 = _
    rw [h.tail]
  · show (l.rtc.pktRing.set (pktSlot l.rtc.pktRingTail) _).getD (pktSlot c) default = _
    rw [h.tail, getD_set (by rw [h.ring]; exact hslot _)]
    rfl
  · show (l.rtc.pacer.enqueueMs.set (pktSlot l.rtc.pktRingTail) _).getD (pktSlot c) 0 = _
    rw [h.tail, getD_set (by rw [h.stamps]; exact hslot _)]

theorem PaceKept.enqueue (h : PaceKept l) {wireSeq : UInt16} {wire : List UInt8}
    (hroom : PaceRoom l (.enqueue wireSeq wire)) :
    PaceKept (paceLogStep l (.enqueue wireSeq wire)) := by
  obtain ⟨hfree, hne, hsize⟩ := hroom
  obtain ⟨hhead, htail, hslots, -⟩ := rtcCommitFragment_spec h wireSeq wire
  have h32 : pktRingSize = 32 := rfl
  have hdepth : paceDepth (rtcCommitFragment l.rtc wireSeq wire) = paceDepth l.rtc + 1 := by
    have h1 := l.rtc.pacer.tail.toNat_lt
    have h2 := l.rtc.pacer.head.toNat_lt
    have hone : (1 : UInt16).toNat = 1 := rfl
    unfold paceDepth at hfree ⊢
    rw [hhead, htail]
    rw [UInt16.toNat_sub] at hfree ⊢
    rw [UInt16.toNat_sub, UInt16.toNat_add]
    omega
  have hold (i : Nat) (hi : i < paceDepth l.rtc) :
      paceSlot (rtcCommitFragment l.rtc wireSeq wire) (l.rtc.pacer.head + UInt16.ofNat i) =
        paceSlot l.rtc (l.rtc.pacer.head + UInt16.ofNat i) := by
    rw [hslots, if_neg]
    rw [paceTail_eq]
    exact pktSlot_ne hi (by omega)
  have hnew : paceSlot (rtcCommitFragment l.rtc wireSeq wire)
      (l.rtc.pacer.head + UInt16.ofNat (paceDepth l.rtc)) = ⟨wire, wireSeq, wire.length⟩ := by
    rw [hslots, if_pos]
    rw [← paceTail_eq]
  exact {
    ring := List.length_set.trans h.ring
    stamps := List.length_set.trans h.stamps
    queue := h.queue
    tail := rfl
    depth := by
      show paceDepth (rtcCommitFragment l.rtc wireSeq wire) ≤ _
      omega
    whole := by
      intro i hi
      have hi : i < paceDepth (rtcCommitFragment l.rtc wireSeq wire) := hi
      show (paceSlot (rtcCommitFragment l.rtc wireSeq wire) (l.rtc.pacer.head + UInt16.ofNat i)).len =
          (paceSlot (rtcCommitFragment l.rtc wireSeq wire)
            (l.rtc.pacer.head + UInt16.ofNat i)).buf.length ∧
        0 < (paceSlot (rtcCommitFragment l.rtc wireSeq wire)
          (l.rtc.pacer.head + UInt16.ofNat i)).len ∧
        (paceSlot (rtcCommitFragment l.rtc wireSeq wire)
          (l.rtc.pacer.head + UInt16.ofNat i)).len ≤ mediaBufSize
      rcases Nat.lt_or_eq_of_le (show i ≤ paceDepth l.rtc by omega) with hlt | rfl
      · rw [hold i hlt]
        exact h.whole i hlt
      · rw [hnew]
        exact ⟨rfl, List.length_pos_iff.mpr hne, hsize⟩
    order := by
      show l.released ++ (List.range (paceDepth (rtcCommitFragment l.rtc wireSeq wire))).map (fun i =>
        (paceSlot (rtcCommitFragment l.rtc wireSeq wire) (l.rtc.pacer.head + UInt16.ofNat i)).buf) =
        l.enqueued ++ [wire]
      have hmap : (List.range (paceDepth l.rtc)).map (fun i =>
          (paceSlot (rtcCommitFragment l.rtc wireSeq wire)
            (l.rtc.pacer.head + UInt16.ofNat i)).buf) = paceWaiting l.rtc :=
        List.map_congr_left fun i hi => by rw [hold i (List.mem_range.mp hi)]
      rw [hdepth, List.range_succ, List.map_append, List.map_singleton, hnew, hmap, ← h.order,
        List.append_assoc]
    budget := h.budget
    chain := h.chain
    cap := h.cap
    last := h.last }

/-- **The fragments in the ring along one call.** -/
theorem PaceKept.step {i : PaceInput} (hroom : PaceRoom l i) (h : PaceKept l) :
    PaceKept (paceLogStep l i) := by
  cases i with
  | clock nowMs => exact { h with }
  | rate bweEstimate => exact { h with }
  | enqueue wireSeq wire => exact h.enqueue hroom
  | queue outHead outTail => exact { h with }
  | pump => exact h.pump

end

/-- A connection object whose pacer is as `nanortc_init` leaves it. -/
structure PaceStart (rtc : NanoRtc) : Prop where
  pacer : rtc.pacer = {}
  ring : rtc.pktRing.length = pktRingSize
  tail : rtc.pktRingTail = 0
  queue : rtc.outQueue.length = outQueueSize

theorem paceKept_init {rtc : NanoRtc} (h : PaceStart rtc) : PaceKept (paceLogInit rtc) := by
  have hdepth : paceDepth rtc = 0 := by
    unfold paceDepth
    rw [h.pacer]
    rfl
  exact {
    ring := h.ring
    stamps := by
      show rtc.pacer.enqueueMs.length = _
      rw [h.pacer]
      rfl
    queue := h.queue
    tail := by
      show rtc.pktRingTail = rtc.pacer.tail
      rw [h.pacer]
      exact h.tail
    depth := by
      show paceDepth rtc ≤ _
      omega
    whole := fun i hi => absurd (show i < paceDepth rtc from hi) (by omega)
    order := by
      show [] ++ paceWaiting rtc = []
      unfold paceWaiting
      rw [hdepth]
      rfl
    budget := by
      show rtc.pacer.budgetBytes.toNat ≤ _
      rw [h.pacer]
    chain := .nil
    cap := nofun
    last := nofun }

/-! ### The credit over an interval -/

/-- The bytes handed over by successive pumps, from the credit that the one before left. -/
theorem paceCredit_from (a : PaceRecord) (rs : List PaceRecord) (h : (a :: rs).IsChain PaceCredit) :
    (rs.map PaceRecord.bytes).sum ≤
      a.budget + (rs.map fun r => r.rate * r.elapsed / 8000).sum + (rs.map PaceRecord.aged).sum := by
  induction rs generalizing a with
  | nil => exact Nat.zero_le _
  | cons b rs ih =>
    rw [List.isChain_cons_cons] at h
    have hnext := ih b h.2
    have hfirst := h.1.credit
    rw [List.map_cons, List.map_cons, List.map_cons, List.sum_cons, List.sum_cons, List.sum_cons]
    omega

/-- **The bytes of an interval**: a burst, the credit since its first pump, and what was too old. -/
theorem paceCredit {r : PaceRecord} {rs : List PaceRecord} (h : (r :: rs).IsChain PaceCredit)
    (hcap : r.budget + r.bytes ≤ pacingMaxBurstBytes.toNat + r.aged) :
    ((r :: rs).map PaceRecord.bytes).sum ≤ pacingMaxBurstBytes.toNat +
      (rs.map fun r => r.rate * r.elapsed / 8000).sum + ((r :: rs).map PaceRecord.aged).sum := by
  have hrest := paceCredit_from r rs h
  rw [List.map_cons, List.map_cons, List.sum_cons, List.sum_cons]
  omega

/-! ### The deadline -/

/-- The milliseconds after which there is credit for any packet at any rate. -/
def paceRefillMs : Nat := 66

/-- The pacer after a pump at `t0` that left fragments: after `w` milliseconds there is credit for
the first of them at the rate of then, or it is too old, and the deadline is there. -/
structure PaceArmed (t0 : UInt32) (rate : Nat) (rtc : NanoRtc) : Prop where
  waits : rtc.pacer.head ≠ rtc.pacer.tail
  inited : rtc.pacer.refillInited = true
  refilled : rtc.pacer.lastRefillMs = t0
  young : (t0 - rtc.pacer.enqueueMs.getD (pktSlot rtc.pacer.head) 0).toNat + paceRefillMs < 2 ^ 32
  size : (paceSlot rtc rtc.pacer.head).len ≤ mediaBufSize
  due : ∃ w : Nat, w ≤ pacingMaxQueueMs.toNat ∧
    rtc.pacer.nextReleaseMs = (if w = 0 then t0 else nanoTimeDeadline t0 (UInt32.ofNat w)) ∧
    (0 < w → (t0 - rtc.pacer.enqueueMs.getD (pktSlot rtc.pacer.head) 0).toNat + w ≤
      pacingMaxQueueMs.toNat) ∧
    ((paceSlot rtc rtc.pacer.head).len ≤ rtc.pacer.budgetBytes.toNat + rate * w / 8000 ∨
      pacingMaxQueueMs.toNat ≤
        (t0 - rtc.pacer.enqueueMs.getD (pktSlot rtc.pacer.head) 0).toNat + w)

theorem pacerRateBps_bounds (rtc : NanoRtc) :
    150000 ≤ pacerRateBps rtc ∧ pacerRateBps rtc < 2 ^ 32 := by
  unfold pacerRateBps pacingMinRateBps pacingFactorPct
  omega

/-- The milliseconds until there is credit for `deficit` bytes. -/
theorem paceWait_spec {deficit rate : Nat} (hdeficit : deficit ≤ mediaBufSize)
    (hrate : 150000 ≤ rate) :
    (deficit * 8000 + rate - 1) / rate < 2 ^ 32 ∧
      deficit ≤ rate * ((deficit * 8000 + rate - 1) / rate) / 8000 := by
  have hmedia : mediaBufSize = 1232 := rfl
  generalize hq : (deficit * 8000 + rate - 1) / rate = q
  have hdiv := Nat.div_add_mod (deficit * 8000 + rate - 1) rate
  have hmod := Nat.mod_lt (deficit * 8000 + rate - 1) (Nat.lt_of_lt_of_le (by decide) hrate)
  rw [hq] at hdiv
  constructor
  · by_contra hbig
    have hmul := Nat.mul_le_mul_left rate (Nat.not_lt.mp hbig)
    omega
  · rw [Nat.le_div_iff_mul_le (by decide)]
    omega

/-- The deadline that is cached. -/
theorem pacerNextRelease_spec {rtc : NanoRtc} (hwaits : rtc.pacer.head ≠ rtc.pacer.tail)
    (hsize : (paceSlot rtc rtc.pacer.head).len ≤ mediaBufSize) :
    ∃ w : Nat, w ≤ pacingMaxQueueMs.toNat ∧
      pacerNextRelease rtc =
        (if w = 0 then rtc.nowMs else nanoTimeDeadline rtc.nowMs (UInt32.ofNat w)) ∧
      (0 < w → (rtc.nowMs - rtc.pacer.enqueueMs.getD (pktSlot rtc.pacer.head) 0).toNat + w ≤
        pacingMaxQueueMs.toNat) ∧
      ((paceSlot rtc rtc.pacer.head).len ≤
          rtc.pacer.budgetBytes.toNat + pacerRateBps rtc * w / 8000 ∨
        pacingMaxQueueMs.toNat ≤
          (rtc.nowMs - rtc.pacer.enqueueMs.getD (pktSlot rtc.pacer.head) 0).toNat + w) := by
  have h40 : pacingMaxQueueMs.toNat = 40 := rfl
  obtain ⟨hlow, -⟩ := pacerRateBps_bounds rtc
  have hdeficit : (paceSlot rtc rtc.pacer.head).len - rtc.pacer.budgetBytes.toNat ≤ mediaBufSize :=
    Nat.le_trans (Nat.sub_le _ _) hsize
  obtain ⟨hfits, hcredit⟩ := paceWait_spec hdeficit hlow
  unfold pacerNextRelease nanoTimeElapsed
  dsimp only
  rw [if_neg hwaits]
  have hslot : rtc.pktRing.getD (pktSlot rtc.pacer.head) default = paceSlot rtc rtc.pacer.head := rfl
  rw [hslot]
  generalize (((paceSlot rtc rtc.pacer.head).len - rtc.pacer.budgetBytes.toNat) * 8000 +
    pacerRateBps rtc - 1) / pacerRateBps rtc = q at hfits hcredit ⊢
  generalize rtc.nowMs - rtc.pacer.enqueueMs.getD (pktSlot rtc.pacer.head) 0 = age
  by_cases hage : age ≥ pacingMaxQueueMs
  · -- too old already
    rw [if_pos hage]
    have hmin : min (UInt32.ofNat q) 0 = 0 := by
      rcases Std.min_eq_or (a := UInt32.ofNat q) (b := 0) with heq | heq
      · exact UInt32.le_antisymm Std.min_le_right UInt32.zero_le
      · exact heq
    rw [hmin, if_pos rfl]
    refine ⟨0, Nat.zero_le _, by rw [if_pos rfl], fun hpos => absurd hpos (Nat.lt_irrefl 0), .inr ?_⟩
    rw [Nat.add_zero]
    exact UInt32.le_iff_toNat_le.mp hage
  · rw [if_neg hage]
    have hyoung := UInt32.lt_iff_toNat_lt.mp (UInt32.not_le.mp hage)
    have huntil : (pacingMaxQueueMs - age).toNat = 40 - age.toNat := by
      rw [UInt32.toNat_sub_of_le _ _ (UInt32.le_iff_toNat_le.mpr (Nat.le_of_lt hyoung)), h40]
    have hq : (UInt32.ofNat q).toNat = q := by rw [UInt32.toNat_ofNat', Nat.mod_eq_of_lt hfits]
    have hzero (x : UInt32) : x = 0 ↔ x.toNat = 0 := by
      rw [← UInt32.toNat_inj]
      rfl
    refine ⟨(min (UInt32.ofNat q) (pacingMaxQueueMs - age)).toNat, ?_, ?_, ?_, ?_⟩
    · have hle := UInt32.le_iff_toNat_le.mp
        (Std.min_le_right (a := UInt32.ofNat q) (b := pacingMaxQueueMs - age))
      omega
    · rw [UInt32.ofNat_toNat]
      exact if_congr (hzero _) rfl rfl
    · have hle := UInt32.le_iff_toNat_le.mp
        (Std.min_le_right (a := UInt32.ofNat q) (b := pacingMaxQueueMs - age))
      omega
    · rcases Std.min_eq_or (a := UInt32.ofNat q) (b := pacingMaxQueueMs - age) with heq | heq
      · rw [heq, hq]
        exact .inl (by omega)
      · rw [heq]
        exact .inr (by omega)

section

variable {l : PaceLog}

/-- The fragment in front, which is left when no other is. -/
theorem PaceKept.front (h : PaceKept l) (hwaits : l.rtc.pacer.head ≠ l.rtc.pacer.tail) :
    0 < paceDepth l.rtc ∧ 0 < (paceSlot l.rtc l.rtc.pacer.head).len ∧
      (paceSlot l.rtc l.rtc.pacer.head).len ≤ mediaBufSize := by
  have hpos : 0 < paceDepth l.rtc := by
    have h1 := l.rtc.pacer.tail.toNat_lt
    have h2 := l.rtc.pacer.head.toNat_lt
    have hne : l.rtc.pacer.head.toNat ≠ l.rtc.pacer.tail.toNat := fun hcon =>
      hwaits (UInt16.toNat_inj.mp hcon)
    unfold paceDepth
    rw [UInt16.toNat_sub]
    omega
  have hwhole := h.whole 0 hpos
  rw [add_ofNat_zero] at hwhole
  exact ⟨hpos, hwhole.2⟩

/-- A pump leaves the clock and the rate. -/
theorem PaceKept.pump_clock (h : PaceKept l) :
    (paceLogPump l).rtc.nowMs = l.rtc.nowMs ∧
      pacerRateBps (paceLogPump l).rtc = pacerRateBps l.rtc := by
  by_cases hwaits : l.rtc.pacer.head = l.rtc.pacer.tail
  · have hsame : (paceLogPump l).rtc = l.rtc := if_pos hwaits
    rw [hsame]
    exact ⟨rfl, rfl⟩
  · obtain ⟨r, r', k, hr, hreleased, -, hpump⟩ := paceLogPump_spec h hwaits
    obtain ⟨q, w, b, hsame⟩ := hreleased.same
    rw [hpump, hsame, hr]
    exact ⟨rfl, rfl⟩

/-- **A pump that leaves fragments** arms the deadline. -/
theorem PaceKept.armed (h : PaceKept l)
    (hleft : (paceLogPump l).rtc.pacer.head ≠ (paceLogPump l).rtc.pacer.tail)
    (hyoung : (l.rtc.nowMs - (paceLogPump l).rtc.pacer.enqueueMs.getD
      (pktSlot (paceLogPump l).rtc.pacer.head) 0).toNat + paceRefillMs < 2 ^ 32) :
    PaceArmed l.rtc.nowMs (pacerRateBps l.rtc) (paceLogPump l).rtc := by
  have hkept := h.pump
  have hwaits : l.rtc.pacer.head ≠ l.rtc.pacer.tail := by
    intro hcon
    have hsame : (paceLogPump l).rtc = l.rtc := if_pos hcon
    rw [hsame] at hleft
    exact hleft hcon
  obtain ⟨-, -, hsize⟩ := hkept.front hleft
  obtain ⟨r, r', k, hr, hreleased, -, hpump⟩ := paceLogPump_spec h hwaits
  obtain ⟨b, hrefill, -⟩ := pacerRefill_spec h.budget
  obtain ⟨q, w', b', hsame⟩ := hreleased.same
  rw [hpump] at hleft hyoung hsize ⊢
  have hleft : r'.pacer.head ≠ r'.pacer.tail := hleft
  have hsize : (paceSlot r' r'.pacer.head).len ≤ mediaBufSize := hsize
  obtain ⟨w, hcap, hnext, hshort, hdue⟩ := pacerNextRelease_spec hleft hsize
  have hnow : r'.nowMs = l.rtc.nowMs := by rw [hsame, hr]
  have hrate : pacerRateBps r' = pacerRateBps l.rtc := by rw [hsame, hr]; rfl
  have hrefilled : r'.pacer.refillInited = true ∧ r'.pacer.lastRefillMs = l.rtc.nowMs := by
    rw [hsame, hr]
    show (pacerRefill l.rtc).refillInited = true ∧ (pacerRefill l.rtc).lastRefillMs = l.rtc.nowMs
    rw [hrefill]
    exact ⟨rfl, rfl⟩
  rw [hnow] at hnext hshort hdue
  rw [hrate] at hdue
  exact {
    waits := hleft
    inited := hrefilled.1
    refilled := hrefilled.2
    young := hyoung
    size := hsize
    due := ⟨w, hcap, hnext, hshort, hdue⟩ }

/-- The deadline stays armed until the next pump. -/
theorem PaceArmed.step {t0 : UInt32} {rate : Nat} {i : PaceInput} (hkept : PaceKept l)
    (hroom : PaceRoom l i) (hother : i ≠ .pump) (h : PaceArmed t0 rate l.rtc) :
    PaceArmed t0 rate (paceLogStep l i).rtc := by
  cases i with
  | clock nowMs => exact { h with }
  | rate bweEstimate => exact { h with }
  | queue outHead outTail => exact { h with }
  | pump => exact absurd rfl hother
  | enqueue wireSeq wire =>
    obtain ⟨hhead, htail, hslots, hstamps⟩ := rtcCommitFragment_spec hkept wireSeq wire
    obtain ⟨hpos, -⟩ := hkept.front h.waits
    have hfree : paceDepth l.rtc < pktRingSize := hroom.1
    have hother : pktSlot l.rtc.pacer.head ≠ pktSlot l.rtc.pacer.tail := by
      have hne := pktSlot_ne (c := l.rtc.pacer.head) hpos hfree
      rwa [add_ofNat_zero, ← paceTail_eq] at hne
    show PaceArmed t0 rate (rtcCommitFragment l.rtc wireSeq wire)
    have hslot := hslots l.rtc.pacer.head
    have hstamp := hstamps l.rtc.pacer.head
    rw [if_neg hother] at hslot hstamp
    refine ⟨?_, h.inited, h.refilled, ?_, ?_, ?_⟩
    · have h1 := l.rtc.pacer.tail.toNat_lt
      have h32 : pktRingSize = 32 := rfl
      rw [hhead, htail]
      intro hcon
      unfold paceDepth at hpos hfree
      rw [hcon] at hpos hfree
      have hone : (1 : UInt16).toNat = 1 := rfl
      rw [UInt16.toNat_sub, UInt16.toNat_add] at hfree
      omega
    · rw [hhead, hstamp]
      exact h.young
    · rw [hhead, hslot]
      exact h.size
    · rw [hhead, hslot, hstamp]
      exact h.due

/-- **A pump at the reported deadline** hands over a fragment if the queue has room. -/
theorem PaceArmed.pump {t0 : UInt32} {rate : Nat} (hkept : PaceKept l)
    (h : PaceArmed t0 rate l.rtc) (hrate : rate ≤ pacerRateBps l.rtc)
    (hspace : rtcOutputHasSpace l.rtc = true) (now : UInt32)
    (hnow : l.rtc.nowMs = now + nanoRtcPacerNextDeadlineMs l.rtc now) :
    l.released.length < (paceLogPump l).released.length := by
  obtain ⟨w, hcap, hnext, hshort, hdue⟩ := h.due
  have h40 : pacingMaxQueueMs.toNat = 40 := rfl
  have h66 : paceRefillMs = 66 := rfl
  have hmedia : mediaBufSize = 1232 := rfl
  have hburst : pacingMaxBurstBytes.toNat = 3000 := rfl
  have hsize := h.size
  have hyoung := h.young
  obtain ⟨hlow, -⟩ := pacerRateBps_bounds l.rtc
  generalize henq : l.rtc.pacer.enqueueMs.getD (pktSlot l.rtc.pacer.head) 0 = enq at hyoung hshort hdue
  -- the clock is not before the deadline
  have hlate : (l.rtc.nowMs - l.rtc.pacer.nextReleaseMs).toNat ≤ 0x7FFFFFFF := by
    unfold nanoRtcPacerNextDeadlineMs nanoTimeUntil at hnow
    rw [if_neg h.waits] at hnow
    by_cases hpast : nanoTimeIsDue now l.rtc.pacer.nextReleaseMs = true
    · rw [if_pos hpast, UInt32.add_zero] at hnow
      have hle := UInt32.le_iff_toNat_le.mp (of_decide_eq_true hpast)
      rw [hnow]
      exact hle
    · rw [if_neg hpast, UInt32.add_comm, UInt32.sub_add_cancel] at hnow
      rw [hnow, UInt32.sub_self]
      decide
  -- so the credit is at least that of the wait
  have helapsed : w ≤ (l.rtc.nowMs - t0).toNat := by
    have h1 := l.rtc.nowMs.toNat_lt
    have h2 := t0.toNat_lt
    rw [hnext] at hlate
    by_cases hw : w = 0
    · omega
    · rw [if_neg hw] at hlate
      have hone : (1 : UInt32).toNat = 1 := rfl
      have hzero : t0 + UInt32.ofNat w = 0 ↔ (t0 + UInt32.ofNat w).toNat = 0 := by
        rw [← UInt32.toNat_inj]
        rfl
      unfold nanoTimeDeadline at hlate
      dsimp only at hlate
      split at hlate <;> rename_i hwrap <;> rw [hzero, UInt32.toNat_add, UInt32.toNat_ofNat'] at hwrap
      · rw [UInt32.toNat_sub, hone] at hlate
        rw [UInt32.toNat_sub]
        omega
      · rw [UInt32.toNat_sub, UInt32.toNat_add, UInt32.toNat_ofNat'] at hlate
        rw [UInt32.toNat_sub]
        omega
  obtain ⟨r, r', k, hr, hreleased, hstopped, hpump⟩ := paceLogPump_spec hkept h.waits
  obtain ⟨b, hrefill, hb⟩ := pacerRefill_spec hkept.budget
  have hpaceElapsed : paceElapsed l.rtc = (l.rtc.nowMs - t0).toNat := by
    unfold paceElapsed nanoTimeElapsed
    rw [if_pos h.inited, h.refilled]
  rw [hpaceElapsed] at hb
  generalize he : (l.rtc.nowMs - t0).toNat = e at helapsed hb
  have hready : (paceSlot l.rtc l.rtc.pacer.head).len ≤ b.toNat ∨
      40 ≤ (l.rtc.nowMs - enq).toNat := by
    by_cases hlong : paceRefillMs ≤ e
    · -- long enough for any packet
      have hgain : 150000 * 66 ≤ pacerRateBps l.rtc * min e 1000 :=
        Nat.mul_le_mul hlow (by omega)
      left
      omega
    · rcases hdue with hcredit | hold
      · have hgain : rate * w ≤ pacerRateBps l.rtc * min e 1000 :=
          Nat.mul_le_mul hrate (by omega)
        left
        omega
      · have h1 := l.rtc.nowMs.toNat_lt
        have h2 := t0.toNat_lt
        have h3 := enq.toNat_lt
        right
        rw [UInt32.toNat_sub] at he hyoung hold ⊢
        omega
  have hk : k ≠ 0 := by
    rintro rfl
    have hsame := hreleased.idle rfl
    have hhead : r'.pacer.head = l.rtc.pacer.head ∧ r'.pacer.tail = l.rtc.pacer.tail ∧
        r'.pacer.budgetBytes = b ∧ r'.pacer.enqueueMs = l.rtc.pacer.enqueueMs := by
      rw [hsame, hr]
      show (pacerRefill l.rtc).head = _ ∧ (pacerRefill l.rtc).tail = _ ∧
        (pacerRefill l.rtc).budgetBytes = b ∧ (pacerRefill l.rtc).enqueueMs = _
      rw [hrefill]
      exact ⟨rfl, rfl, rfl, rfl⟩
    obtain ⟨hhead, htail, hbudget, hstamps⟩ := hhead
    have hslot : paceSlot r' l.rtc.pacer.head = paceSlot l.rtc l.rtc.pacer.head := by
      rw [hsame, hr]
      rfl
    rcases hstopped with hempty | ⟨hpoor, hage⟩ | hfull
    · exact h.waits (hhead ▸ htail ▸ hempty)
    · have hnow' : r'.nowMs = l.rtc.nowMs := by rw [hsame, hr]
      rw [hhead, hslot, hbudget] at hpoor
      have hage : ¬ nanoTimeElapsed l.rtc.nowMs enq ≥ pacingMaxQueueMs := by
        have hage := of_decide_eq_false hage
        rwa [hnow', hhead, hstamps, henq] at hage
      have hage := UInt32.lt_iff_toNat_lt.mp (UInt32.not_le.mp hage)
      have hage : (l.rtc.nowMs - enq).toNat < 40 := hage
      omega
    · have hroom : rtcOutputHasSpace r' = rtcOutputHasSpace l.rtc := by
        rw [hsame, hr]
        rfl
      rw [hroom, hspace] at hfull
      exact nomatch hfull
  rw [hpump]
  dsimp only
  rw [List.length_append, List.length_map, List.length_range]
  omega

/-! ### The whole pacer -/

/-- The integers of a pump fit their types: the scaled estimate, the refilled budget, the lengths,
and the wait for any deficit. -/
structure PaceFits (rtc : NanoRtc) : Prop where
  rate : max rtc.bweEstimate.toNat pacingMinRateBps * pacingFactorPct < 2 ^ 64
  refill : rtc.pacer.budgetBytes.toNat + pacerRateBps rtc * min (paceElapsed rtc) 1000 < 2 ^ 64
  len : ∀ i < paceDepth rtc, (paceSlot rtc (rtc.pacer.head + UInt16.ofNat i)).len < 2 ^ 16
  wait : ∀ i < paceDepth rtc, ∀ deficit ≤ (paceSlot rtc (rtc.pacer.head + UInt16.ofNat i)).len,
    deficit * 8000 + pacerRateBps rtc < 2 ^ 64 ∧
      (deficit * 8000 + pacerRateBps rtc - 1) / pacerRateBps rtc < 2 ^ 32

theorem PaceKept.fits (h : PaceKept l) : PaceFits l.rtc := by
  obtain ⟨hlow, hhigh⟩ := pacerRateBps_bounds l.rtc
  have hmedia : mediaBufSize = 1232 := rfl
  have hburst : pacingMaxBurstBytes.toNat = 3000 := rfl
  have hbudget := h.budget
  refine ⟨?_, ?_, fun i hi => ?_, fun i hi deficit hdeficit => ⟨?_, ?_⟩⟩
  · have hest := l.rtc.bweEstimate.toNat_lt
    unfold pacingMinRateBps pacingFactorPct
    omega
  · have hmul : pacerRateBps l.rtc * min (paceElapsed l.rtc) 1000 ≤ 2 ^ 32 * 1000 :=
      Nat.mul_le_mul (Nat.le_of_lt hhigh) (Nat.min_le_right _ _)
    omega
  · have hsize := (h.whole i hi).2.2
    omega
  · have hsize := (h.whole i hi).2.2
    omega
  · exact (paceWait_spec (Nat.le_trans hdeficit (h.whole i hi).2.2) hlow).1

/-- The invariant along a run that keeps to the room of the ring. -/
theorem paceKept_run {rtc : NanoRtc} (hstart : PaceStart rtc) {is : List PaceInput}
    (hroom : AllSteps paceLogStep (paceLogInit rtc) PaceRoom is) :
    PaceKept (run paceLogStep (paceLogInit rtc) is) :=
  run_allSteps (fun _ _ hi h => h.step hi) hroom (paceKept_init hstart)

/-- A deadline stays armed along calls that are no pump. -/
theorem paceArmed_run {t0 : UInt32} {rate : Nat} {is : List PaceInput}
    (hroom : AllSteps paceLogStep l PaceRoom is) (hother : PaceInput.pump ∉ is) (hkept : PaceKept l)
    (h : PaceArmed t0 rate l.rtc) : PaceArmed t0 rate (run paceLogStep l is).rtc := by
  induction is generalizing l with
  | nil => exact h
  | cons i is ih =>
    obtain ⟨hfirst, hrest⟩ := hroom
    obtain ⟨hne, hothers⟩ := not_or.mp fun hcon => hother (List.mem_cons.mpr hcon)
    exact ih hrest hothers (hkept.step hfirst) (h.step hkept hfirst (Ne.symm hne))

end

/-- The time the fragment in front has waited at the last clock. -/
def paceAge (rtc : NanoRtc) : UInt32 :=
  nanoTimeElapsed rtc.nowMs (rtc.pacer.enqueueMs.getD (pktSlot rtc.pacer.head) 0)

/-- A pump at the deadline that is reported at `now`. -/
def paceAtDeadline (l : PaceLog) (now : UInt32) : PaceLog :=
  run paceLogStep l [.clock (now + nanoRtcPacerNextDeadlineMs l.rtc now), .pump]

theorem PaceArmed.atDeadline {l : PaceLog} {t0 : UInt32} {rate : Nat}
    (h : PaceArmed t0 rate l.rtc) (hkept : PaceKept l) (hrate : rate ≤ pacerRateBps l.rtc)
    (hspace : rtcOutputHasSpace l.rtc = true) (now : UInt32) :
    l.released.length < (paceAtDeadline l now).released.length := by
  -- setting the clock changes nothing else
  let i := PaceInput.clock (now + nanoRtcPacerNextDeadlineMs l.rtc now)
  have hset : PaceKept (paceLogStep l i) := hkept.step trivial
  have harmed : PaceArmed t0 rate (paceLogStep l i).rtc := h.step hkept trivial nofun
  have hmore := harmed.pump hset hrate hspace now rfl
  exact hmore

/-- **Conformance of the pacer**, over every run that keeps to the room of the ring: what was
enqueued is what was handed over and what waits, in order; the bytes of successive pumps keep to a
burst, the credit of the time between them and what was too old; the integers of a pump fit; and
after a pump that leaves fragments, until the next one and unless the rate falls, a pump at the
reported deadline hands over a fragment if the output queue has room. -/
theorem pacer_conformance {rtc : NanoRtc} (hstart : PaceStart rtc) {is : List PaceInput}
    (hroom : AllSteps paceLogStep (paceLogInit rtc) PaceRoom is) :
    let l := run paceLogStep (paceLogInit rtc) is
    l.released ++ paceWaiting l.rtc = l.enqueued ∧
    l.pumps.IsChain (fun a b => b.elapsed = (b.clock - a.clock).toNat) ∧
    (∀ before first rest after, l.pumps = before ++ first :: rest ++ after →
      ((first :: rest).map PaceRecord.bytes).sum ≤ pacingMaxBurstBytes.toNat +
        (rest.map fun r => r.rate * r.elapsed / 8000).sum +
        ((first :: rest).map PaceRecord.aged).sum) ∧
    PaceFits l.rtc ∧
    ∀ before after, is = before ++ .pump :: after → .pump ∉ after →
      let left := run paceLogStep (paceLogInit rtc) (before ++ [.pump])
      left.rtc.pacer.head ≠ left.rtc.pacer.tail →
      (paceAge left.rtc).toNat + paceRefillMs < 2 ^ 32 →
      pacerRateBps left.rtc ≤ pacerRateBps l.rtc → rtcOutputHasSpace l.rtc = true →
      ∀ now, l.released.length < (paceAtDeadline l now).released.length := by
  intro l
  have hl : l = run paceLogStep (paceLogInit rtc) is := rfl
  have hkept : PaceKept l := paceKept_run hstart hroom
  clear_value l
  refine ⟨hkept.order, hkept.chain.imp fun _ _ h => h.time, fun before first rest after hsplit => ?_,
    hkept.fits, fun before after hsplit hnone => ?_⟩
  · have hchain := hkept.chain
    rw [hsplit] at hchain
    refine paceCredit hchain.left_of_append.right_of_append (hkept.cap first ?_)
    rw [hsplit]
    exact List.mem_append_left _ (List.mem_append_right _ List.mem_cons_self)
  · intro left hleft hyoung hrate hspace now
    -- the last pump armed the deadline
    rw [hsplit, allSteps_append] at hroom
    obtain ⟨hbefore, -, hafter⟩ := hroom
    have hp := paceKept_run hstart hbefore
    have hpump : left = paceLogPump (run paceLogStep (paceLogInit rtc) before) := run_snoc ..
    have hl : l = run paceLogStep left after := by
      rw [hl, hsplit, run_append, hpump]
      rfl
    rw [hpump] at hleft hyoung hrate hl
    obtain ⟨hclock, hsame⟩ := hp.pump_clock
    unfold paceAge at hyoung
    rw [hclock] at hyoung
    rw [hsame] at hrate
    have harmed : PaceArmed _ _ l.rtc :=
      hl ▸ paceArmed_run hafter hnone hp.pump (hp.armed hleft hyoung)
    exact harmed.atDeadline hkept hrate hspace now

/-- A fragment of 1000 bytes. -/
def demoFragment (n : Nat) : PaceInput := .enqueue (UInt16.ofNat n) (List.replicate 1000 (UInt8.ofNat n))

/-- Four fragments, of which a pump hands over a burst. -/
def demoPaced : List PaceInput :=
  [.rate 300000, demoFragment 1, demoFragment 2, demoFragment 3, demoFragment 4, .pump]

theorem pacer_conformance_demo :
    let l := run paceLogStep (paceLogInit (nanortcInit true 4)) demoPaced
    l.released.length < (paceAtDeadline l 5).released.length ∧
      nanoRtcPacerNextDeadlineMs l.rtc 5 = 13 := by
  have hstart : PaceStart (nanortcInit true 4) := ⟨rfl, rfl, rfl, rfl⟩
  obtain ⟨-, -, -, -, hdeadline⟩ := @pacer_conformance _ hstart demoPaced (by decide +kernel)
  exact ⟨hdeadline (demoPaced.take 5) [] rfl (by decide) (by decide +kernel) (by decide +kernel)
    (by decide +kernel) (by decide +kernel) 5, by decide +kernel⟩

/-- A pump at the reported deadline hands over nothing, with fragments and room. -/
def PaceIdle (is : List PaceInput) (now : UInt32) : Prop :=
  let l := run paceLogStep (paceLogInit (nanortcInit true 4)) is
  AllSteps paceLogStep (paceLogInit (nanortcInit true 4)) PaceRoom is ∧
    l.rtc.pacer.head ≠ l.rtc.pacer.tail ∧ rtcOutputHasSpace l.rtc = true ∧
    (paceAtDeadline l now).released = l.released

instance (is : List PaceInput) (now : UInt32) : Decidable (PaceIdle is now) :=
  inferInstanceAs (Decidable (_ ∧ _))

/-- **A deadline can be early**: of a fragment enqueued after a pump that left none, after a fall of
the rate, and where the age of a fragment wraps. -/
theorem pacer_deadline_early :
    PaceIdle [.rate 300000, demoFragment 1, demoFragment 2, demoFragment 3, .pump, demoFragment 4] 0 ∧
    PaceIdle (demoPaced ++ [.rate 0]) 5 ∧
    PaceIdle [.rate 300000, .queue 0 29, demoFragment 1, demoFragment 2, demoFragment 3,
      demoFragment 4, .clock 4294967291, .pump, .queue 32 32] 0 := by
  decide +kernel

end Nanortc.Spec
