import Nanortc.Native.FecSend
import Nanortc.Spec.PacerConformance

/-!
# The output queue as a first-in first-out queue

An entry of the output queue refers to a buffer of the connection and is read when it is polled. Its
content is the entry with the bytes of its buffer. The functions that queue outputs write only
buffers that no entry refers to, so the contents in the queue stay as they were queued, in order.
Fragments that wait for the pacer are a second queue, which empties into the first.

## Key results

- `OutKept`: what holds between the queue, its buffers and the packet ring
- `OutKept.push`, `OutKept.fill`, `OutKept.hold`: an entry put behind the others, a free buffer
  written, and a buffer queued until its entry is taken
- `OutKept.pop`: the entry at the head taken off
-/

namespace Nanortc.Spec

open Nanortc.ForStd Nanortc.Native

/-! ### Contents -/

/-- What an entry stands for: its bytes, and the peer it is wrapped for if it is relayed. -/
structure QueuedOut where
  entry : NanortcOutput
  bytes : List UInt8
  peer : Option NanortcAddr
deriving DecidableEq, Inhabited

/-- The bytes an entry refers to. -/
def entryBytes (rtc : NanoRtc) : NanortcOutput → List UInt8
  | .transmit t => (rtc.bytes t.data).take t.len
  | .event _ _ => []

/-- The content of an entry with its wrap data. -/
def queuedOut (rtc : NanoRtc) (out : NanortcOutput) (wrap : WrapMeta) : QueuedOut :=
  ⟨out, entryBytes rtc out, if wrap.viaTurn then some wrap.peerDest else none⟩

/-- The entry at a cursor. -/
def outEntry (rtc : NanoRtc) (cursor : UInt16) : NanortcOutput :=
  rtc.outQueue.getD (outSlot cursor) default

/-- The content at a cursor. -/
def queuedAt (rtc : NanoRtc) (cursor : UInt16) : QueuedOut :=
  queuedOut rtc (outEntry rtc cursor) (rtc.outWrapMeta.getD (outSlot cursor) default)

/-- The number of entries. -/
def outCount (rtc : NanoRtc) : Nat := (rtc.outTail - rtc.outHead).toNat

/-- The contents of the queue, oldest first. -/
def rtcQueued (rtc : NanoRtc) : List QueuedOut :=
  (List.range (outCount rtc)).map fun k => queuedAt rtc (rtc.outHead + UInt16.ofNat k)

/-- What a content is polled as; `none` is a datagram whose wrap fails. -/
def pollOut (turn : NanoTurn) (q : QueuedOut) : Option PolledOutput :=
  match q.entry, q.peer with
  | .event type key, _ => some (.event type key)
  | .transmit t, none => some (.transmit q.bytes t.dest t.src)
  | .transmit _, some peer =>
    match rtcWrapTurn turn peer q.bytes with
    | .error _ => none
    | .ok wrapped => some (.transmit wrapped (rtcWrapDest turn) ⟨0, List.replicate addrSize 0, 0⟩)

/-- A poll reads the content at the head. -/
theorem rtcPollHead_eq (rtc : NanoRtc) :
    rtcPollHead rtc = pollOut rtc.turn (queuedAt rtc rtc.outHead) := by
  unfold rtcPollHead queuedAt queuedOut outEntry pollOut
  dsimp only
  cases rtc.outQueue.getD (outSlot rtc.outHead) default with
  | event type key => rfl
  | transmit t =>
    cases (rtc.outWrapMeta.getD (outSlot rtc.outHead) default).viaTurn <;> rfl

/-- The packet in the ring at a cursor. -/
def pktWire (rtc : NanoRtc) (cursor : UInt16) : List UInt8 :=
  let s := rtc.pktRing.getD (pktSlot cursor) default
  s.buf.take s.len

/-- The packets that wait for the pacer, oldest first. -/
def rtcPaced (rtc : NanoRtc) : List (List UInt8) :=
  (List.range (paceDepth rtc)).map fun k => pktWire rtc (rtc.pacer.head + UInt16.ofNat k)

/-- The packets that came from the ring. -/
def ringBytes (queued : List QueuedOut) : List (List UInt8) :=
  queued.filterMap fun q =>
    match q.entry with
    | .transmit ⟨.pktRing _, _, _, _⟩ => some q.bytes
    | _ => none

theorem ringBytes_append (a b : List QueuedOut) : ringBytes (a ++ b) = ringBytes a ++ ringBytes b :=
  List.filterMap_append

/-! ### Buffers -/

/-- The buffer with its lifetime bit; the packet ring has none. -/
def backingSlot (rtc : NanoRtc) : Backing → BackingSlot
  | .txSlot i => rtc.txSlots.getD i default
  | .pktRing _ => default
  | .nackRetx i => rtc.nackRetx.getD i default
  | .fecTx i => rtc.fecTx.getD i default

/-- The buffer replaced. -/
def setBacking (rtc : NanoRtc) : Backing → BackingSlot → NanoRtc
  | .txSlot i, s => { rtc with txSlots := rtc.txSlots.set i s }
  | .pktRing _, _ => rtc
  | .nackRetx i, s => { rtc with nackRetx := rtc.nackRetx.set i s }
  | .fecTx i, s => { rtc with fecTx := rtc.fecTx.set i s }

/-- The buffer is there and has a lifetime bit. -/
def HasBacking (rtc : NanoRtc) : Backing → Prop
  | .txSlot i => i < rtc.txSlots.length
  | .pktRing _ => False
  | .nackRetx i => i < rtc.nackRetx.length
  | .fecTx i => i < rtc.fecTx.length

theorem backingSlot_setBacking {rtc : NanoRtc} {b : Backing} (hb : HasBacking rtc b)
    (s : BackingSlot) (b' : Backing) :
    backingSlot (setBacking rtc b s) b' = if b' = b then s else backingSlot rtc b' := by
  cases b with
  | pktRing i => exact hb.elim
  | txSlot i =>
    cases b' with
    | txSlot j =>
      show (rtc.txSlots.set i s).getD j default = _
      rw [getD_set hb]
      exact if_congr (by rw [Backing.txSlot.injEq]) rfl rfl
    | _ => rw [if_neg nofun]; rfl
  | nackRetx i =>
    cases b' with
    | nackRetx j =>
      show (rtc.nackRetx.set i s).getD j default = _
      rw [getD_set hb]
      exact if_congr (by rw [Backing.nackRetx.injEq]) rfl rfl
    | _ => rw [if_neg nofun]; rfl
  | fecTx i =>
    cases b' with
    | fecTx j =>
      show (rtc.fecTx.set i s).getD j default = _
      rw [getD_set hb]
      exact if_congr (by rw [Backing.fecTx.injEq]) rfl rfl
    | _ => rw [if_neg nofun]; rfl

/-- Only the bytes of the buffer change. -/
theorem bytes_setBacking {rtc : NanoRtc} {b : Backing} (hb : HasBacking rtc b) (s : BackingSlot)
    (b' : Backing) :
    (setBacking rtc b s).bytes b' = if b' = b then s.buf else rtc.bytes b' := by
  have hslot := congrArg BackingSlot.buf (backingSlot_setBacking hb s b')
  rw [apply_ite BackingSlot.buf] at hslot
  cases b' with
  | pktRing i =>
    cases b with
    | pktRing j => exact hb.elim
    | _ => rw [if_neg nofun]; rfl
  | txSlot i => exact hslot
  | nackRetx i => exact hslot
  | fecTx i => exact hslot

/-! ### Cursors -/

theorem add_ofNat_toNat_sub (a b : UInt16) : a + UInt16.ofNat (b - a).toNat = b := by
  rw [UInt16.ofNat_toNat, UInt16.add_comm, UInt16.sub_add_cancel]

theorem outTail_eq (rtc : NanoRtc) : rtc.outTail = rtc.outHead + UInt16.ofNat (outCount rtc) :=
  (add_ofNat_toNat_sub _ _).symm

theorem add_sub_ofNat_add (c : UInt16) (e j : Nat) :
    c + UInt16.ofNat j - UInt16.ofNat (e + j) = c - UInt16.ofNat e := by
  rw [UInt16.ofNat_add]
  grind

/-- The cell written next is none of the last ones. -/
theorem pktSlot_sub_ne {c : UInt16} {e : Nat} (he : 0 < e) (hlt : e < pktRingSize) :
    pktSlot (c - UInt16.ofNat e) ≠ pktSlot c := by
  have hne := @pktSlot_ne (c - UInt16.ofNat e) 0 e he hlt
  rwa [add_ofNat_zero, UInt16.sub_add_cancel] at hne

theorem ofNat_inj_small {c : UInt16} {a b : Nat} (ha : a < 65536) (hb : b < 65536)
    (h : c + UInt16.ofNat a = c + UInt16.ofNat b) : a = b := by
  have hsame := congrArg UInt16.toNat (UInt16.add_right_inj c |>.mp h)
  rwa [UInt16.toNat_ofNat', UInt16.toNat_ofNat', Nat.mod_eq_of_lt ha, Nat.mod_eq_of_lt hb] at hsame

/-! ### The invariant -/

/-- The buffer of the `k`-th entry is kept: one with a lifetime bit until the head cursor is behind
the entry, a cell of the packet ring because it is at most `w` cells behind the write cursor. -/
def EntryKept (rtc : NanoRtc) (w k : Nat) : NanortcOutput → Prop
  | .event _ _ => True
  | .transmit t =>
    match t.data with
    | .pktRing i => ∃ e, paceDepth rtc < e ∧ e ≤ w ∧ e + k ≤ paceDepth rtc + outCount rtc ∧
        i = pktSlot (rtc.pktRingTail - UInt16.ofNat e)
    | b => (backingSlot rtc b).inUse = true ∧
        (backingSlot rtc b).freeAt = rtc.outHead + UInt16.ofNat (k + 1)

/-- What holds between the queue, its buffers and the packet ring, of which at most `w` cells behind
the write cursor are needed. -/
structure OutKept (w : Nat) (rtc : NanoRtc) : Prop where
  queue : rtc.outQueue.length = outQueueSize
  wraps : rtc.outWrapMeta.length = outQueueSize
  slots : rtc.txSlots.length = txSlotCount
  copies : rtc.nackRetx.length = nackRetxRing
  ring : rtc.pktRing.length = pktRingSize
  count : outCount rtc ≤ outQueueSize
  paced : rtc.pacer.tail = rtc.pktRingTail
  depth : paceDepth rtc ≤ w
  room : w ≤ pktRingSize
  waits : ∀ k < paceDepth rtc, (paceSlot rtc (rtc.pacer.head + UInt16.ofNat k)).len ≠ 0
  refs : ∀ k < outCount rtc, EntryKept rtc w k (outEntry rtc (rtc.outHead + UInt16.ofNat k))

variable {w : Nat} {rtc : NanoRtc}

/-- Without packets in the ring the bound does not matter. -/
theorem EntryKept.mono {w' k : Nat} {out : NanortcOutput} (hw : w ≤ w')
    (h : EntryKept rtc w k out) : EntryKept rtc w' k out := by
  cases out with
  | event type key => trivial
  | transmit t =>
    obtain ⟨b, len, dest, src⟩ := t
    cases b with
    | pktRing i =>
      obtain ⟨e, hdepth, he, hcount, hi⟩ := h
      exact ⟨e, hdepth, he.trans hw, hcount, hi⟩
    | _ => exact h

/-- A step that moves the write cursor by `j` cells, as far as packets and entries become more. -/
theorem EntryKept.move {rtc rtc' : NanoRtc} {w k : Nat} {out : NanortcOutput} (j : Nat)
    (h : EntryKept rtc w k out) (htail : rtc'.pktRingTail = rtc.pktRingTail + UInt16.ofNat j)
    (hdepth : paceDepth rtc' ≤ paceDepth rtc + j)
    (hsum : paceDepth rtc + outCount rtc + j ≤ paceDepth rtc' + outCount rtc')
    (hhead : rtc'.outHead = rtc.outHead) (hslots : backingSlot rtc' = backingSlot rtc) :
    EntryKept rtc' (w + j) k out := by
  cases out with
  | event type key => trivial
  | transmit t =>
    obtain ⟨b, len, dest, src⟩ := t
    cases b with
    | pktRing i =>
      obtain ⟨e, hlt, he, hcount, rfl⟩ := h
      refine ⟨e + j, by omega, by omega, by omega, ?_⟩
      rw [htail, add_sub_ofNat_add]
    | _ =>
      unfold EntryKept at h ⊢
      dsimp only at h ⊢
      rwa [hslots, hhead]

theorem OutKept.mono {w' : Nat} (hw : w ≤ w')
    (hroom : w' ≤ pktRingSize) (h : OutKept w rtc) : OutKept w' rtc :=
  { h with
    depth := h.depth.trans hw
    room := hroom
    refs := fun k hk => (h.refs k hk).mono hw }

/-- No more cells are needed than there are packets and entries. -/
theorem OutKept.tight (h : OutKept w rtc)
    (hroom : paceDepth rtc + outCount rtc ≤ pktRingSize) :
    OutKept (paceDepth rtc + outCount rtc) rtc :=
  { h with
    depth := Nat.le_add_right _ _
    room := hroom
    refs := fun k hk => by
      have href := h.refs k hk
      revert href
      cases outEntry rtc (rtc.outHead + UInt16.ofNat k) with
      | event type key => exact id
      | transmit t =>
        obtain ⟨b, len, dest, src⟩ := t
        cases b with
        | pktRing i => exact fun ⟨e, hdepth, _, hcount, hi⟩ => ⟨e, hdepth, by omega, hcount, hi⟩
        | _ => exact id }

/-- No entry refers to a free buffer. -/
theorem OutKept.free_unused (h : OutKept w rtc)
    {b : Backing} (hb : HasBacking rtc b) (hfree : (backingSlot rtc b).inUse = false) {k : Nat}
    (hk : k < outCount rtc) {t : Transmit}
    (ht : outEntry rtc (rtc.outHead + UInt16.ofNat k) = .transmit t) : t.data ≠ b := by
  have href := h.refs k hk
  rw [ht] at href
  rintro rfl
  obtain ⟨b, len, dest, src⟩ := t
  cases b with
  | pktRing i => exact hb
  | txSlot i => exact nomatch hfree.symm.trans href.1
  | nackRetx i => exact nomatch hfree.symm.trans href.1
  | fecTx i => exact nomatch hfree.symm.trans href.1

/-- No entry refers to the cell of the ring written next. -/
theorem OutKept.next_unused (h : OutKept w rtc)
    (hw : w < pktRingSize) {k : Nat} (hk : k < outCount rtc) {t : Transmit}
    (ht : outEntry rtc (rtc.outHead + UInt16.ofNat k) = .transmit t) :
    t.data ≠ .pktRing (pktSlot rtc.pktRingTail) := by
  have href := h.refs k hk
  rw [ht] at href
  obtain ⟨b, len, dest, src⟩ := t
  cases b with
  | pktRing i =>
    obtain ⟨e, hdepth, he, -, rfl⟩ := href
    intro heq
    exact pktSlot_sub_ne (Nat.zero_lt_of_lt hdepth) (Nat.lt_of_le_of_lt he hw)
      (Backing.pktRing.inj heq)
  | txSlot i => exact nofun
  | nackRetx i => exact nofun
  | fecTx i => exact nofun

/-! ### Moves -/

/-- The packets put into the ring from one state to another, as the ring has them then. -/
def newPackets (rtc rtc' : NanoRtc) : List (List UInt8) :=
  (List.range (rtc'.pktRingTail - rtc.pktRingTail).toNat).map fun k =>
    pktWire rtc' (rtc.pktRingTail + UInt16.ofNat k)

theorem newPackets_of_tail {rtc rtc' : NanoRtc} (h : rtc'.pktRingTail = rtc.pktRingTail) :
    newPackets rtc rtc' = [] := by
  unfold newPackets
  rw [h, UInt16.sub_self]
  rfl

/-- A step that packs `packed` and keeps the contents of both queues: new entries come behind those
there are, and those from the ring are the packets that waited longest. -/
structure OutMoves (w : Nat) (packed : List (List UInt8)) (rtc rtc' : NanoRtc) :
    Prop where
  kept : OutKept (w + packed.length) rtc'
  tail : rtc'.pktRingTail = rtc.pktRingTail + UInt16.ofNat packed.length
  packets : newPackets rtc rtc' = packed
  moved : ∃ new, rtcQueued rtc' = rtcQueued rtc ++ new ∧
    rtcPaced rtc ++ packed = ringBytes new ++ rtcPaced rtc'

/-- A step that changes neither queue. -/
theorem OutMoves.still {rtc' : NanoRtc} (h : OutKept w rtc')
    (htail : rtc'.pktRingTail = rtc.pktRingTail) (hqueued : rtcQueued rtc' = rtcQueued rtc)
    (hpaced : rtcPaced rtc' = rtcPaced rtc) : OutMoves w [] rtc rtc' where
  kept := h
  tail := htail.trans (add_ofNat_zero _).symm
  packets := newPackets_of_tail htail
  moved := ⟨[], hqueued.trans (List.append_nil _).symm, (List.append_nil _).trans hpaced.symm⟩

theorem OutMoves.refl (h : OutKept w rtc) :
    OutMoves w [] rtc rtc := .still h rfl rfl rfl

/-- A step that packs nothing and one after it. -/
theorem OutMoves.trans {packed : List (List UInt8)}
    {rtc' rtc'' : NanoRtc} (h : OutMoves w [] rtc rtc')
    (h' : OutMoves w packed rtc' rtc'') : OutMoves w packed rtc rtc'' := by
  have htail : rtc'.pktRingTail = rtc.pktRingTail := h.tail.trans (add_ofNat_zero _)
  obtain ⟨new, hqueued, hpaced⟩ := h.moved
  obtain ⟨new', hqueued', hpaced'⟩ := h'.moved
  refine ⟨h'.kept, htail ▸ h'.tail, ?_, new ++ new', ?_, ?_⟩
  · have hpackets := h'.packets
    unfold newPackets at hpackets ⊢
    rwa [htail] at hpackets
  · rw [hqueued', hqueued, List.append_assoc]
  · rw [List.append_nil] at hpaced
    rw [hpaced, List.append_assoc, hpaced', ringBytes_append, List.append_assoc]

/-- The contents depend on the entries, the wrap data and the bytes referred to. -/
theorem rtcQueued_congr {rtc rtc' : NanoRtc} (hhead : rtc'.outHead = rtc.outHead)
    (htail : rtc'.outTail = rtc.outTail) (hqueue : rtc'.outQueue = rtc.outQueue)
    (hwraps : rtc'.outWrapMeta = rtc.outWrapMeta)
    (hbytes : ∀ k < outCount rtc, ∀ t, outEntry rtc (rtc.outHead + UInt16.ofNat k) = .transmit t →
      rtc'.bytes t.data = rtc.bytes t.data) : rtcQueued rtc' = rtcQueued rtc := by
  have hcount : outCount rtc' = outCount rtc := by
    unfold outCount
    rw [hhead, htail]
  unfold rtcQueued
  rw [hcount, hhead]
  refine List.map_congr_left fun k hk => ?_
  have hentry : outEntry rtc' (rtc.outHead + UInt16.ofNat k) =
      outEntry rtc (rtc.outHead + UInt16.ofNat k) := by
    unfold outEntry
    rw [hqueue]
  unfold queuedAt
  rw [hentry, hwraps]
  have hb := hbytes k (List.mem_range.mp hk)
  unfold queuedOut
  cases ht : outEntry rtc (rtc.outHead + UInt16.ofNat k) with
  | event type key => rfl
  | transmit t =>
    unfold entryBytes
    dsimp only
    rw [hb t ht]

/-- **A free buffer written**: no content changes. -/
theorem OutKept.fill (h : OutKept w rtc)
    {b : Backing} (hb : HasBacking rtc b) (hfree : (backingSlot rtc b).inUse = false)
    (s : BackingSlot) : OutMoves w [] rtc (setBacking rtc b s) := by
  have hbacking := backingSlot_setBacking hb s
  have hbytes := bytes_setBacking hb s
  have hqueued : rtcQueued (setBacking rtc b s) = rtcQueued rtc := by
    have hunused {k : Nat} (hk : k < outCount rtc) (t : Transmit)
        (ht : outEntry rtc (rtc.outHead + UInt16.ofNat k) = .transmit t) :
        (setBacking rtc b s).bytes t.data = rtc.bytes t.data := by
      rw [hbytes, if_neg (h.free_unused hb hfree hk ht)]
    cases b <;> exact rtcQueued_congr rfl rfl rfl rfl fun k hk => hunused hk
  have hrefs : ∀ k < outCount rtc,
      EntryKept (setBacking rtc b s) w k (outEntry rtc (rtc.outHead + UInt16.ofNat k)) := by
    intro k hk
    have href := h.refs k hk
    have hunused := fun t ht => h.free_unused hb hfree hk (t := t) ht
    revert href hunused
    cases outEntry rtc (rtc.outHead + UInt16.ofNat k) with
    | event type key => exact fun _ _ => trivial
    | transmit t =>
      intro href hunused
      have hne := hunused t rfl
      have hold := hbacking t.data
      rw [if_neg hne] at hold
      obtain ⟨d, len, dest, src⟩ := t
      cases d with
      | pktRing i => cases b <;> exact href
      | _ =>
        unfold EntryKept at href ⊢
        dsimp only at href hold ⊢
        rw [hold]
        cases b <;> exact href
  cases b with
  | pktRing i => exact hb.elim
  | txSlot i =>
    exact .still { h with slots := List.length_set.trans h.slots, refs := hrefs } rfl hqueued rfl
  | nackRetx i =>
    exact .still { h with copies := List.length_set.trans h.copies, refs := hrefs } rfl hqueued rfl
  | fecTx i => exact .still { h with refs := hrefs } rfl hqueued rfl

/-! ### Entries -/

/-- An entry put behind the others with its wrap data. -/
def pushed (rtc : NanoRtc) (out : NanortcOutput) (wrap : WrapMeta) : NanoRtc :=
  { rtc with
    outQueue := rtc.outQueue.set (outSlot rtc.outTail) out
    outWrapMeta := rtc.outWrapMeta.set (outSlot rtc.outTail) wrap
    outTail := rtc.outTail + 1 }

/-- An entry finds the queue full, or becomes the last one. -/
theorem rtcEnqueueOutput_cases (rtc : NanoRtc) (out : NanortcOutput) :
    (¬ outCount rtc < outQueueSize ∧ rtcEnqueueOutput rtc out = (rtc, .bufferTooSmall)) ∨
    (outCount rtc < outQueueSize ∧ ∃ wrap, rtcEnqueueOutput rtc out = (pushed rtc out wrap, .ok)) := by
  unfold rtcEnqueueOutput
  by_cases hfull : (rtc.outTail - rtc.outHead).toNat ≥ outQueueSize
  · rw [if_pos hfull]
    exact .inl ⟨Nat.not_lt.mpr hfull, rfl⟩
  · rw [if_neg hfull]
    exact .inr ⟨Nat.not_le.mp hfull, _, rfl⟩

/-- A datagram finds the queue full, or becomes the last entry. -/
theorem rtcEnqueueTransmitRef_cases (rtc : NanoRtc) (data : Backing) (len : Nat) (dest : NanortcAddr)
    (localSrc : Option NanortcAddr) (route : TxRoute) :
    (¬ outCount rtc < outQueueSize ∧
      rtcEnqueueTransmitRef rtc data len dest localSrc route = (rtc, .bufferTooSmall)) ∨
    (outCount rtc < outQueueSize ∧ ∃ src wrap,
      rtcEnqueueTransmitRef rtc data len dest localSrc route =
        (pushed rtc (.transmit ⟨data, len, dest, src⟩) wrap, .ok)) := by
  unfold rtcEnqueueTransmitRef
  dsimp only
  rcases rtcEnqueueOutput_cases rtc
    (.transmit ⟨data, len, dest, localSrc.getD (rtcDefaultSrc rtc)⟩) with
    ⟨hfull, hput⟩ | ⟨hroom, wrap, hput⟩
  · rw [hput]
    exact .inl ⟨hfull, rfl⟩
  · rw [hput]
    refine .inr ⟨hroom, localSrc.getD (rtcDefaultSrc rtc), ?_⟩
    dsimp only
    split
    · refine ⟨⟨true, dest⟩, ?_⟩
      unfold pushed
      rw [List.set_set]
    · exact ⟨wrap, rfl⟩

section

variable (h : OutKept w rtc)
  (hroom : outCount rtc < outQueueSize) (out : NanortcOutput) (wrap : WrapMeta)

include hroom

theorem outCount_pushed : outCount (pushed rtc out wrap) = outCount rtc + 1 := by
  have h32 : outQueueSize = 32 := rfl
  have h1 := rtc.outTail.toNat_lt
  have h2 := rtc.outHead.toNat_lt
  unfold outCount at hroom ⊢
  show (rtc.outTail + 1 - rtc.outHead).toNat = _
  rw [UInt16.toNat_sub] at hroom ⊢
  rw [UInt16.toNat_sub, UInt16.toNat_add]
  show _ = _
  have hone : (1 : UInt16).toNat = 1 := rfl
  omega

include h

omit hroom in
/-- The new entry stands at the old tail. -/
theorem outEntry_pushed_last :
    outEntry (pushed rtc out wrap) rtc.outTail = out ∧
      (pushed rtc out wrap).outWrapMeta.getD (outSlot rtc.outTail) default = wrap := by
  have hlt : outSlot rtc.outTail < outQueueSize := Nat.mod_lt _ (by decide)
  constructor
  · show (rtc.outQueue.set _ _).getD _ _ = _
    rw [getD_set (by rw [h.queue]; exact hlt), if_pos rfl]
  · show (rtc.outWrapMeta.set _ _).getD _ _ = _
    rw [getD_set (by rw [h.wraps]; exact hlt), if_pos rfl]

/-- The entries there were stand where they stood. -/
theorem outEntry_pushed {k : Nat} (hk : k < outCount rtc) :
    outEntry (pushed rtc out wrap) (rtc.outHead + UInt16.ofNat k) =
        outEntry rtc (rtc.outHead + UInt16.ofNat k) ∧
      (pushed rtc out wrap).outWrapMeta.getD (outSlot (rtc.outHead + UInt16.ofNat k)) default =
        rtc.outWrapMeta.getD (outSlot (rtc.outHead + UInt16.ofNat k)) default := by
  have hne := @outSlot_ne rtc.outHead k (outCount rtc) hk hroom
  rw [← outTail_eq] at hne
  have hlt : outSlot rtc.outTail < outQueueSize := Nat.mod_lt _ (by decide)
  constructor
  · show (rtc.outQueue.set _ _).getD _ _ = _
    rw [getD_set (by rw [h.queue]; exact hlt), if_neg hne]
    rfl
  · show (rtc.outWrapMeta.set _ _).getD _ _ = _
    rw [getD_set (by rw [h.wraps]; exact hlt), if_neg hne]

/-- The contents with the new one behind them. -/
theorem rtcQueued_pushed :
    rtcQueued (pushed rtc out wrap) = rtcQueued rtc ++ [queuedOut rtc out wrap] := by
  unfold rtcQueued
  rw [outCount_pushed hroom, List.range_succ, List.map_append, List.map_singleton]
  congr 1
  · refine List.map_congr_left fun k hk => ?_
    obtain ⟨hentry, hwrap⟩ := outEntry_pushed h hroom out wrap (List.mem_range.mp hk)
    unfold queuedAt
    show queuedOut (pushed rtc out wrap)
      (outEntry (pushed rtc out wrap) (rtc.outHead + UInt16.ofNat k))
      ((pushed rtc out wrap).outWrapMeta.getD (outSlot (rtc.outHead + UInt16.ofNat k)) default) = _
    rw [hentry, hwrap]
    unfold queuedOut
    cases outEntry rtc (rtc.outHead + UInt16.ofNat k) with
    | event type key => rfl
    | transmit t => cases ht : t.data <;> (unfold entryBytes; dsimp only; rw [ht]; rfl)
  · obtain ⟨hentry, hwrap⟩ := outEntry_pushed_last h out wrap
    unfold queuedAt
    show [queuedOut (pushed rtc out wrap)
      (outEntry (pushed rtc out wrap) (rtc.outHead + UInt16.ofNat (outCount rtc)))
      ((pushed rtc out wrap).outWrapMeta.getD
        (outSlot (rtc.outHead + UInt16.ofNat (outCount rtc))) default)] = _
    rw [← outTail_eq, hentry, hwrap]
    unfold queuedOut
    cases out with
    | event type key => rfl
    | transmit t => cases ht : t.data <;> (unfold entryBytes; dsimp only; rw [ht]; rfl)

/-- The entries keep their buffers if those there were do and the new one does. -/
theorem entryKept_pushed {rtc' : NanoRtc} {w' : Nat}
    (hqueue : rtc'.outQueue = (pushed rtc out wrap).outQueue) (hhead : rtc'.outHead = rtc.outHead)
    (htail : rtc'.outTail = rtc.outTail + 1)
    (hold : ∀ k < outCount rtc, ∀ o, EntryKept rtc w k o → EntryKept rtc' w' k o)
    (hlast : EntryKept rtc' w' (outCount rtc) out) :
    ∀ k < outCount rtc', EntryKept rtc' w' k (outEntry rtc' (rtc'.outHead + UInt16.ofNat k)) := by
  intro k hk
  have hcount : outCount rtc' = outCount rtc + 1 := by
    rw [← outCount_pushed hroom out wrap]
    unfold outCount
    rw [hhead, htail]
    rfl
  have hentry (c : UInt16) : outEntry rtc' c = outEntry (pushed rtc out wrap) c := by
    unfold outEntry
    rw [hqueue]
  rw [hcount] at hk
  rw [hhead, hentry]
  rcases Nat.lt_or_eq_of_le (Nat.le_of_lt_succ hk) with hk | rfl
  · rw [(outEntry_pushed h hroom out wrap hk).1]
    exact hold k hk _ (h.refs k hk)
  · rw [← outTail_eq, (outEntry_pushed_last h out wrap).1]
    exact hlast

/-- **An entry pushed** whose buffer is kept from now on and is no cell of the packet ring. -/
theorem OutKept.push (hkept : EntryKept (pushed rtc out wrap) w (outCount rtc) out)
    (hring : ringBytes [queuedOut rtc out wrap] = []) :
    OutMoves w [] rtc (pushed rtc out wrap) where
  kept :=
    { h with
      queue := List.length_set.trans h.queue
      wraps := List.length_set.trans h.wraps
      count := by
        rw [outCount_pushed hroom]
        exact hroom
      refs := by
        refine entryKept_pushed h hroom out wrap rfl rfl rfl (fun k _ o ho => ?_) hkept
        refine ho.move 0 (add_ofNat_zero _).symm (Nat.le_refl _) ?_ rfl rfl
        rw [outCount_pushed hroom]
        exact Nat.le_succ _ }
  tail := (add_ofNat_zero _).symm
  packets := newPackets_of_tail rfl
  moved := ⟨[queuedOut rtc out wrap], rtcQueued_pushed h hroom out wrap, by
    rw [List.append_nil, hring]
    rfl⟩

end

/-- **A free buffer queued**: it is held until the head cursor is behind its entry. -/
theorem OutKept.hold (h : OutKept w rtc)
    (hroom : outCount rtc < outQueueSize) {b : Backing} (hb : HasBacking rtc b)
    (hfree : (backingSlot rtc b).inUse = false) (len : Nat) (dest src : NanortcAddr)
    (wrap : WrapMeta) :
    OutMoves w [] rtc (setBacking (pushed rtc (.transmit ⟨b, len, dest, src⟩) wrap) b
      ((backingSlot rtc b).hold (rtc.outTail + 1))) := by
  have hfill := h.fill hb hfree ((backingSlot rtc b).hold (rtc.outTail + 1))
  have hheld := backingSlot_setBacking hb ((backingSlot rtc b).hold (rtc.outTail + 1)) b
  rw [if_pos rfl] at hheld
  have hfreeAt : rtc.outTail + 1 = rtc.outHead + UInt16.ofNat (outCount rtc + 1) := by
    conv => lhs; rw [outTail_eq rtc]
    rw [UInt16.ofNat_add, ← UInt16.add_assoc]
    rfl
  have hpush := hfill.kept.push
    (by cases b <;> exact hroom) (.transmit ⟨b, len, dest, src⟩) wrap
    (by
      cases b with
      | pktRing i => exact hb.elim
      | _ =>
        unfold EntryKept
        dsimp only
        refine ⟨congrArg BackingSlot.inUse hheld, (congrArg BackingSlot.freeAt hheld).trans hfreeAt⟩)
    (by cases b <;> first | exact hb.elim | rfl)
  cases b <;> exact hfill.trans hpush

/-! ### The packet ring -/

theorem newPackets_one {rtc rtc' : NanoRtc} (h : rtc'.pktRingTail = rtc.pktRingTail + 1) :
    newPackets rtc rtc' = [pktWire rtc' rtc.pktRingTail] := by
  have hone : (rtc.pktRingTail + 1 - rtc.pktRingTail).toNat = 1 := by
    rw [UInt16.add_comm, UInt16.add_sub_cancel]
    rfl
  unfold newPackets
  rw [h, hone]
  show [pktWire rtc' (rtc.pktRingTail + UInt16.ofNat 0)] = _
  rw [add_ofNat_zero]

/-- The next cell of the ring written, whatever the write cursor does then. -/
def ringWritten (rtc : NanoRtc) (s : PktSlot) : NanoRtc :=
  { rtc with pktRing := rtc.pktRing.set (pktSlot rtc.pktRingTail) s }

section

variable (h : OutKept w rtc) (hw : w < pktRingSize)
  (s : PktSlot)

include h

/-- The cell written. -/
theorem paceSlot_ringWritten (c : UInt16) :
    paceSlot (ringWritten rtc s) c =
      if pktSlot c = pktSlot rtc.pktRingTail then s else paceSlot rtc c := by
  have hlt : pktSlot rtc.pktRingTail < pktRingSize := Nat.mod_lt _ (by decide)
  show (rtc.pktRing.set _ _).getD _ _ = _
  rw [getD_set (by rw [h.ring]; exact hlt)]
  rfl

include hw

/-- The packets that wait are elsewhere. -/
theorem paceSlot_ringWritten_waits {k : Nat} (hk : k < paceDepth rtc) :
    paceSlot (ringWritten rtc s) (rtc.pacer.head + UInt16.ofNat k) =
      paceSlot rtc (rtc.pacer.head + UInt16.ofNat k) := by
  have hdepth := Nat.lt_of_le_of_lt h.depth hw
  rw [paceSlot_ringWritten h, if_neg]
  rw [← h.paced, paceTail_eq]
  exact pktSlot_ne hk hdepth

theorem rtcPaced_ringWritten : rtcPaced (ringWritten rtc s) = rtcPaced rtc := by
  refine List.map_congr_left fun k hk => ?_
  exact congrArg (fun s : PktSlot => s.buf.take s.len)
    (paceSlot_ringWritten_waits h hw s (List.mem_range.mp hk))

theorem rtcQueued_ringWritten : rtcQueued (ringWritten rtc s) = rtcQueued rtc := by
  refine rtcQueued_congr rfl rfl rfl rfl fun k hk t ht => ?_
  have hne := h.next_unused hw hk ht
  have hlt : pktSlot rtc.pktRingTail < pktRingSize := Nat.mod_lt _ (by decide)
  obtain ⟨b, len, dest, src⟩ := t
  cases b with
  | pktRing i =>
    show ((rtc.pktRing.set _ _).getD i default).buf = _
    rw [getD_set (by rw [h.ring]; exact hlt), if_neg fun heq => hne (congrArg Backing.pktRing heq)]
    rfl
  | _ => rfl

/-- **A cell of the ring written** that is not committed: no content changes. -/
theorem OutKept.scratch : OutMoves w [] rtc (ringWritten rtc s) := by
  refine .still ?_ rfl (rtcQueued_ringWritten h hw s) (rtcPaced_ringWritten h hw s)
  exact
    { h with
      ring := List.length_set.trans h.ring
      waits := fun k hk => by
        rw [show (ringWritten rtc s).pacer = rtc.pacer from rfl, paceSlot_ringWritten_waits h hw s hk]
        exact h.waits k hk }

/-- What committing the cell leaves as it was. -/
theorem rtcQueued_committed :
    rtcQueued { ringWritten rtc s with pktRingTail := rtc.pktRingTail + 1 } = rtcQueued rtc :=
  rtcQueued_ringWritten h hw s

end

/-- **A packet handed to the pacer** comes behind those that wait. -/
theorem OutKept.commit (h : OutKept w rtc) (hw : w < pktRingSize)
    (wireSeq : UInt16) {wire : List UInt8} (hne : wire ≠ []) :
    OutMoves w [wire] rtc (rtcCommitFragment rtc wireSeq wire) := by
  have hpaced : rtc.pacer.tail = rtc.pktRingTail := h.paced
  have hwait := Nat.lt_of_le_of_lt h.depth hw
  have hdepth : paceDepth (rtcCommitFragment rtc wireSeq wire) = paceDepth rtc + 1 := by
    have h32 : pktRingSize = 32 := rfl
    have h1 := rtc.pacer.head.toNat_lt
    have h2 := rtc.pktRingTail.toNat_lt
    have hone : (1 : UInt16).toNat = 1 := rfl
    show (rtc.pktRingTail + 1 - rtc.pacer.head).toNat = _
    unfold paceDepth at hwait ⊢
    rw [hpaced] at hwait ⊢
    rw [UInt16.toNat_sub] at hwait ⊢
    rw [UInt16.toNat_sub, UInt16.toNat_add]
    omega
  have hlast : rtc.pacer.head + UInt16.ofNat (paceDepth rtc) = rtc.pktRingTail := by
    rw [← paceTail_eq, hpaced]
  have hslot := paceSlot_ringWritten h ⟨wire, wireSeq, wire.length⟩
  have hnew : paceSlot (rtcCommitFragment rtc wireSeq wire) rtc.pktRingTail =
      ⟨wire, wireSeq, wire.length⟩ := (hslot _).trans (if_pos rfl)
  have hpacedList : rtcPaced (rtcCommitFragment rtc wireSeq wire) = rtcPaced rtc ++ [wire] := by
    unfold rtcPaced
    rw [hdepth, List.range_succ, List.map_append, List.map_singleton]
    have hold := rtcPaced_ringWritten h hw ⟨wire, wireSeq, wire.length⟩
    unfold rtcPaced at hold
    refine congrArg₂ (· ++ ·) hold ?_
    show [pktWire _ (rtc.pacer.head + UInt16.ofNat (paceDepth rtc))] = _
    rw [hlast]
    show [(paceSlot (rtcCommitFragment rtc wireSeq wire) rtc.pktRingTail).buf.take
      (paceSlot (rtcCommitFragment rtc wireSeq wire) rtc.pktRingTail).len] = _
    rw [hnew, List.take_length]
  refine ⟨?_, rfl, ?_, [], ?_, ?_⟩
  · exact
      { queue := h.queue
        wraps := h.wraps
        slots := h.slots
        copies := h.copies
        ring := List.length_set.trans h.ring
        count := h.count
        paced := rfl
        depth := hdepth ▸ Nat.succ_le_succ h.depth
        room := hw
        waits := fun k hk => by
          rw [hdepth] at hk
          rcases Nat.lt_or_eq_of_le (Nat.le_of_lt_succ hk) with hold | rfl
          · exact fun hzero => h.waits k hold
              ((congrArg PktSlot.len (paceSlot_ringWritten_waits h hw _ hold)).symm.trans hzero)
          · show (paceSlot _ (rtc.pacer.head + _)).len ≠ 0
            rw [hlast, hnew]
            exact fun hzero => hne (List.length_eq_zero_iff.mp hzero)
        refs := fun k hk => (h.refs k hk).move 1 rfl (Nat.le_of_eq hdepth)
          (by rw [hdepth]; exact Nat.le_of_eq (Nat.add_right_comm _ _ _)) rfl rfl }
  · refine (newPackets_one rfl).trans ?_
    show [(paceSlot (rtcCommitFragment rtc wireSeq wire) rtc.pktRingTail).buf.take
      (paceSlot (rtcCommitFragment rtc wireSeq wire) rtc.pktRingTail).len] = _
    rw [hnew, List.take_length]
  · exact (rtcQueued_committed h hw _).trans (List.append_nil _).symm
  · exact hpacedList.symm

/-! ### The pacer -/

/-- **The packet that waits longest queued.** -/
theorem OutKept.release (h : OutKept w rtc)
    (hroom : outCount rtc < outQueueSize) (hwaits : rtc.pacer.head ≠ rtc.pacer.tail)
    (dest src : NanortcAddr) (wrap : WrapMeta) (budget : UInt32) :
    OutMoves w [] rtc { pushed rtc (.transmit ⟨.pktRing (pktSlot rtc.pacer.head),
        (paceSlot rtc rtc.pacer.head).len, dest, src⟩) wrap with
      pacer := { rtc.pacer with head := rtc.pacer.head + 1, budgetBytes := budget } } := by
  have hpaced : rtc.pacer.tail = rtc.pktRingTail := h.paced
  have hpos : paceDepth rtc ≠ 0 := fun hzero => hwaits (by rw [paceTail_eq, hzero, add_ofNat_zero])
  obtain ⟨n, hn⟩ := Nat.exists_eq_add_one_of_ne_zero hpos
  generalize hout : NanortcOutput.transmit ⟨.pktRing (pktSlot rtc.pacer.head),
    (paceSlot rtc rtc.pacer.head).len, dest, src⟩ = out
  have hafter : (rtc.pacer.tail - (rtc.pacer.head + 1)).toNat = n := by
    unfold paceDepth at hn
    have h1 := rtc.pacer.head.toNat_lt
    have h2 := rtc.pacer.tail.toNat_lt
    have hone : (1 : UInt16).toNat = 1 := rfl
    rw [UInt16.toNat_sub] at hn ⊢
    rw [UInt16.toNat_add]
    omega
  have hcontent : queuedOut rtc out wrap =
      ⟨out, pktWire rtc rtc.pacer.head, if wrap.viaTurn then some wrap.peerDest else none⟩ := by
    rw [← hout]
    rfl
  have hqueued := rtcQueued_pushed h hroom out wrap
  rw [hcontent] at hqueued
  have hcount := outCount_pushed hroom out wrap
  refine ⟨?_, (add_ofNat_zero _).symm, newPackets_of_tail rfl, [_], hqueued, ?_⟩
  · exact
      { queue := List.length_set.trans h.queue
        wraps := List.length_set.trans h.wraps
        slots := h.slots
        copies := h.copies
        ring := h.ring
        count := hcount ▸ hroom
        paced := h.paced
        depth := by
          show (rtc.pacer.tail - (rtc.pacer.head + 1)).toNat ≤ w
          have := h.depth
          omega
        room := h.room
        waits := fun k hk => by
          have hk : k < (rtc.pacer.tail - (rtc.pacer.head + 1)).toNat := hk
          show (paceSlot rtc (rtc.pacer.head + 1 + UInt16.ofNat k)).len ≠ 0
          rw [add_ofNat_succ]
          exact h.waits (k + 1) (by omega)
        refs := by
          refine entryKept_pushed h hroom out wrap rfl rfl rfl (fun k _ o ho => ?_) ?_
          · refine ho.move 0 (add_ofNat_zero _).symm ?_ ?_ rfl rfl
            · show (rtc.pacer.tail - (rtc.pacer.head + 1)).toNat ≤ _
              omega
            · show _ ≤ (rtc.pacer.tail - (rtc.pacer.head + 1)).toNat + outCount (pushed rtc out wrap)
              omega
          · rw [← hout]
            refine ⟨n + 1, ?_, ?_, ?_, ?_⟩
            · show (rtc.pacer.tail - (rtc.pacer.head + 1)).toNat < _
              omega
            · have := h.depth
              omega
            · show _ ≤ (rtc.pacer.tail - (rtc.pacer.head + 1)).toNat + outCount (pushed rtc out wrap)
              omega
            · show _ = pktSlot (rtc.pktRingTail - UInt16.ofNat (n + 1))
              rw [← hpaced, ← hn, paceTail_eq, UInt16.add_sub_cancel] }
  · rw [List.append_nil, ← hout]
    show rtcPaced rtc = pktWire rtc rtc.pacer.head :: (List.range (rtc.pacer.tail -
      (rtc.pacer.head + 1)).toNat).map fun k => pktWire rtc (rtc.pacer.head + 1 + UInt16.ofNat k)
    unfold rtcPaced
    rw [hafter, hn, List.range_succ_eq_map, List.map_cons, List.map_map, add_ofNat_zero]
    congr 1
    refine List.map_congr_left fun k _ => ?_
    rw [add_ofNat_succ]
    rfl

/-- The pacer may change in all but its cursors. -/
theorem OutMoves.withPacer (h : OutKept w rtc)
    (p : NanoPacer) (hhead : p.head = rtc.pacer.head) (htail : p.tail = rtc.pacer.tail) :
    OutMoves w [] rtc { rtc with pacer := p } := by
  have hdepth : paceDepth { rtc with pacer := p } = paceDepth rtc := by
    unfold paceDepth
    rw [show ({ rtc with pacer := p } : NanoRtc).pacer = p from rfl, hhead, htail]
  refine .still ?_ rfl rfl ?_
  · exact
      { h with
        paced := htail.trans h.paced
        depth := hdepth ▸ h.depth
        waits := fun k hk => by
          show (paceSlot rtc (p.head + UInt16.ofNat k)).len ≠ 0
          rw [hhead]
          exact h.waits k (hdepth ▸ hk)
        refs := fun k hk => (h.refs k hk).move 0 (add_ofNat_zero _).symm (Nat.le_of_eq hdepth)
          (Nat.le_of_eq (by rw [hdepth]; rfl)) rfl rfl }
  · unfold rtcPaced
    rw [hdepth]
    refine List.map_congr_left fun k _ => ?_
    show pktWire rtc (p.head + UInt16.ofNat k) = _
    rw [hhead]

theorem pacerRelease_moves (turns : Nat) (h : OutKept w rtc) :
    OutMoves w [] rtc (pacerRelease turns rtc) := by
  induction turns generalizing rtc with
  | zero => exact .refl h
  | succ turns ih =>
    unfold pacerRelease
    dsimp only
    by_cases hidle : rtc.pacer.head = rtc.pacer.tail
    · rw [if_pos hidle]
      exact .refl h
    have hpos : 0 < paceDepth rtc := by
      refine Nat.pos_of_ne_zero fun hzero => hidle ?_
      rw [paceTail_eq, hzero, add_ofNat_zero]
    have hlen : (rtc.pktRing.getD (pktSlot rtc.pacer.head) default).len ≠ 0 := by
      have hwait := h.waits 0 hpos
      rwa [add_ofNat_zero] at hwait
    rw [if_neg hidle, if_neg hlen]
    split
    · exact .refl h
    split
    · exact .refl h
    rcases rtcEnqueueTransmitRef_cases rtc (.pktRing (pktSlot rtc.pacer.head))
      (rtc.pktRing.getD (pktSlot rtc.pacer.head) default).len rtc.remoteAddr none .selected with
      ⟨hfull, hput⟩ | ⟨hroom, src, wrap, hput⟩
    · rw [show nanoRtcEnqueueTransmit rtc _ _ _ false = _ from hput]
      exact .refl h
    · rw [show nanoRtcEnqueueTransmit rtc _ _ _ false = _ from hput]
      have hone := h.release hroom hidle rtc.remoteAddr src wrap
        (if decide ((rtc.pktRing.getD (pktSlot rtc.pacer.head) default).len ≤
          rtc.pacer.budgetBytes.toNat) = true then rtc.pacer.budgetBytes -
            UInt32.ofNat (rtc.pktRing.getD (pktSlot rtc.pacer.head) default).len else 0)
      exact hone.trans (ih hone.kept)

/-- **The pump** moves packets from one queue to the other. -/
theorem nanoRtcPacerPump_moves (h : OutKept w rtc) :
    OutMoves w [] rtc (nanoRtcPacerPump rtc) := by
  unfold nanoRtcPacerPump
  by_cases hidle : rtc.pacer.head = rtc.pacer.tail
  · rw [if_pos hidle]
    exact .refl h
  rw [if_neg hidle]
  dsimp only
  have hrefill : (pacerRefill rtc).head = rtc.pacer.head ∧
      (pacerRefill rtc).tail = rtc.pacer.tail := by
    unfold pacerRefill
    dsimp only
    split <;> split <;> exact ⟨rfl, rfl⟩
  have hstart := OutMoves.withPacer h (pacerRefill rtc) hrefill.1 hrefill.2
  have hrelease := hstart.trans (pacerRelease_moves
    ((pacerRefill rtc).tail - (pacerRefill rtc).head).toNat hstart.kept)
  exact hrelease.trans (OutMoves.withPacer hrelease.kept _ rfl rfl)

/-! ### Polls -/

theorem outCount_pos (hne : rtc.outHead ≠ rtc.outTail) : outCount rtc ≠ 0 := by
  intro hzero
  refine hne ?_
  rw [outTail_eq, hzero, add_ofNat_zero]

theorem backingSlot_advanceHead (rtc : NanoRtc) (b : Backing) :
    backingSlot (rtcAdvanceHead rtc) b = (backingSlot rtc b).release (rtc.outHead + 1) := by
  have hmap (l : List BackingSlot) (i : Nat) :
      (l.map (·.release (rtc.outHead + 1))).getD i default =
        (l.getD i default).release (rtc.outHead + 1) := by
    rw [List.getD_eq_getElem?_getD, List.getD_eq_getElem?_getD, List.getElem?_map]
    cases l[i]? <;> rfl
  cases b with
  | pktRing i => rfl
  | txSlot i => exact hmap rtc.txSlots i
  | nackRetx i => exact hmap rtc.nackRetx i
  | fecTx i => exact hmap rtc.fecTx i

theorem bytes_advanceHead (rtc : NanoRtc) (b : Backing) :
    (rtcAdvanceHead rtc).bytes b = rtc.bytes b := by
  have hslot := congrArg BackingSlot.buf (backingSlot_advanceHead rtc b)
  have hbuf : ((backingSlot rtc b).release (rtc.outHead + 1)).buf = (backingSlot rtc b).buf := by
    unfold BackingSlot.release
    split <;> rfl
  cases b with
  | pktRing i => rfl
  | txSlot i => exact hslot.trans hbuf
  | nackRetx i => exact hslot.trans hbuf
  | fecTx i => exact hslot.trans hbuf

/-- **The entry at the head taken off**: the others stay as they are. -/
theorem OutKept.pop (h : OutKept w rtc)
    (hne : rtc.outHead ≠ rtc.outTail) :
    OutKept w (rtcAdvanceHead rtc) ∧
      rtcQueued rtc = queuedAt rtc rtc.outHead :: rtcQueued (rtcAdvanceHead rtc) := by
  obtain ⟨n, hn⟩ := Nat.exists_eq_add_one_of_ne_zero (outCount_pos hne)
  have h32 : outQueueSize = 32 := rfl
  have hle := h.count
  have hcount : outCount (rtcAdvanceHead rtc) = n := by
    have h1 := rtc.outHead.toNat_lt
    have h2 := rtc.outTail.toNat_lt
    have hone : (1 : UInt16).toNat = 1 := rfl
    show (rtc.outTail - (rtc.outHead + 1)).toNat = n
    unfold outCount at hn
    rw [UInt16.toNat_sub] at hn ⊢
    rw [UInt16.toNat_add]
    omega
  have hcursor (k : Nat) : (rtcAdvanceHead rtc).outHead + UInt16.ofNat k =
      rtc.outHead + UInt16.ofNat (k + 1) := add_ofNat_succ _ _
  constructor
  · exact
      { queue := h.queue
        wraps := h.wraps
        slots := (List.length_map _).trans h.slots
        copies := (List.length_map _).trans h.copies
        ring := h.ring
        count := by omega
        paced := h.paced
        depth := h.depth
        room := h.room
        waits := h.waits
        refs := fun k hk => by
          have hk : k + 1 < outCount rtc := by omega
          rw [hcursor]
          have href := h.refs (k + 1) hk
          show EntryKept _ w k (outEntry rtc (rtc.outHead + UInt16.ofNat (k + 1)))
          revert href
          cases outEntry rtc (rtc.outHead + UInt16.ofNat (k + 1)) with
          | event type key => exact id
          | transmit t =>
            obtain ⟨b, len, dest, src⟩ := t
            -- the buffer is not the one that this entry frees
            have hheld (s : BackingSlot) (hs : s.inUse = true ∧
                s.freeAt = rtc.outHead + UInt16.ofNat (k + 1 + 1)) :
                (s.release (rtc.outHead + 1)).inUse = true ∧
                  (s.release (rtc.outHead + 1)).freeAt =
                    (rtcAdvanceHead rtc).outHead + UInt16.ofNat (k + 1) := by
              rw [hcursor]
              unfold BackingSlot.release
              rw [if_neg]
              · exact hs
              · rintro ⟨-, hat⟩
                have hsame := @ofNat_inj_small rtc.outHead 1 (k + 1 + 1) (by omega) (by omega)
                  (hat.symm.trans hs.2)
                omega
            cases b with
            | pktRing i =>
              rintro ⟨e, hdepth, he, hcnt, hi⟩
              refine ⟨e, hdepth, he, ?_, hi⟩
              show e + k ≤ paceDepth rtc + outCount (rtcAdvanceHead rtc)
              omega
            | txSlot i =>
              intro href
              have hb := hheld _ href
              rwa [← backingSlot_advanceHead rtc (.txSlot i)] at hb
            | nackRetx i =>
              intro href
              have hb := hheld _ href
              rwa [← backingSlot_advanceHead rtc (.nackRetx i)] at hb
            | fecTx i =>
              intro href
              have hb := hheld _ href
              rwa [← backingSlot_advanceHead rtc (.fecTx i)] at hb }
  · unfold rtcQueued
    rw [hn, hcount, List.range_succ_eq_map, List.map_cons, List.map_map, add_ofNat_zero]
    congr 1
    refine List.map_congr_left fun k _ => ?_
    rw [hcursor]
    show queuedOut rtc (outEntry rtc _) _ = queuedOut (rtcAdvanceHead rtc) (outEntry rtc _) _
    unfold queuedOut
    cases outEntry rtc (rtc.outHead + UInt16.ofNat (k + 1)) with
    | event type key => rfl
    | transmit t =>
      unfold entryBytes
      dsimp only
      rw [bytes_advanceHead]
      rfl

/-- **A poll** takes the oldest contents up to the first that it can hand out. -/
theorem rtcPollQueuedLoop_takes (turns : Nat)
    (h : OutKept w rtc) :
    OutKept w (rtcPollQueuedLoop turns rtc).1 ∧
      rtcPaced (rtcPollQueuedLoop turns rtc).1 = rtcPaced rtc ∧
      ∃ taken, rtcQueued rtc = taken ++ rtcQueued (rtcPollQueuedLoop turns rtc).1 ∧
        (rtcPollQueuedLoop turns rtc).2.toList = taken.filterMap (pollOut rtc.turn) := by
  induction turns generalizing rtc with
  | zero => exact ⟨h, rfl, [], rfl, rfl⟩
  | succ turns ih =>
    unfold rtcPollQueuedLoop
    by_cases hempty : rtc.outHead = rtc.outTail
    · rw [if_pos hempty]
      exact ⟨h, rfl, [], rfl, rfl⟩
    rw [if_neg hempty]
    obtain ⟨hkept, hqueued⟩ := h.pop hempty
    have hpaced : rtcPaced (rtcAdvanceHead rtc) = rtcPaced rtc := rfl
    have hpoll := rtcPollHead_eq rtc
    cases hhead : rtcPollHead rtc with
    | some out =>
      rw [hhead] at hpoll
      refine ⟨hkept, hpaced, [queuedAt rtc rtc.outHead], hqueued, ?_⟩
      rw [List.filterMap_cons_some hpoll.symm]
      rfl
    | none =>
      rw [hhead] at hpoll
      obtain ⟨hkept', hpaced', taken, htaken, hout⟩ := ih hkept
      refine ⟨hkept', hpaced'.trans hpaced, queuedAt rtc rtc.outHead :: taken, ?_, ?_⟩
      · rw [hqueued, htaken]
        rfl
      · rw [List.filterMap_cons_none hpoll.symm]
        exact hout

end Nanortc.Spec
