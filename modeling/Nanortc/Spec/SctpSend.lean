import Mathlib
import Nanortc.Spec.SctpRun

/-!
# The send queue of an association

An entry of the send queue is a fragment of a message with marks that sending, retransmission,
abandonment and acknowledgement set. The fragments themselves never change: messages are appended
whole, and acknowledged fragments leave at the head. Partial reliability abandons what is left of a
message, which the flags of its fragments delimit.

## Key results

- `nsctpHandleSackChunk_eq`: a SACK abandons, marks and removes, in this order
- `nsctpAbandonMessage_shared`: abandonment covers all that is queued of a message
- `send_queue_sound`: over every run of an association, the send queue is sound
-/

namespace Nanortc.Spec

open Nanortc.ForStd Nanortc.Native

/-! ### Fragments -/

/-- The first fragment of a message. -/
def SendEntry.isBegin (e : SendEntry) : Bool := hasFlag e.flags sctpDataFlagBegin

/-- The last fragment of a message. -/
def SendEntry.isEnd (e : SendEntry) : Bool := hasFlag e.flags sctpDataFlagEnd

/-- A queue entry without the marks of sending and acknowledgement. -/
def SendEntry.queued (e : SendEntry) : SendEntry :=
  { e with sentAtMs := 0, retransmitCount := 0, acked := false, inFlight := false }

/-- A queue entry without the mark of abandonment. -/
def SendEntry.kept (e : SendEntry) : SendEntry := { e with abandoned := false }

/-- A queue entry without its marks. -/
def SendEntry.fragment (e : SendEntry) : SendEntry := SendEntry.queued (SendEntry.kept e)

/-- One fragment follows the other: the next one of its message, or the first of the next one. -/
structure Joined (a b : SendEntry) : Prop where
  tsn : b.tsn = a.tsn + 1
  mark : SendEntry.isBegin b = SendEntry.isEnd a
  same : SendEntry.isEnd a = false → b.streamId = a.streamId ∧ b.ssn = a.ssn ∧ b.ppid = a.ppid

/-- A message begins behind the end of the one before, and nowhere else. -/
def Marked (a b : SendEntry) : Prop := SendEntry.isBegin b = SendEntry.isEnd a

/-- The bytes of one fragment lie before those of the other. -/
def Apart (a b : SendEntry) : Prop := a.dataOffset + a.dataLen ≤ b.dataOffset

/-- Fragments of one message are abandoned together. -/
def Shared (a b : SendEntry) : Prop := SendEntry.isEnd a = false → b.abandoned = a.abandoned

theorem joined_fragment (a b : SendEntry) :
    Joined (SendEntry.fragment a) (SendEntry.fragment b) ↔ Joined a b :=
  ⟨fun h => ⟨h.tsn, h.mark, h.same⟩, fun h => ⟨h.tsn, h.mark, h.same⟩⟩

/-- A chain of a relation that depends on what `f` keeps is one for every list with the same
image. -/
theorem isChain_of_map_eq {α β : Type} {R : α → α → Prop} {f : α → β} {S : β → β → Prop}
    (hR : ∀ a b, R a b ↔ S (f a) (f b)) {q q' : List α} (heq : q'.map f = q.map f)
    (h : q.IsChain R) : q'.IsChain R := by
  rw [List.IsChain.iff hR, ← List.isChain_map] at h ⊢
  rw [heq]
  exact h

/-- Entry for entry, lists with the same image agree in what `f` keeps. -/
theorem getElem?_of_map_eq {α β : Type} {f : α → β} {q q' : List α} (heq : q'.map f = q.map f)
    {j : Nat} {a : α} (ha : q[j]? = some a) : ∃ a', q'[j]? = some a' ∧ f a' = f a := by
  have hget := congrArg (·[j]?) heq
  simp only [List.getElem?_map, ha, Option.map_some, Option.map_eq_some_iff] at hget
  exact hget

/-- An entry replaced by one that `f` does not tell from it. -/
theorem map_set_getD {β : Type} (f : SendEntry → β) (q : List SendEntry) (i : Nat) {e : SendEntry}
    (he : f e = f (q.getD i default)) : (q.set i e).map f = q.map f := by
  by_cases hi : i < q.length
  · rw [List.map_set, he, List.getD_eq_getElem q default hi, ← List.getElem_map f,
      List.set_getElem_self]
    rw [List.length_map]
    exact hi
  · rw [List.set_eq_of_length_le (Nat.not_lt.mp hi)]

/-! ### Abandonment -/

/-- The search for the first fragment ends at one, or at the head of the queue. -/
theorem nsctpAbandonFirst_begin (q : List SendEntry) (i : Nat) :
    nsctpAbandonFirst q i = 0 ∨
      SendEntry.isBegin (q.getD (nsctpAbandonFirst q i) default) = true := by
  induction i with
  | zero => exact .inl rfl
  | succ i ih =>
    unfold nsctpAbandonFirst
    split
    · rename_i hbegin
      exact .inr hbegin
    · exact ih

/-- Entries that agree but for the mark of abandonment hold the same fragments. -/
theorem map_fragment_of_kept {q q' : List SendEntry}
    (h : q'.map SendEntry.kept = q.map SendEntry.kept) :
    q'.map SendEntry.fragment = q.map SendEntry.fragment := by
  show q'.map (SendEntry.queued ∘ SendEntry.kept) = q.map (SendEntry.queued ∘ SendEntry.kept)
  rw [← List.map_map, h, List.map_map]

theorem nsctpAbandonParts_kept (q : List SendEntry) :
    (nsctpAbandonParts q).map SendEntry.kept = q.map SendEntry.kept := by
  induction q with
  | nil => rfl
  | cons e es ih =>
    unfold nsctpAbandonParts
    split
    · rfl
    · rw [List.map_cons, List.map_cons, ih]
      rfl

/-- What is abandoned first is abandoned. -/
theorem nsctpAbandonParts_head (q : List SendEntry) :
    ∀ e ∈ (nsctpAbandonParts q).head?, e.abandoned = true := by
  intro e he
  cases q with
  | nil => nomatch he
  | cons a q =>
    unfold nsctpAbandonParts at he
    cases he
    rfl

theorem nsctpAbandonParts_shared {q : List SendEntry} (h : q.IsChain Shared) :
    (nsctpAbandonParts q).IsChain Shared := by
  induction q with
  | nil => exact .nil
  | cons e es ih =>
    have htail := List.IsChain.tail h
    unfold nsctpAbandonParts
    split
    · -- the message ends here: the next entry may differ
      rename_i hend
      exact List.IsChain.cons htail fun y _ hne => absurd (hend.symm.trans hne) nofun
    · exact List.IsChain.cons (ih htail) fun y hy _ => nsctpAbandonParts_head es y hy

theorem nsctpAbandonMessage_kept (s : NanoSctp) (i : Nat) :
    (nsctpAbandonMessage s i).sendQueue.map SendEntry.kept = s.sendQueue.map SendEntry.kept := by
  show (s.sendQueue.take _ ++ nsctpAbandonParts (s.sendQueue.drop _)).map SendEntry.kept = _
  rw [List.map_append, nsctpAbandonParts_kept, ← List.map_append, List.take_append_drop]

/-- **Abandonment covers all that is queued of a message.** -/
theorem nsctpAbandonMessage_shared {s : NanoSctp} (i : Nat) (hmarked : s.sendQueue.IsChain Marked)
    (hshared : s.sendQueue.IsChain Shared) : (nsctpAbandonMessage s i).sendQueue.IsChain Shared := by
  have hbegin := nsctpAbandonFirst_begin s.sendQueue i
  show (s.sendQueue.take _ ++ nsctpAbandonParts (s.sendQueue.drop _)).IsChain Shared
  generalize nsctpAbandonFirst s.sendQueue i = first at hbegin
  refine List.IsChain.append (hshared.take first) (nsctpAbandonParts_shared (hshared.drop first)) ?_
  -- where the abandoned part begins, the message before it has ended
  intro x hx y _ hne
  cases hbegin with
  | inl hzero =>
    rw [hzero] at hx
    nomatch hx
  | inr hbegin =>
    by_cases hlen : first < s.sendQueue.length
    · rw [← List.take_append_drop first s.sendQueue, List.isChain_append] at hmarked
      have hmark : SendEntry.isBegin s.sendQueue[first] = SendEntry.isEnd x :=
        hmarked.2.2 x hx s.sendQueue[first]
          (by rw [List.head?_drop, List.getElem?_eq_getElem hlen]; rfl)
      rw [List.getD_eq_getElem s.sendQueue default hlen, hmark, hne] at hbegin
      nomatch hbegin
    · exfalso
      have hdefault : s.sendQueue.getD first default = default :=
        List.getD_eq_default s.sendQueue default (Nat.not_lt.mp hlen)
      rw [hdefault] at hbegin
      nomatch hbegin

/-! ### Frame -/

/-- The queue holds the same fragments, and abandonment still covers whole messages. -/
structure KeepsQueue (s s' : NanoSctp) : Prop where
  fragments : s'.sendQueue.map SendEntry.fragment = s.sendQueue.map SendEntry.fragment
  nextTsn : s'.nextTsn = s.nextTsn
  sendBufUsed : s'.sendBufUsed = s.sendBufUsed
  localVtag : s'.localVtag = s.localVtag
  shared : s.sendQueue.IsChain Joined → s.sendQueue.IsChain Shared → s'.sendQueue.IsChain Shared

theorem KeepsQueue.joined {s s' : NanoSctp} (h : KeepsQueue s s')
    (hjoined : s.sendQueue.IsChain Joined) : s'.sendQueue.IsChain Joined :=
  isChain_of_map_eq (fun a b => (joined_fragment a b).symm) h.fragments hjoined

theorem KeepsQueue.of_eq {s s' : NanoSctp} (hqueue : s'.sendQueue = s.sendQueue)
    (htsn : s'.nextTsn = s.nextTsn) (hused : s'.sendBufUsed = s.sendBufUsed)
    (hvtag : s'.localVtag = s.localVtag) : KeepsQueue s s' :=
  ⟨by rw [hqueue], htsn, hused, hvtag, fun _ h => by rw [hqueue]; exact h⟩

theorem KeepsQueue.trans {s s' s'' : NanoSctp} (h : KeepsQueue s s') (h' : KeepsQueue s' s'') :
    KeepsQueue s s'' where
  fragments := h'.fragments.trans h.fragments
  nextTsn := h'.nextTsn.trans h.nextTsn
  sendBufUsed := h'.sendBufUsed.trans h.sendBufUsed
  localVtag := h'.localVtag.trans h.localVtag
  shared hjoined hshared := h'.shared (h.joined hjoined) (h.shared hjoined hshared)

theorem keepsQueue_timer : TimerRule KeepsQueue where
  refl _ := .of_eq rfl rfl rfl rfl
  trans := .trans
  output _ _ := .of_eq rfl rfl rfl rfl
  sack _ := .of_eq rfl rfl rfl rfl
  sent _ _ _ _ _ :=
    ⟨map_set_getD _ _ _ rfl, rfl, rfl, rfl, fun _ h => isChain_of_map_eq
      (f := SendEntry.queued) (S := Shared) (fun _ _ => Iff.rfl) (map_set_getD _ _ _ rfl) h⟩
  abandon s i := ⟨map_fragment_of_kept (nsctpAbandonMessage_kept s i), rfl, rfl, rfl,
    fun hjoined => nsctpAbandonMessage_shared i (hjoined.imp fun _ _ h => h.mark)⟩
  forward _ _ _ := .of_eq rfl rfl rfl rfl
  clock _ _ := .of_eq rfl rfl rfl rfl
  backoff _ := .of_eq rfl rfl rfl rfl
  fail _ := .of_eq rfl rfl rfl rfl
  heartbeat _ _ _ _ := .of_eq rfl rfl rfl rfl

theorem keepsQueue_recv (s : NanoSctp) (recv : SctpRecv) (streams : List SctpStream) :
    KeepsQueue s { s with recv := recv, streams := streams } := .of_eq rfl rfl rfl rfl

/-! ### What a SACK does -/

/-- A SACK chunk that `nsctp_handle_sack_chunk` accepts. -/
def nsctpSackOf (chunk : List UInt8) : Option NsctpSack :=
  match nsctpParseSack chunk with
  | none => none
  | some sack =>
    let blocks := (chunk.length - sctpChunkHdrSize - sctpSackMinSize) / 4
    let gaps := sack.numGapBlocks.toNat
    if gaps > blocks ∨ sack.numDupTsns.toNat > blocks - gaps then none
    else if !sackGapsValid chunk (List.range gaps) 0 then none
    else some sack

/-- The messages that a SACK abandons. -/
def nsctpSackAbandon (s : NanoSctp) (chunk : List UInt8) (sack : NsctpSack) : NanoSctp :=
  (List.range s.sendQueue.length).foldl (fun t i =>
    if sackAbandons chunk sack (sackHighest s.sendQueue chunk sack) (t.sendQueue.getD i default)
    then nsctpAbandonMessage t i else t) s

/-- An entry after a SACK, marked if it is at or before the cumulative TSN. -/
def nsctpSackMark (sack : NsctpSack) (e : SendEntry) : SendEntry :=
  if i32 (e.tsn - sack.cumulativeTsn) ≤ 0 then { e with acked := true } else e

/-- **A SACK abandons messages, marks entries and removes the marked ones at the head.** -/
theorem nsctpHandleSackChunk_eq (s : NanoSctp) (chunk : List UInt8) :
    nsctpHandleSackChunk s chunk =
      match nsctpSackOf chunk with
      | none => (s, .parse)
      | some sack =>
        let t := nsctpSackAbandon s chunk sack
        let queue := (t.sendQueue.map (nsctpSackMark sack)).dropWhile (·.acked)
        ({ t with
          sendQueue := queue
          sendBufUsed := if queue.isEmpty then 0 else t.sendBufUsed }, .ok) := by
  unfold nsctpHandleSackChunk nsctpSackOf
  cases nsctpParseSack chunk with
  | none => rfl
  | some sack =>
    dsimp only
    split
    · rfl
    split
    · rfl
    · rfl

theorem nsctpSackAbandon_keeps (s : NanoSctp) (chunk : List UInt8) (sack : NsctpSack) :
    KeepsQueue s (nsctpSackAbandon s chunk sack) :=
  keepsQueue_timer.abandonLoop s (sackAbandons chunk sack (sackHighest s.sendQueue chunk sack)) _

/-- Nothing but the mark of abandonment changes. -/
theorem nsctpSackAbandon_kept (s : NanoSctp) (chunk : List UInt8) (sack : NsctpSack) :
    (nsctpSackAbandon s chunk sack).sendQueue.map SendEntry.kept =
      s.sendQueue.map SendEntry.kept := by
  unfold nsctpSackAbandon
  generalize List.range s.sendQueue.length = is
  generalize sackHighest s.sendQueue chunk sack = highest
  generalize hq : s.sendQueue.map SendEntry.kept = kept
  induction is generalizing s with
  | nil => exact hq
  | cons i is ih =>
    rw [List.foldl_cons]
    apply ih
    split
    · rw [nsctpAbandonMessage_kept, hq]
    · exact hq

theorem nsctpSackMark_queued (sack : NsctpSack) (e : SendEntry) :
    SendEntry.queued (nsctpSackMark sack e) = SendEntry.queued e := by
  unfold nsctpSackMark
  split <;> rfl

theorem nsctpSackMark_fragment (sack : NsctpSack) (e : SendEntry) :
    SendEntry.fragment (nsctpSackMark sack e) = SendEntry.fragment e := by
  unfold nsctpSackMark
  split <;> rfl

theorem nsctpSackMark_acked (sack : NsctpSack) (e : SendEntry) :
    (nsctpSackMark sack e).acked = true ↔
      e.acked = true ∨ i32 (e.tsn - sack.cumulativeTsn) ≤ 0 := by
  unfold nsctpSackMark
  split
  · rename_i hle
    exact ⟨fun _ => .inr hle, fun _ => rfl⟩
  · rename_i hle
    exact ⟨.inl, fun h => h.resolve_right hle⟩

/-- What is dropped at the head is what is taken there. -/
theorem take_removed {α : Type} (p : α → Bool) (l : List α) :
    l.take (l.length - (l.dropWhile p).length) = l.takeWhile p ∧
      l.drop (l.length - (l.dropWhile p).length) = l.dropWhile p := by
  have hlen : l.length - (l.dropWhile p).length = (l.takeWhile p).length := by
    have hsum := congrArg List.length (List.takeWhile_append_dropWhile (p := p) (l := l))
    rw [List.length_append] at hsum
    omega
  rw [hlen]
  constructor
  · conv => lhs; arg 2; rw [← List.takeWhile_append_dropWhile (p := p) (l := l)]
    exact List.take_left
  · conv => lhs; arg 2; rw [← List.takeWhile_append_dropWhile (p := p) (l := l)]
    exact List.drop_left

/-! ### The invariant -/

/-- The send queue, behind the entries that have left it. -/
structure QueueInv (s : NanoSctp) (left : List SendEntry) : Prop where
  joined : (left ++ s.sendQueue).IsChain Joined
  first : ∀ e ∈ (left ++ s.sendQueue).head?, SendEntry.isBegin e = true
  last : ∀ e ∈ (left ++ s.sendQueue).getLast?, SendEntry.isEnd e = true ∧ e.tsn + 1 = s.nextTsn
  apart : s.sendQueue.IsChain Apart
  room : ∀ e ∈ s.sendQueue.getLast?, e.dataOffset + e.dataLen ≤ s.sendBufUsed
  bounded : s.sendBufUsed ≤ sctpSendBufSize
  shared : s.sendQueue.IsChain Shared

/-- What holds of a chosen entry and depends on what `f` keeps holds of the one with the same
image. -/
theorem forall_of_map_eq {α β : Type} {P : α → Prop} {Q : β → Prop} {f : α → β}
    (hP : ∀ a, P a ↔ Q (f a)) {o o' : Option α} (heq : o'.map f = o.map f) (h : ∀ a ∈ o, P a) :
    ∀ a ∈ o', P a := by
  intro a ha
  cases ha
  cases o with
  | none => nomatch heq
  | some b => exact (hP a).mpr (Option.some.inj heq ▸ (hP b).mp (h b rfl))

/-- A queue with the same fragments, behind as many that have left. -/
theorem QueueInv.of_fragments {s s' : NanoSctp} {left left' : List SendEntry} (h : QueueInv s left)
    (hall : (left' ++ s'.sendQueue).map SendEntry.fragment =
      (left ++ s.sendQueue).map SendEntry.fragment)
    (htsn : s'.nextTsn = s.nextTsn) (hapart : s'.sendQueue.IsChain Apart)
    (hroom : ∀ e ∈ s'.sendQueue.getLast?, e.dataOffset + e.dataLen ≤ s'.sendBufUsed)
    (hbounded : s'.sendBufUsed ≤ sctpSendBufSize) (hshared : s'.sendQueue.IsChain Shared) :
    QueueInv s' left' where
  joined := isChain_of_map_eq (fun a b => (joined_fragment a b).symm) hall h.joined
  first := by
    refine forall_of_map_eq (f := SendEntry.fragment) (Q := fun e => SendEntry.isBegin e = true)
      (fun _ => Iff.rfl) ?_ h.first
    rw [← List.head?_map, ← List.head?_map, hall]
  last := by
    rw [htsn]
    refine forall_of_map_eq (f := SendEntry.fragment)
      (Q := fun e => SendEntry.isEnd e = true ∧ e.tsn + 1 = s.nextTsn) (fun _ => Iff.rfl) ?_ h.last
    rw [← List.getLast?_map, ← List.getLast?_map, hall]
  apart := hapart
  room := hroom
  bounded := hbounded
  shared := hshared

theorem QueueInv.inner {s : NanoSctp} {left : List SendEntry} (h : QueueInv s left) :
    s.sendQueue.IsChain Joined := h.joined.right_of_append

theorem QueueInv.keeps {s s' : NanoSctp} {left : List SendEntry} (h : QueueInv s left)
    (hk : KeepsQueue s s') : QueueInv s' left := by
  refine h.of_fragments ?_ hk.nextTsn ?_ ?_ ?_ (hk.shared h.inner h.shared)
  · rw [List.map_append, List.map_append, hk.fragments]
  · exact isChain_of_map_eq (f := SendEntry.fragment) (S := Apart) (fun _ _ => Iff.rfl)
      hk.fragments h.apart
  · rw [hk.sendBufUsed]
    refine forall_of_map_eq (f := SendEntry.fragment)
      (Q := fun e => e.dataOffset + e.dataLen ≤ s.sendBufUsed) (fun _ => Iff.rfl) ?_ h.room
    rw [← List.getLast?_map, ← List.getLast?_map, hk.fragments]
  · rw [hk.sendBufUsed]
    exact h.bounded

/-! ### Removal -/

/-- The entries at the head of the queue that a SACK removes. -/
def nsctpSackRemoved (s s' : NanoSctp) : List SendEntry :=
  s.sendQueue.take (s.sendQueue.length - s'.sendQueue.length)

/-- **What leaves the queue was acknowledged**, by this SACK or by an earlier one. -/
theorem nsctpSackRemoved_acked {s : NanoSctp} {chunk : List UInt8} {sack : NsctpSack}
    (hsack : nsctpSackOf chunk = some sack) :
    ∀ e ∈ nsctpSackRemoved s (nsctpHandleSackChunk s chunk).1,
      e.acked = true ∨ i32 (e.tsn - sack.cumulativeTsn) ≤ 0 := by
  intro e he
  have hkept := nsctpSackAbandon_kept s chunk sack
  unfold nsctpSackRemoved at he
  rw [nsctpHandleSackChunk_eq, hsack] at he
  dsimp only at he
  generalize nsctpSackAbandon s chunk sack = t at hkept he
  have hlen : s.sendQueue.length = (t.sendQueue.map (nsctpSackMark sack)).length := by
    have := congrArg List.length hkept
    rw [List.length_map, List.length_map] at this
    rw [List.length_map, this]
  have htake := (take_removed (·.acked) (t.sendQueue.map (nsctpSackMark sack))).1
  rw [← hlen] at htake
  generalize s.sendQueue.length -
    ((t.sendQueue.map (nsctpSackMark sack)).dropWhile (·.acked)).length = k at htake he
  -- the entry stood at the same place when the marked ones were taken
  obtain ⟨j, hj, hget⟩ := List.mem_take_iff_getElem.mp he
  have hget? : s.sendQueue[j]? = some e := by
    rw [← hget]
    exact List.getElem?_eq_getElem (by omega)
  obtain ⟨e', hget', hsame⟩ := getElem?_of_map_eq hkept hget?
  have hmem : nsctpSackMark sack e' ∈ (t.sendQueue.map (nsctpSackMark sack)).take k := by
    apply List.mem_of_getElem? (i := j)
    rw [List.getElem?_take_of_lt (by omega), List.getElem?_map, hget']
    rfl
  rw [htake] at hmem
  have hacked := (nsctpSackMark_acked sack e').mp (List.mem_takeWhile_imp hmem)
  have hacked' := congrArg SendEntry.acked hsame
  have htsn := congrArg SendEntry.tsn hsame
  rw [show e.acked = e'.acked from hacked'.symm, show e.tsn = e'.tsn from htsn.symm]
  exact hacked

/-- What leaves and what stays are the fragments of the queue. -/
theorem nsctpSackRemoved_fragments (s : NanoSctp) (chunk : List UInt8) :
    (nsctpSackRemoved s (nsctpHandleSackChunk s chunk).1 ++
      (nsctpHandleSackChunk s chunk).1.sendQueue).map SendEntry.fragment =
        s.sendQueue.map SendEntry.fragment := by
  unfold nsctpSackRemoved
  rw [nsctpHandleSackChunk_eq]
  cases nsctpSackOf chunk with
  | none =>
    dsimp only
    rw [Nat.sub_self, List.take_zero, List.nil_append]
  | some sack =>
    have hkeeps := nsctpSackAbandon_keeps s chunk sack
    dsimp only
    generalize nsctpSackAbandon s chunk sack = t at hkeeps
    have hmark : (t.sendQueue.map (nsctpSackMark sack)).map SendEntry.fragment =
        s.sendQueue.map SendEntry.fragment := by
      rw [← hkeeps.fragments, List.map_map]
      exact List.map_congr_left fun e _ => nsctpSackMark_fragment sack e
    have hlen : s.sendQueue.length = (t.sendQueue.map (nsctpSackMark sack)).length := by
      have := congrArg List.length hmark
      rw [List.length_map, @List.length_map _ _ s.sendQueue] at this
      exact this.symm
    have hdrop := (take_removed (·.acked) (t.sendQueue.map (nsctpSackMark sack))).2
    rw [List.map_append, List.map_take, ← hmark, hlen]
    generalize (t.sendQueue.map (nsctpSackMark sack)).length - _ = k at hdrop ⊢
    rw [← hdrop, List.map_drop]
    exact List.take_append_drop _ _

/-- **A SACK keeps the invariant**, with what it removes behind the queue. -/
theorem QueueInv.sack {s : NanoSctp} {left : List SendEntry} (h : QueueInv s left)
    (chunk : List UInt8) :
    QueueInv (nsctpHandleSackChunk s chunk).1
      (left ++ nsctpSackRemoved s (nsctpHandleSackChunk s chunk).1) := by
  have hall := nsctpSackRemoved_fragments s chunk
  have hfragments : (left ++ nsctpSackRemoved s (nsctpHandleSackChunk s chunk).1 ++
      (nsctpHandleSackChunk s chunk).1.sendQueue).map SendEntry.fragment =
        (left ++ s.sendQueue).map SendEntry.fragment := by
    rw [List.append_assoc, List.map_append, hall, List.map_append]
  revert hfragments
  generalize hremoved : nsctpSackRemoved s (nsctpHandleSackChunk s chunk).1 = removed
  intro hfragments
  clear hall hremoved
  revert hfragments
  rw [nsctpHandleSackChunk_eq]
  cases nsctpSackOf chunk with
  | none => exact fun hfragments => h.of_fragments hfragments rfl h.apart h.room h.bounded h.shared
  | some sack =>
    have ht := h.keeps (nsctpSackAbandon_keeps s chunk sack)
    have htsn := (nsctpSackAbandon_keeps s chunk sack).nextTsn
    dsimp only
    generalize nsctpSackAbandon s chunk sack = t at ht htsn
    have hdrop := (take_removed (·.acked) (t.sendQueue.map (nsctpSackMark sack))).2
    generalize (t.sendQueue.map (nsctpSackMark sack)).length - _ = k at hdrop
    rw [← hdrop]
    intro hfragments
    have hmark : (t.sendQueue.map (nsctpSackMark sack)).map SendEntry.queued =
        t.sendQueue.map SendEntry.queued := by
      rw [List.map_map]
      exact List.map_congr_left fun e _ => nsctpSackMark_queued sack e
    refine h.of_fragments hfragments htsn ?_ ?_ ?_ ?_
    · exact (isChain_of_map_eq (f := SendEntry.queued) (S := Apart) (fun _ _ => Iff.rfl) hmark
        ht.apart).drop k
    · intro e he
      show _ ≤ if _ then 0 else t.sendBufUsed
      have hne : (t.sendQueue.map (nsctpSackMark sack)).drop k ≠ [] := by
        intro hnil
        rw [hnil] at he
        nomatch he
      rw [if_neg (by rw [List.isEmpty_iff]; exact hne)]
      rw [List.getLast?_drop, if_neg (by rw [← List.drop_eq_nil_iff]; exact hne)] at he
      refine forall_of_map_eq (f := SendEntry.queued)
        (Q := fun e => e.dataOffset + e.dataLen ≤ t.sendBufUsed) (fun _ => Iff.rfl) ?_ ht.room e he
      rw [← List.getLast?_map, ← List.getLast?_map, hmark]
    · show (if _ then 0 else t.sendBufUsed) ≤ _
      split
      · exact Nat.zero_le _
      · exact ht.bounded
    · exact (isChain_of_map_eq (f := SendEntry.queued) (S := Shared) (fun _ _ => Iff.rfl) hmark
        ht.shared).drop k

/-! ### What a send appends -/

/-- The flags of a fragment, beside those of the message. -/
theorem fragment_bits (first last : Bool) {flags : UInt8} (hflags : flags = 0 ∨ flags = 4) :
    hasFlag ((if first then sctpDataFlagBegin else 0) ||| (if last then sctpDataFlagEnd else 0) |||
        flags) sctpDataFlagBegin = first ∧
      hasFlag ((if first then sctpDataFlagBegin else 0) ||| (if last then sctpDataFlagEnd else 0) |||
        flags) sctpDataFlagEnd = last := by
  rcases hflags with rfl | rfl <;> cases first <;> cases last <;> decide

/-- The flags of fragment `i` of `count`. -/
theorem fragment_flags (i count : Nat) {flags : UInt8} (hflags : flags = 0 ∨ flags = 4) :
    (hasFlag ((if i = 0 then sctpDataFlagBegin else 0) |||
        (if i + 1 = count then sctpDataFlagEnd else 0) ||| flags) sctpDataFlagBegin = true ↔ i = 0) ∧
      (hasFlag ((if i = 0 then sctpDataFlagBegin else 0) |||
        (if i + 1 = count then sctpDataFlagEnd else 0) ||| flags) sctpDataFlagEnd = true ↔
          i + 1 = count) := by
  have hbits := fragment_bits (decide (i = 0)) (decide (i + 1 = count)) hflags
  simp only [decide_eq_true_eq] at hbits
  rw [hbits.1, hbits.2, decide_eq_true_eq, decide_eq_true_eq]
  exact ⟨Iff.rfl, Iff.rfl⟩

section

variable {proto : SendEntry} (hflags : proto.flags = 0 ∨ proto.flags = 4)
include hflags

theorem nsctpFragments_head (count left i : Nat) (tsn : UInt32) (off remaining : Nat) :
    ∀ e ∈ (nsctpFragments proto count left i tsn off remaining).head?,
      e.tsn = tsn ∧ (SendEntry.isBegin e = true ↔ i = 0) ∧ e.dataOffset = off ∧
        e.streamId = proto.streamId ∧ e.ssn = proto.ssn ∧ e.ppid = proto.ppid ∧
        e.abandoned = proto.abandoned := by
  intro e he
  cases left with
  | zero => nomatch he
  | succ left =>
    unfold nsctpFragments at he
    cases he
    exact ⟨rfl, (fragment_flags i count hflags).1, rfl, rfl, rfl, rfl, rfl⟩

/-- **The fragments of a message are joined, apart and share their mark.** -/
theorem nsctpFragments_chain (count left i : Nat) (tsn : UInt32) (off remaining : Nat)
    (hcount : i + left = count) :
    (nsctpFragments proto count left i tsn off remaining).IsChain fun a b =>
      Joined a b ∧ Apart a b ∧ Shared a b := by
  induction left generalizing i tsn off remaining with
  | zero => exact .nil
  | succ left ih =>
    unfold nsctpFragments
    refine List.IsChain.cons (ih (i + 1) _ _ _ (by omega)) fun y hy => ?_
    have hmark := (fragment_flags i count hflags).2
    obtain ⟨htsn, hbegin, hoff, hstream, hssn, hppid, habandoned⟩ :=
      nsctpFragments_head hflags count left (i + 1) _ _ _ y hy
    -- a fragment with a next one is not the last one
    have hmore : i + 1 ≠ count := by
      intro heq
      rw [show left = 0 by omega] at hy
      cases hy
    refine ⟨⟨htsn, ?_, fun _ => ⟨hstream, hssn, hppid⟩⟩, ?_, fun _ => habandoned⟩
    · rw [Bool.eq_iff_iff, hbegin]
      refine ⟨fun h => absurd h (Nat.succ_ne_zero i), fun h => absurd (hmark.mp h) hmore⟩
    · show off + min remaining (sctpMtu - 28) ≤ y.dataOffset
      rw [hoff]

theorem nsctpFragments_last (count left i : Nat) (tsn : UInt32) (off remaining : Nat)
    (hcount : i + left = count) :
    ∀ e ∈ (nsctpFragments proto count left i tsn off remaining).getLast?,
      SendEntry.isEnd e = true ∧ e.tsn + 1 = tsn + UInt32.ofNat left ∧
        e.dataOffset + e.dataLen ≤ off + remaining := by
  induction left generalizing i tsn off remaining with
  | zero => exact fun e he => by cases he
  | succ left ih =>
    intro e he
    unfold nsctpFragments at he
    rw [List.getLast?_cons] at he
    cases hlast : (nsctpFragments proto count left (i + 1) (tsn + 1)
        (off + min remaining (sctpMtu - 28)) (remaining - min remaining (sctpMtu - 28))).getLast? with
    | none =>
      rw [hlast] at he
      cases he
      have hleft : left = 0 := by
        cases left with
        | zero => rfl
        | succ left =>
          unfold nsctpFragments at hlast
          rw [List.getLast?_cons] at hlast
          cases hlast
      subst hleft
      refine ⟨(fragment_flags i count hflags).2.mpr hcount, rfl, ?_⟩
      show off + min remaining (sctpMtu - 28) ≤ off + remaining
      omega
    | some e' =>
      rw [hlast] at he
      have heq : e' = e := Option.some.inj he
      subst heq
      obtain ⟨hend, htsn, hroom⟩ := ih (i + 1) _ _ _ (by omega) e' hlast
      refine ⟨hend, ?_, by omega⟩
      rw [htsn, UInt32.add_assoc, UInt32.ofNat_add, UInt32.add_comm 1]
      rfl

end

/-- What `nsctp_send_options` does: at most the stream is looked up, or a message is appended. -/
theorem nsctpSendOptions_cases (s : NanoSctp) (streamId : UInt16) (ppid : UInt32)
    (data : List UInt8) (unordered : Bool) (maxRetransmits : Int) :
    (∃ streams, (nsctpSendOptions s streamId ppid data unordered maxRetransmits).1 =
      { s with streams := streams }) ∨
    ∃ streams buf proto count, 0 < count ∧ (proto.flags = 0 ∨ proto.flags = 4) ∧
      proto.isPending = true ∧ data.length ≤ sctpSendBufSize - s.sendBufUsed ∧
      (nsctpSendOptions s streamId ppid data unordered maxRetransmits).1 = { s with
        streams := streams
        sendBuf := buf
        sendBufUsed := s.sendBufUsed + data.length
        nextTsn := s.nextTsn + UInt32.ofNat count
        sendQueue := s.sendQueue ++
          nsctpFragments proto count count 0 s.nextTsn s.sendBufUsed data.length } := by
  unfold nsctpSendOptions
  dsimp only
  iterate 4
    split
    · exact .inl ⟨s.streams, rfl⟩
  generalize hcount : (if data.length ≠ 0 then (data.length + (sctpMtu - 28) - 1) / (sctpMtu - 28)
    else 1) = count
  have hpos : 0 < count := by
    rw [← hcount]
    split
    · rename_i hlen
      exact Nat.div_pos (by show 1172 ≤ _; have : sctpMtu - 28 = 1172 := rfl; omega) (by decide)
    · exact Nat.one_pos
  split
  · exact .inl ⟨s.streams, rfl⟩
  split
  · exact .inl ⟨s.streams, rfl⟩
  rename_i hfits
  split
  · exact .inl ⟨_, rfl⟩
  · refine .inr ⟨_, _, _, count, hpos, ?_, rfl, by omega, rfl⟩
    cases unordered with
    | false => exact .inl rfl
    | true => exact .inr rfl

/-- **A send keeps the invariant.** -/
theorem QueueInv.send {s : NanoSctp} {left : List SendEntry} (h : QueueInv s left)
    (streamId : UInt16) (ppid : UInt32) (data : List UInt8) (unordered : Bool)
    (maxRetransmits : Int) :
    QueueInv (nsctpSendOptions s streamId ppid data unordered maxRetransmits).1 left := by
  cases nsctpSendOptions_cases s streamId ppid data unordered maxRetransmits with
  | inl hstreams =>
    obtain ⟨streams, heq⟩ := hstreams
    rw [heq]
    exact h.keeps (.of_eq rfl rfl rfl rfl)
  | inr hsent =>
    obtain ⟨streams, buf, proto, count, hpos, hflags, -, hlen, heq⟩ := hsent
    rw [heq]
    have hhead := nsctpFragments_head hflags count count 0 s.nextTsn s.sendBufUsed data.length
    have hchain := nsctpFragments_chain hflags count count 0 s.nextTsn s.sendBufUsed data.length
      (Nat.zero_add count)
    have hlast := nsctpFragments_last hflags count count 0 s.nextTsn s.sendBufUsed data.length
      (Nat.zero_add count)
    have hne : nsctpFragments proto count count 0 s.nextTsn s.sendBufUsed data.length ≠ [] := by
      cases count with
      | zero => exact absurd hpos (Nat.lt_irrefl 0)
      | succ count => nofun
    generalize nsctpFragments proto count count 0 s.nextTsn s.sendBufUsed data.length = added
      at hhead hchain hlast hne
    have hbounded := h.bounded
    constructor
    · show (left ++ (s.sendQueue ++ added)).IsChain Joined
      rw [← List.append_assoc]
      refine h.joined.append (hchain.imp fun _ _ h => h.1) fun x hx y hy => ?_
      obtain ⟨hend, htsn⟩ := h.last x hx
      obtain ⟨htsn', hbegin, -⟩ := hhead y hy
      refine ⟨htsn'.trans htsn.symm, ?_, fun hne => absurd (hend.symm.trans hne) nofun⟩
      rw [hend, hbegin]
    · intro e he
      rw [← List.append_assoc, List.head?_append] at he
      cases hfirst : (left ++ s.sendQueue).head? with
      | none =>
        rw [hfirst] at he
        exact (hhead e he).2.1.mpr rfl
      | some e' =>
        rw [hfirst] at he
        have heq : e' = e := Option.some.inj he
        exact h.first e (heq ▸ hfirst)
    · intro e he
      rw [← List.append_assoc, List.getLast?_append_of_ne_nil _ hne] at he
      exact ⟨(hlast e he).1, (hlast e he).2.1⟩
    · refine h.apart.append (hchain.imp fun _ _ h => h.2.1) fun x hx y hy => ?_
      show _ ≤ y.dataOffset
      rw [(hhead y hy).2.2.1]
      exact h.room x hx
    · intro e he
      rw [List.getLast?_append_of_ne_nil _ hne] at he
      exact (hlast e he).2.2
    · show s.sendBufUsed + data.length ≤ sctpSendBufSize
      omega
    · refine h.shared.append (hchain.imp fun _ _ h => h.2.2) fun x hx y hy hopen => ?_
      -- the message before has ended
      have hx' : x ∈ (left ++ s.sendQueue).getLast? := by
        have hne' : s.sendQueue ≠ [] := by
          intro hnil
          rw [hnil] at hx
          nomatch hx
        rw [List.getLast?_append_of_ne_nil _ hne']
        exact hx
      exact absurd ((h.last x hx').1.symm.trans hopen) nofun

/-! ### Messages -/

/-- The queue cut behind every last fragment. -/
def messagesOf (q : List SendEntry) : List (List SendEntry) :=
  q.splitBy fun a _ => !SendEntry.isEnd a

/-- The fragments of one message, all of them. -/
structure WholeMessage (m : List SendEntry) : Prop where
  begins : ∀ i (h : i < m.length), SendEntry.isBegin m[i] = true ↔ i = 0
  ends : ∀ i (h : i < m.length), SendEntry.isEnd m[i] = true ↔ i + 1 = m.length
  one : ∀ e ∈ m, ∀ e' ∈ m, e.streamId = e'.streamId ∧ e.ssn = e'.ssn ∧ e.ppid = e'.ppid

/-- What neighbours have in common all have in common. -/
theorem eq_of_isChain {α β : Type} {key : α → β} {m : List α}
    (h : m.IsChain fun a b => key b = key a) : ∀ e ∈ m, ∀ e' ∈ m, key e = key e' := by
  have hfirst (a : α) (l : List α) (h : (a :: l).IsChain fun a b => key b = key a) :
      ∀ e ∈ a :: l, key e = key a := by
    induction l generalizing a with
    | nil =>
      intro e he
      rw [List.mem_singleton.mp he]
    | cons b l ih =>
      rw [List.isChain_cons_cons] at h
      intro e he
      cases List.mem_cons.mp he with
      | inl heq => rw [heq]
      | inr hmem => rw [ih b h.2 e hmem, h.1]
  cases m with
  | nil => exact fun e he => nomatch he
  | cons a l => exact fun e he e' he' => (hfirst a l h e he).trans (hfirst a l h e' he').symm

theorem WholeMessage.of_chain {m : List SendEntry} (hjoined : m.IsChain Joined)
    (hopen : m.IsChain fun a _ => SendEntry.isEnd a = false)
    (hfirst : ∀ e ∈ m.head?, SendEntry.isBegin e = true)
    (hlast : ∀ e ∈ m.getLast?, SendEntry.isEnd e = true) : WholeMessage m where
  begins i hi := by
    cases i with
    | zero =>
      refine ⟨fun _ => rfl, fun _ => hfirst m[0] ?_⟩
      rw [List.head?_eq_getElem?, List.getElem?_eq_getElem hi]
      rfl
    | succ i =>
      have hjoin := hjoined.getElem i hi
      rw [hjoin.mark, hopen.getElem i hi]
      exact ⟨nofun, nofun⟩
  ends i hi := by
    by_cases hend : i + 1 = m.length
    · refine ⟨fun _ => hend, fun _ => hlast m[i] ?_⟩
      rw [List.getLast?_eq_getElem?, show m.length - 1 = i by omega, List.getElem?_eq_getElem hi]
      rfl
    · rw [hopen.getElem i (by omega)]
      exact ⟨nofun, fun h => absurd h hend⟩
  one e he e' he' := by
    have hkey : m.IsChain fun a b => (b.streamId, b.ssn, b.ppid) = (a.streamId, a.ssn, a.ppid) := by
      rw [List.isChain_iff_getElem] at hjoined hopen ⊢
      intro i hi
      obtain ⟨hstream, hssn, hppid⟩ := (hjoined i hi).same (hopen i hi)
      rw [hstream, hssn, hppid]
    have heq := @eq_of_isChain _ _ (fun e : SendEntry => (e.streamId, e.ssn, e.ppid)) _ hkey e he
      e' he'
    exact ⟨congrArg Prod.fst heq, congrArg (·.2.1) heq, congrArg (·.2.2) heq⟩

/-- Messages end to end, each ended by its last fragment, are whole. -/
theorem whole_of_flatten {ms : List (List SendEntry)} (hne : [] ∉ ms)
    (hopen : ∀ m ∈ ms, m.IsChain fun a _ => SendEntry.isEnd a = false)
    (hends : ms.IsChain fun m _ => ∀ e ∈ m.getLast?, SendEntry.isEnd e = true)
    (hjoined : ms.flatten.IsChain Joined)
    (hfirst : ∀ e ∈ ms.flatten.head?, SendEntry.isBegin e = true)
    (hlast : ∀ e ∈ ms.flatten.getLast?, SendEntry.isEnd e = true) : ∀ m ∈ ms, WholeMessage m := by
  induction ms with
  | nil => exact fun m hm => nomatch hm
  | cons m ms ih =>
    rw [List.mem_cons, not_or] at hne
    rw [List.flatten_cons] at hjoined hfirst hlast
    have hm : m ≠ [] := fun h => hne.1 h.symm
    have hend : ∀ e ∈ m.getLast?, SendEntry.isEnd e = true := by
      cases ms with
      | nil =>
        rw [List.flatten_nil, List.append_nil] at hlast
        exact hlast
      | cons m' ms => exact (List.isChain_cons_cons.mp hends).1
    have hparts := List.isChain_append.mp hjoined
    intro m' hm'
    cases List.mem_cons.mp hm' with
    | inl heq =>
      subst heq
      refine .of_chain hparts.1 (hopen m' hm') (fun e he => hfirst e ?_) hend
      rw [List.head?_append_of_ne_nil _ hm]
      exact he
    | inr hmem =>
      refine ih hne.2 (fun m hm => hopen m (List.mem_cons_of_mem _ hm)) hends.tail hparts.2.1 ?_ ?_
        m' hmem
      · -- the first fragment behind an ended message begins one
        intro e he
        have hx := List.getLast?_eq_getLast_of_ne_nil hm
        rw [(hparts.2.2 _ hx e he).mark, hend _ hx]
      · intro e he
        refine hlast e ?_
        have hrest : ms.flatten ≠ [] := by
          intro hnil
          rw [hnil] at he
          nomatch he
        rw [List.getLast?_append_of_ne_nil _ hrest]
        exact he

theorem messagesOf_whole {q : List SendEntry} (hjoined : q.IsChain Joined)
    (hfirst : ∀ e ∈ q.head?, SendEntry.isBegin e = true)
    (hlast : ∀ e ∈ q.getLast?, SendEntry.isEnd e = true) : ∀ m ∈ messagesOf q, WholeMessage m := by
  have hflat : (messagesOf q).flatten = q := List.flatten_splitBy _ q
  refine whole_of_flatten (List.nil_notMem_splitBy _ q) (fun m hm => ?_) ?_ ?_ ?_ ?_
  · exact (List.isChain_of_mem_splitBy hm).imp fun a b h => by simpa using h
  · refine (List.isChain_getLast_head_splitBy _ q).imp fun a b h e he => ?_
    obtain ⟨ha, hb, hend⟩ := h
    rw [List.getLast?_eq_getLast_of_ne_nil ha] at he
    cases he
    simpa using hend
  · rw [hflat]
    exact hjoined
  · rw [hflat]
    exact hfirst
  · rw [hflat]
    exact hlast

/-- The queued fragments of a message share their mark. -/
theorem messagesOf_shared {q : List SendEntry} (h : q.IsChain Shared) :
    ∀ m ∈ messagesOf q, ∀ e ∈ m, ∀ e' ∈ m, e.abandoned = e'.abandoned := by
  intro m hm
  have hopen := List.isChain_of_mem_splitBy hm
  obtain ⟨pre, post, hsplit⟩ := List.append_of_mem hm
  have hinfix : m <:+: q := by
    have hflat : (messagesOf q).flatten = q := List.flatten_splitBy _ q
    rw [hsplit, List.flatten_append, List.flatten_cons] at hflat
    exact ⟨pre.flatten, post.flatten, by rw [← hflat, List.append_assoc]⟩
  have hchain := h.infix hinfix
  apply @eq_of_isChain _ _ SendEntry.abandoned
  rw [List.isChain_iff_getElem] at hchain hopen ⊢
  intro i hi
  exact hchain i hi (by simpa using hopen i hi)

/-- TSNs counted back from the next one. -/
theorem tsn_of_joined {q : List SendEntry} {next : UInt32} (hjoined : q.IsChain Joined)
    (hlast : ∀ e ∈ q.getLast?, e.tsn + 1 = next) (i : Nat) (hi : i < q.length) :
    q[i].tsn + UInt32.ofNat (q.length - i) = next := by
  induction q generalizing i with
  | nil => nomatch hi
  | cons a q ih =>
    cases q with
    | nil =>
      cases i with
      | zero => exact hlast a rfl
      | succ i => exact absurd (Nat.lt_of_succ_lt_succ hi) (Nat.not_lt_zero i)
    | cons b q =>
      rw [List.isChain_cons_cons] at hjoined
      have hrest := ih hjoined.2 hlast
      cases i with
      | zero =>
        have hb := hrest 0 (Nat.zero_lt_succ _)
        rw [show (b :: q)[0] = b from rfl, hjoined.1.tsn, UInt32.add_assoc, UInt32.add_comm 1] at hb
        rw [← hb]
        show a.tsn + UInt32.ofNat (q.length + 1 + 1) = _
        rw [UInt32.ofNat_add]
        rfl
      | succ i =>
        have hi' : i < (b :: q).length := Nat.lt_of_succ_lt_succ hi
        have h := hrest i hi'
        show (b :: q)[i].tsn + UInt32.ofNat ((b :: q).length + 1 - (i + 1)) = next
        rw [show (b :: q).length + 1 - (i + 1) = (b :: q).length - i by omega]
        exact h

instance : Trans Apart Apart Apart where
  trans h h' := by
    unfold Apart at *
    omega

theorem inside_of_apart {q : List SendEntry} {used : Nat} (hapart : q.IsChain Apart)
    (hroom : ∀ e ∈ q.getLast?, e.dataOffset + e.dataLen ≤ used) :
    ∀ e ∈ q, e.dataOffset + e.dataLen ≤ used := by
  induction q with
  | nil => exact nofun
  | cons a q ih =>
    cases q with
    | nil =>
      intro e he
      rw [List.mem_singleton.mp he]
      exact hroom a rfl
    | cons b q =>
      rw [List.isChain_cons_cons] at hapart
      have hrest := ih hapart.2 hroom
      intro e he
      cases List.mem_cons.mp he with
      | inl heq =>
        have hb := hrest b List.mem_cons_self
        have hab : a.dataOffset + a.dataLen ≤ b.dataOffset := hapart.1
        rw [heq]
        omega
      | inr hmem => exact hrest e hmem

/-! ### Every run -/

/-- The entries that have left the queue, each with the cumulative TSN of the SACK that removed
it. -/
def leftHistory : History (List (SendEntry × UInt32)) where
  chunk g s _ chunk s' :=
    match SctpChunkType.ofType (byteAt chunk 0), nsctpSackOf chunk with
    | .sack, some sack => g ++ (nsctpSackRemoved s s').map fun e => (e, sack.cumulativeTsn)
    | _, _ => g
  call g _ _ := g

/-- An association that has drawn its tag and its first TSN and sent nothing yet. -/
structure Begun (s : NanoSctp) : Prop where
  localVtag : s.localVtag ≠ 0
  sendQueue : s.sendQueue = []
  sendBufUsed : s.sendBufUsed = 0

/-- The send queue is sound, given the entries that have left it. -/
structure SendQueueSound (s : NanoSctp) (left : List (SendEntry × UInt32)) : Prop where
  consecutive : ∀ i (h : i < s.sendQueue.length),
    s.sendQueue[i].tsn + UInt32.ofNat (s.sendQueue.length - i) = s.nextTsn
  disjoint : s.sendQueue.Pairwise fun e e' => e.dataOffset + e.dataLen ≤ e'.dataOffset
  inside : ∀ e ∈ s.sendQueue, e.dataOffset + e.dataLen ≤ s.sendBufUsed
  bounded : s.sendBufUsed ≤ sctpSendBufSize
  whole : ∀ m ∈ messagesOf (left.map (·.1) ++ s.sendQueue), WholeMessage m
  acknowledged : ∀ p ∈ left, p.1.acked = true ∨ i32 (p.1.tsn - p.2) ≤ 0
  abandoned : ∀ m ∈ messagesOf s.sendQueue, ∀ e ∈ m, ∀ e' ∈ m, e.abandoned = e'.abandoned

/-- What a run keeps. -/
structure SendInv (s : NanoSctp) (left : List (SendEntry × UInt32)) : Prop where
  localVtag : s.localVtag ≠ 0
  queue : QueueInv s (left.map (·.1))
  acknowledged : ∀ p ∈ left, p.1.acked = true ∨ i32 (p.1.tsn - p.2) ≤ 0

theorem SendInv.keeps {s s' : NanoSctp} {left : List (SendEntry × UInt32)} (h : SendInv s left)
    (hk : KeepsQueue s s') : SendInv s' left :=
  ⟨hk.localVtag ▸ h.localVtag, h.queue.keeps hk, h.acknowledged⟩

theorem Begun.inv {s : NanoSctp} (h : Begun s) : SendInv s [] where
  localVtag := h.localVtag
  queue := by
    have hqueue := h.sendQueue
    have hused := h.sendBufUsed
    refine ⟨?_, ?_, ?_, ?_, ?_, hused ▸ Nat.zero_le _, ?_⟩ <;> rw [hqueue]
    · exact .nil
    · exact nofun
    · exact nofun
    · exact .nil
    · exact nofun
    · exact .nil
  acknowledged := nofun

/-- An INIT finds the association's own tag and keeps the TSN. -/
theorem nsctpHandleInit_keeps {s : NanoSctp} (hvtag : s.localVtag ≠ 0)
    (random : Option AssociationSeed) (chunk : List UInt8) (hdr : NsctpHeader) :
    KeepsQueue s (nsctpHandleInit s random chunk hdr).1 := by
  unfold nsctpHandleInit
  split
  · exact .of_eq rfl rfl rfl rfl
  · dsimp only
    rw [if_neg hvtag]
    dsimp only
    obtain ⟨packets, heq⟩ := nsctpQueueOutput_eq _ _ _
    rw [heq]
    exact .of_eq rfl rfl rfl rfl

theorem nsctpHandleInitAck_keeps (s : NanoSctp) (chunk : List UInt8) :
    KeepsQueue s (nsctpHandleInitAck s chunk).1 := by
  unfold nsctpHandleInitAck
  split
  · exact .of_eq rfl rfl rfl rfl
  split
  · exact .of_eq rfl rfl rfl rfl
  split
  · exact .of_eq rfl rfl rfl rfl
  · rename_i init _ _
    obtain ⟨packets, heq⟩ := nsctpQueueOutput_eq _ _ _
    dsimp only
    rw [heq]
    exact .of_eq rfl rfl rfl rfl

theorem nsctpHandleCookieEcho_keeps (s : NanoSctp) (chunk : List UInt8) :
    KeepsQueue s (nsctpHandleCookieEcho s chunk).1 := by
  unfold nsctpHandleCookieEcho
  dsimp only
  split
  · exact .of_eq rfl rfl rfl rfl
  · obtain ⟨packets, heq⟩ := nsctpQueueOutput_eq s s.remoteVtag nsctpEncodeCookieAck
    rw [heq]
    exact .of_eq rfl rfl rfl rfl

/-- **Every chunk but a SACK keeps the fragments.** -/
theorem nsctpHandleChunk_keeps {s : NanoSctp} (hvtag : s.localVtag ≠ 0)
    (random : Option AssociationSeed) (hdr : NsctpHeader) {chunk : List UInt8}
    (htype : SctpChunkType.ofType (byteAt chunk 0) ≠ .sack) :
    KeepsQueue s (nsctpHandleChunk s random hdr chunk).1 := by
  unfold nsctpHandleChunk
  split
  · exact nsctpHandleInit_keeps hvtag random chunk hdr
  · exact nsctpHandleInitAck_keeps s chunk
  · exact nsctpHandleCookieEcho_keeps s chunk
  · unfold nsctpHandleCookieAck
    split <;> exact .of_eq rfl rfl rfl rfl
  · exact nsctpHandleDataChunk_rule keepsQueue_recv s chunk
  · exact absurd ‹_› htype
  · exact keepsQueue_timer.handleHeartbeat s chunk
  · exact .of_eq rfl rfl rfl rfl
  · exact nsctpHandleForwardTsn_rule keepsQueue_recv s chunk
  · exact .of_eq rfl rfl rfl rfl
  · exact .of_eq rfl rfl rfl rfl
  · exact .of_eq rfl rfl rfl rfl

theorem SendInv.chunk {s : NanoSctp} {left : List (SendEntry × UInt32)} (h : SendInv s left)
    (random : Option AssociationSeed) (hdr : NsctpHeader) (chunk : List UInt8) :
    SendInv (nsctpHandleChunk s random hdr chunk).1
      (leftHistory.chunk left s random chunk (nsctpHandleChunk s random hdr chunk).1) := by
  by_cases htype : SctpChunkType.ofType (byteAt chunk 0) = .sack
  · have hhandle : (nsctpHandleChunk s random hdr chunk).1 = (nsctpHandleSackChunk s chunk).1 := by
      unfold nsctpHandleChunk
      rw [htype]
    have hqueue := h.queue.sack chunk
    have hvtag : (nsctpHandleSackChunk s chunk).1.localVtag = s.localVtag := by
      rw [nsctpHandleSackChunk_eq]
      split
      · rfl
      · exact (nsctpSackAbandon_keeps s chunk _).localVtag
    rw [hhandle]
    unfold leftHistory
    dsimp only
    rw [htype]
    cases hsack : nsctpSackOf chunk with
    | none =>
      have hsame : (nsctpHandleSackChunk s chunk).1 = s := by
        rw [nsctpHandleSackChunk_eq, hsack]
      dsimp only
      rw [hsame]
      exact h
    | some sack =>
      have hacked := nsctpSackRemoved_acked hsack (s := s)
      dsimp only
      refine ⟨hvtag ▸ h.localVtag, ?_, fun p hp => ?_⟩
      · rw [List.map_append, List.map_map]
        rw [show (fun p : SendEntry × UInt32 => p.1) ∘ (fun e => (e, sack.cumulativeTsn)) = id from
          rfl, List.map_id]
        exact hqueue
      · cases List.mem_append.mp hp with
        | inl hp => exact h.acknowledged p hp
        | inr hp =>
          obtain ⟨e, he, rfl⟩ := List.mem_map.mp hp
          exact hacked e he
  · have hlog : leftHistory.chunk left s random chunk (nsctpHandleChunk s random hdr chunk).1 =
        left := by
      unfold leftHistory
      dsimp only
      split
      · exact absurd ‹_› htype
      · rfl
    rw [hlog]
    exact h.keeps (nsctpHandleChunk_keeps h.localVtag random hdr htype)

theorem SendInv.call {s : NanoSctp} {left : List (SendEntry × UInt32)} (h : SendInv s left)
    (i : SctpInput) (hi : ∀ random data, i ≠ .packet random data) (hs : ∀ random, i ≠ .start random) :
    SendInv (sctpStep s i) left := by
  cases i with
  | packet random data => exact absurd rfl (hi random data)
  | start random => exact absurd rfl (hs random)
  | pollDelivery => exact h.keeps (nsctpPollDelivery_rule keepsQueue_recv s)
  | pollOutput bufLen => exact h.keeps (keepsQueue_timer.pollOutput s bufLen)
  | send streamId ppid data unordered maxRetransmits =>
    have hvtag : (nsctpSendOptions s streamId ppid data unordered maxRetransmits).1.localVtag =
        s.localVtag := by
      cases nsctpSendOptions_cases s streamId ppid data unordered maxRetransmits with
      | inl hstreams =>
        obtain ⟨streams, heq⟩ := hstreams
        rw [heq]
      | inr hsent =>
        obtain ⟨streams, buf, proto, count, -, -, -, -, heq⟩ := hsent
        rw [heq]
    refine ⟨?_, h.queue.send streamId ppid data unordered maxRetransmits, h.acknowledged⟩
    show (nsctpSendOptions s streamId ppid data unordered maxRetransmits).1.localVtag ≠ 0
    rw [hvtag]
    exact h.localVtag
  | timeout nowMs random => exact h.keeps (keepsQueue_timer.handleTimeout s nowMs random)

theorem SendInv.sound {s : NanoSctp} {left : List (SendEntry × UInt32)} (h : SendInv s left) :
    SendQueueSound s left := by
  have hlast : ∀ e ∈ s.sendQueue.getLast?, SendEntry.isEnd e = true ∧ e.tsn + 1 = s.nextTsn := by
    intro e he
    refine h.queue.last e ?_
    rw [List.getLast?_append_of_ne_nil]
    · exact he
    · intro hnil
      rw [hnil] at he
      nomatch he
  exact
    { consecutive := tsn_of_joined h.queue.inner fun e he => (hlast e he).2
      disjoint := List.isChain_iff_pairwise (R := Apart) |>.mp h.queue.apart
      inside := inside_of_apart h.queue.apart h.queue.room
      bounded := h.queue.bounded
      whole := messagesOf_whole h.queue.joined h.queue.first fun e he => (h.queue.last e he).1
      acknowledged := h.acknowledged
      abandoned := messagesOf_shared h.queue.shared }

/-- **The send queue is sound in every run.** From an association that has drawn its first TSN, over
every sequence of packets, sends, polls and timeouts: consecutive TSNs up to the next one, disjoint
byte ranges in the used part of the buffer, whole messages of which at most leading fragments have
left, acknowledged, and one mark of abandonment for what is queued of a message. -/
theorem send_queue_sound {s : NanoSctp} (hbegun : Begun s) (is : List SctpInput)
    (hone : ∀ i ∈ is, ∀ random, i ≠ .start random) :
    let w := run (sctpLogStep leftHistory) (s, []) is
    SendQueueSound w.1 w.2 := by
  have hrun (w : NanoSctp × List (SendEntry × UInt32)) (hw : SendInv w.1 w.2) :
      SendInv (run (sctpLogStep leftHistory) w is).1 (run (sctpLogStep leftHistory) w is).2 := by
    induction is generalizing w with
    | nil => exact hw
    | cons i is ih =>
      rw [run_cons]
      refine ih (fun j hj => hone j (List.mem_cons_of_mem i hj)) _ ?_
      by_cases hi : ∃ random data, i = .packet random data
      · obtain ⟨random, data, rfl⟩ := hi
        exact sctpLogPacket_invariant (fun s g random hdr chunk h => h.chunk random hdr chunk)
          (fun s g h => h.keeps (keepsQueue_timer.finishPacket s)) w random data hw
      · have hi : ∀ random data, i ≠ .packet random data := fun random data h => hi ⟨random, data, h⟩
        rw [sctpLogStep_call leftHistory w hi]
        exact hw.call i hi (hone i List.mem_cons_self)
  exact (hrun (s, []) hbegun.inv).sound

/-! ### A message of which one fragment is left -/

/-- A SACK chunk without gap blocks. -/
def demoSackChunk (cumulativeTsn : UInt32) : List UInt8 :=
  sctpChunkHdr 3 0 16 ++ u32be cumulativeTsn ++ u32be 4096 ++ u32be 0

/-- An established association that sends a message of two fragments and a short one. -/
def demoSends : List SctpInput :=
  [.send 1 51 (List.replicate 1300 65) false (-1), .send 2 51 [66] false (-1),
    demoPacket (demoSackChunk 500)]

/-- The first fragment of the long message has left, the second one is queued. -/
theorem send_queue_sound_sent :
    let w := run (sctpLogStep leftHistory) (run sctpStep nsctpInit demoHandshake, []) demoSends
    w.2.map (·.1.tsn) = [500] ∧ w.1.sendQueue.map (·.tsn) = [501, 502] ∧
      SendQueueSound w.1 w.2 :=
  ⟨by decide +kernel, by decide +kernel,
    send_queue_sound ⟨by decide +kernel, by decide +kernel, by decide +kernel⟩ demoSends
      (List.forall_mem_cons.mpr ⟨nofun, List.forall_mem_cons.mpr ⟨nofun,
        List.forall_mem_cons.mpr ⟨nofun, nofun⟩⟩⟩)⟩

end Nanortc.Spec
