import Nanortc.Spec.SctpAck
import Nanortc.Spec.SctpTimers

/-!
# The shape of a send queue

Flags delimit the messages of a send queue, and the fragments of a message share their limit of
retransmissions and their mark of abandonment. `nsctp_abandon_message` goes from an entry back to
the first fragment that is queued and on to the last one: it reaches the entries of that message and
no others.

## Key results

- `nsctpAbandonMessage_getD`: what abandoning a message does to each entry
- `OfMessage.limit`: the entries that are abandoned together have one limit
- `queueShape_run`: the shape of the queue over every run
-/

namespace Nanortc.Spec

open Nanortc.ForStd Nanortc.Native

/-! ### The entries of a message -/

/-- Entry `j` belongs to the message that entry `k` is a fragment of: it comes no earlier than the
first fragment, and no fragment before it is the last one. -/
def OfMessage (q : List SendEntry) (k j : Nat) : Prop :=
  nsctpAbandonFirst q k ≤ j ∧
    ∀ t < j, nsctpAbandonFirst q k ≤ t → SendEntry.isEnd (q.getD t default) = false

instance (q : List SendEntry) (k j : Nat) : Decidable (OfMessage q k j) :=
  inferInstanceAs (Decidable (_ ∧ _))

theorem nsctpAbandonFirst_congr {q q' : List SendEntry}
    (h : ∀ t, (q'.getD t default).flags = (q.getD t default).flags) (k : Nat) :
    nsctpAbandonFirst q' k = nsctpAbandonFirst q k := by
  induction k with
  | zero => rfl
  | succ k ih =>
    unfold nsctpAbandonFirst
    rw [h (k + 1), ih]

theorem OfMessage.congr {q q' : List SendEntry}
    (h : ∀ t, (q'.getD t default).flags = (q.getD t default).flags) (k j : Nat) :
    OfMessage q' k j ↔ OfMessage q k j := by
  unfold OfMessage SendEntry.isEnd
  rw [nsctpAbandonFirst_congr h]
  simp only [h]

/-- Two fragments of a message have what lies between them in common. -/
theorem OfMessage.mono {q : List SendEntry} {k i j : Nat} (h : OfMessage q k j)
    (hfirst : nsctpAbandonFirst q k ≤ i) (hij : i ≤ j) : OfMessage q k i :=
  ⟨hfirst, fun t ht => h.2 t (Nat.lt_of_lt_of_le ht hij)⟩

theorem getD_of_chain {R : SendEntry → SendEntry → Prop} {q : List SendEntry} (h : q.IsChain R)
    {t : Nat} (ht : t + 1 < q.length) : R (q.getD t default) (q.getD (t + 1) default) := by
  rw [List.getD_eq_getElem q default ht, List.getD_eq_getElem q default (by omega)]
  exact h.getElem t ht

/-- A fragment belongs to its own message. -/
theorem OfMessage.self {q : List SendEntry} (hmarked : q.IsChain Marked) {k : Nat}
    (hk : k < q.length) : OfMessage q k k := by
  refine ⟨nsctpAbandonFirst_le q k, fun t htk hfirst => ?_⟩
  -- the entry after `t` begins no message, so `t` ends none
  have hmark : SendEntry.isBegin (q.getD (t + 1) default) = SendEntry.isEnd (q.getD t default) :=
    getD_of_chain hmarked (by omega)
  rw [← hmark]
  exact nsctpAbandonFirst_inner (q := q) (i := k) (by omega) (by omega)

/-- What lies between a fragment and another one of its message belongs to the message. -/
theorem OfMessage.between {q : List SendEntry} (hmarked : q.IsChain Marked) {k i j : Nat}
    (hk : k < q.length) (h : OfMessage q k j) (hbetween : k ≤ i ∧ i ≤ j ∨ j ≤ i ∧ i ≤ k) :
    OfMessage q k i := by
  have hfirst := nsctpAbandonFirst_le q k
  cases hbetween with
  | inl hup => exact h.mono (by omega) hup.2
  | inr hdown => exact (OfMessage.self hmarked hk).mono (Nat.le_trans h.1 hdown.1) hdown.2

theorem nsctpAbandonFirst_self (q : List SendEntry) (k : Nat) :
    nsctpAbandonFirst q (nsctpAbandonFirst q k) = nsctpAbandonFirst q k := by
  cases nsctpAbandonFirst_begin q k with
  | inl hzero =>
    rw [hzero]
    rfl
  | inr hbegin =>
    generalize nsctpAbandonFirst q k = first at hbegin
    cases first with
    | zero => rfl
    | succ first =>
      show (if SendEntry.isBegin (q.getD (first + 1) default) then _ else _) = _
      rw [hbegin]
      rfl

/-- From every fragment of a message the same first one is found. -/
theorem OfMessage.first {q : List SendEntry} (hmarked : q.IsChain Marked) {k j : Nat}
    (hj : j < q.length) (h : OfMessage q k j) :
    nsctpAbandonFirst q j = nsctpAbandonFirst q k := by
  induction j with
  | zero =>
    have hzero := h.1
    show 0 = _
    omega
  | succ j ih =>
    by_cases hfirst : nsctpAbandonFirst q k = j + 1
    · rw [← hfirst, nsctpAbandonFirst_self]
    · -- the entry before ends no message, so this one begins none
      have hle := h.1
      have hmark : SendEntry.isBegin (q.getD (j + 1) default) = SendEntry.isEnd (q.getD j default) :=
        getD_of_chain hmarked hj
      have hbegin : SendEntry.isBegin (q.getD (j + 1) default) = false := by
        rw [hmark]
        exact h.2 j (Nat.lt_succ_self j) (by omega)
      have hstep : nsctpAbandonFirst q (j + 1) = nsctpAbandonFirst q j := by
        show (if SendEntry.isBegin (q.getD (j + 1) default) then _ else _) = _
        rw [hbegin]
        rfl
      rw [hstep]
      exact ih (by omega) (h.mono (by omega) (Nat.le_succ j))

theorem OfMessage.trans {q : List SendEntry} (hmarked : q.IsChain Marked) {k i j : Nat}
    (hi : i < q.length) (h : OfMessage q k i) (h' : OfMessage q i j) : OfMessage q k j := by
  unfold OfMessage at h' ⊢
  rwa [h.first hmarked hi] at h'

/-- Fragments of one message have the same limit of retransmissions. -/
def SameLimit (a b : SendEntry) : Prop :=
  SendEntry.isEnd a = false → b.maxRetransmits = a.maxRetransmits

/-- **What is abandoned together has one limit.** -/
theorem OfMessage.limit {q : List SendEntry} (hmarked : q.IsChain Marked)
    (hlimits : q.IsChain SameLimit) {k j : Nat} (hk : k < q.length) (hj : j < q.length)
    (h : OfMessage q k j) : (q.getD j default).maxRetransmits = (q.getD k default).maxRetransmits := by
  -- both have the limit of the first fragment, by induction on the distance from it
  have hfrom (n : Nat) : ∀ i, i = nsctpAbandonFirst q k + n → i < q.length → OfMessage q k i →
      (q.getD i default).maxRetransmits =
        (q.getD (nsctpAbandonFirst q k) default).maxRetransmits := by
    induction n with
    | zero =>
      intro i hi _ _
      rw [hi, Nat.add_zero]
    | succ n ih =>
      intro i hi hlt hof
      have hprev := ih (i - 1) (by omega) (by omega) (hof.mono (by omega) (by omega))
      have hopen := hof.2 (i - 1) (by omega) (by omega)
      have hstep : SameLimit (q.getD (i - 1) default) (q.getD (i - 1 + 1) default) :=
        getD_of_chain hlimits (by omega)
      rw [show i - 1 + 1 = i by omega] at hstep
      exact (hstep hopen).trans hprev
  have hself := OfMessage.self hmarked hk
  have hj' := hfrom (j - nsctpAbandonFirst q k) j (by have := h.1; omega) hj h
  have hk' := hfrom (k - nsctpAbandonFirst q k) k (by have := hself.1; omega) hk hself
  exact hj'.trans hk'.symm

/-! ### Abandonment, entry by entry -/

theorem nsctpAbandonParts_getD {q : List SendEntry} {j : Nat} (hj : j < q.length) :
    (nsctpAbandonParts q).getD j default =
      if ∀ t < j, SendEntry.isEnd (q.getD t default) = false
      then { q.getD j default with abandoned := true } else q.getD j default := by
  induction q generalizing j with
  | nil => exact absurd hj (Nat.not_lt_zero j)
  | cons e es ih =>
    unfold nsctpAbandonParts
    cases j with
    | zero => rw [if_pos (fun t ht => absurd ht (Nat.not_lt_zero t))]; rfl
    | succ j =>
      have hj : j < es.length := Nat.lt_of_succ_lt_succ hj
      rw [List.getD_cons_succ, List.getD_cons_succ]
      by_cases hend : hasFlag e.flags sctpDataFlagEnd = true
      · -- the message ends at its head
        rw [if_pos hend, if_neg]
        intro hopen
        have hhead : SendEntry.isEnd e = false := hopen 0 (Nat.zero_lt_succ j)
        exact absurd (hend.symm.trans hhead) (by decide)
      · rw [if_neg hend, ih hj]
        have hiff : (∀ t < j, SendEntry.isEnd (es.getD t default) = false) ↔
            ∀ t < j + 1, SendEntry.isEnd ((e :: es).getD t default) = false := by
          rw [Nat.forall_lt_succ_left]
          exact (and_iff_right (Bool.eq_false_iff.mpr hend)).symm
        rw [if_congr hiff rfl rfl]

/-- **Abandoning a message marks its entries and no others.** -/
theorem nsctpAbandonMessage_getD (s : NanoSctp) (k : Nat) {j : Nat} (hj : j < s.sendQueue.length) :
    (nsctpAbandonMessage s k).sendQueue.getD j default =
      if OfMessage s.sendQueue k j then { s.sendQueue.getD j default with abandoned := true }
      else s.sendQueue.getD j default := by
  have hfrom (first : Nat) : (s.sendQueue.take first ++
      nsctpAbandonParts (s.sendQueue.drop first)).getD j default =
      if first ≤ j ∧ ∀ t < j, first ≤ t → SendEntry.isEnd (s.sendQueue.getD t default) = false
      then { s.sendQueue.getD j default with abandoned := true } else s.sendQueue.getD j default := by
    by_cases hfirst : first ≤ j
    · have hlen : (s.sendQueue.take first).length = first := by
        rw [List.length_take]
        omega
      have hdrop (t : Nat) : (s.sendQueue.drop first).getD t default =
          s.sendQueue.getD (first + t) default := by
        simp only [List.getD_eq_getElem?_getD, List.getElem?_drop]
      rw [List.getD_append_right _ _ _ _ (by omega), hlen,
        nsctpAbandonParts_getD (by rw [List.length_drop]; omega)]
      simp only [hdrop, Nat.add_sub_cancel' hfirst]
      refine if_congr ⟨fun h => ⟨hfirst, fun t ht hle => ?_⟩, fun h t ht => ?_⟩ rfl rfl
      · have hopen := h (t - first) (by omega)
        rwa [Nat.add_sub_cancel' hle] at hopen
      · exact h.2 (first + t) (by omega) (Nat.le_add_right _ _)
    · rw [if_neg (fun h => hfirst h.1), List.getD_append _ _ _ _ (by rw [List.length_take]; omega)]
      simp only [List.getD_eq_getElem?_getD]
      rw [List.getElem?_take_of_lt (by omega)]
  exact (hfrom (nsctpAbandonFirst s.sendQueue k)).trans (if_congr Iff.rfl rfl rfl)

/-! ### Every run -/

/-- The flags delimit messages whose fragments share their limit and their mark of abandonment. -/
structure QueueShape (q : List SendEntry) : Prop where
  delimited : Delimited q
  limits : q.IsChain SameLimit
  shared : q.IsChain Shared

/-- The fragments stay, and abandonment still covers whole messages. -/
structure KeepsShape (s s' : NanoSctp) : Prop where
  fragments : s'.sendQueue.map SendEntry.fragment = s.sendQueue.map SendEntry.fragment
  shared : s.sendQueue.IsChain Marked → s.sendQueue.IsChain Shared → s'.sendQueue.IsChain Shared

theorem KeepsShape.of_eq {s s' : NanoSctp} (h : s'.sendQueue = s.sendQueue) : KeepsShape s s' :=
  ⟨by rw [h], fun _ hs => by rw [h]; exact hs⟩

theorem isChain_marked_of_fragments {q q' : List SendEntry}
    (h : q'.map SendEntry.fragment = q.map SendEntry.fragment) (hq : q.IsChain Marked) :
    q'.IsChain Marked :=
  isChain_of_map_eq (f := SendEntry.fragment) (S := Marked) (fun _ _ => Iff.rfl) h hq

theorem QueueShape.keeps {s s' : NanoSctp} (h : QueueShape s.sendQueue) (hk : KeepsShape s s') :
    QueueShape s'.sendQueue where
  delimited := h.delimited.of_fragments hk.fragments
  limits := isChain_of_map_eq (f := SendEntry.fragment) (S := SameLimit) (fun _ _ => Iff.rfl)
    hk.fragments h.limits
  shared := hk.shared h.delimited.marked h.shared

theorem keepsShape_timer : TimerRule KeepsShape where
  refl _ := .of_eq rfl
  trans h h' := ⟨h'.fragments.trans h.fragments, fun hmarked hshared =>
    h'.shared (isChain_marked_of_fragments h.fragments hmarked) (h.shared hmarked hshared)⟩
  output _ _ := .of_eq rfl
  sack _ := .of_eq rfl
  sent _ _ _ _ _ := ⟨map_set_getD _ _ _ rfl, fun _ h => isChain_of_map_eq
    (f := SendEntry.queued) (S := Shared) (fun _ _ => Iff.rfl) (map_set_getD _ _ _ rfl) h⟩
  abandon s i := ⟨map_fragment_of_kept (nsctpAbandonMessage_kept s i), nsctpAbandonMessage_shared i⟩
  forward _ _ _ := .of_eq rfl
  clock _ _ := .of_eq rfl
  backoff _ := .of_eq rfl
  fail _ := .of_eq rfl
  heartbeat _ _ _ _ := .of_eq rfl

/-- What a SACK leaves of the queue has its shape. -/
theorem QueueShape.sack {s : NanoSctp} (h : QueueShape s.sendQueue) (chunk : List UInt8) :
    QueueShape (nsctpHandleSackChunk s chunk).1.sendQueue := by
  rw [nsctpHandleSackChunk_eq]
  cases nsctpSackOf chunk with
  | none => exact h
  | some sack =>
    have ht := h.keeps (keepsShape_timer.abandonLoop s
      (sackAbandons chunk sack (sackHighest s.sendQueue chunk sack)) (List.range s.sendQueue.length))
    change QueueShape (nsctpSackAbandon s chunk sack).sendQueue at ht
    show QueueShape (((nsctpSackAbandon s chunk sack).sendQueue.map
      (nsctpSackMark sack)).dropWhile (·.acked))
    generalize (nsctpSackAbandon s chunk sack).sendQueue = q at ht
    have hfragments : (q.map (nsctpSackMark sack)).map SendEntry.fragment =
        q.map SendEntry.fragment := by
      rw [List.map_map]
      exact List.map_congr_left fun e _ => nsctpSackMark_fragment sack e
    have hqueued : (q.map (nsctpSackMark sack)).map SendEntry.queued = q.map SendEntry.queued := by
      rw [List.map_map]
      exact List.map_congr_left fun e _ => nsctpSackMark_queued sack e
    have hmarked : QueueShape (q.map (nsctpSackMark sack)) :=
      ⟨ht.delimited.of_fragments hfragments,
        isChain_of_map_eq (f := SendEntry.fragment) (S := SameLimit) (fun _ _ => Iff.rfl)
          hfragments ht.limits,
        isChain_of_map_eq (f := SendEntry.queued) (S := Shared) (fun _ _ => Iff.rfl) hqueued
          ht.shared⟩
    -- what is dropped at the head leaves a tail of the queue
    generalize q.map (nsctpSackMark sack) = q' at hmarked
    rw [← List.takeWhile_append_dropWhile (p := fun e : SendEntry => e.acked) (l := q')] at hmarked
    exact ⟨Delimited.right hmarked.delimited, hmarked.limits.right_of_append,
      hmarked.shared.right_of_append⟩

theorem nsctpFragments_limits (proto : SendEntry) (count left i : Nat) (tsn : UInt32)
    (off remaining : Nat) :
    ∀ e ∈ nsctpFragments proto count left i tsn off remaining,
      e.maxRetransmits = proto.maxRetransmits := by
  induction left generalizing i tsn off remaining with
  | zero => exact fun e he => nomatch he
  | succ left ih =>
    intro e he
    unfold nsctpFragments at he
    cases List.mem_cons.mp he with
    | inl heq => exact heq ▸ rfl
    | inr hmem => exact ih _ _ _ _ e hmem

theorem isChain_of_forall {P : SendEntry → SendEntry → Prop} {q : List SendEntry}
    (h : ∀ a ∈ q, ∀ b ∈ q, P a b) : q.IsChain P := by
  rw [List.isChain_iff_getElem]
  exact fun i hi => h _ (List.getElem_mem _) _ (List.getElem_mem _)

/-- A message is appended whole behind whole messages. -/
theorem QueueShape.send {s : NanoSctp} (h : QueueShape s.sendQueue) (streamId : UInt16)
    (ppid : UInt32) (data : List UInt8) (unordered : Bool) (maxRetransmits : Int) :
    QueueShape (nsctpSendOptions s streamId ppid data unordered maxRetransmits).1.sendQueue := by
  cases nsctpSendOptions_cases s streamId ppid data unordered maxRetransmits with
  | inl hstreams =>
    obtain ⟨streams, heq⟩ := hstreams
    rw [heq]
    exact h
  | inr hsent =>
    obtain ⟨streams, buf, proto, count, hpos, hflags, -, -, heq⟩ := hsent
    rw [heq]
    show QueueShape (s.sendQueue ++
      nsctpFragments proto count count 0 s.nextTsn s.sendBufUsed data.length)
    have hhead := nsctpFragments_head hflags count count 0 s.nextTsn s.sendBufUsed data.length
    have hchain := nsctpFragments_chain hflags count count 0 s.nextTsn s.sendBufUsed data.length
      (Nat.zero_add count)
    have hlast := nsctpFragments_last hflags count count 0 s.nextTsn s.sendBufUsed data.length
      (Nat.zero_add count)
    have hlimits := nsctpFragments_limits proto count count 0 s.nextTsn s.sendBufUsed data.length
    have hne : nsctpFragments proto count count 0 s.nextTsn s.sendBufUsed data.length ≠ [] := by
      cases count with
      | zero => exact absurd hpos (Nat.lt_irrefl 0)
      | succ count => nofun
    generalize nsctpFragments proto count count 0 s.nextTsn s.sendBufUsed data.length = added
      at hhead hchain hlast hlimits hne
    have hended (x : SendEntry) (hx : x ∈ s.sendQueue.getLast?) : SendEntry.isEnd x = true :=
      h.delimited.ended x hx
    refine ⟨⟨?_, fun e he => ?_⟩, ?_, ?_⟩
    · refine h.delimited.marked.append (hchain.imp fun _ _ h => h.1.mark) fun x hx y hy => ?_
      show SendEntry.isBegin y = SendEntry.isEnd x
      rw [hended x hx, (hhead y hy).2.1]
    · rw [List.getLast?_append_of_ne_nil _ hne] at he
      exact (hlast e he).1
    · refine h.limits.append (isChain_of_forall fun a ha b hb _ => ?_) fun x hx y _ hopen => ?_
      · exact (hlimits b hb).trans (hlimits a ha).symm
      · exact absurd ((hended x hx).symm.trans hopen) nofun
    · refine h.shared.append (hchain.imp fun _ _ h => h.2.2) fun x hx y _ hopen => ?_
      exact absurd ((hended x hx).symm.trans hopen) nofun

theorem QueueShape.step {s : NanoSctp} (h : QueueShape s.sendQueue) (i : SctpInput) :
    QueueShape (sctpStep s i).sendQueue := by
  refine sctpStep_invariant (P := fun s => QueueShape s.sendQueue) ?_ ?_ ?_ s i h
  · intro s random hdr chunk h
    by_cases htype : SctpChunkType.ofType (byteAt chunk 0) = .sack
    · have hhandle : (nsctpHandleChunk s random hdr chunk).1 = (nsctpHandleSackChunk s chunk).1 := by
        unfold nsctpHandleChunk
        rw [htype]
      rw [hhandle]
      exact h.sack chunk
    · rw [(nsctpHandleChunk_sending s random hdr htype).sendQueue]
      exact h
  · exact fun s h => h.keeps (keepsShape_timer.finishPacket s)
  · intro s i hi h
    cases i with
    | packet random data => exact absurd rfl (hi random data)
    | start random =>
      show QueueShape (nsctpStart s random).1.sendQueue
      rw [(nsctpStart_sending s random).sendQueue]
      exact h
    | pollDelivery => exact h.keeps (nsctpPollDelivery_rule (fun _ _ _ => .of_eq rfl) s)
    | pollOutput bufLen => exact h.keeps (keepsShape_timer.pollOutput s bufLen)
    | send streamId ppid data unordered maxRetransmits =>
      exact h.send streamId ppid data unordered maxRetransmits
    | timeout nowMs random => exact h.keeps (keepsShape_timer.handleTimeout s nowMs random)

/-- **The queue has its shape in every run.** -/
theorem queueShape_run (is : List SctpInput) :
    QueueShape (run sctpStep nsctpInit is).sendQueue :=
  have hinit : QueueShape nsctpInit.sendQueue := ⟨⟨.nil, nofun⟩, .nil, .nil⟩
  run_invariant (P := fun s : NanoSctp => QueueShape s.sendQueue) (fun _ i h => h.step i) hinit is

end Nanortc.Spec
